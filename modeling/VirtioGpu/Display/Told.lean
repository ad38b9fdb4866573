import VirtioGpu.Display.Path

namespace VirtioGpu.Display

open Foundation
open Gpu hiding Surface
open Vdpy
open Client

/-! What each step of the two threads of the server comes to for the clients:
announcements that begin, that go on, and that are over. -/

def begun : Option Transmission → Option Announcement
  | some (.begins announcement) => some announcement
  | some (.continues _) | none => none

def latestModifier (clients : Clients) : UInt64 :=
  (clients.latest.map UInt64.ofNat).getD 0

theorem genuine_of_announce {call : DisplayCall} {announcement : Announcement}
    (announces : announce call = some announcement) :
    Genuine announcement := by
  have type : ∀ surface : Gpu.Surface,
      (recordOf surface).surface.surfType = .dmabuf →
        (recordOf surface).surfType.toNat = surfaceDmabuf := by
    intro surface dmabuf
    unfold SurfaceRecord.surface at dmabuf
    dsimp only at dmabuf
    split at dmabuf
    · assumption
    · cases dmabuf
  cases call with
  | surfaceSet scanoutId surface =>
      cases surface with
      | none => cases announces
      | some surface =>
          obtain ⟨dmabuf, same⟩ := Option.ite_none_right_eq_some.mp announces
          cases same
          exact ⟨_, type surface dmabuf, rfl⟩
  | surfaceUpdate scanoutId surface =>
      obtain ⟨_, same⟩ := Option.ite_none_right_eq_some.mp announces
      cases same
      trivial
  | setModifier scanoutId modifier =>
      obtain ⟨_, same⟩ := Option.ite_none_right_eq_some.mp announces
      cases same
      trivial
  | cursorDefine | cursorMove => cases announces

/-! The display thread. -/

/-- A call is under way at once, or has nothing to announce. -/
structure Presents (before after : Clients)
    (announcement : Option Announcement) : Prop where
  safe : Safe before → Safe after
  unsaid : unsaid after.display = announcement
  latest : latestModifier after =
    modifierAfter (latestModifier before) announcement.toList
  clientSock : after.clientSock = before.clientSock
  server : after.server = before.server
  accepted : after.accepted = before.accepted

theorem present_presents {before after : Clients} {call : DisplayCall}
    (idle : before.display = .idle)
    (presented : present before call = some after) :
    Presents before after (announce call) := by
  have quiet : unsaid before.display = none := by
    rw [idle]
    rfl
  cases call with
  | surfaceSet scanoutId surface =>
      cases surface with
      | none =>
          cases presented
          exact ⟨id, quiet, rfl, rfl, rfl, rfl⟩
      | some surface =>
          cases presented
          unfold vdpySurfaceSet announce
          dsimp only [Option.map_some]
          by_cases dmabuf : (recordOf surface).surface.surfType = .dmabuf
          · rw [if_pos dmabuf, if_neg (not_not.mpr dmabuf)]
            exact ⟨fun safe => safe.kept_by_displayCalls idle rfl rfl rfl, rfl,
              rfl, rfl, rfl, rfl⟩
          · rw [if_neg dmabuf, if_pos dmabuf]
            exact ⟨id, quiet, rfl, rfl, rfl, rfl⟩
  | surfaceUpdate scanoutId surface =>
      cases presented
      unfold vdpySurfaceUpdate announce
      dsimp only
      by_cases dmabuf : (recordOf surface).surface.surfType = .dmabuf
      · rw [if_pos dmabuf, if_neg (not_not.mpr dmabuf)]
        exact ⟨fun safe => safe.kept_by_displayCalls idle rfl rfl rfl, rfl, rfl,
          rfl, rfl, rfl⟩
      · rw [if_neg dmabuf, if_pos dmabuf]
        exact ⟨id, quiet, rfl, rfl, rfl, rfl⟩
  | setModifier scanoutId modifier =>
      unfold present at presented
      dsimp only at presented
      unfold announce
      dsimp only
      split at presented
      · cases presented
      split at presented
      · rename_i beyond
        cases presented
        rw [if_neg (Nat.not_lt.mpr beyond)]
        exact ⟨id, quiet, rfl, rfl, rfl, rfl⟩
      · rename_i within
        cases presented
        have first : scanoutId < vscrsNum := Nat.lt_of_not_le within
        obtain rfl : scanoutId = 0 := Nat.lt_one_iff.mp first
        rw [if_pos first]
        exact ⟨fun safe => safe.kept_by_setModifier idle modifier, rfl, rfl,
          rfl, rfl, rfl⟩
  | cursorDefine | cursorMove =>
      cases presented
      exact ⟨id, quiet, rfl, rfl, rfl, rfl⟩

/-- A step of the display thread, by what it sends. -/
structure DisplayFrame (before after : Clients) : Prop where
  latest : after.latest = before.latest
  clientSock : after.clientSock = before.clientSock
  server : after.server = before.server
  accepted : after.accepted = before.accepted
  silent : begun (displayTransmits before.display) = none →
    unsaid after.display = unsaid before.display
  voices : ∀ announcement,
    begun (displayTransmits before.display) = some announcement →
      unsaid before.display = some announcement ∧
        unsaid after.display = none
  locked : displayTransmits before.display ≠ none →
    before.display.locked = true

theorem lock_frame {before locked : Clients} {holder : Holder}
    (taken : before.lock holder = some locked) :
    locked = { before with clientMutex := some holder } :=
  (Clients.lock_eq_some.mp taken).2.symm

theorem displayStep_frame {before after : Clients}
    (stepped : displayStep before = some after) :
    DisplayFrame before after := by
  unfold displayStep at stepped
  cases display : before.display with
  | idle =>
      rw [display] at stepped
      cases stepped
  | storeModifier | storeFlag | modifierBody | surfaceBody | surfaceFd
  | updateHeader | unlock =>
      rw [display] at stepped
      cases stepped
      constructor <;> simp [display, displayTransmits, begun, unsaid,
        DisplayPc.locked, Clients.unlock]
  | lockModifier | lockSurface | lockUpdate =>
      rw [display] at stepped
      obtain ⟨locked, taken, rfl⟩ := Option.map_eq_some_iff.mp stepped
      rw [lock_frame taken]
      constructor <;> simp [display, displayTransmits, begun, unsaid,
        DisplayPc.locked]
  | modifierHeader | surfaceHeader =>
      rw [display] at stepped
      dsimp only at stepped
      split at stepped
      · cases stepped
        constructor <;> simp [display, displayTransmits, begun, unsaid,
          DisplayPc.locked]
      · cases stepped
        constructor <;> simp [display, displayTransmits, begun, unsaid,
          DisplayPc.locked]

/-! The server thread says nothing. -/

theorem serverStep_frame {before after : Clients}
    (stepped : serverStep before = some after) :
    after.display = before.display ∧ after.latest = before.latest := by
  unfold serverStep at stepped
  cases server : before.server with
  | idle =>
      rw [server] at stepped
      cases stepped
  | lockAccept | lockClose =>
      rw [server] at stepped
      obtain ⟨locked, taken, rfl⟩ := Option.map_eq_some_iff.mp stepped
      rw [lock_frame taken]
      exact ⟨rfl, rfl⟩
  | closePrevious | install | close | unlock =>
      rw [server] at stepped
      cases stepped
      exact ⟨rfl, rfl⟩
  | testModifier =>
      rw [server] at stepped
      dsimp only at stepped
      split at stepped
      · cases stepped
        exact ⟨rfl, rfl⟩
      · cases stepped
        exact ⟨rfl, rfl⟩
  | replayHeader =>
      rw [server] at stepped
      dsimp only at stepped
      split at stepped
      · cases stepped
        exact ⟨rfl, rfl⟩
      · cases stepped
        exact ⟨Clients.push_display _ _, Clients.push_latest _ _⟩
  | replayBody =>
      rw [server] at stepped
      cases stepped
      exact ⟨Clients.push_display _ _, Clients.push_latest _ _⟩

theorem knock_frame {before after : Clients} {event : Event}
    (knock : isKnock event = true)
    (stepped : happen before event = some after) :
    after.display = before.display ∧ after.latest = before.latest := by
  cases event with
  | setModifier | surfaceSet | surfaceUpdate | display | server =>
      cases knock
  | accept | acceptFails | hangup =>
      obtain ⟨_, rfl⟩ := Clients.ready stepped
      exact ⟨rfl, rfl⟩

/-! What goes over a connection. -/

/-- What a connection has carried, and the message it is carrying, before and
after a step that sends this much on it. -/
inductive Carries : Option Transmission →
    List Announcement → Option (Message .client) →
    List Announcement → Option (Message .client) → Prop
  | quiet {heard sending} : Carries none heard sending heard sending
  | begins {heard sending later} {announcement : Announcement}
      (sized : (structSurface.message announcement).body ≠ [] →
        later = some (structSurface.message announcement)) :
      Carries (some (.begins announcement)) heard sending
        (heard ++ [announcement]) later
  | continues {heard sending later} {announcement : Announcement}
      (under : sending = some (structSurface.message announcement)) :
      Carries (some (.continues announcement)) heard sending heard later

theorem issue_sends {channel issued : Channel .client}
    {message : Message .client} {errno : Vdpy.Errno}
    (ran : perform channel (.issue message errno) = some issued) :
    issued.issued = channel.issued ++ [message] ∧
      issued.dispatched = channel.dispatched ∧
      issued.sending = .header message 0 := by
  unfold perform at ran
  dsimp only at ran
  obtain ⟨_, same⟩ := Option.ite_none_right_eq_some.mp ran
  cases same
  exact ⟨rfl, rfl, rfl⟩

theorem sendRound_kept {channel after : Channel .client} {bytes : List UInt8}
    {moved : Nat} {answer : Vdpy.Answer} {goOn : Nat → Sending .client}
    {next : Int → Sending .client}
    (ran : sendRound channel bytes moved answer goOn next = some after) :
    after.issued = channel.issued ∧ after.dispatched = channel.dispatched := by
  unfold sendRound at ran
  obtain ⟨_, same⟩ := Option.ite_none_right_eq_some.mp ran
  dsimp only at same
  split at same
  · cases same
    exact ⟨rfl, rfl⟩
  · cases same
    exact ⟨rfl, rfl⟩

theorem sendPart_kept {channel after : Channel .client}
    (ran : sendPart channel = some after) :
    after.issued = channel.issued ∧ after.dispatched = channel.dispatched := by
  unfold sendPart perform sendStep at ran
  dsimp only at ran
  split at ran
  · cases ran
  · exact sendRound_kept ran
  · exact sendRound_kept ran
  · obtain ⟨_, same⟩ := Option.ite_none_right_eq_some.mp ran
    cases same
    exact ⟨rfl, rfl⟩

/-- After its header a message is under way until its body is sent. -/
theorem sendPart_header {channel after : Channel .client}
    {message : Message .client}
    (starts : channel.sending = .header message 0)
    (sized : message.body ≠ []) (ran : sendPart channel = some after) :
    sendingMessage after.sending = some message := by
  unfold sendPart perform sendStep at ran
  rw [starts] at ran
  dsimp only [Sending.requested] at ran
  unfold sendRound at ran
  obtain ⟨_, same⟩ := Option.ite_none_right_eq_some.mp ran
  dsimp only at same
  rw [length_headerBytes, Nat.sub_zero, transferRound_whole] at same
  cases same
  simp [afterHeader, sized, sendingMessage]

/-- A transmission, seen as one of announcements. -/
theorem transmit_carries {channel after : Channel .client} {errno : Vdpy.Errno}
    {transmission : Transmission} {heard : List Announcement}
    (issued : channel.issued = heard.map structSurface.message)
    (sent : transmit channel errno transmission = some after) :
    after.dispatched = channel.dispatched ∧
    ∃ later, after.issued = later.map structSurface.message ∧
      Carries (some transmission) heard (sendingMessage channel.sending) later
        (sendingMessage after.sending) := by
  cases transmission with
  | begins announcement =>
      obtain ⟨started, began, sends⟩ := Option.bind_eq_some_iff.mp sent
      obtain ⟨grown, same, starts⟩ := issue_sends began
      obtain ⟨kept, dispatched⟩ := sendPart_kept sends
      refine ⟨dispatched.trans same, heard ++ [announcement], ?_, ?_⟩
      · rw [kept, grown, issued, List.map_append]
        rfl
      · exact .begins fun sized => sendPart_header starts sized sends
  | continues announcement =>
      obtain ⟨under, sends⟩ := Option.ite_none_right_eq_some.mp sent
      obtain ⟨kept, dispatched⟩ := sendPart_kept sends
      exact ⟨dispatched, heard, kept.trans issued, .continues under⟩

/-- The messages of a client are delivered whole. -/
theorem transmit_framed {channel after : Channel .client} {errno : Vdpy.Errno}
    {transmission : Transmission}
    (framed : ∃ done pending, Framed channel done pending)
    (sent : transmit channel errno transmission = some after) :
    ∃ done pending, Framed after done pending := by
  have unclosed : ∀ message : Message .client, message.closes = false :=
    fun _ => rfl
  have sends : ∀ {start after : Channel .client},
      (∃ done pending, Framed start done pending) →
        sendPart start = some after →
          ∃ done pending, Framed after done pending := by
    rintro start after ⟨done, pending, framed⟩ ran
    have whole : MovesWhole start
        (.send (.moved start.sending.requested)) :=
      rfl
    exact framed.kept_by_perform whole ran
  cases transmission with
  | begins announcement =>
      obtain ⟨started, began, later⟩ := Option.bind_eq_some_iff.mp sent
      obtain ⟨done, pending, framed⟩ := framed
      exact sends ⟨done, _, framed.kept_by_issue
        (fun message _ => unclosed message) began⟩ later
  | continues announcement =>
      obtain ⟨_, later⟩ := Option.ite_none_right_eq_some.mp sent
      exact sends framed later

/-! What a call of the receiver dispatches. -/

/-- A message without a descriptor is dispatched on a `recv`, one with a
descriptor on a `recvmsg`. -/
inductive Dispatches (before after : Channel .client) : Prop
  | nothing (same : after.dispatched = before.dispatched)
  | plain {eType : Nat} {body : List UInt8}
      (grown : after.dispatched = before.dispatched ++ [(eType, body)])
      (bare : Peer.carriesFd .client eType = false)
      (receives : ∀ header, before.receiving ≠ .descriptor header)
  | carried {header : DpyEvtHeader} {content : Nat × List UInt8}
      (grown : after.dispatched = before.dispatched ++ [content])
      (receives : before.receiving = .descriptor header)

/-- What the sender has to do with the channel stays. -/
structure RecvKept (before after : Channel .client) : Prop where
  issued : after.issued = before.issued
  sending : after.sending = before.sending

theorem received_dispatches {channel : Channel .client}
    (before : Channel .client) (header : DpyEvtHeader)
    (kept : RecvKept before channel)
    (same : channel.dispatched = before.dispatched)
    (receives : ∀ header, before.receiving ≠ .descriptor header) :
    RecvKept before (received channel header) ∧
      Dispatches before (received channel header) := by
  unfold received
  cases carries : Peer.carriesFd .client header.eType with
  | true => exact ⟨⟨kept.issued, kept.sending⟩, .nothing same⟩
  | false =>
      have grown : (dispatch channel header).dispatched =
          before.dispatched ++
            [(header.eType, channel.buf.take header.eSize)] := by
        rw [dispatch, same]
      exact ⟨⟨kept.issued, kept.sending⟩, .plain grown carries receives⟩

theorem checkHeader_dispatches {channel : Channel .client}
    (before : Channel .client) (header : DpyEvtHeader)
    (kept : RecvKept before channel)
    (same : channel.dispatched = before.dispatched)
    (receives : ∀ header, before.receiving ≠ .descriptor header) :
    RecvKept before (checkHeader channel header) ∧
      Dispatches before (checkHeader channel header) := by
  have still : ∀ receiving, RecvKept before
      { channel with receiving := receiving } ∧
        Dispatches before { channel with receiving := receiving } :=
    fun _ => ⟨⟨kept.issued, kept.sending⟩, .nothing same⟩
  unfold checkHeader
  split
  · exact still _
  · split
    · split
      · exact still _
      · exact still _
    · exact received_dispatches before _ kept same receives

theorem recvRound_dispatches {channel : Channel .client}
    (before : Channel .client) {len moved : Nat} {answer : Vdpy.Answer}
    {goOn : Nat → Receiving} {next : Channel .client → Channel .client}
    (kept : RecvKept before channel)
    (same : channel.dispatched = before.dispatched)
    (goes : ∀ after : Channel .client, RecvKept before after →
      after.dispatched = before.dispatched →
        RecvKept before (next after) ∧ Dispatches before (next after)) :
    RecvKept before (recvRound channel len moved answer goOn next) ∧
      Dispatches before (recvRound channel len moved answer goOn next) := by
  unfold recvRound
  split
  · exact ⟨⟨kept.issued, kept.sending⟩, .nothing same⟩
  · dsimp only
    split
    · exact ⟨⟨kept.issued, kept.sending⟩, .nothing same⟩
    · exact goes _ ⟨kept.issued, kept.sending⟩ same

theorem recvStep_dispatches {before after : Channel .client}
    {answer : Vdpy.Answer} (ran : recvStep before answer = some after) :
    RecvKept before after ∧ Dispatches before after := by
  unfold recvStep at ran
  cases receiving : before.receiving with
  | idle | crashed | closed =>
      rw [receiving] at ran
      cases ran
  | header got =>
      rw [receiving] at ran
      obtain ⟨_, same⟩ := Option.ite_none_right_eq_some.mp ran
      cases same
      refine recvRound_dispatches before ⟨rfl, rfl⟩ rfl
        fun returned kept same =>
          checkHeader_dispatches before _ kept same ?_
      rw [receiving]
      exact fun _ => Receiving.noConfusion
  | body header moved =>
      rw [receiving] at ran
      obtain ⟨_, same⟩ := Option.ite_none_right_eq_some.mp ran
      cases same
      refine recvRound_dispatches before ⟨rfl, rfl⟩ rfl
        fun returned kept same =>
          received_dispatches before _ kept same ?_
      rw [receiving]
      exact fun _ => Receiving.noConfusion
  | descriptor header =>
      rw [receiving] at ran
      obtain ⟨_, same⟩ := Option.ite_none_right_eq_some.mp ran
      cases answer with
      | again =>
          cases same
          exact ⟨⟨rfl, rfl⟩, .nothing rfl⟩
      | moved count =>
          dsimp only at same
          split at same
          · cases same
            exact ⟨⟨rfl, rfl⟩, .carried rfl receiving⟩
          · cases same
            exact ⟨⟨rfl, rfl⟩, .nothing rfl⟩

/-- With a surface comes the descriptor it was sent with. -/
theorem arrivedFile_descriptor {channel : Channel .client}
    {done pending : List (Message .client)} {header : DpyEvtHeader}
    {after : Channel .client} {answer : Vdpy.Answer}
    (framed : Framed channel done pending)
    (receives : channel.receiving = .descriptor header)
    (whole : MovesWhole channel (.recv answer))
    (ran : recvStep channel answer = some after) :
    after.dispatched = channel.dispatched ∨
    ∃ message rest, pending = message :: rest ∧
      arrivedFile channel answer = message.fd.map UInt32.ofNat := by
  have reads := framed.reads
  unfold recvStep at ran
  rw [receives] at ran reads
  generalize stream : channel.wire ++ channel.sending.unsent = cells at reads
  cases reads with
  | @descriptor message rest carries filled =>
      obtain ⟨fits, same⟩ := Option.ite_none_right_eq_some.mp ran
      cases answer with
      | again =>
          cases same
          exact .inl rfl
      | moved count =>
          right
          refine ⟨message, rest, rfl, ?_⟩
          unfold MovesWhole at whole
          rw [receives] at whole
          obtain rfl : count = rdataSize := whole
          have enough : rdataSize ≤ channel.wire.length :=
            Nat.le_trans fits.2 (Nat.min_le_right _ _)
          obtain ⟨fd, carried⟩ := Option.isSome_iff_exists.mp carries
          have descriptor : message.descriptor = descriptorCells fd := by
            unfold Message.descriptor
            rw [carried]
          rw [descriptor] at stream
          have size := descriptorCells_length fd
          obtain ⟨front, _⟩ :=
            append_split stream (Nat.le_trans (Nat.le_of_eq size) enough)
          rw [size] at front
          unfold arrivedFile
          rw [receives, carried]
          dsimp only [Vdpy.Answer.count]
          rw [front]
          rfl

end VirtioGpu.Display
