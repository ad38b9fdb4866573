import VirtioGpu.Vdpy.HandlerReads

namespace VirtioGpu.Vdpy

open Foundation

/-! What a message stores in `buf`, and what its handler reads of it. -/

/-- The message that a step brings to its handler. -/
def Receiver.serves (eventLoop : EventLoop) (receiver : Receiver) :
    LoopAction → Option (Nat × List UInt8)
  | .recv answer =>
      match receiver.phase with
      | .header _ _ =>
          let header := DpyEvtHeader.parse answer.bytes
          if answer.bytes.length = headerSize ∧
              header.eMagic = displayMagicCode ∧ ¬header.Sized ∧
              eventLoop.readsFd header.eType = false then
            some (header.eType, [])
          else
            none
      | .body header _ _ =>
          if answer.bytes.length = header.eSize ∧
              eventLoop.readsFd header.eType = false then
            some (header.eType, answer.bytes)
          else
            none
      | _ => none
  | .recvFd (some _) =>
      match receiver.phase with
      | .descriptor header payload => some (header.eType, payload)
      | _ => none
  | _ => none

/-- The bytes stored for the message once the step has been made. -/
def Receiver.stores (receiver : Receiver) : LoopAction → Nat
  | .recv answer =>
      match receiver.phase with
      | .body _ payload _ => payload.length + answer.bytes.length
      | _ => 0
  | _ => 0

/-- No more of a body arrives than `buf` holds, and a message that gets to its
handler brings what the handler needs. -/
structure Harmless (eventLoop : EventLoop) (receiver : Receiver)
    (action : LoopAction) : Prop where
  stores : receiver.stores action ≤ bufSize
  brings : ∀ eType payload,
    receiver.serves eventLoop action = some (eType, payload) →
      eventLoop.needed eType payload ≤ payload.length

/-- Every message stores at most 256 bytes, its handler reads only bytes
received for it, and one that is shorter than its structure does nothing. -/
structure PayloadsOwn (eventLoop : EventLoop) (receiver : Receiver) :
    Prop where
  stored : receiver.phase.stored.length ≤ bufSize
  own : ∀ message, message ∈ receiver.messages →
    message.handled.used ≤ message.payload.length
  short : ∀ message, message ∈ receiver.messages →
    message.payload.length < eventLoop.structureSize message.eType →
      message.handled.effects = []

/-! The steps of a loop. -/

/-- Unless it overran `buf`, a thread has in it what it stored. -/
def LoopPhase.Sound (buf : List UInt8) : LoopPhase → Prop
  | .unconnected | .waiting | .header _ _ => True
  | .body evtHdr payload _ => evtHdr.Sized ∧ payload.length ≤ bufSize ∧
      buf.take payload.length = payload
  | .descriptor _ payload => payload.length ≤ bufSize ∧
      buf.take payload.length = payload
  | .overrun _ payload => bufSize < payload.length

def Receiver.Sound (receiver : Receiver) : Prop :=
  receiver.buf.length = bufSize ∧ receiver.phase.Sound receiver.buf

/-- A step that stays in `buf`. -/
structure Advances (eventLoop : EventLoop) (before : Receiver)
    (action : LoopAction) (after : Receiver) : Prop where
  sound : after.Sound
  stores : before.stores action ≤ bufSize
  stored : after.phase.stored.length ≤ bufSize
  messages : after.messages = before.messages ++
    (before.serves eventLoop action).toList.map fun message =>
      ⟨message.1, message.2, handleEvent eventLoop message.1 after.buf⟩
  agrees : ∀ eType payload,
    before.serves eventLoop action = some (eType, payload) →
      intSize ≤ payload.length → wordAt after.buf 0 = wordAt payload 0

/-- A step that stores past the end of `buf`. -/
structure Overruns (before : Receiver) (action : LoopAction)
    (after : Receiver) : Prop where
  sound : after.Sound
  stores : bufSize < before.stores action
  stored : bufSize < after.phase.stored.length

section Steps

variable {eventLoop : EventLoop} {receiver : Receiver}

theorem length_overwrite {buf bytes : List UInt8} {position : Nat}
    (inside : position + bytes.length ≤ buf.length) :
    (overwrite buf position bytes).length = buf.length := by
  unfold overwrite
  simp only [List.length_append, List.length_take, List.length_drop]
  omega

theorem take_overwrite {buf bytes : List UInt8} {position : Nat}
    (inside : position + bytes.length ≤ buf.length) :
    (overwrite buf position bytes).take (position + bytes.length) =
      buf.take position ++ bytes := by
  have front : (buf.take position ++ bytes).length =
      position + bytes.length := by
    rw [List.length_append, List.length_take, Nat.min_eq_left (by omega)]
  unfold overwrite
  rw [← List.append_assoc, ← front]
  exact List.take_left

theorem take_overwrite_before {buf bytes : List UInt8} {position count : Nat}
    (before : count ≤ position) (inside : position ≤ buf.length) :
    (overwrite buf position bytes).take count = buf.take count := by
  unfold overwrite
  rw [List.take_append_of_le_length (by rw [List.length_take]; omega),
    List.take_take, Nat.min_eq_left before]

theorem whileEagain_cases (ret : Int) (transfer : Transfer) :
    (∃ later, whileEagain ret transfer = .ok later) ∨
      ∃ result, whileEagain ret transfer = .error result ∧
        result.ret = ret := by
  unfold whileEagain
  split
  · exact .inl ⟨_, rfl⟩
  · exact .inr ⟨_, rfl, rfl⟩

/-- A `_recv` whose call brings everything at once returns the full length,
and no other `_recv` does. -/
theorem transferCall_cases {len moved errno : Nat} {answer : Reception}
    (positive : 0 < len) (fits : answer.bytes.length ≤ len - moved) :
    (answer.bytes.length = len ∧ moved = 0 ∧
        transferCall len ⟨moved, errno⟩ answer.result =
          .error ⟨len, ⟨len, errno⟩⟩) ∨
      (answer.bytes.length ≠ len ∧
        ((∃ later, transferCall len ⟨moved, errno⟩ answer.result =
            .ok later) ∨
          ∃ result, transferCall len ⟨moved, errno⟩ answer.result =
            .error result ∧ result.ret ≠ len)) := by
  have short : ∀ {ret : Int} {transfer : Transfer}, ret ≠ len →
      (∃ later, whileEagain ret transfer = .ok later) ∨
        ∃ result, whileEagain ret transfer = .error result ∧
          result.ret ≠ len := by
    intro ret transfer other
    rcases whileEagain_cases ret transfer with goesOn | ⟨result, stops, same⟩
    · exact .inl goesOn
    · exact .inr ⟨result, stops, by rw [same]; exact other⟩
  cases answer with
  | failed left =>
      refine .inr ⟨Nat.ne_of_lt positive, short ?_⟩
      omega
  | got bytes =>
      dsimp only [Reception.bytes] at fits
      dsimp only [Reception.bytes, Reception.result]
      by_cases whole : bytes.length = len
      · have start : moved = 0 := by omega
        subst start
        refine .inl ⟨whole, rfl, ?_⟩
        rw [transferCall, if_neg (by omega), whole]
        dsimp only
        rw [Nat.zero_add, if_pos rfl]
      · refine .inr ⟨whole, ?_⟩
        unfold transferCall
        dsimp only
        split
        · exact short (by omega)
        · split
          · exact .inr ⟨_, rfl, fun same => whole (Int.ofNat.inj same)⟩
          · exact short fun same => whole (Int.ofNat.inj same)

variable {before after : Receiver} {action : LoopAction}
  {header : DpyEvtHeader} {payload : List UInt8}

/-- A step after which no message gets to its handler. -/
theorem Advances.quiet (sound : after.Sound)
    (stores : before.stores action ≤ bufSize)
    (stored : after.phase.stored.length ≤ bufSize)
    (same : after.messages = before.messages)
    (unserved : before.serves eventLoop action = none) :
    Advances eventLoop before action after := by
  refine ⟨sound, stores, stored, ?_, ?_⟩
  · rw [same, unserved]
    exact (List.append_nil _).symm
  · intro eType payload served
    rw [unserved] at served
    cases served

theorem Advances.handle {eType : Nat}
    (sized : receiver.buf.length = bufSize)
    (stores : before.stores action ≤ bufSize)
    (same : receiver.messages = before.messages)
    (agrees : intSize ≤ payload.length →
      wordAt receiver.buf 0 = wordAt payload 0)
    (serves : before.serves eventLoop action = some (eType, payload)) :
    Advances eventLoop before action
      (receiver.handle eventLoop eType payload) := by
  have phase : (receiver.handle eventLoop eType payload).phase =
      if .closeClient ∈ (handleEvent eventLoop eType receiver.buf).effects then
        .unconnected
      else
        .waiting := rfl
  refine ⟨⟨sized, ?_⟩, stores, ?_, ?_, ?_⟩
  · rw [phase]
    split
    · trivial
    · trivial
  · rw [phase]
    split
    · exact Nat.zero_le _
    · exact Nat.zero_le _
  · rw [serves, ← same]
    rfl
  · intro other bytes served
    rw [serves] at served
    cases served
    exact agrees

theorem Advances.complete (sized : receiver.buf.length = bufSize)
    (fits : payload.length ≤ bufSize)
    (filled : receiver.buf.take payload.length = payload)
    (stores : before.stores action ≤ bufSize)
    (same : receiver.messages = before.messages)
    (serves : before.serves eventLoop action =
      if eventLoop.readsFd header.eType = false then
        some (header.eType, payload)
      else
        none) :
    Advances eventLoop before action
      (receiver.complete eventLoop header payload) := by
  unfold Receiver.complete
  split
  · rename_i reads
    rw [if_neg (by rw [reads]; decide)] at serves
    exact .quiet ⟨sized, fits, filled⟩ stores fits same serves
  · rename_i reads
    rw [if_pos (Bool.eq_false_iff.mpr reads)] at serves
    refine .handle sized stores same ?_ serves
    exact wordAt_congr (filled.trans List.take_length.symm)

theorem recvHeader_advances {got : List UInt8} {errno : Nat}
    {answer : Reception} (sound : before.Sound)
    (phase : before.phase = .header got errno)
    (fits : answer.bytes.length ≤ headerSize - got.length) :
    Advances eventLoop before (.recv answer)
      (before.recvHeader eventLoop got errno answer) := by
  have stores : before.stores (.recv answer) ≤ bufSize := by
    rw [Receiver.stores, phase]
    exact Nat.zero_le _
  have serves : before.serves eventLoop (.recv answer) =
      if answer.bytes.length = headerSize ∧
          (DpyEvtHeader.parse answer.bytes).eMagic = displayMagicCode ∧
          ¬(DpyEvtHeader.parse answer.bytes).Sized ∧
          eventLoop.readsFd (DpyEvtHeader.parse answer.bytes).eType =
            false then
        some ((DpyEvtHeader.parse answer.bytes).eType, [])
      else
        none := by
    rw [Receiver.serves, phase]
  have quiet : ∀ {later : LoopPhase}, later.Sound before.buf →
      later.stored = [] → before.serves eventLoop (.recv answer) = none →
        Advances eventLoop before (.recv answer)
          { before with phase := later } := by
    intro later sounds empty unserved
    refine .quiet ⟨sound.1, sounds⟩ stores ?_ rfl unserved
    rw [empty]
    exact Nat.zero_le _
  unfold Receiver.recvHeader
  rcases transferCall_cases (by decide : 0 < headerSize) fits with
    ⟨whole, start, ran⟩ | ⟨part, ⟨later, ran⟩ | ⟨result, ran, other⟩⟩
  · have empty : got = [] := List.length_eq_zero_iff.mp start
    subst empty
    rw [ran]
    dsimp only
    rw [if_neg (not_not.mpr rfl), List.nil_append, Receiver.accept]
    split
    · rename_i wrong
      refine quiet trivial rfl ?_
      rw [serves, if_neg fun all => wrong all.2.1]
    · rename_i magic
      have magic := not_not.mp magic
      split
      · rename_i sized
        refine quiet ⟨sized, Nat.zero_le _, rfl⟩ rfl ?_
        rw [serves, if_neg fun all => all.2.2.1 sized]
      · rename_i unsized
        refine .complete sound.1 (Nat.zero_le _) rfl stores rfl ?_
        rw [serves]
        simp only [whole, magic, unsized, true_and, not_false_eq_true]
  · rw [ran]
    exact quiet trivial rfl (by rw [serves, if_neg fun all => part all.1])
  · rw [ran]
    dsimp only
    rw [if_pos other]
    exact quiet trivial rfl (by rw [serves, if_neg fun all => part all.1])

theorem recvBody_cases {errno : Nat} {answer : Reception}
    (sound : before.Sound)
    (phase : before.phase = .body header payload errno)
    (fits : answer.bytes.length ≤ header.eSize - payload.length) :
    Advances eventLoop before (.recv answer)
        (before.recvBody eventLoop header payload errno answer) ∨
      Overruns before (.recv answer)
        (before.recvBody eventLoop header payload errno answer) := by
  obtain ⟨sized, held⟩ := sound
  rw [phase] at held
  obtain ⟨positive, room, filled⟩ := held
  have stores : before.stores (.recv answer) =
      (payload ++ answer.bytes).length := by
    rw [Receiver.stores, phase, List.length_append]
  have serves : before.serves eventLoop (.recv answer) =
      if answer.bytes.length = header.eSize ∧
          eventLoop.readsFd header.eType = false then
        some (header.eType, answer.bytes)
      else
        none := by
    rw [Receiver.serves, phase]
  unfold Receiver.recvBody
  dsimp only
  split
  · rename_i beyond
    exact .inr ⟨⟨sized, beyond⟩, by rw [stores]; exact beyond, beyond⟩
  · rename_i inside
    have inside : (payload ++ answer.bytes).length ≤ bufSize :=
      Nat.le_of_not_lt inside
    have bound : payload.length + answer.bytes.length ≤
        before.buf.length := by
      rw [sized, ← List.length_append]
      exact inside
    have length := (length_overwrite bound).trans sized
    have holds : (overwrite before.buf payload.length answer.bytes).take
        (payload ++ answer.bytes).length = payload ++ answer.bytes := by
      rw [List.length_append, take_overwrite bound, filled]
    refine .inl ?_
    rcases transferCall_cases positive.1 fits with
      ⟨whole, start, ran⟩ | ⟨part, ⟨later, ran⟩ | ⟨result, ran, other⟩⟩
    · rw [ran]
      dsimp only
      rw [if_neg (not_not.mpr rfl)]
      have empty : payload = [] := List.length_eq_zero_iff.mp start
      subst empty
      refine .complete length inside holds (by rw [stores]; exact inside)
        rfl ?_
      rw [serves, List.nil_append]
      simp only [whole, true_and]
    · rw [ran]
      exact .quiet ⟨length, positive, inside, holds⟩
        (by rw [stores]; exact inside) inside rfl
        (by rw [serves, if_neg fun all => part all.1])
    · rw [ran]
      dsimp only
      rw [if_pos other]
      exact .quiet ⟨length, trivial⟩ (by rw [stores]; exact inside)
        (Nat.zero_le _) rfl
        (by rw [serves, if_neg fun all => part all.1])

theorem recvFd_advances {fd : Option Nat} (sound : before.Sound)
    (phase : before.phase = .descriptor header payload) :
    Advances eventLoop before (.recvFd fd)
      (before.recvFd eventLoop header payload fd) := by
  obtain ⟨sized, held⟩ := sound
  rw [phase] at held
  obtain ⟨room, filled⟩ := held
  have stores : before.stores (.recvFd fd) ≤ bufSize := Nat.zero_le _
  cases fd with
  | none => exact .quiet ⟨sized, trivial⟩ stores (Nat.zero_le _) rfl rfl
  | some fd =>
      have inside : dmabufFdOffset + (wordBytes 4 fd).length ≤
          before.buf.length := by
        rw [sized, length_wordBytes]
        decide
      refine .handle ((length_overwrite inside).trans sized) stores rfl ?_ ?_
      · intro typed
        have first : (overwrite before.buf dmabufFdOffset
            (wordBytes 4 fd)).take intSize = before.buf.take intSize :=
          take_overwrite_before (by decide) (by rw [sized]; decide)
        exact (wordAt_congr first (Nat.le_refl _)).trans
          (wordAt_congr (filled.trans List.take_length.symm) typed)
      · rw [Receiver.serves, phase]

/-- What a step of a loop can do. -/
theorem act_cases (sound : before.Sound)
    (acted : before.act eventLoop action = some after) :
    Advances eventLoop before action after ∨
      Overruns before action after := by
  unfold Receiver.act at acted
  cases action with
  | connect | hangup | wake errno =>
      dsimp only at acted
      split at acted
      · cases acted
        exact .inl (.quiet ⟨sound.1, trivial⟩ (Nat.zero_le _)
          (Nat.zero_le _) rfl rfl)
      · cases acted
  | recv answer =>
      dsimp only at acted
      split at acted
      · rename_i got errno phase
        split at acted
        · rename_i fits
          cases acted
          exact .inl (recvHeader_advances sound phase fits)
        · cases acted
      · rename_i header payload errno phase
        split at acted
        · rename_i fits
          cases acted
          exact recvBody_cases sound phase fits
        · cases acted
      · cases acted
  | recvFd fd =>
      dsimp only at acted
      split at acted
      · rename_i header payload phase
        cases acted
        exact .inl (recvFd_advances sound phase)
      · cases acted

theorem mem_served {message : Received}
    (member : message ∈
      ((before.serves eventLoop action).toList.map fun served =>
        (⟨served.1, served.2,
          handleEvent eventLoop served.1 after.buf⟩ : Received))) :
    before.serves eventLoop action = some (message.eType, message.payload) ∧
      message.handled = handleEvent eventLoop message.eType after.buf := by
  obtain ⟨served, found, rfl⟩ := List.mem_map.mp member
  exact ⟨Option.mem_toList.mp found, rfl⟩

theorem Advances.owns (advances : Advances eventLoop before action after)
    (harmless : Harmless eventLoop before action)
    (owns : PayloadsOwn eventLoop before) : PayloadsOwn eventLoop after := by
  refine ⟨advances.stored, ?_, ?_⟩
  · intro message member
    rw [advances.messages] at member
    rcases List.mem_append.mp member with old | new
    · exact owns.own message old
    · obtain ⟨served, same⟩ := mem_served new
      rw [same]
      exact (used_le_iff (advances.agrees _ _ served)).mpr
        (harmless.brings _ _ served)
  · intro message member small
    rw [advances.messages] at member
    rcases List.mem_append.mp member with old | new
    · exact owns.short message old small
    · obtain ⟨served, same⟩ := mem_served new
      rw [same]
      apply effects_of_short
      exact Nat.lt_of_le_of_lt
        ((used_le_iff (advances.agrees _ _ served)).mpr
          (harmless.brings _ _ served)) small

/-- What a harmless message does is the same whatever the buffer holds behind
its payload. -/
theorem Advances.alone (advances : Advances eventLoop before action after)
    (harmless : Harmless eventLoop before action) {eType : Nat}
    (served : before.serves eventLoop action = some (eType, payload))
    {other : List UInt8}
    (same : after.buf.take payload.length = other.take payload.length) :
    handleEvent eventLoop eType after.buf =
      handleEvent eventLoop eType other := by
  apply handleEvent_congr
  exact take_congr same ((used_le_iff (advances.agrees _ _ served)).mpr
    (harmless.brings _ _ served))

theorem Advances.harmless (advances : Advances eventLoop before action after)
    (owns : PayloadsOwn eventLoop after) :
    Harmless eventLoop before action := by
  refine ⟨advances.stores, ?_⟩
  intro eType payload served
  rw [← used_le_iff (advances.agrees eType payload served)]
  refine owns.own ⟨eType, payload, _⟩ ?_
  rw [advances.messages, served]
  exact List.mem_append_right _ (List.mem_singleton_self _)

theorem Advances.owned (advances : Advances eventLoop before action after)
    (stored : before.phase.stored.length ≤ bufSize)
    (owns : PayloadsOwn eventLoop after) : PayloadsOwn eventLoop before := by
  have kept : ∀ message, message ∈ before.messages →
      message ∈ after.messages := by
    intro message member
    rw [advances.messages]
    exact List.mem_append_left _ member
  exact ⟨stored, fun message member => owns.own message (kept message member),
    fun message member => owns.short message (kept message member)⟩

/-- A thread that still makes steps has not left `buf`. -/
theorem stored_of_acted (sound : before.Sound)
    (acted : before.act eventLoop action = some after) :
    before.phase.stored.length ≤ bufSize := by
  obtain ⟨_, held⟩ := sound
  cases phase : before.phase with
  | unconnected | waiting | header got errno => exact Nat.zero_le _
  | body evtHdr payload errno =>
      rw [phase] at held
      exact held.2.1
  | descriptor evtHdr payload =>
      rw [phase] at held
      exact held.1
  | overrun evtHdr payload =>
      cases action with
      | connect | hangup | wake errno | recv answer | recvFd fd =>
          simp [Receiver.act, phase] at acted

end Steps

/-! Whole runs. -/

section Runs

variable {eventLoop : EventLoop} {receiver : Receiver}

theorem initial_owns (starts : (receiveLoop eventLoop).initial receiver) :
    receiver.Sound ∧ PayloadsOwn eventLoop receiver := by
  obtain ⟨sized, phase, unhandled⟩ := starts
  refine ⟨⟨sized, ?_⟩, ?_, ?_, ?_⟩
  · rw [phase]
    trivial
  · rw [phase]
    exact Nat.zero_le _
  · intro message member
    rw [unhandled] at member
    cases member
  · intro message member
    rw [unhandled] at member
    cases member

theorem receiver_sound (reached : (receiveLoop eventLoop).Reached receiver) :
    receiver.Sound := by
  refine reached.invariant Receiver.Sound
    (fun receiver starts => (initial_owns starts).1) ?_
  intro before action after sound acted
  rcases act_cases sound acted with advances | overruns
  · exact advances.sound
  · exact overruns.sound

theorem harmless_owns (reached :
    (receiveLoop eventLoop).ReachedWhere (Harmless eventLoop) receiver) :
    receiver.Sound ∧ PayloadsOwn eventLoop receiver := by
  refine reached.invariant
    (fun receiver => receiver.Sound ∧ PayloadsOwn eventLoop receiver)
    (fun receiver => initial_owns) ?_
  rintro before action after ⟨sound, owns⟩ harmless acted
  rcases act_cases sound acted with advances | overruns
  · exact ⟨advances.sound, advances.owns harmless owns⟩
  · exact absurd harmless.stores (Nat.not_le_of_lt overruns.stores)

theorem exists_reached_of_acts {start : Receiver}
    {actions : List LoopAction} {check : Receiver → Bool}
    (starts : (receiveLoop eventLoop).initial start)
    (checked : (actions.foldlM (Receiver.act eventLoop) start).any check =
      true) :
    ∃ receiver, (receiveLoop eventLoop).Reached receiver ∧
      check receiver = true :=
  TransitionSystem.exists_reached (fun acted => acted) starts checked

/-- In a reached state the messages stay in the buffer and are handled from
their own bytes if and only if every step of a run to it was harmless. -/
theorem payloadsOwn_iff
    (reached : (receiveLoop eventLoop).Reached receiver) :
    PayloadsOwn eventLoop receiver ↔
      (receiveLoop eventLoop).ReachedWhere (Harmless eventLoop) receiver := by
  refine ⟨?_, fun harmless => (harmless_owns harmless).2⟩
  intro owns
  induction reached with
  | initial starts => exact .initial starts
  | @step before after action earlier _ acted induction =>
      have sound := receiver_sound earlier
      rcases act_cases sound acted with advances | overruns
      · exact .step
          (induction (advances.owned (stored_of_acted sound acted) owns))
          (advances.harmless owns) acted
      · exact absurd owns.stored (Nat.not_le_of_lt overruns.stored)

/-- The thread has just started, with zeroes in `buf`. -/
def Receiver.fresh : Receiver :=
  ⟨.unconnected, List.replicate bufSize 0, []⟩

theorem fresh_initial :
    (receiveLoop eventLoop).initial Receiver.fresh :=
  ⟨List.length_replicate, rfl, rfl⟩

/-- A peer sends one message, each part in one piece. -/
def sendWhole (eType : Nat) (size : Nat) (body : List UInt8) :
    List LoopAction :=
  [.connect, .wake 0,
    .recv (.got (DpyEvtHeader.mk eType displayMagicCode size).bytes),
    .recv (.got body)]

/-- A `HOTPLUG` of four bytes. -/
theorem hotplug_owns :
    ∃ receiver, (receiveLoop ⟨.displayServer, true, false⟩).Reached
        receiver ∧
      receiver.messages =
        [⟨dpyEventHotplug, [1, 0, 0, 0], ⟨intSize, [.triger]⟩⟩] ∧
      (receiveLoop ⟨.displayServer, true, false⟩).ReachedWhere
        (Harmless ⟨.displayServer, true, false⟩) receiver := by
  obtain ⟨receiver, reached, checked⟩ :=
    @exists_reached_of_acts ⟨.displayServer, true, false⟩ .fresh
      (sendWhole dpyEventHotplug 4 [1, 0, 0, 0])
      (fun receiver => decide (receiver.phase = .waiting) &&
        decide (receiver.messages =
          [⟨dpyEventHotplug, [1, 0, 0, 0], ⟨intSize, [.triger]⟩⟩]))
      fresh_initial (by decide +kernel)
  obtain ⟨phase, messages⟩ := Bool.and_eq_true_iff.mp checked
  have phase := of_decide_eq_true phase
  have messages := of_decide_eq_true messages
  refine ⟨receiver, reached, messages, (payloadsOwn_iff reached).mp ?_⟩
  refine ⟨?_, ?_, ?_⟩
  · rw [phase]
    exact Nat.zero_le _
  · rw [messages]
    decide
  · rw [messages]
    decide

/-- 300 bytes of a `HOTPLUG` run over `buf`, and a `DISPLAY_INFO` without a
body is read from what `buf` held before. -/
theorem peer_overruns_and_reuses :
    (∃ receiver, (receiveLoop ⟨.displayServer, true, false⟩).Reached
        receiver ∧ receiver.phase.stored.length = 300 ∧
        ¬PayloadsOwn ⟨.displayServer, true, false⟩ receiver) ∧
      ∃ receiver, (receiveLoop ⟨.displayServer, true, false⟩).Reached
        receiver ∧ receiver.messages =
          [⟨dpyEventDisplayInfo, [],
            ⟨displayInfoSize, [.setInfo 0 0 0 0]⟩⟩] ∧
        ¬PayloadsOwn ⟨.displayServer, true, false⟩ receiver := by
  constructor
  · obtain ⟨receiver, reached, checked⟩ :=
      @exists_reached_of_acts ⟨.displayServer, true, false⟩ .fresh
        (sendWhole dpyEventHotplug 300 (List.replicate 300 0))
        (fun receiver => decide (receiver.phase.stored.length = 300))
        fresh_initial (by decide +kernel)
    have stored := of_decide_eq_true checked
    refine ⟨receiver, reached, stored, fun owns => ?_⟩
    have bounded := owns.stored
    rw [stored] at bounded
    exact absurd bounded (by decide)
  · obtain ⟨receiver, reached, checked⟩ :=
      @exists_reached_of_acts ⟨.displayServer, true, false⟩ .fresh
        ((sendWhole dpyEventDisplayInfo 0 []).take 3)
        (fun receiver => decide (receiver.messages =
          [⟨dpyEventDisplayInfo, [],
            ⟨displayInfoSize, [.setInfo 0 0 0 0]⟩⟩]))
        fresh_initial (by decide +kernel)
    have messages := of_decide_eq_true checked
    refine ⟨receiver, reached, messages, fun owns => ?_⟩
    have read := owns.own _ (by
      rw [messages]
      exact List.mem_singleton_self _)
    exact absurd read (by decide)

end Runs

end VirtioGpu.Vdpy
