import VirtioGpu.Foundation.Streams
import VirtioGpu.Vdpy.Framing

namespace VirtioGpu.Vdpy

open Foundation

/-! Every message is delivered whole while every socket call moves all it is
asked to. -/

section Delivery

variable {peer : Peer}

/-- What the sender still has to write of its message. -/
def Sending.unsent : Sending peer → List Cell
  | .idle => []
  | .header message _ => message.encode
  | .body message _ => plainCells message.body ++ message.descriptor
  | .descriptor message => message.descriptor

/-- The sender is at the start of a chunk that it has to send. -/
def Sending.AtStart : Sending peer → Prop
  | .idle => True
  | .header _ moved => moved = 0
  | .body message moved => moved = 0 ∧ message.body ≠ []
  | .descriptor message => message.fd.isSome = true

/-- Where the receiver stands among the messages not dispatched yet, and the
cells it has still to read of them. -/
inductive Reads (buf : List UInt8) :
    Receiving → List (Message peer) → List Cell → Prop
  | idle (pending : List (Message peer)) :
      Reads buf .idle pending (encodeAll pending)
  | header (pending : List (Message peer)) :
      Reads buf (.header []) pending (encodeAll pending)
  | body {message : Message peer} (rest : List (Message peer))
      (more : message.body ≠ []) :
      Reads buf (.body message.header 0) (message :: rest)
        (plainCells message.body ++ (message.descriptor ++ encodeAll rest))
  | descriptor {message : Message peer} (rest : List (Message peer))
      (carries : message.fd.isSome = true)
      (filled : buf.take message.body.length = message.body) :
      Reads buf (.descriptor message.header) (message :: rest)
        (message.descriptor ++ encodeAll rest)
  | closed : Reads buf .closed [] []

/-- The records of the channel agree with the messages dispatched and those
still pending. -/
structure Tracked (channel : Channel peer)
    (done pending : List (Message peer)) : Prop where
  issued : channel.issued = done ++ pending
  dispatched : channel.dispatched = done.map Message.content
  starts : channel.sending.AtStart
  consumed : (encodeAll channel.issued).length = channel.consumed +
    (channel.wire ++ channel.sending.unsent).length
  last : ∀ before message after, channel.issued = before ++ message :: after →
    message.closes = true → after = []
  buffer : channel.buf.length = bufSize
  aligned : ∀ position, position ∈ channel.parsedAt →
    position ∈ boundaries channel.issued
  returns : ∀ call, call ∈ channel.calls →
    call.ret = call.len ∧ call.moved = call.len

/-- What holds between two steps. -/
structure Framed (channel : Channel peer) (done pending : List (Message peer)) :
    Prop extends Tracked channel done pending where
  reads : Reads channel.buf channel.receiving pending
    (channel.wire ++ channel.sending.unsent)
  closed : channel.receiving = .closed →
    ∃ message, message ∈ channel.issued ∧ message.closes = true

theorem transferRound_whole (len : Nat) (errno : Errno) :
    transferRound len 0 errno (.moved len) = .returned len len errno := by
  unfold transferRound
  dsimp only
  rw [Nat.zero_add]
  exact if_pos rfl

theorem returns_append {calls : List Call} (len : Nat)
    (returns : ∀ call, call ∈ calls →
      call.ret = call.len ∧ call.moved = call.len) :
    ∀ call, call ∈ calls ++ [⟨len, len, len⟩] →
      call.ret = call.len ∧ call.moved = call.len := by
  intro call member
  rcases List.mem_append.mp member with before | last
  · exact returns call before
  · cases List.mem_singleton.mp last
    exact ⟨rfl, rfl⟩

theorem Reads.append {buf : List UInt8} {receiving : Receiving}
    {pending : List (Message peer)} {cells : List Cell}
    (reads : Reads buf receiving pending cells)
    (running : receiving ≠ .closed) (message : Message peer) :
    Reads buf receiving (pending ++ [message]) (cells ++ message.encode) := by
  have one : encodeAll [message] = message.encode :=
    List.append_nil _
  cases reads with
  | idle =>
      rw [← one, ← encodeAll_append]
      exact .idle _
  | header =>
      rw [← one, ← encodeAll_append]
      exact .header _
  | body rest more =>
      rw [← one, List.append_assoc, List.append_assoc, ← encodeAll_append]
      exact .body _ more
  | descriptor rest carries filled =>
      rw [← one, List.append_assoc, ← encodeAll_append]
      exact .descriptor _ carries filled
  | closed => exact absurd rfl running

/-! The sender. -/

theorem unsent_afterBody (message : Message peer) :
    (afterBody message).unsent = message.descriptor := by
  unfold afterBody
  cases carried : message.fd with
  | none =>
      show [] = message.descriptor
      unfold Message.descriptor
      rw [carried]
  | some fd => rfl

theorem atStart_afterBody (message : Message peer) :
    (afterBody message).AtStart := by
  unfold afterBody
  split
  · assumption
  · trivial

theorem afterHeader_whole (message : Message peer) :
    (afterHeader message headerSize).unsent =
        plainCells message.body ++ message.descriptor ∧
      (afterHeader message headerSize).AtStart := by
  unfold afterHeader
  rw [if_neg (not_not_intro rfl)]
  by_cases empty : message.body = []
  · rw [if_neg (not_not_intro empty), empty]
    exact ⟨unsent_afterBody message, atStart_afterBody message⟩
  · rw [if_pos empty]
    exact ⟨rfl, rfl, empty⟩

namespace Framed

variable {channel after : Channel peer} {done pending : List (Message peer)}

/-- Cells move from the sender to the wire. -/
theorem sent (framed : Framed channel done pending) {chunk : List Cell}
    {next : Sending peer} {errno : Errno} {calls : List Call}
    (moves : chunk ++ next.unsent = channel.sending.unsent)
    (starts : next.AtStart)
    (returns : ∀ call, call ∈ calls →
      call.ret = call.len ∧ call.moved = call.len) :
    Framed { channel with
      wire := channel.wire ++ chunk
      sending := next
      sendErrno := errno
      calls := calls } done pending := by
  have same : (channel.wire ++ chunk) ++ next.unsent =
      channel.wire ++ channel.sending.unsent := by
    rw [List.append_assoc, moves]
  refine ⟨⟨framed.issued, framed.dispatched, starts, ?_, framed.last,
    framed.buffer, framed.aligned, returns⟩, ?_, framed.closed⟩
  · refine framed.consumed.trans ?_
    rw [← same]
  · have reads := framed.reads
    rw [← same] at reads
    exact reads

theorem kept_by_sendRound (framed : Framed channel done pending)
    {bytes : List UInt8} {answer : Answer} {goOn : Nat → Sending peer}
    {next : Int → Sending peer}
    (whole : ∀ count, answer = .moved count → count = bytes.length)
    (again : goOn 0 = channel.sending)
    (moves : plainCells bytes ++ (next bytes.length).unsent =
      channel.sending.unsent)
    (starts : (next bytes.length).AtStart)
    (ran : sendRound channel bytes 0 answer goOn next = some after) :
    Framed after done pending := by
  unfold Vdpy.sendRound at ran
  split at ran
  · cases answer with
    | again =>
        cases ran
        have kept := @framed.sent peer channel done pending [] channel.sending
          .eagain channel.calls rfl framed.starts framed.returns
        rw [again]
        exact kept
    | moved count =>
        obtain rfl := whole count rfl
        rw [transferRound_whole] at ran
        cases ran
        have all : (bytes.drop 0).take bytes.length = bytes :=
          List.take_of_length_le (Nat.le_refl _)
        dsimp only [Answer.count]
        rw [all]
        exact framed.sent moves starts (returns_append _ framed.returns)
  · cases ran

theorem kept_by_sendStep (framed : Framed channel done pending)
    {answer : Answer}
    (whole : ∀ count, answer = .moved count →
      count = channel.sending.requested)
    (ran : sendStep channel answer = some after) :
    Framed after done pending := by
  unfold Vdpy.sendStep at ran
  cases sending : channel.sending with
  | idle =>
      rw [sending] at ran
      cases ran
  | header message moved =>
      have starts := framed.starts
      rw [sending] at ran whole starts
      obtain rfl : moved = 0 := starts
      obtain ⟨unsent, next⟩ := afterHeader_whole message
      have full := length_headerBytes message.header
      rw [← full] at unsent next
      refine framed.kept_by_sendRound ?_ sending.symm ?_ next ran
      · intro count moved
        rw [full]
        exact whole count moved
      · rw [unsent, sending]
        rfl
  | body message moved =>
      have starts := framed.starts
      rw [sending] at ran whole starts
      obtain ⟨rfl, _⟩ := starts
      refine framed.kept_by_sendRound whole sending.symm ?_
        (atStart_afterBody message) ran
      rw [unsent_afterBody, sending]
      rfl
  | descriptor message =>
      rw [sending] at ran whole
      dsimp only at ran
      split at ran
      · cases answer with
        | again =>
            cases ran
            exact framed
        | moved count =>
            cases ran
            obtain rfl := whole count rfl
            have all : message.descriptor.take
                (Sending.descriptor message).requested =
                  message.descriptor := by
              apply List.take_of_length_le
              unfold Message.descriptor
              split
              · exact Nat.zero_le _
              · exact Nat.le_of_eq (descriptorCells_length _)
            rw [all]
            refine framed.sent ?_ trivial framed.returns
            rw [sending]
            exact List.append_nil _
      · cases ran

end Framed

/-! The receiver. -/

namespace Tracked

variable {channel : Channel peer} {done rest : List (Message peer)}
  {message : Message peer}

/-- Cells move from the wire to the receiver. -/
theorem taken {pending : List (Message peer)}
    (tracked : Tracked channel done pending) {count : Nat}
    (inside : count ≤ channel.wire.length) {receiving : Receiving}
    {errno : Errno} {buf : List UInt8} {calls : List Call}
    (sized : buf.length = bufSize)
    (returns : ∀ call, call ∈ calls →
      call.ret = call.len ∧ call.moved = call.len) :
    Tracked { takeCells channel count with
      receiving := receiving
      recvErrno := errno
      buf := buf
      calls := calls } done pending := by
  refine ⟨tracked.issued, tracked.dispatched, tracked.starts, ?_,
    tracked.last, sized, tracked.aligned, returns⟩
  refine tracked.consumed.trans ?_
  show channel.consumed + _ = channel.consumed + count +
    (channel.wire.drop count ++ channel.sending.unsent).length
  rw [List.length_append, List.length_append, List.length_drop]
  omega

theorem dispatch (tracked : Tracked channel done (message :: rest))
    (cells : channel.wire ++ channel.sending.unsent = encodeAll rest)
    (filled : channel.buf.take message.body.length = message.body) :
    Framed (dispatch channel message.header) (done ++ [message]) rest := by
  have issued : channel.issued = done ++ [message] ++ rest := by
    rw [tracked.issued, List.append_assoc]
    rfl
  have closes : peer.closes message.header.eType channel.buf =
      message.closes :=
    message.closes_of_body filled
  refine ⟨⟨issued, ?_, tracked.starts, tracked.consumed, tracked.last,
    tracked.buffer, tracked.aligned, tracked.returns⟩, ?_, ?_⟩
  · show channel.dispatched ++ [(message.eType, _)] = _
    rw [tracked.dispatched, List.map_append]
    congr 2
    exact Prod.ext rfl filled
  · show Reads channel.buf (if _ then _ else _) rest
      (channel.wire ++ channel.sending.unsent)
    rw [cells, closes]
    cases closing : message.closes with
    | false => exact .idle rest
    | true =>
        have settled := tracked.last done message rest tracked.issued closing
        rw [settled]
        exact .closed
  · intro closed
    change (if peer.closes message.header.eType channel.buf = true
      then Receiving.closed else .idle) = .closed at closed
    refine ⟨message, ?_, ?_⟩
    · show message ∈ channel.issued
      rw [tracked.issued]
      exact List.mem_append_right _ List.mem_cons_self
    · split at closed
      · rename_i closing
        rw [← closes]
        exact closing
      · cases closed

theorem received (tracked : Tracked channel done (message :: rest))
    (cells : channel.wire ++ channel.sending.unsent =
      message.descriptor ++ encodeAll rest)
    (filled : channel.buf.take message.body.length = message.body) :
    ∃ done pending,
      Framed (received channel message.header) done pending := by
  have carries : peer.carriesFd message.header.eType = message.fd.isSome :=
    message.carries.symm
  unfold Vdpy.received
  rw [carries]
  cases carried : message.fd.isSome with
  | true =>
      refine ⟨done, message :: rest, ⟨⟨tracked.issued, tracked.dispatched,
        tracked.starts, tracked.consumed, tracked.last, tracked.buffer,
        tracked.aligned, tracked.returns⟩, ?_, Receiving.noConfusion⟩⟩
      show Reads channel.buf (.descriptor message.header) _
        (channel.wire ++ channel.sending.unsent)
      rw [cells]
      exact .descriptor rest carried filled
  | false =>
      have undescribed : message.descriptor = [] := by
        have absent : message.fd = none := by simpa using carried
        unfold Message.descriptor
        rw [absent]
      rw [undescribed] at cells
      exact ⟨_, _, tracked.dispatch cells filled⟩

theorem checkHeader (tracked : Tracked channel done (message :: rest))
    (cells : channel.wire ++ channel.sending.unsent =
      plainCells message.body ++ (message.descriptor ++ encodeAll rest)) :
    ∃ done pending,
      Framed (checkHeader channel message.header) done pending := by
  have fits : message.body.length ≤ bufSize := message.fits
  have magic : message.header.eMagic = displayMagicCode := rfl
  unfold Vdpy.checkHeader
  rw [if_neg (not_not_intro magic)]
  by_cases empty : message.body = []
  · have header : { message.header with eSize := 0 } = message.header := by
      show DpyEvtHeader.mk _ _ 0 = ⟨_, _, message.body.length⟩
      rw [empty]
      rfl
    have size : message.header.eSize = 0 := by
      show message.body.length = 0
      rw [empty]
      rfl
    rw [if_neg (by rw [size]; simp), header]
    rw [empty] at cells
    refine tracked.received cells ?_
    rw [empty]
    rfl
  · have positive := List.length_pos_iff.mpr empty
    have size : message.header.eSize = message.body.length := rfl
    rw [size, if_pos ⟨positive, Nat.lt_of_le_of_lt fits (by decide)⟩,
      if_pos fits]
    refine ⟨done, message :: rest, ⟨⟨tracked.issued, tracked.dispatched,
      tracked.starts, tracked.consumed, tracked.last, tracked.buffer,
      tracked.aligned, tracked.returns⟩, ?_, Receiving.noConfusion⟩⟩
    show Reads channel.buf (.body message.header 0) _
      (channel.wire ++ channel.sending.unsent)
    rw [cells]
    exact .body rest empty

end Tracked

theorem recvRound_whole (channel : Channel peer) (len : Nat)
    (goOn : Nat → Receiving) (next : Channel peer → Channel peer) :
    recvRound channel len 0 (.moved len) goOn next =
      next { channel with calls := channel.calls ++ [⟨len, len, len⟩] } := by
  unfold recvRound
  rw [transferRound_whole]
  exact if_neg (not_not_intro rfl)

theorem overwrite_front {buf bytes : List UInt8}
    (fits : bytes.length ≤ buf.length) :
    (overwrite buf 0 bytes).length = buf.length ∧
      (overwrite buf 0 bytes).take bytes.length = bytes := by
  unfold overwrite
  rw [List.take_zero, List.nil_append, Nat.zero_add]
  constructor
  · rw [List.length_append, List.length_drop]
    omega
  · exact List.take_left' rfl

theorem descriptorCells_any (fd : Nat) :
    (descriptorCells fd).any (fun cell => cell.fd.isSome) = true := rfl

namespace Framed

variable {channel after : Channel peer} {done pending : List (Message peer)}

/-- A call that moves nothing. -/
theorem again (framed : Framed channel done pending) {receiving : Receiving}
    (same : channel.receiving = receiving) :
    Framed { takeCells channel 0 with
      receiving := receiving
      recvErrno := .eagain } done pending := by
  have tracked := @framed.toTracked.taken peer channel done pending 0
    (Nat.zero_le _) receiving .eagain channel.buf channel.calls framed.buffer
    framed.returns
  have reads := framed.reads
  have closed := framed.closed
  rw [same] at reads closed
  exact ⟨tracked, reads, closed⟩

theorem kept_by_recvHeader (framed : Framed channel done pending)
    {got : List UInt8} {answer : Answer}
    (receiving : channel.receiving = .header got)
    (whole : ∀ count, answer = .moved count →
      count = channel.receiving.requested)
    (ran : recvStep channel answer = some after) :
    ∃ done pending, Framed after done pending := by
  have reads := framed.reads
  unfold recvStep at ran
  rw [receiving] at ran reads whole
  generalize stream : channel.wire ++ channel.sending.unsent = cells at reads
  cases reads with
  | header =>
      dsimp only at ran
      split at ran
      · rename_i fits
        cases answer with
        | again =>
            cases ran
            exact ⟨done, pending, framed.again receiving⟩
        | moved count =>
            obtain rfl : count = headerSize := whole count rfl
            have enough : headerSize ≤ channel.wire.length :=
              Nat.le_trans fits.2 (Nat.min_le_right _ _)
            cases pending with
            | nil =>
                have empty := (List.append_eq_nil_iff.mp stream).1
                rw [empty] at enough
                exact absurd enough (by decide)
            | cons message rest =>
                rw [encodeAll_cons] at stream
                have size : (plainCells message.header.bytes).length =
                    headerSize := by
                  rw [length_plainCells, length_headerBytes]
                obtain ⟨front, back⟩ :=
                  append_split stream (Nat.le_trans (Nat.le_of_eq size) enough)
                rw [size] at front back
                have bytes : (channel.wire.take headerSize).map Cell.byte =
                    message.header.bytes := by
                  rw [front, bytes_plainCells]
                cases ran
                dsimp only [Answer.count, List.length_nil]
                rw [recvRound_whole, List.nil_append, bytes,
                  message.parse_header]
                exact (framed.toTracked.taken enough framed.buffer
                  (returns_append _ framed.returns)).checkHeader back
      · cases ran

theorem kept_by_recvBody (framed : Framed channel done pending)
    {header : DpyEvtHeader} {moved : Nat} {answer : Answer}
    (receiving : channel.receiving = .body header moved)
    (whole : ∀ count, answer = .moved count →
      count = channel.receiving.requested)
    (ran : recvStep channel answer = some after) :
    ∃ done pending, Framed after done pending := by
  have reads := framed.reads
  unfold recvStep at ran
  rw [receiving] at ran reads whole
  generalize stream : channel.wire ++ channel.sending.unsent = cells at reads
  cases reads with
  | @body message rest more =>
      dsimp only at ran
      split at ran
      · rename_i fits
        cases answer with
        | again =>
            cases ran
            exact ⟨done, message :: rest, framed.again receiving⟩
        | moved count =>
            obtain rfl : count = message.body.length := whole count rfl
            have enough : message.body.length ≤ channel.wire.length :=
              Nat.le_trans fits.2 (Nat.min_le_right _ _)
            have size := length_plainCells message.body
            obtain ⟨front, back⟩ :=
              append_split stream (Nat.le_trans (Nat.le_of_eq size) enough)
            rw [size] at front back
            have bytes : (channel.wire.take message.body.length).map
                Cell.byte = message.body := by
              rw [front, bytes_plainCells]
            have inside : message.body.length ≤ channel.buf.length := by
              rw [framed.buffer]
              exact message.fits
            obtain ⟨sized, filled⟩ := overwrite_front inside
            have round := fun filled : Channel peer =>
              recvRound_whole filled message.body.length
            cases ran
            dsimp only [Answer.count, Message.header]
            rw [round, bytes]
            exact (framed.toTracked.taken enough
              (sized.trans framed.buffer)
              (returns_append _ framed.returns)).received back filled
      · cases ran

theorem kept_by_recvDescriptor (framed : Framed channel done pending)
    {header : DpyEvtHeader} {answer : Answer}
    (receiving : channel.receiving = .descriptor header)
    (whole : ∀ count, answer = .moved count →
      count = channel.receiving.requested)
    (ran : recvStep channel answer = some after) :
    ∃ done pending, Framed after done pending := by
  have reads := framed.reads
  unfold recvStep at ran
  rw [receiving] at ran reads whole
  generalize stream : channel.wire ++ channel.sending.unsent = cells at reads
  cases reads with
  | @descriptor message rest carries filled =>
      dsimp only at ran
      split at ran
      · rename_i fits
        cases answer with
        | again =>
            cases ran
            exact ⟨done, message :: rest, framed⟩
        | moved count =>
            obtain rfl : count = rdataSize := whole count rfl
            have enough : rdataSize ≤ channel.wire.length :=
              Nat.le_trans fits.2 (Nat.min_le_right _ _)
            obtain ⟨fd, carried⟩ := Option.isSome_iff_exists.mp carries
            have cells : message.descriptor = descriptorCells fd := by
              unfold Message.descriptor
              rw [carried]
            rw [cells] at stream
            have size := descriptorCells_length fd
            obtain ⟨front, back⟩ :=
              append_split stream (Nat.le_trans (Nat.le_of_eq size) enough)
            rw [size] at front back
            have found : (channel.wire.take (Answer.moved rdataSize).count).any
                (fun cell => cell.fd.isSome) = true := by
              show (channel.wire.take rdataSize).any _ = true
              rw [front]
              exact descriptorCells_any fd
            dsimp only at ran
            rw [if_pos found] at ran
            cases ran
            exact ⟨_, _, (framed.toTracked.taken enough framed.buffer
              framed.returns).dispatch back filled⟩
      · cases ran

theorem kept_by_recvStep (framed : Framed channel done pending)
    {answer : Answer}
    (whole : ∀ count, answer = .moved count →
      count = channel.receiving.requested)
    (ran : recvStep channel answer = some after) :
    ∃ done pending, Framed after done pending := by
  cases receiving : channel.receiving with
  | header got => exact framed.kept_by_recvHeader receiving whole ran
  | body header moved => exact framed.kept_by_recvBody receiving whole ran
  | descriptor header => exact framed.kept_by_recvDescriptor receiving whole ran
  | idle | crashed | closed =>
      unfold Vdpy.recvStep at ran
      rw [receiving] at ran
      cases ran

/-! Both sides. -/

theorem kept_by_issue (framed : Framed channel done pending)
    {message : Message peer} {errno : Errno}
    (unclosed : ∀ message, message ∈ channel.issued →
      message.closes = false)
    (ran : perform channel (.issue message errno) = some after) :
    Framed after done (pending ++ [message]) := by
  unfold perform at ran
  dsimp only at ran
  split at ran
  · rename_i idle
    cases ran
    have unsent : channel.sending.unsent = [] := by
      rw [idle]
      rfl
    have running : channel.receiving ≠ .closed := by
      intro closed
      obtain ⟨other, member, closing⟩ := framed.closed closed
      rw [unclosed other member] at closing
      cases closing
    have cells : channel.wire ++ message.encode =
        channel.wire ++ channel.sending.unsent ++ message.encode := by
      rw [unsent, List.append_nil]
    refine ⟨⟨?_, framed.dispatched, rfl, ?_, ?_, framed.buffer, ?_,
      framed.returns⟩, ?_, fun closed => absurd closed running⟩
    · show channel.issued ++ [message] = done ++ (pending ++ [message])
      rw [framed.issued, List.append_assoc]
    · have total := framed.consumed
      have one : encodeAll [message] = message.encode := List.append_nil _
      rw [unsent, List.append_nil] at total
      show (encodeAll (channel.issued ++ [message])).length =
        channel.consumed + (channel.wire ++ message.encode).length
      rw [encodeAll_append, one, List.length_append, List.length_append,
        total, Nat.add_assoc]
    · intro before other later same closing
      obtain ⟨empty, _, _⟩ | ⟨inner, _, earlier⟩ := snoc_split same
      · exact empty
      · have early := unclosed other (by
          rw [earlier]
          exact List.mem_append_right _ List.mem_cons_self)
        rw [early] at closing
        cases closing
    · exact fun position inside =>
        boundaries_append [message] (framed.aligned position inside)
    · show Reads channel.buf channel.receiving _
        (channel.wire ++ message.encode)
      rw [cells]
      exact framed.reads.append running message
  · cases ran

theorem kept_by_wake (framed : Framed channel done pending) {errno : Errno}
    (ran : perform channel (.wake errno) = some after) :
    Framed after done pending := by
  have reads := framed.reads
  unfold perform at ran
  dsimp only at ran
  split at ran
  · rename_i ready
    cases ran
    rw [ready.1] at reads
    generalize stream : channel.wire ++ channel.sending.unsent = cells at reads
    cases reads with
    | idle =>
        refine ⟨⟨framed.issued, framed.dispatched, framed.starts,
          framed.consumed, framed.last, framed.buffer, ?_, framed.returns⟩,
          ?_, Receiving.noConfusion⟩
        · intro position member
          rcases List.mem_append.mp member with before | here
          · exact framed.aligned position before
          cases List.mem_singleton.mp here
          have total := framed.consumed
          rw [stream, framed.issued, encodeAll_append,
            List.length_append] at total
          have begins : channel.consumed = (encodeAll done).length := by
            omega
          show channel.consumed ∈ boundaries channel.issued
          rw [begins, framed.issued]
          exact boundaries_of_prefix (List.prefix_append _ _)
        · show Reads channel.buf (.header []) pending
            (channel.wire ++ channel.sending.unsent)
          rw [stream]
          exact .header pending
  · cases ran

theorem kept_by_perform (framed : Framed channel done pending)
    {action : Action peer}
    (whole : MovesWhole channel action)
    (ran : perform channel action = some after) :
    ∃ done pending, Framed after done pending := by
  cases action with
  | issue message errno => exact ⟨_, _, framed.kept_by_issue whole ran⟩
  | wake errno => exact ⟨_, _, framed.kept_by_wake ran⟩
  | send answer =>
      refine ⟨_, _, framed.kept_by_sendStep ?_ ran⟩
      rintro count rfl
      exact whole
  | recv answer =>
      refine framed.kept_by_recvStep ?_ ran
      rintro count rfl
      exact whole

/-- With nothing under way, nothing is pending. -/
theorem settled (framed : Framed channel done pending)
    (settled : Settled channel) : pending = [] := by
  obtain ⟨idle, rest⟩ := settled
  have reads := framed.reads
  have unsent : channel.sending.unsent = [] := by
    rw [idle]
    rfl
  have empty : ∀ messages : List (Message peer), encodeAll messages = [] →
      messages = [] := by
    intro messages nothing
    cases messages with
    | nil => rfl
    | cons message rest =>
        rw [encodeAll_cons] at nothing
        have size := congrArg List.length (List.append_eq_nil_iff.mp nothing).1
        rw [length_plainCells, length_headerBytes] at size
        cases size
  rw [unsent, List.append_nil] at reads
  rcases rest with nothing | closed | crashed
  · rw [nothing] at reads
    generalize channel.receiving = receiving at reads
    generalize stream : ([] : List Cell) = cells at reads
    cases reads with
    | idle | header => exact empty _ stream.symm
    | body rest more =>
        have body := (List.append_eq_nil_iff.mp stream.symm).1
        exact absurd (List.map_eq_nil_iff.mp body) more
    | descriptor rest carries filled =>
        obtain ⟨fd, carried⟩ := Option.isSome_iff_exists.mp carries
        have cells := (List.append_eq_nil_iff.mp stream.symm).1
        unfold Message.descriptor at cells
        rw [carried] at cells
        cases cells
    | closed => rfl
  · rw [closed] at reads
    generalize channel.wire = cells at reads
    cases reads with
    | closed => rfl
  · rw [crashed] at reads
    cases reads

theorem framesKept (framed : Framed channel done pending) :
    FramesKept channel where
  inOrder := by
    rw [framed.dispatched, framed.issued, List.map_append]
    exact List.prefix_append _ _
  complete := by
    intro still
    rw [framed.dispatched, framed.issued, framed.settled still,
      List.append_nil]
  aligned := framed.aligned
  returns := fun call member =>
    iff_of_true (framed.returns call member).1 (framed.returns call member).2

end Framed

end Delivery

/-- In a run whose socket calls move all they are asked to, the messages are
dispatched as they were issued. -/
theorem reached_framesKept {peer : Peer} {channel : Channel peer}
    (reached : (connection peer).ReachedWhere MovesWhole channel) :
    FramesKept channel := by
  have holds : ∃ done pending, Framed channel done pending := by
    refine reached.invariant (fun channel => ∃ done pending,
      Framed channel done pending) ?_ ?_
    · rintro start ⟨sendErrno, recvErrno, buf, sized, rfl⟩
      refine ⟨[], [], ⟨⟨rfl, rfl, trivial, rfl, ?_, sized, ?_, ?_⟩,
        .idle [], Receiving.noConfusion⟩⟩
      · intro before message after same
        have length := congrArg List.length same
        rw [List.length_append] at length
        cases length
      · exact fun position member => absurd member List.not_mem_nil
      · exact fun call member => absurd member List.not_mem_nil
    · rintro before action after ⟨done, pending, framed⟩ whole stepped
      exact framed.kept_by_perform whole stepped
  obtain ⟨done, pending, framed⟩ := holds
  exact framed.framesKept

/-! Concrete runs. -/

instance {peer : Peer} (channel : Channel peer) (action : Action peer) :
    Decidable (MovesWhole channel action) :=
  match action with
  | .issue _ _ => inferInstanceAs (Decidable (∀ message,
      message ∈ channel.issued → message.closes = false))
  | .send (.moved _) => inferInstanceAs (Decidable (_ = _))
  | .recv (.moved _) => inferInstanceAs (Decidable (_ = _))
  | .send .again | .recv .again | .wake _ => inferInstanceAs (Decidable True)

def performWhere {peer : Peer} (allowed : Channel peer → Action peer → Bool)
    (channel : Channel peer) (action : Action peer) : Option (Channel peer) :=
  if allowed channel action then perform channel action else none

theorem reached_of_actions {peer : Peer}
    {allowed : Channel peer → Action peer → Bool}
    {Allowed : Channel peer → Action peer → Prop}
    (permits : ∀ channel action, allowed channel action = true →
      Allowed channel action)
    {before after : Channel peer} {actions : List (Action peer)}
    (reached : (connection peer).ReachedWhere Allowed before)
    (ran : actions.foldlM (performWhere allowed) before = some after) :
    (connection peer).ReachedWhere Allowed after := by
  apply reached.foldlM _ ran
  intro channel action next reached here
  unfold performWhere at here
  split at here
  · rename_i checked
    exact .step reached (permits _ _ checked) here
  · cases here

def freshChannel (peer : Peer) : Channel peer where
  sending := .idle
  sendErrno := .other
  wire := []
  receiving := .idle
  recvErrno := .other
  buf := List.replicate bufSize 0
  issued := []
  dispatched := []
  calls := []
  consumed := 0
  parsedAt := []

theorem freshChannel_initial (peer : Peer) :
    (connection peer).initial (freshChannel peer) :=
  ⟨.other, .other, List.replicate bufSize 0, List.length_replicate, rfl⟩

def setModifier (modifier : Nat) : Message .client where
  eType := 0x102
  body := wordBytes 8 modifier
  fd := none
  eType_lt := by decide
  fits := by
    rw [length_wordBytes]
    decide
  carries := rfl
  hotplugs := Peer.noConfusion

def setSurface (fd : Nat) : Message .client where
  eType := dpyEventSurfaceSet
  body := List.replicate 56 1
  fd := some fd
  eType_lt := by decide
  fits := by
    rw [List.length_replicate]
    decide
  carries := rfl
  hotplugs := Peer.noConfusion

/-- A modifier and a surface with its descriptor, the second being sent while
the first is received. -/
theorem two_messages_dispatched :
    ∃ channel : Channel .client,
      (connection .client).ReachedWhere MovesWhole channel ∧
        channel.dispatched =
          [(setModifier 5).content, (setSurface 7).content] ∧
        FramesKept channel := by
  obtain ⟨channel, ran, checked⟩ := (Option.any_eq_true _ _).mp
    (show ([Action.issue (setModifier 5) .other, .send .again,
        .send (.moved 12), .wake .eagain, .send (.moved 8),
        .recv (.moved 12), .issue (setSurface 7) .eagain, .recv (.moved 8),
        .send (.moved 12), .wake .other, .recv (.moved 12), .recv .again,
        .send (.moved 56), .send (.moved 16), .recv (.moved 56),
        .recv (.moved 16)].foldlM (performWhere fun channel action =>
          decide (MovesWhole channel action)) (freshChannel .client)).any
            (fun channel => decide (channel.dispatched =
              [(setModifier 5).content, (setSurface 7).content])) = true
      by decide +kernel)
  have reached : (connection .client).ReachedWhere MovesWhole channel :=
    reached_of_actions (fun _ _ => of_decide_eq_true)
      (.initial (freshChannel_initial .client)) ran
  exact ⟨channel, reached, of_decide_eq_true checked,
    reached_framesKept reached⟩

/-- The header arrives in two pieces, and the message is lost. -/
theorem split_header_lost :
    ∃ channel : Channel .client, (connection .client).Reached channel ∧
      channel.issued.map Message.content = [(setModifier 5).content] ∧
      channel.dispatched = [] ∧ ¬FramesKept channel := by
  obtain ⟨channel, ran, checked⟩ := (Option.any_eq_true _ _).mp
    (show ([Action.issue (setModifier 5) .other, .send (.moved 12),
        .send (.moved 8), .wake .other, .recv (.moved 4), .wake .other,
        .recv (.moved 12), .wake .other, .recv (.moved 4)].foldlM
          (performWhere fun _ _ => true) (freshChannel .client)).any
            (fun channel => decide (channel.issued.map Message.content =
                [(setModifier 5).content]) &&
              decide (channel.dispatched = []) &&
              decide (channel.sending = .idle) &&
              decide (channel.wire = [])) = true
      by decide +kernel)
  simp only [Bool.and_eq_true, decide_eq_true_eq] at checked
  obtain ⟨⟨⟨issued, dispatched⟩, idle⟩, empty⟩ := checked
  refine ⟨channel, ?_, issued, dispatched, fun kept => ?_⟩
  · exact reached_of_actions (fun _ _ _ => trivial)
      (.initial (freshChannel_initial .client)) ran
  · have all := kept.complete ⟨idle, .inl empty⟩
    rw [issued, dispatched] at all
    cases all

/-- With a stale `EAGAIN` every byte is received, and `_recv` returns the
length of the last piece. -/
theorem stale_errno_loses_length :
    ∃ channel : Channel .client, (connection .client).Reached channel ∧
      (⟨12, 8, 12⟩ : Call) ∈ channel.calls := by
  obtain ⟨channel, ran, checked⟩ := (Option.any_eq_true _ _).mp
    (show ([Action.issue (setModifier 5) .other, .send (.moved 12),
        .wake .eagain, .recv (.moved 4), .recv (.moved 8)].foldlM
          (performWhere fun _ _ => true) (freshChannel .client)).any
            (fun channel => decide ((⟨12, 8, 12⟩ : Call) ∈ channel.calls)) =
        true
      by decide +kernel)
  refine ⟨channel, ?_, of_decide_eq_true checked⟩
  exact reached_of_actions (fun _ _ _ => trivial)
    (.initial (freshChannel_initial .client)) ran

end VirtioGpu.Vdpy
