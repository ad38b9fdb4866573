import VirtioGpu.Foundation.Rounds

namespace VirtioGpu.Vdpy

open Foundation

/-! `_send` and `_recv` against every answer that `send` and `recv` give: other
errors, and the end of the stream. -/

/-- `EAGAIN` of Linux. -/
def eagainCode : Nat := 11

/-- What a call returns: -1 with `errno` set, or a number of bytes. -/
inductive CallResult where
  | failed (errno : Nat)
  | moved (count : Nat)
  deriving Repr, DecidableEq

/-- A loop between two calls: the bytes moved so far, and `errno`. -/
structure Transfer where
  moved : Nat
  errno : Nat
  deriving Repr, DecidableEq

/-- The value a loop returns, and what it leaves. -/
structure Returned where
  ret : Int
  left : Transfer
  deriving Repr, DecidableEq

/-- `while (errno == EAGAIN)`. -/
def whileEagain (ret : Int) (transfer : Transfer) :
    Except Returned Transfer :=
  if transfer.errno = eagainCode then .ok transfer else .error ⟨ret, transfer⟩

/-- One call and what the loop makes of it; both the failed call and the one
that moves nothing `continue` at the condition. -/
def transferCall (len : Nat) (transfer : Transfer) :
    CallResult → Except Returned Transfer
  | .failed errno => whileEagain (-1) { transfer with errno := errno }
  | .moved count =>
      if count = 0 then
        whileEagain 0 transfer
      else
        let later := { transfer with moved := transfer.moved + count }
        if later.moved = len then .error ⟨count, later⟩
        else whileEagain count later

/-! The answers of a loop that gets to its end. -/

/-- The bytes that the first `count` calls move. -/
def movedBy (calls : Nat → CallResult) : Nat → Nat
  | 0 => 0
  | count + 1 =>
      match calls count with
      | .failed _ => movedBy calls count
      | .moved more => movedBy calls count + more

/-- From this call on the peer has closed the connection, or this call reports
an error other than `EAGAIN`. -/
def EndsAt (calls : Nat → CallResult) (first : Nat) : Prop :=
  (∀ later, first ≤ later → calls later = .moved 0) ∨
    ∃ errno, calls first = .failed errno ∧ errno ≠ eagainCode

def Fails (calls : Nat → CallResult) : Prop :=
  ∃ index errno, calls index = .failed errno ∧ errno ≠ eagainCode

/-- One of the calls moves the last of `len` bytes. -/
def Completes (len moved : Nat) (calls : Nat → CallResult) : Prop :=
  ∃ index count, calls index = .moved count ∧ count ≠ 0 ∧
    moved + movedBy calls index + count = len

/-- The loop starts without `EAGAIN` in `errno` and does not get it from its
first call. -/
def StartsClear (errno : Nat) (calls : Nat → CallResult) : Prop :=
  errno ≠ eagainCode ∧ calls 0 ≠ .failed eagainCode

section Loops

variable {len moved errno : Nat} {calls : Nat → CallResult}

theorem whileEagain_ok {ret : Int} {transfer later : Transfer}
    (goesOn : whileEagain ret transfer = .ok later) :
    later = transfer ∧ transfer.errno = eagainCode := by
  unfold whileEagain at goesOn
  split at goesOn
  · rename_i stale
    cases goesOn
    exact ⟨rfl, stale⟩
  · cases goesOn

theorem whileEagain_error {ret : Int} {transfer : Transfer}
    {result : Returned} (stops : whileEagain ret transfer = .error result) :
    transfer.errno ≠ eagainCode := by
  unfold whileEagain at stops
  split at stops
  · cases stops
  · assumption

/-- A loop goes on only with `EAGAIN` in `errno`. -/
theorem transferCall_ok {before later : Transfer} {answer : CallResult}
    (goesOn : transferCall len before answer = .ok later) :
    later.errno = eagainCode ∧
      ((∃ left, answer = .failed left ∧ left = eagainCode ∧
          later.moved = before.moved) ∨
        ∃ count, answer = .moved count ∧ before.errno = eagainCode ∧
          later.moved = before.moved + count) := by
  cases answer with
  | failed left =>
      obtain ⟨rfl, stale⟩ := whileEagain_ok goesOn
      exact ⟨stale, .inl ⟨left, rfl, stale, rfl⟩⟩
  | moved count =>
      unfold transferCall at goesOn
      dsimp only at goesOn
      split at goesOn
      · rename_i nothing
        obtain ⟨rfl, stale⟩ := whileEagain_ok goesOn
        exact ⟨stale, .inr ⟨count, rfl, stale, by rw [nothing]; rfl⟩⟩
      · split at goesOn
        · cases goesOn
        · obtain ⟨rfl, stale⟩ := whileEagain_ok goesOn
          exact ⟨stale, .inr ⟨count, rfl, stale, rfl⟩⟩

/-- A loop stops at another error, at the last byte, or without `EAGAIN`. -/
theorem transferCall_error {before : Transfer} {answer : CallResult}
    {result : Returned}
    (stops : transferCall len before answer = .error result) :
    (∃ left, answer = .failed left ∧ left ≠ eagainCode) ∨
      (∃ count, answer = .moved count ∧
        ((count ≠ 0 ∧ before.moved + count = len) ∨
          before.errno ≠ eagainCode)) := by
  cases answer with
  | failed left => exact .inl ⟨left, rfl, whileEagain_error stops⟩
  | moved count =>
      refine .inr ⟨count, rfl, ?_⟩
      unfold transferCall at stops
      dsimp only at stops
      split at stops
      · exact .inr (whileEagain_error stops)
      · rename_i unclosed
        split at stops
        · rename_i full
          exact .inl ⟨unclosed, full⟩
        · have clear := whileEagain_error stops
          exact .inr clear

/-- What a loop that still runs after `count` calls has done. -/
structure Running (moved errno : Nat) (calls : Nat → CallResult)
    (count : Nat) (transfer : Transfer) : Prop where
  counted : transfer.moved = moved + movedBy calls count
  entered : count = 0 → transfer.errno = errno
  stale : count ≠ 0 → transfer.errno = eagainCode ∧ ¬StartsClear errno calls

theorem Running.call {count : Nat} {before later : Transfer}
    (running : Running moved errno calls count before)
    (goesOn : transferCall len before (calls count) = .ok later) :
    Running moved errno calls (count + 1) later := by
  obtain ⟨stale, result⟩ := transferCall_ok goesOn
  refine ⟨?_, fun zero => absurd zero (Nat.succ_ne_zero count), fun _ =>
    ⟨stale, ?_⟩⟩
  · rcases result with ⟨left, answer, _, kept⟩ | ⟨more, answer, _, added⟩
    · rw [kept, movedBy, answer, running.counted]
    · rw [added, movedBy, answer, running.counted, Nat.add_assoc]
  · rintro ⟨clear, unfailed⟩
    cases count with
    | zero =>
        rcases result with ⟨left, answer, rfl, _⟩ | ⟨more, _, entry, _⟩
        · exact unfailed answer
        · exact clear ((running.entered rfl).symm.trans entry)
    | succ count =>
        exact (running.stale (Nat.succ_ne_zero count)).2 ⟨clear, unfailed⟩

theorem running_after {count : Nat} {transfer : Transfer}
    (runs : Rounds.after (transferCall len) calls ⟨moved, errno⟩ count =
      .ok transfer) : Running moved errno calls count transfer := by
  refine Rounds.invariant (Running moved errno calls) ?_ ?_ runs
  · exact ⟨rfl, fun _ => rfl, fun later => absurd rfl later⟩
  · intro count before later running goesOn
    exact running.call goesOn

theorem whileEagain_clear {ret : Int} {transfer : Transfer}
    (clear : transfer.errno ≠ eagainCode) :
    whileEagain ret transfer = .error ⟨ret, transfer⟩ :=
  if_neg clear

theorem ends_of_failed {index errno' : Nat}
    (failed : calls index = .failed errno') (other : errno' ≠ eagainCode) :
    Rounds.EndsBy (transferCall len) calls ⟨moved, errno⟩ (index + 1) := by
  apply Rounds.endsBy_of_round
  intro transfer _
  rw [failed]
  exact ⟨_, whileEagain_clear other⟩

theorem ends_of_completes (completes : Completes len moved calls) :
    Rounds.Ends (transferCall len) calls ⟨moved, errno⟩ := by
  obtain ⟨index, count, answer, nonzero, full⟩ := completes
  refine ⟨index + 1, Rounds.endsBy_of_round ?_⟩
  intro transfer runs
  have counted := (running_after runs).counted
  refine ⟨⟨count, { transfer with moved := transfer.moved + count }⟩, ?_⟩
  rw [answer, transferCall, if_neg nonzero]
  exact if_pos (by rw [counted]; exact full)

theorem ends_of_startsClear (starts : StartsClear errno calls) :
    Rounds.Ends (transferCall len) calls ⟨moved, errno⟩ := by
  refine ⟨1, ?_⟩
  cases ran : Rounds.after (transferCall len) calls ⟨moved, errno⟩ 1 with
  | ok transfer =>
      exact absurd starts ((running_after ran).stale Nat.one_ne_zero).2
  | error result => exact ⟨result, ran⟩

/-- Why a loop stops at the call it stops at. -/
theorem reason_of_stop {last : Nat} {transfer : Transfer} {result : Returned}
    (running : Running moved errno calls last transfer)
    (stops : transferCall len transfer (calls last) = .error result) :
    Fails calls ∨ Completes len moved calls ∨ StartsClear errno calls := by
  rcases transferCall_error stops with ⟨left, failed, other⟩ |
    ⟨count, answer, ⟨some, full⟩ | clear⟩
  · exact .inl ⟨last, left, failed, other⟩
  · refine .inr (.inl ⟨last, count, answer, some, ?_⟩)
    rw [← running.counted]
    exact full
  · cases last with
    | zero =>
        refine .inr (.inr ⟨?_, ?_⟩)
        · rw [← running.entered rfl]
          exact clear
        · rw [answer]
          exact CallResult.noConfusion
    | succ last => exact absurd (running.stale (Nat.succ_ne_zero last)).1 clear

/-- `_send` and `_recv` make finitely many calls, and then at most one once
the connection has ended, just when a call fails with another error or
completes the transfer, or `errno` is clear of `EAGAIN` at the start. -/
theorem transfer_ends_iff {first : Nat} (ended : EndsAt calls first) :
    (Rounds.Ends (transferCall len) calls ⟨moved, errno⟩ ↔
      Fails calls ∨ Completes len moved calls ∨ StartsClear errno calls) ∧
    (Rounds.Ends (transferCall len) calls ⟨moved, errno⟩ →
      Rounds.EndsBy (transferCall len) calls ⟨moved, errno⟩
        (first + 1)) := by
  refine ⟨⟨?_, ?_⟩, ?_⟩
  · rintro ⟨count, ends⟩
    obtain ⟨last, transfer, result, _, runs, stops⟩ := ends.lastRound
    exact reason_of_stop (running_after runs) stops
  · rintro (⟨index, left, failed, other⟩ | completes | starts)
    · exact ⟨index + 1, ends_of_failed failed other⟩
    · exact ends_of_completes completes
    · exact ends_of_startsClear starts
  · rintro ⟨count, ends⟩
    rcases ended with closed | ⟨left, failed, other⟩
    · obtain ⟨last, transfer, result, _, runs, stops⟩ := ends.lastRound
      by_cases early : last ≤ first
      · apply Rounds.EndsBy.mono (Nat.succ_le_succ early)
        exact Rounds.endsBy_of_round fun other same => by
          rw [runs] at same
          cases same
          exact ⟨result, stops⟩
      · have nonzero : last ≠ 0 := by omega
        rw [closed last (by omega), transferCall, if_pos rfl] at stops
        exact absurd ((running_after runs).stale nonzero).1
          (whileEagain_error stops)
    · exact ends_of_failed failed other

/-- A `recv` that gets five bytes of a header and then the end of the stream,
with `errno` clear. -/
theorem short_header_ends :
    Rounds.Ends (transferCall 12)
      (fun index => if index = 0 then .moved 5 else .moved 0) ⟨0, 0⟩ := by
  have ended : EndsAt
      (fun index => if index = 0 then .moved 5 else .moved 0) 1 :=
    .inl fun later passed => if_neg (by omega)
  exact (transfer_ends_iff ended).1.mpr
    (.inr (.inr ⟨by decide, by decide⟩))

/-- With `EAGAIN` left in `errno`, a closed connection keeps `_recv` at its
calls. -/
theorem stale_errno_never_ends :
    EndsAt (fun _ => .moved 0) 0 ∧
      ¬Rounds.Ends (transferCall 12) (fun _ => .moved 0) ⟨0, eagainCode⟩ := by
  refine ⟨.inl fun _ _ => rfl, ?_⟩
  exact @Rounds.not_ends_of_fixed _ _ _ _ _ _ 0 _ rfl fun _ _ => rfl

end Loops

end VirtioGpu.Vdpy
