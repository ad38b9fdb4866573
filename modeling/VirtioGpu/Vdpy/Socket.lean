import Mathlib.Data.List.Basic

namespace VirtioGpu.Vdpy

/-! The retry loops around `send` and `recv`, which the display server and its
client both have. -/

/-- Whether `errno` says `EAGAIN`. -/
inductive Errno where
  | eagain
  | other
  deriving Repr, DecidableEq

/-- The answer of one socket call. -/
inductive Answer where
  | again
  | moved (count : Nat)
  deriving Repr, DecidableEq

def Answer.count : Answer → Nat
  | .again => 0
  | .moved count => count

/-- A call that succeeds moves a positive number of bytes. -/
def Answer.Fits (limit : Nat) : Answer → Prop
  | .again => True
  | .moved count => 0 < count ∧ count ≤ limit

instance (limit : Nat) (answer : Answer) : Decidable (answer.Fits limit) :=
  match answer with
  | .again => inferInstanceAs (Decidable True)
  | .moved _ => inferInstanceAs (Decidable (_ ∧ _))

/-- After one call the loop goes on or returns. -/
inductive Round where
  | again (moved : Nat) (errno : Errno)
  | returned (ret : Int) (moved : Nat) (errno : Errno)

/-- One round of `_send` or `_recv`: a success leaves `errno` alone, and the
value returned is that of the last call. -/
def transferRound (len moved : Nat) (errno : Errno) : Answer → Round
  | .again => .again moved .eagain
  | .moved count =>
      if moved + count = len then .returned count (moved + count) errno
      else if errno = .eagain then .again (moved + count) errno
      else .returned count (moved + count) errno

/-- `_send` and `_recv` against the answers of the socket: the value returned
and the bytes moved, once they return. -/
def transfer (len : Nat) : Nat → Errno → List Answer → Option (Int × Nat)
  | _, _, [] => none
  | moved, errno, answer :: rest =>
      match transferRound len moved errno answer with
      | .again moved errno => transfer len moved errno rest
      | .returned ret moved _ => some (ret, moved)

def AnswersFit (len : Nat) : Nat → List Answer → Prop
  | _, [] => True
  | moved, answer :: rest =>
      answer.Fits (len - moved) ∧ AnswersFit len (moved + answer.count) rest

def firstMoved : List Answer → Option Nat
  | [] => none
  | .again :: rest => firstMoved rest
  | .moved count :: _ => some count

/-- A loop that has moved some bytes never returns the full length. -/
theorem transfer_split {len moved : Nat} {errno : Errno}
    {answers : List Answer} {ret : Int} {total : Nat}
    (fit : AnswersFit len moved answers) (started : 0 < moved)
    (ran : transfer len moved errno answers = some (ret, total)) :
    ret ≠ len := by
  induction answers generalizing moved errno with
  | nil => cases ran
  | cons answer rest induction =>
      obtain ⟨fits, later⟩ := fit
      unfold transfer at ran
      cases answer with
      | again => exact induction later started ran
      | moved count =>
          obtain ⟨positive, bounded⟩ := fits
          have short : (count : Int) ≠ len := by omega
          unfold transferRound at ran
          dsimp only at ran
          by_cases full : moved + count = len
          · rw [if_pos full] at ran
            cases ran
            exact short
          · rw [if_neg full] at ran
            by_cases stale : errno = .eagain
            · rw [if_pos stale] at ran
              exact induction later (Nat.add_pos_left started count) ran
            · rw [if_neg stale] at ran
              cases ran
              exact short

/-- The loops return the full length, and then with every byte moved, just when
the first call that moves anything moves everything. -/
theorem transfer_returns_len_iff {len : Nat} {errno : Errno}
    {answers : List Answer} {ret : Int} {total : Nat}
    (fit : AnswersFit len 0 answers)
    (ran : transfer len 0 errno answers = some (ret, total)) :
    (ret = len ↔ firstMoved answers = some len) ∧
      (ret = len → total = len) := by
  induction answers generalizing errno with
  | nil => cases ran
  | cons answer rest induction =>
      obtain ⟨fits, later⟩ := fit
      unfold transfer at ran
      cases answer with
      | again => exact induction later ran
      | moved count =>
          obtain ⟨positive, bounded⟩ := fits
          unfold transferRound at ran
          dsimp only at ran
          unfold firstMoved
          by_cases full : 0 + count = len
          · rw [if_pos full] at ran
            cases ran
            rw [Nat.zero_add] at full
            simp [full]
          · have short : count ≠ len := by omega
            have split : ret ≠ len := by
              rw [if_neg full] at ran
              by_cases stale : errno = .eagain
              · rw [if_pos stale] at ran
                exact transfer_split later (Nat.add_pos_right 0 positive) ran
              · rw [if_neg stale] at ran
                cases ran
                exact_mod_cast short
            exact ⟨iff_of_false split (by simpa using short),
              fun same => absurd same split⟩

end VirtioGpu.Vdpy
