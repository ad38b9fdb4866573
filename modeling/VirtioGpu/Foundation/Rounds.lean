import Mathlib.Logic.Basic

namespace VirtioGpu.Foundation

/-! Loops that take one answer each round, from an endless sequence of them,
until a round ends with a result. -/

namespace Rounds

variable {State : Type u} {Answer : Type v} {Result : Type w}

/-- The loop after `count` rounds, or its result once a round ended it. -/
def after (round : State → Answer → Except Result State)
    (answers : Nat → Answer) (start : State) : Nat → Except Result State
  | 0 => .ok start
  | count + 1 =>
      match after round answers start count with
      | .ok state => round state (answers count)
      | .error result => .error result

/-- The loop has ended within `count` rounds. -/
def EndsBy (round : State → Answer → Except Result State)
    (answers : Nat → Answer) (start : State) (count : Nat) : Prop :=
  ∃ result, after round answers start count = .error result

/-- The loop takes finitely many rounds. -/
def Ends (round : State → Answer → Except Result State)
    (answers : Nat → Answer) (start : State) : Prop :=
  ∃ count, EndsBy round answers start count

variable {round : State → Answer → Except Result State}
  {answers : Nat → Answer} {start : State}

theorem after_succ {count : Nat} {state : State}
    (running : after round answers start count = .ok state) :
    after round answers start (count + 1) = round state (answers count) := by
  rw [after, running]

theorem before_succ {count : Nat} {state : State}
    (running : after round answers start (count + 1) = .ok state) :
    ∃ earlier, after round answers start count = .ok earlier ∧
      round earlier (answers count) = .ok state := by
  cases before : after round answers start count with
  | ok earlier =>
      rw [after_succ before] at running
      exact ⟨earlier, rfl, running⟩
  | error result =>
      rw [after, before] at running
      cases running

/-- What holds of the loop in every round that it reaches. -/
theorem invariant (Holds : Nat → State → Prop) (starts : Holds 0 start)
    (preserved : ∀ count before next, Holds count before →
      round before (answers count) = .ok next → Holds (count + 1) next)
    {count : Nat} {state : State}
    (running : after round answers start count = .ok state) :
    Holds count state := by
  induction count generalizing state with
  | zero =>
      cases running
      exact starts
  | succ count induction =>
      obtain ⟨earlier, before, ran⟩ := before_succ running
      exact preserved count earlier state (induction before) ran

theorem EndsBy.succ {count : Nat} (ends : EndsBy round answers start count) :
    EndsBy round answers start (count + 1) := by
  obtain ⟨result, ended⟩ := ends
  exact ⟨result, by rw [after, ended]⟩

theorem EndsBy.mono {count later : Nat} (ordered : count ≤ later)
    (ends : EndsBy round answers start count) :
    EndsBy round answers start later := by
  induction ordered with
  | refl => exact ends
  | step _ induction => exact induction.succ

/-- A loop that ends has a last round. -/
theorem EndsBy.lastRound {count : Nat}
    (ends : EndsBy round answers start count) :
    ∃ last state result, last < count ∧
      after round answers start last = .ok state ∧
      round state (answers last) = .error result := by
  induction count with
  | zero =>
      obtain ⟨_, ended⟩ := ends
      cases ended
  | succ count induction =>
      cases running : after round answers start count with
      | ok state =>
          obtain ⟨result, ended⟩ := ends
          rw [after_succ running] at ended
          exact ⟨count, state, result, Nat.lt_succ_self count, running, ended⟩
      | error result =>
          obtain ⟨last, state, other, early, ran, ended⟩ :=
            induction ⟨result, running⟩
          exact ⟨last, state, other, Nat.lt_succ_of_lt early, ran, ended⟩

/-- A round that ends every state it can meet ends the loop. -/
theorem endsBy_of_round {count : Nat}
    (stops : ∀ state, after round answers start count = .ok state →
      ∃ result, round state (answers count) = .error result) :
    EndsBy round answers start (count + 1) := by
  cases running : after round answers start count with
  | ok state =>
      obtain ⟨result, ended⟩ := stops state running
      exact ⟨result, by rw [after_succ running, ended]⟩
  | error result => exact EndsBy.succ ⟨result, running⟩

/-- A loop that every round from `count` on leaves as it is does not end. -/
theorem not_ends_of_fixed {count : Nat} {state : State}
    (running : after round answers start count = .ok state)
    (fixed : ∀ later, count ≤ later →
      round state (answers later) = .ok state) :
    ¬Ends round answers start := by
  have stays : ∀ later, count ≤ later →
      after round answers start later = .ok state := by
    intro later ordered
    induction ordered with
    | refl => exact running
    | @step later ordered induction =>
        rw [after_succ induction]
        exact fixed later ordered
  rintro ⟨finish, ends⟩
  obtain ⟨result, ended⟩ := ends.mono (Nat.le_max_left finish count)
  rw [stays _ (Nat.le_max_right finish count)] at ended
  cases ended

end Rounds

end VirtioGpu.Foundation
