import Mathlib.Data.Set.Prod
import Mathlib.Order.Interval.Set.LinearOrder
import Mathlib.Order.MinMax

namespace VirtioGpu.Foundation

/-! Half-open intervals on a line, on a line folded into windows, and on a
circle. -/

structure Span (α : Type u) where
  start : α
  finish : α
  deriving Repr, DecidableEq

namespace Span

variable {α : Type u} {β : Type v} [LinearOrder α] [LinearOrder β]

def points (span : Span α) : Set α := Set.Ico span.start span.finish

def map (f : α → β) (span : Span α) : Span β where
  start := f span.start
  finish := f span.finish

/-- Each of the two starts comes before each of the two finishes. -/
structure Crosses (first second : Span α) : Prop where
  inFirst : first.start < first.finish
  forward : first.start < second.finish
  backward : second.start < first.finish
  inSecond : second.start < second.finish

instance (first second : Span α) : Decidable (Crosses first second) :=
  decidable_of_iff
    (first.start < first.finish ∧ first.start < second.finish ∧
      second.start < first.finish ∧ second.start < second.finish)
    ⟨fun all => ⟨all.1, all.2.1, all.2.2.1, all.2.2.2⟩,
      fun all => ⟨all.inFirst, all.forward, all.backward, all.inSecond⟩⟩

theorem inter_nonempty_iff (first second : Span α) :
    (first.points ∩ second.points).Nonempty ↔ Crosses first second := by
  unfold points
  rw [Set.Ico_inter_Ico, Set.nonempty_Ico, max_lt_iff, lt_min_iff, lt_min_iff]
  constructor
  · rintro ⟨⟨own, forward⟩, backward, other⟩
    exact ⟨own, forward, backward, other⟩
  · intro crosses
    exact ⟨⟨crosses.inFirst, crosses.forward⟩, crosses.backward,
      crosses.inSecond⟩

end Span

/-! Boxes, as pairs of spans. -/

structure Box (α : Type u) where
  columns : Span α
  rows : Span α
  deriving Repr, DecidableEq

namespace Box

variable {α : Type u} {β : Type v} [LinearOrder α] [LinearOrder β]

def points (box : Box α) : Set (α × α) :=
  box.columns.points ×ˢ box.rows.points

def map (f : α → β) (box : Box α) : Box β where
  columns := box.columns.map f
  rows := box.rows.map f

structure Crosses (first second : Box α) : Prop where
  columns : first.columns.Crosses second.columns
  rows : first.rows.Crosses second.rows

instance (first second : Box α) : Decidable (Crosses first second) :=
  decidable_of_iff
    (first.columns.Crosses second.columns ∧ first.rows.Crosses second.rows)
    ⟨fun both => ⟨both.1, both.2⟩, fun both => ⟨both.columns, both.rows⟩⟩

theorem inter_nonempty_iff (first second : Box α) :
    (first.points ∩ second.points).Nonempty ↔ Crosses first second := by
  unfold points
  rw [Set.prod_inter_prod, Set.prod_nonempty_iff, Span.inter_nonempty_iff,
    Span.inter_nonempty_iff]
  exact ⟨fun both => ⟨both.1, both.2⟩, fun both => ⟨both.columns, both.rows⟩⟩

end Box

/-! A line folded into windows of `size` numbers, of which the first begins
`shift` numbers before 0. -/

section Windows

variable (size shift : Nat)

def window (value : Nat) : Nat := (value + shift) / size

def windowOffset (value : Nat) : Nat := (value + shift) % size

variable {size shift} {first second : Nat}

theorem window_mono (ordered : first ≤ second) :
    window size shift first ≤ window size shift second :=
  Nat.div_le_div_right (Nat.add_le_add_right ordered shift)

/-- Inside one window the offsets are ordered as the numbers are. -/
theorem windowOffset_lt_iff
    (same : window size shift first = window size shift second) :
    windowOffset size shift first < windowOffset size shift second ↔
      first < second := by
  unfold window at same
  unfold windowOffset
  have firstSplits := Nat.div_add_mod (first + shift) size
  have secondSplits := Nat.div_add_mod (second + shift) size
  rw [same] at firstSplits
  generalize size * ((second + shift) / size) = base at firstSplits secondSplits
  omega

/-- Folding swaps two numbers only if they lie in different windows. -/
theorem window_lt_of_windowOffset_le (ordered : first < second)
    (folded : windowOffset size shift second ≤
      windowOffset size shift first) :
    window size shift first < window size shift second := by
  apply Nat.lt_of_le_of_ne (window_mono (Nat.le_of_lt ordered))
  intro same
  exact Nat.not_lt.mpr folded ((windowOffset_lt_iff same).mpr ordered)

end Windows

/-! A circle of `modulus` positions. -/

/-- A position lies on the arc of `count` positions from `start` just when it
is less than `count` positions before the arc's last one. -/
theorem mem_arc_iff {modulus start count position : Nat}
    (inside : position < modulus) :
    (start + count + (modulus - position) - 1) % modulus < count ↔
      ∃ index, index < count ∧ (start + index) % modulus = position := by
  have split := Nat.div_add_mod (start + count + (modulus - position) - 1)
    modulus
  have small := Nat.mod_lt (start + count + (modulus - position) - 1)
    (Nat.zero_lt_of_lt inside)
  constructor
  · intro near
    generalize (start + count + (modulus - position) - 1) % modulus = gap
      at split small near
    generalize (start + count + (modulus - position) - 1) / modulus = turns
      at split
    refine ⟨count - 1 - gap, by omega, ?_⟩
    cases turns with
    | zero => omega
    | succ turns =>
        rw [Nat.mul_succ] at split
        have place : start + (count - 1 - gap) =
            position + modulus * turns := by
          omega
        rw [place, Nat.add_mul_mod_self_left, Nat.mod_eq_of_lt inside]
  · rintro ⟨index, early, rfl⟩
    have turns := Nat.div_add_mod (start + index) modulus
    have place : start + count + (modulus - (start + index) % modulus) - 1 =
        (count - 1 - index) +
          modulus * ((start + index) / modulus + 1) := by
      rw [Nat.mul_succ]
      omega
    rw [place, Nat.add_mul_mod_self_left]
    exact Nat.lt_of_le_of_lt (Nat.mod_le _ _) (by omega)

end VirtioGpu.Foundation
