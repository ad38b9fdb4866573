import Mathlib.Order.Basic

namespace VirtioGpu.Foundation

/-! Binary search in a strictly increasing sequence, with inclusive bounds. -/

/-- `keys` increase on the first `size` indices. -/
def Increasing (size : Nat) (keys : Nat → Nat) : Prop :=
  ∀ index later, index < later → later < size → keys index < keys later

theorem Increasing.index_le {size : Nat} {keys : Nat → Nat}
    (increasing : Increasing size keys) {index : Nat}
    (inside : index < size) : index ≤ keys index := by
  induction index with
  | zero => exact Nat.zero_le _
  | succ index induction =>
      have earlier := induction (Nat.lt_of_succ_lt inside)
      have next := increasing index (index + 1) (Nat.lt_succ_self index) inside
      omega

theorem Increasing.injective {size : Nat} {keys : Nat → Nat}
    (increasing : Increasing size keys) {index other : Nat}
    (here : index < size) (there : other < size)
    (same : keys index = keys other) : index = other := by
  rcases Nat.lt_trichotomy index other with early | equal | late
  · exact absurd same (Nat.ne_of_lt (increasing index other early there))
  · exact equal
  · exact absurd same (Nat.ne_of_gt (increasing other index late here))

/-- Whatever is sought lies between `lo` and `hi`; the range is empty when
`hi` has fallen behind `lo`. -/
structure Narrowed (size : Nat) (keys : Nat → Nat) (sought lo hi : Nat) :
    Prop where
  inside : hi < size
  ordered : lo ≤ hi + 1
  below : ∀ index, index < lo → keys index < sought
  above : ∀ index, hi < index → index < size → sought < keys index

namespace Narrowed

variable {size sought lo hi middle : Nat} {keys : Nat → Nat}

theorem start (filled : 0 < size) :
    Narrowed size keys sought 0 (size - 1) where
  inside := Nat.sub_lt filled Nat.one_pos
  ordered := Nat.zero_le _
  below := fun index early => absurd early (Nat.not_lt_zero index)
  above := fun index late inside => by omega

theorem absent (narrowed : Narrowed size keys sought lo hi)
    (empty : hi < lo) : ∀ index, index < size → keys index ≠ sought := by
  intro index inside
  rcases Nat.lt_or_ge index lo with early | late
  · exact Nat.ne_of_lt (narrowed.below index early)
  · exact Nat.ne_of_gt
      (narrowed.above index (Nat.lt_of_lt_of_le empty late) inside)

theorem right (narrowed : Narrowed size keys sought lo hi)
    (increasing : Increasing size keys) (most : middle ≤ hi)
    (small : keys middle < sought) :
    Narrowed size keys sought (middle + 1) hi where
  inside := narrowed.inside
  ordered := Nat.succ_le_succ most
  below := by
    intro index early
    rcases Nat.lt_succ_iff_lt_or_eq.mp early with before | same
    · have inside := narrowed.inside
      exact Nat.lt_trans (increasing index middle before (by omega)) small
    · rwa [same]
  above := narrowed.above

/-- The range cannot shrink to the left of a first key that is not above what
is sought. -/
theorem left (narrowed : Narrowed size keys sought lo hi)
    (increasing : Increasing size keys) (first : keys 0 ≤ sought)
    (least : lo ≤ middle) (most : middle ≤ hi)
    (large : sought < keys middle) :
    0 < middle ∧ Narrowed size keys sought lo (middle - 1) := by
  have inside := narrowed.inside
  have positive : 0 < middle := by
    apply Nat.pos_of_ne_zero
    rintro rfl
    exact absurd first (Nat.not_le.mpr large)
  refine ⟨positive, by omega, by omega, narrowed.below, ?_⟩
  intro index late bound
  rcases Nat.lt_or_eq_of_le (show middle ≤ index by omega) with after | same
  · exact Nat.lt_trans large (increasing middle index after bound)
  · rwa [← same]

end Narrowed

end VirtioGpu.Foundation
