import Mathlib.Data.List.Basic
import Mathlib.Logic.Function.Basic

namespace VirtioGpu.Foundation

/-! Arrays as functions of the slot, filled by runs of values. -/

/-- The array with `values` in the slots from `start` on. -/
def storeFrom (array : Nat → α) (start : Nat) (values : List α) : Nat → α :=
  fun slot =>
    if start ≤ slot then values.getD (slot - start) (array slot)
    else array slot

theorem storeFrom_outside {array : Nat → α} {start slot : Nat}
    {values : List α}
    (outside : slot < start ∨ start + values.length ≤ slot) :
    storeFrom array start values slot = array slot := by
  unfold storeFrom
  split
  · rw [List.getD_eq_getElem?_getD, List.getElem?_eq_none (by omega),
      Option.getD_none]
  · rfl

theorem storeFrom_inside {array : Nat → α} {start index : Nat}
    {values : List α} (inside : index < values.length) :
    storeFrom array start values (start + index) = values[index] := by
  unfold storeFrom
  rw [if_pos (Nat.le_add_right start index), Nat.add_sub_cancel_left,
    List.getD_eq_getElem?_getD, List.getElem?_eq_getElem inside,
    Option.getD_some]

theorem storeFrom_singleton (array : Nat → α) (start : Nat) (value : α) :
    storeFrom array start [value] = Function.update array start value := by
  funext slot
  rcases eq_or_ne slot start with same | different
  · subst slot
    rw [Function.update_self]
    exact @storeFrom_inside _ array start 0 [value] Nat.one_pos
  · rw [Function.update_of_ne different]
    apply storeFrom_outside
    rw [List.length_singleton]
    omega

theorem storeFrom_append (array : Nat → α) (start : Nat)
    (first second : List α) :
    storeFrom array start (first ++ second) =
      storeFrom (storeFrom array start first) (start + first.length)
        second := by
  funext slot
  by_cases early : slot < start + first.length
  · rw [storeFrom_outside (.inl early)]
    unfold storeFrom
    split
    · rw [List.getD_eq_getElem?_getD, List.getElem?_append_left (by omega),
        List.getD_eq_getElem?_getD]
    · rfl
  · have before : storeFrom array start first slot = array slot :=
      storeFrom_outside (.inr (Nat.not_lt.mp early))
    unfold storeFrom at before ⊢
    rw [if_pos (by omega), if_pos (Nat.not_lt.mp early), before,
      List.getD_eq_getElem?_getD, List.getElem?_append_right (by omega),
      List.getD_eq_getElem?_getD, Nat.sub_add_eq]

end VirtioGpu.Foundation
