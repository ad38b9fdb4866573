import Mathlib.Data.Nat.Bitwise
import Mathlib.Data.Nat.ModEq
import Mathlib.Data.List.Infix

namespace VirtioGpu.Foundation

/-! A bounded queue between a producer and a consumer that gives one item back
before it takes the next. -/

structure Fifo (α : Type u) where
  published : List α
  consumed : Nat
  released : List α

namespace Fifo

variable {α : Type u} {capacity : Nat} {fifo next : Fifo α}

inductive Step (capacity : Nat) (fifo : Fifo α) : Fifo α → Prop
  | publish {items : List α}
      (room : (fifo.published ++ items).length ≤
        fifo.released.length + capacity) :
      Step capacity fifo { fifo with published := fifo.published ++ items }
  | consume (settled : fifo.consumed = fifo.released.length)
      (more : fifo.consumed < fifo.published.length) :
      Step capacity fifo { fifo with consumed := fifo.consumed + 1 }
  | release {item : α} (owing : fifo.consumed = fifo.released.length + 1)
      (oldest : fifo.published[fifo.released.length]? = some item) :
      Step capacity fifo { fifo with released := fifo.released ++ [item] }

structure Sound (capacity : Nat) (fifo : Fifo α) : Prop where
  inOrder : fifo.released <+: fifo.published
  given : fifo.released.length ≤ fifo.consumed
  taken : fifo.consumed ≤ fifo.released.length + 1
  available : fifo.consumed ≤ fifo.published.length
  room : fifo.published.length ≤ fifo.released.length + capacity

/-- The item taken and not yet given back, if there is one, is the oldest. -/
def InHand (fifo : Fifo α) : Option α → Prop
  | none => fifo.consumed = fifo.released.length
  | some item => fifo.consumed = fifo.released.length + 1 ∧
      fifo.published[fifo.released.length]? = some item

theorem InHand.publish {item : Option α} {items : List α}
    (inHand : fifo.InHand item) :
    InHand { fifo with published := fifo.published ++ items } item := by
  cases item with
  | none => exact inHand
  | some item =>
      obtain ⟨inside, _⟩ := List.getElem?_eq_some_iff.mp inHand.2
      refine ⟨inHand.1, ?_⟩
      rw [← inHand.2]
      exact List.getElem?_append_left inside

theorem concat_isPrefix {front list : List α} {item : α}
    (initial : front <+: list) (after : list[front.length]? = some item) :
    front ++ [item] <+: list := by
  obtain ⟨rest, rfl⟩ := initial
  rw [List.getElem?_append_right (Nat.le_refl _), Nat.sub_self] at after
  cases rest with
  | nil => cases after
  | cons head tail =>
      cases after
      exact ⟨tail, by simp⟩

theorem Sound.step (sound : Sound capacity fifo)
    (stepped : Step capacity fifo next) : Sound capacity next := by
  obtain ⟨inOrder, given, taken, available, bound⟩ := sound
  cases stepped with
  | publish room =>
      refine ⟨inOrder.trans (List.prefix_append _ _), given, taken, ?_, room⟩
      rw [List.length_append]
      exact Nat.le_add_right_of_le available
  | consume settled more =>
      refine ⟨inOrder, ?_, ?_, more, bound⟩
      · exact Nat.le_succ_of_le given
      · exact Nat.le_of_eq (congrArg (· + 1) settled)
  | release owing oldest =>
      refine ⟨concat_isPrefix inOrder oldest, ?_, ?_, available, ?_⟩
      all_goals
        dsimp only
        rw [List.length_append, List.length_singleton]
        omega

end Fifo

/-! The slot of a position, under an index that wraps at a larger power of
two. -/

theorem mod_and_mask {position wrap exponent : Nat} (small : exponent ≤ wrap) :
    position % 2 ^ wrap &&& (2 ^ exponent - 1) = position % 2 ^ exponent := by
  rw [Nat.and_two_pow_sub_one_eq_mod]
  exact Nat.mod_mod_of_dvd position (Nat.pow_dvd_pow 2 small)

theorem slot_ne {base earlier later size : Nat} (before : earlier < later)
    (close : later < earlier + size) :
    (base + earlier) % size ≠ (base + later) % size := by
  intro same
  have multiple : size ∣ later - earlier := by
    have divides := (Nat.modEq_iff_dvd' (by omega)).mp
      (show base + earlier ≡ base + later [MOD size] from same)
    rwa [Nat.add_sub_add_left] at divides
  have far := Nat.le_of_dvd (by omega) multiple
  omega

end VirtioGpu.Foundation
