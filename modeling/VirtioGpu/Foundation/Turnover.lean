import Mathlib.Algebra.Order.Group.Multiset
import Mathlib.Data.List.Infix
import Mathlib.Data.Multiset.UnionInter

namespace VirtioGpu.Foundation

/-! A bounded queue between a producer and a consumer that holds several items
at a time and gives them back in any order. -/

structure Turnover (α : Type u) where
  published : List α
  taken : Nat
  held : Multiset α
  returned : List α

namespace Turnover

variable {α : Type u} {capacity : Nat} {turnover next : Turnover α}

/-- What was published and not yet given back. -/
def outstanding (turnover : Turnover α) : Multiset α :=
  turnover.held + ↑(turnover.published.drop turnover.taken)

structure Sound (capacity : Nat) (turnover : Turnover α) : Prop where
  account : ↑turnover.returned + turnover.held =
    (↑(turnover.published.take turnover.taken) : Multiset α)
  available : turnover.taken ≤ turnover.published.length
  room : turnover.published.length ≤ turnover.returned.length + capacity
  distinct : turnover.outstanding.Nodup

inductive Step (capacity : Nat) (turnover : Turnover α) : Turnover α → Prop
  | publish {items : List α}
      (room : (turnover.published ++ items).length ≤
        turnover.returned.length + capacity)
      (distinct : (turnover.outstanding + ↑items).Nodup) :
      Step capacity turnover
        { turnover with published := turnover.published ++ items }
  | take {item : α}
      (oldest : turnover.published[turnover.taken]? = some item) :
      Step capacity turnover
        { turnover with
          taken := turnover.taken + 1
          held := item ::ₘ turnover.held }
  | giveBack {item : α} {held : Multiset α}
      (inHand : turnover.held = item ::ₘ held) :
      Step capacity turnover
        { turnover with
          held := held
          returned := turnover.returned ++ [item] }

theorem Sound.count (sound : Sound capacity turnover) :
    turnover.returned.length + turnover.held.card = turnover.taken := by
  have sizes := congrArg Multiset.card sound.account
  rw [Multiset.card_add, Multiset.coe_card, Multiset.coe_card,
    List.length_take, Nat.min_eq_left sound.available] at sizes
  exact sizes

theorem Sound.given (sound : Sound capacity turnover) :
    turnover.returned.length ≤ turnover.taken := by
  rw [← sound.count]
  exact Nat.le_add_right _ _

/-- No more items are in hand than the queue has room for. -/
theorem Sound.held_le (sound : Sound capacity turnover) :
    turnover.held.card ≤ capacity := by
  have counted := sound.count
  have available := sound.available
  have room := sound.room
  omega

theorem Sound.held_nodup (sound : Sound capacity turnover) :
    turnover.held.Nodup :=
  (Multiset.nodup_add.mp sound.distinct).1

theorem drop_eq_cons {list : List α} {position : Nat} {item : α}
    (here : list[position]? = some item) :
    list.drop position = item :: list.drop (position + 1) := by
  obtain ⟨inside, rfl⟩ := List.getElem?_eq_some_iff.mp here
  exact List.drop_eq_getElem_cons inside

theorem take_succ_eq {list : List α} {position : Nat} {item : α}
    (here : list[position]? = some item) :
    list.take (position + 1) = list.take position ++ [item] := by
  rw [List.take_add_one, here, Option.toList_some]

theorem Sound.step (sound : Sound capacity turnover)
    (stepped : Step capacity turnover next) : Sound capacity next := by
  obtain ⟨account, available, bound, distinct⟩ := sound
  cases stepped with
  | publish room fresh =>
      refine ⟨?_, ?_, room, ?_⟩
      · rw [account]
        dsimp only
        rw [List.take_append_of_le_length available]
      · rw [List.length_append]
        exact Nat.le_add_right_of_le available
      · unfold outstanding at fresh ⊢
        dsimp only
        rwa [List.drop_append_of_le_length available, ← Multiset.coe_add,
          ← add_assoc]
  | @take item oldest =>
      obtain ⟨inside, _⟩ := List.getElem?_eq_some_iff.mp oldest
      refine ⟨?_, inside, bound, ?_⟩
      · dsimp only
        rw [take_succ_eq oldest, ← Multiset.coe_add, ← account,
          Multiset.coe_singleton, Multiset.add_cons, ← Multiset.singleton_add,
          add_comm]
      · unfold outstanding at distinct ⊢
        rw [drop_eq_cons oldest, ← Multiset.cons_coe,
          Multiset.add_cons] at distinct
        dsimp only
        rwa [Multiset.cons_add]
  | @giveBack item held inHand =>
      rw [inHand] at account
      refine ⟨?_, available, ?_, ?_⟩
      · dsimp only
        rw [← account, ← Multiset.coe_add, add_assoc, Multiset.coe_singleton,
          Multiset.singleton_add]
      · dsimp only
        rw [List.length_append, List.length_singleton]
        omega
      · unfold outstanding at distinct ⊢
        rw [inHand, Multiset.cons_add] at distinct
        exact (Multiset.nodup_cons.mp distinct).2

/-- When nothing is left, everything published has been given back. -/
theorem Sound.settled (sound : Sound capacity turnover)
    (nothing : turnover.held = 0)
    (all : turnover.taken = turnover.published.length) :
    turnover.returned.Perm turnover.published := by
  have account := sound.account
  rw [nothing, add_zero, all, List.take_length] at account
  exact Multiset.coe_eq_coe.mp account

end Turnover

end VirtioGpu.Foundation
