import Mathlib.Data.List.Infix

namespace VirtioGpu.Foundation

/-! A stream, what has been taken of it and what is left. -/

variable {α : Type u}

/-- The next items of a stream that is known from another side. -/
theorem append_split {first second known rest : List α}
    (same : first ++ second = known ++ rest)
    (enough : known.length ≤ first.length) :
    first.take known.length = known ∧
      first.drop known.length ++ second = rest := by
  have front := congrArg (List.take known.length) same
  have back := congrArg (List.drop known.length) same
  rw [List.take_append_of_le_length enough, List.take_left' rfl] at front
  rw [List.drop_append_of_le_length enough, List.drop_left' rfl] at back
  exact ⟨front, back⟩

/-- Where an item stands in a stream that has grown by one. -/
theorem snoc_split {sent before after : List α} {last item : α}
    (same : sent ++ [last] = before ++ item :: after) :
    (after = [] ∧ sent = before ∧ last = item) ∨
      ∃ inner, after = inner ++ [last] ∧ sent = before ++ item :: inner := by
  obtain rfl | ⟨inner, final, rfl⟩ := after.eq_nil_or_concat'
  · obtain ⟨front, tail⟩ := List.append_inj' same rfl
    exact .inl ⟨rfl, front, List.singleton_inj.1 tail⟩
  · have grouped : sent ++ [last] = (before ++ item :: inner) ++ [final] := by
      rw [same, List.append_assoc, List.cons_append]
    obtain ⟨front, tail⟩ := List.append_inj' grouped rfl
    exact .inr ⟨inner, by rw [List.singleton_inj.1 tail], front⟩

theorem take_prefix_of_left {front sent left : List α}
    (complete : front <+: sent ++ left) :
    sent.take front.length <+: front := by
  apply List.prefix_of_prefix_length_le _ complete
  · exact List.length_take_le _ _
  · exact (List.take_prefix _ sent).trans (List.prefix_append sent left)

theorem take_eq_of_prefix {front sent : List α} (complete : front <+: sent) :
    sent.take front.length = front :=
  (List.prefix_iff_eq_take.1 complete).symm

end VirtioGpu.Foundation
