import Mathlib.Data.List.Count
import Mathlib.Data.List.Infix
import Mathlib.Data.List.Nodup

namespace VirtioGpu.Foundation

/-! A queue on which an item waits at most once, and which is served as a
whole.  `accepted` and `served` are the histories of both ends. -/

structure Worklist (α : Type u) where
  accepted : List α
  served : List α
  waiting : List α

namespace Worklist

variable {α : Type u} {work : Worklist α}

def drain (work : Worklist α) : Worklist α where
  accepted := work.accepted
  served := work.served ++ work.waiting
  waiting := []

structure Sound (work : Worklist α) : Prop where
  inOrder : work.accepted = work.served ++ work.waiting
  once : work.waiting.Nodup

theorem Sound.kept_by_drain (sound : Sound work) : Sound work.drain :=
  ⟨sound.inOrder.trans (List.append_nil _).symm, List.nodup_nil⟩

variable [DecidableEq α]

/-- An item that waits already is not accepted again. -/
def submit (work : Worklist α) (item : α) : Worklist α :=
  if item ∈ work.waiting then
    work
  else
    { work with
      accepted := work.accepted ++ [item]
      waiting := work.waiting ++ [item] }

theorem mem_submit (work : Worklist α) (item : α) :
    item ∈ (work.submit item).waiting := by
  unfold submit
  split
  · assumption
  · exact List.mem_append_right _ (List.mem_singleton_self item)

theorem accepted_submit (work : Worklist α) (item : α) :
    (work.submit item).accepted =
      work.accepted ++ if item ∈ work.waiting then [] else [item] := by
  unfold submit
  split
  · exact (List.append_nil _).symm
  · rfl

theorem served_submit (work : Worklist α) (item : α) :
    (work.submit item).served = work.served := by
  unfold submit
  split
  · rfl
  · rfl

theorem Sound.kept_by_submit (sound : Sound work) (item : α) :
    Sound (work.submit item) := by
  unfold Worklist.submit
  split
  · exact sound
  · rename_i absent
    constructor
    · show work.accepted ++ [item] = work.served ++ (work.waiting ++ [item])
      rw [sound.inOrder, List.append_assoc]
    · apply sound.once.append (List.nodup_singleton item)
      simpa using absent

/-- Every accepted item has been served once, except the one that waits. -/
theorem Sound.count (sound : Sound work) (item : α) :
    work.accepted.count item =
      work.served.count item + if item ∈ work.waiting then 1 else 0 := by
  rw [sound.inOrder, List.count_append, sound.once.count]

end Worklist

end VirtioGpu.Foundation
