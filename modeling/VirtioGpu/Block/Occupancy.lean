import VirtioGpu.Block.Workers
import Mathlib.Data.Finset.Card
import Mathlib.Data.Fintype.Card

namespace VirtioGpu.Block

open Foundation
open Function

/-! How many elements are in use: one for each request under way and one for
each thread behind its callback. -/

/-- Whatever is in use has a request. -/
def BlockQueues.Loaded (queues : BlockQueues) : Prop :=
  ∀ be, ¬(queues.reqs be).Free → (queues.reqs be).req ≠ none

theorem initial_loaded : BlockQueues.initial.Loaded :=
  fun _ taken => absurd rfl taken

section Loaded

variable {queues : BlockQueues} {state after : BlockState} {be : Slot}

theorem BlockQueues.Loaded.update (loaded : queues.Loaded)
    {elem : BlockifElem} {later : BlockQueues}
    (reqs : later.reqs = update queues.reqs be elem)
    (fits : ¬elem.Free → elem.req ≠ none) : later.Loaded := by
  intro other
  rw [reqs]
  by_cases here : other = be
  · rw [here, update_self]
    exact fits
  · rw [update_of_ne here]
    exact loaded other

theorem BlockQueues.Loaded.complete (loaded : queues.Loaded)
    (queued : queues.Queued) (be : Slot) :
    (blockifComplete queues be).Loaded := by
  intro other taken
  by_cases here : other = be
  · subst here
    exact absurd (complete_self queued) taken
  · cases complete_apply queued here with
    | inl same =>
        rw [same] at taken ⊢
        exact loaded other taken
    | inr both =>
        rw [both.2]
        apply loaded other
        intro free
        have pending := both.1
        unfold BlockifElem.Free at free
        simp [BlockifElem.Pending, free] at pending

theorem requestAct_cases {breq : QueuedReq} {op : Blockop} {woken : Nat}
    (kept : state.Kept) (room : state.queues.freeq ≠ [])
    (acted : requestAct state breq op woken = some after) :
    ∃ be threads, (state.queues.reqs be).Free ∧
      (threads = state.threads ∨
        pthreadCondSignal state.threads woken = some threads) ∧
      after = ⟨state.queues.enlist breq op be, threads,
        insert breq.address state.accepted⟩ := by
  obtain ⟨_, acted⟩ := Option.ite_none_left_eq_some.mp acted
  have filled : state.queues.freeq.isEmpty = false := by
    rw [List.isEmpty_eq_false_iff]
    exact room
  obtain ⟨be, free, enqueued⟩ := kept.queued.enqueue filled breq op
  simp only [blockifRequest, filled, enqueued, Bool.false_eq_true, if_false,
    ne_eq, not_true_eq_false] at acted
  obtain ⟨threads, signalled, rfl⟩ := Option.map_eq_some_iff.mp acted
  refine ⟨be, threads, free, ?_, rfl⟩
  split at signalled
  · exact .inr signalled
  · exact .inl (Option.some.inj signalled).symm

theorem BlockQueues.Loaded.request {breq : QueuedReq} {op : Blockop}
    {woken : Nat} (loaded : state.queues.Loaded) (kept : state.Kept)
    (room : state.queues.freeq ≠ [])
    (acted : requestAct state breq op woken = some after) :
    after.queues.Loaded := by
  obtain ⟨be, threads, free, _, rfl⟩ := requestAct_cases kept room acted
  exact loaded.update rfl fun _ => Option.some_ne_none breq

def BlockLabel.isRequest : BlockLabel → Bool
  | .request _ _ _ => true
  | _ => false

/-- What the threads do among themselves. -/
theorem BlockQueues.Loaded.step {label : BlockLabel}
    (loaded : state.queues.Loaded) (kept : state.Kept)
    (own : label.isRequest = false)
    (acted : blockAct state label = some after) : after.queues.Loaded := by
  cases label with
  | request breq op woken => cases own
  | cancel breq =>
      obtain ⟨be, _, rfl⟩ := Option.map_eq_some_iff.mp acted
      exact loaded.complete kept.queued be
  | wake t =>
      obtain ⟨_, done⟩ := Option.ite_none_right_eq_some.mp acted
      cases done
      exact loaded
  | dequeue t =>
      obtain ⟨_, nothing | taken⟩ := dequeueAct_cases acted
      · obtain ⟨_, rfl⟩ := nothing
        exact loaded
      · obtain ⟨be, _, pend, rfl⟩ := taken
        refine loaded.update rfl fun _ => loaded be ?_
        simp [BlockifElem.Free, pend]
  | callback t =>
      obtain ⟨be, here, rfl⟩ := callbackAct_cases acted
      refine loaded.update rfl fun _ => loaded be ?_
      simp [BlockifElem.Free, (kept.inHand here rfl).1]
  | complete t =>
      obtain ⟨be, _, rfl⟩ := completeAct_cases acted
      exact loaded.complete kept.queued be

/-! Counting the elements. -/

def BlockQueues.waiting (queues : BlockQueues) : Finset Slot :=
  Finset.univ.filter fun be => (queues.reqs be).holds ≠ none

def BlockQueues.finished (queues : BlockQueues) : Finset Slot :=
  Finset.univ.filter fun be => (queues.reqs be).status = .done

theorem BlockState.Kept.card_waiting (kept : state.Kept) :
    state.queues.waiting.card ≤ state.accepted.card := by
  have held : ∀ {be}, be ∈ state.queues.waiting →
      (state.queues.reqs be).holds =
        some ((state.queues.reqs be).holds.getD 0) := by
    intro be member
    have holds := (Finset.mem_filter.mp member).2
    obtain ⟨address, same⟩ := Option.ne_none_iff_exists'.mp holds
    rw [same, Option.getD_some]
  apply Finset.card_le_card_of_injOn fun be =>
    (state.queues.reqs be).holds.getD 0
  · intro be member
    exact (kept.custody.mem_iff _).mpr ⟨be, held member⟩
  · intro first one second two same
    dsimp only at same
    have holds := held two
    rw [← same] at holds
    exact kept.custody.single (held one) holds

theorem BlockState.Kept.card_finished (kept : state.Kept) :
    state.queues.finished.card ≤ blockifNumthr := by
  rw [← Finset.card_range blockifNumthr]
  have staffed : ∀ {be}, be ∈ state.queues.finished →
      state.threads[(state.queues.reqs be).tid]?.bind Worker.hand =
        some (be, .done) := by
    intro be member
    rw [← kept.staffed]
    simp [BlockifElem.work, (Finset.mem_filter.mp member).2]
  apply Finset.card_le_card_of_injOn fun be => (state.queues.reqs be).tid
  · intro be member
    obtain ⟨worker, here, _⟩ := Option.bind_eq_some_iff.mp (staffed member)
    obtain ⟨bound, _⟩ := List.getElem?_eq_some_iff.mp here
    rw [kept.eight] at bound
    exact Finset.mem_coe.mpr (Finset.mem_range.mpr bound)
  · intro first one second two same
    dsimp only at same
    have hand := staffed two
    rw [← same, staffed one] at hand
    cases hand
    rfl

/-- With fewer than 64 requests under way there is a free element. -/
theorem BlockState.Kept.room (kept : state.Kept)
    (loaded : state.queues.Loaded)
    (few : state.accepted.card + blockifNumthr < blockifMaxreq) :
    state.queues.freeq ≠ [] := by
  intro full
  have covered : (Finset.univ : Finset Slot) ⊆
      state.queues.waiting ∪ state.queues.finished := by
    intro be _
    have taken : ¬(state.queues.reqs be).Free := by
      rw [← kept.queued.free.mem_iff, full]
      exact List.not_mem_nil
    have held := loaded be taken
    rw [Finset.mem_union]
    cases status : (state.queues.reqs be).status with
    | free => exact absurd status taken
    | done => exact .inr (by simp [BlockQueues.finished, status])
    | pend | block | busy =>
        refine .inl (Finset.mem_filter.mpr ⟨Finset.mem_univ be, ?_⟩)
        simpa [BlockifElem.holds, status] using held
  have all := Finset.card_le_card covered
  have both := Finset.card_union_le state.queues.waiting
    state.queues.finished
  have waiting := kept.card_waiting
  have finished := kept.card_finished
  rw [Finset.card_univ, Fintype.card_fin] at all
  omega

end Loaded

end VirtioGpu.Block
