import VirtioGpu.Foundation.Rosters

namespace VirtioGpu.Block

open Foundation
open Function

/-! The elements that hold the requests, and the lists they wait on. -/

def e2big : Int := 7

def blockifNumthr : Nat := 8

def blockifMaxreq : Nat := 64 + blockifNumthr

inductive Blockop where
  | read
  | write
  | flush
  | discard
  deriving Repr, DecidableEq

inductive Blockstat where
  | free
  | block
  | pend
  | busy
  | done
  deriving Repr, DecidableEq

/-- A request at its address, with the `iov_len` of its `iovcnt` buffers. -/
structure QueuedReq where
  address : Nat
  offset : Int64
  iovLens : List UInt64

structure BlockifElem where
  req : Option QueuedReq
  op : Blockop
  status : Blockstat
  tid : Nat
  block : Int64

/-- An index into `reqs`, where the source has a pointer. -/
abbrev Slot := Fin blockifMaxreq

structure BlockQueues where
  reqs : Slot → BlockifElem
  freeq : List Slot
  pendq : List Slot
  busyq : List Slot

/-- `off`, where a request ends; a flush ends at `1 << (sizeof(off_t) - 1)`. -/
def QueuedReq.ends (breq : QueuedReq) : Blockop → Int64
  | .flush => 128
  | _ => breq.iovLens.foldl (fun off length => off + length.toInt64)
      breq.offset

def BlockQueues.initial : BlockQueues where
  reqs := fun _ => ⟨none, .read, .free, 0, 0⟩
  freeq := (List.finRange blockifMaxreq).reverse
  pendq := []
  busyq := []

/-- Some element of a list ends where the request starts. -/
def BlockQueues.precedes (queues : BlockQueues) (offset : Int64)
    (items : List Slot) : Bool :=
  items.any fun tbe => (queues.reqs tbe).block = offset

def BlockQueues.statusFor (queues : BlockQueues) (breq : QueuedReq) :
    Blockstat :=
  if queues.precedes breq.offset queues.pendq ||
      queues.precedes breq.offset queues.busyq then
    .block
  else .pend

def BlockQueues.enlist (queues : BlockQueues) (breq : QueuedReq)
    (op : Blockop) (be : Slot) : BlockQueues where
  reqs := update queues.reqs be { queues.reqs be with
    req := some breq
    op := op
    status := queues.statusFor breq
    block := breq.ends op }
  freeq := queues.freeq.erase be
  pendq := queues.pendq ++ [be]
  busyq := queues.busyq

/-- The answer says whether the request may start. -/
def blockifEnqueue (queues : BlockQueues) (breq : QueuedReq)
    (op : Blockop) : Bool × BlockQueues :=
  match queues.freeq with
  | [] => (false, queues)
  | be :: _ =>
      if (queues.reqs be).status ≠ .free then (false, queues)
      else (queues.statusFor breq = .pend, queues.enlist breq op be)

def BlockQueues.assign (queues : BlockQueues) (be : Slot) (t : Nat) :
    BlockQueues where
  reqs := update queues.reqs be
    { queues.reqs be with status := .busy, tid := t }
  freeq := queues.freeq
  pendq := queues.pendq.erase be
  busyq := queues.busyq ++ [be]

def BlockQueues.startable (queues : BlockQueues) (be : Slot) : Bool :=
  (queues.reqs be).status = .pend

def blockifDequeue (queues : BlockQueues) (t : Nat) :
    Option (Slot × BlockQueues) :=
  match queues.pendq.find? queues.startable with
  | none => none
  | some be => some (be, queues.assign be t)

def BlockifElem.starts (elem : BlockifElem) : Option Int64 :=
  elem.req.map (·.offset)

def unblockOne (block : Int64) (reqs : Slot → BlockifElem)
    (tbe : Slot) : Slot → BlockifElem :=
  if (reqs tbe).starts = some block then
    update reqs tbe { reqs tbe with status := .pend }
  else reqs

/-- The loop of `blockif_complete` over `pendq`. -/
def unblock (pendq : List Slot) (block : Int64)
    (reqs : Slot → BlockifElem) : Slot → BlockifElem :=
  pendq.foldl (unblockOne block) reqs

def BlockifElem.freed (elem : BlockifElem) : BlockifElem :=
  { elem with tid := 0, status := .free, req := none }

def BlockQueues.release (queues : BlockQueues) (be : Slot) : BlockQueues :=
  { queues with
    reqs := update queues.reqs be (queues.reqs be).freed
    freeq := queues.freeq ++ [be] }

/-- `TAILQ_REMOVE` from the list that the status tells. -/
def BlockQueues.remove (queues : BlockQueues) (be : Slot) : BlockQueues :=
  if (queues.reqs be).status = .done ∨ (queues.reqs be).status = .busy then
    { queues with busyq := queues.busyq.erase be }
  else
    { queues with pendq := queues.pendq.erase be }

def blockifComplete (queues : BlockQueues) (be : Slot) : BlockQueues :=
  let left := queues.remove be
  BlockQueues.release { left with
    reqs := unblock left.pendq (queues.reqs be).block left.reqs } be

/-- The answer, and whether a thread is signalled. -/
def blockifRequest (queues : BlockQueues) (breq : QueuedReq)
    (op : Blockop) : Int × Bool × BlockQueues :=
  if queues.freeq.isEmpty then (e2big, false, queues)
  else (0, blockifEnqueue queues breq op)

/-- `be->status = BST_DONE` at the end of `blockif_proc`. -/
def BlockQueues.markDone (queues : BlockQueues) (be : Slot) :
    BlockQueues :=
  { queues with
    reqs := update queues.reqs be { queues.reqs be with status := .done } }

/-! Every element is on the list that its status names. -/

def BlockifElem.Free (elem : BlockifElem) : Prop := elem.status = .free

def BlockifElem.Pending (elem : BlockifElem) : Prop :=
  elem.status = .pend ∨ elem.status = .block

def BlockifElem.Busy (elem : BlockifElem) : Prop :=
  elem.status = .busy ∨ elem.status = .done

/-- An element that is blocked waits for one that ends where it starts, in
work or before it on `pendq`. -/
structure BlockQueues.Queued (queues : BlockQueues) : Prop where
  free : Roster queues.freeq queues.reqs BlockifElem.Free
  pending : Roster queues.pendq queues.reqs BlockifElem.Pending
  busy : Roster queues.busyq queues.reqs BlockifElem.Busy
  awaited : ∀ be, (queues.reqs be).status = .block →
    ∃ other, (queues.reqs be).starts = some (queues.reqs other).block ∧
      (other ∈ queues.busyq ∨ [other, be].Sublist queues.pendq)

theorem initial_queued : BlockQueues.initial.Queued where
  free := by
    constructor
    · exact List.nodup_reverse.mpr (List.nodup_finRange _)
    · intro be
      simp [BlockQueues.initial, BlockifElem.Free]
  pending := ⟨List.nodup_nil, fun be => by
    simp [BlockQueues.initial, BlockifElem.Pending]⟩
  busy := ⟨List.nodup_nil, fun be => by
    simp [BlockQueues.initial, BlockifElem.Busy]⟩
  awaited := fun be blocked => by cases blocked

theorem unblockOne_apply (block : Int64) (reqs : Slot → BlockifElem)
    (tbe be : Slot) :
    unblockOne block reqs tbe be =
      if be = tbe ∧ (reqs be).starts = some block then
        { reqs be with status := .pend }
      else reqs be := by
  unfold unblockOne
  by_cases starts : (reqs tbe).starts = some block
  · rw [if_pos starts]
    by_cases here : be = tbe
    · subst here
      rw [update_self, if_pos ⟨rfl, starts⟩]
    · rw [if_neg fun both => here both.1, update_of_ne here]
  · rw [if_neg starts, if_neg]
    rintro ⟨rfl, both⟩
    exact starts both

theorem unblock_apply (pendq : List Slot) (block : Int64)
    (reqs : Slot → BlockifElem) (be : Slot) :
    unblock pendq block reqs be =
      if pendq.contains be ∧ (reqs be).starts = some block then
        { reqs be with status := .pend }
      else reqs be := by
  induction pendq generalizing reqs with
  | nil => simp [unblock]
  | cons tbe rest induction =>
      show unblock rest block (unblockOne block reqs tbe) be = _
      rw [induction, unblockOne_apply]
      by_cases starts : (reqs be).starts = some block
      · by_cases here : be = tbe
        · subst here
          have kept : ({ reqs be with status := .pend } :
              BlockifElem).starts = some block := starts
          simp [starts, kept]
        · simp [here, starts]
      · simp [starts]

/-- A loop over pending elements leaves every element of its kind. -/
theorem unblock_kinds {pendq : List Slot} {reqs : Slot → BlockifElem}
    (pending : ∀ be ∈ pendq, (reqs be).Pending) (block : Int64)
    (be : Slot) :
    ((unblock pendq block reqs be).Free ↔ (reqs be).Free) ∧
      ((unblock pendq block reqs be).Pending ↔ (reqs be).Pending) ∧
      ((unblock pendq block reqs be).Busy ↔ (reqs be).Busy) := by
  rw [unblock_apply]
  split
  · rename_i reached
    cases pending be (List.contains_iff_mem.mp reached.1) with
    | inl pend =>
        simp [BlockifElem.Free, BlockifElem.Pending, BlockifElem.Busy, pend]
    | inr blocked =>
        simp [BlockifElem.Free, BlockifElem.Pending, BlockifElem.Busy,
          blocked]
  · exact ⟨Iff.rfl, Iff.rfl, Iff.rfl⟩

@[simp] theorem unblock_block (pendq : List Slot) (block : Int64)
    (reqs : Slot → BlockifElem) (be : Slot) :
    (unblock pendq block reqs be).block = (reqs be).block := by
  rw [unblock_apply]
  split <;> rfl

@[simp] theorem unblock_req (pendq : List Slot) (block : Int64)
    (reqs : Slot → BlockifElem) (be : Slot) :
    (unblock pendq block reqs be).req = (reqs be).req := by
  rw [unblock_apply]
  split <;> rfl

@[simp] theorem unblock_tid (pendq : List Slot) (block : Int64)
    (reqs : Slot → BlockifElem) (be : Slot) :
    (unblock pendq block reqs be).tid = (reqs be).tid := by
  rw [unblock_apply]
  split <;> rfl

section Queues

variable {queues : BlockQueues} {be other : Slot} {breq : QueuedReq}
  {op : Blockop}

theorem statusFor_pending (queues : BlockQueues) (breq : QueuedReq) :
    queues.statusFor breq = .pend ∨ queues.statusFor breq = .block := by
  unfold BlockQueues.statusFor
  split
  · exact .inr rfl
  · exact .inl rfl

theorem precedes_mem {offset : Int64} {items : List Slot}
    (found : queues.precedes offset items = true) :
    ∃ tbe ∈ items, offset = (queues.reqs tbe).block := by
  obtain ⟨tbe, member, same⟩ := List.any_eq_true.mp found
  exact ⟨tbe, member, (of_decide_eq_true same).symm⟩

/-- A request that has to wait finds the one it waits for. -/
theorem statusFor_block (blocked : queues.statusFor breq = .block) :
    ∃ tbe, (tbe ∈ queues.pendq ∨ tbe ∈ queues.busyq) ∧
      breq.offset = (queues.reqs tbe).block := by
  unfold BlockQueues.statusFor at blocked
  split at blocked
  · rename_i found
    cases Bool.or_eq_true_iff.mp found with
    | inl early =>
        obtain ⟨tbe, member, same⟩ := precedes_mem early
        exact ⟨tbe, .inl member, same⟩
    | inr early =>
        obtain ⟨tbe, member, same⟩ := precedes_mem early
        exact ⟨tbe, .inr member, same⟩
  · cases blocked

theorem BlockQueues.Queued.ne_free (queued : queues.Queued)
    (free : (queues.reqs be).Free)
    (listed : other ∈ queues.pendq ∨ other ∈ queues.busyq) :
    other ≠ be := by
  rintro rfl
  unfold BlockifElem.Free at free
  cases listed with
  | inl pending =>
      have kind := (queued.pending.mem_iff other).mp pending
      simp [BlockifElem.Pending, free] at kind
  | inr busy =>
      have kind := (queued.busy.mem_iff other).mp busy
      simp [BlockifElem.Busy, free] at kind

theorem BlockQueues.Queued.enlist (queued : queues.Queued)
    (free : (queues.reqs be).Free) (breq : QueuedReq) (op : Blockop) :
    (queues.enlist breq op be).Queued where
  free := by
    apply queued.free.leave
    unfold BlockifElem.Free
    cases statusFor_pending queues breq with
    | inl pend => simp [pend]
    | inr blocked => simp [blocked]
  pending := by
    apply queued.pending.enter
    · unfold BlockifElem.Free at free
      simp [BlockifElem.Pending, free]
    · exact statusFor_pending queues breq
  busy := by
    apply queued.busy.stay
    unfold BlockifElem.Free at free
    cases statusFor_pending queues breq with
    | inl pend => simp [BlockifElem.Busy, pend, free]
    | inr blocked => simp [BlockifElem.Busy, blocked, free]
  awaited := by
    intro waiter blocked
    by_cases here : waiter = be
    · subst here
      simp only [BlockQueues.enlist, update_self] at blocked
      obtain ⟨tbe, listed, same⟩ := statusFor_block blocked
      have apart := queued.ne_free free listed
      refine ⟨tbe, ?_, listed.symm.imp_right pair_sublist_concat⟩
      simp only [BlockQueues.enlist, update_self, update_of_ne apart]
      exact congrArg some same
    · simp only [BlockQueues.enlist, update_of_ne here] at blocked
      obtain ⟨tbe, same, listed⟩ := queued.awaited waiter blocked
      have apart := queued.ne_free free
        (listed.symm.imp_left fun pair => pair.subset List.mem_cons_self)
      refine ⟨tbe, ?_, listed.imp_right fun pair =>
        pair.trans (List.sublist_append_left _ _)⟩
      simpa only [BlockQueues.enlist, update_of_ne here,
        update_of_ne apart] using same

theorem assign_block (queues : BlockQueues) (be other : Slot) (t : Nat) :
    ((queues.assign be t).reqs other).block = (queues.reqs other).block := by
  by_cases here : other = be
  · subst here
    simp [BlockQueues.assign]
  · simp [BlockQueues.assign, here]

theorem BlockQueues.Queued.assign (queued : queues.Queued)
    (pend : (queues.reqs be).status = .pend) (t : Nat) :
    (queues.assign be t).Queued where
  free := queued.free.stay (by simp [BlockifElem.Free, pend])
  pending := queued.pending.leave (by simp [BlockifElem.Pending])
  busy := queued.busy.enter (by simp [BlockifElem.Busy, pend])
    (.inl rfl)
  awaited := by
    intro waiter blocked
    have here : waiter ≠ be := by
      rintro rfl
      simp [BlockQueues.assign] at blocked
    simp only [BlockQueues.assign, update_of_ne here] at blocked
    obtain ⟨tbe, same, listed⟩ := queued.awaited waiter blocked
    refine ⟨tbe, ?_, ?_⟩
    · rw [assign_block]
      simpa only [BlockQueues.assign, update_of_ne here] using same
    · by_cases taken : tbe = be
      · exact .inl (List.mem_append_right _ (List.mem_singleton.mpr taken))
      · exact listed.imp (List.mem_append_left _) fun pair =>
          pair_sublist_erase pair (Ne.symm taken) here.symm

theorem BlockQueues.Queued.markDone (queued : queues.Queued)
    (busy : (queues.reqs be).status = .busy) :
    (queues.markDone be).Queued where
  free := queued.free.stay (by simp [BlockifElem.Free, busy])
  pending := queued.pending.stay (by simp [BlockifElem.Pending, busy])
  busy := queued.busy.stay (by simp [BlockifElem.Busy, busy])
  awaited := by
    intro waiter blocked
    have here : waiter ≠ be := by
      rintro rfl
      simp [BlockQueues.markDone] at blocked
    simp only [BlockQueues.markDone, update_of_ne here] at blocked
    obtain ⟨tbe, same, listed⟩ := queued.awaited waiter blocked
    refine ⟨tbe, ?_, listed⟩
    simp only [BlockQueues.markDone, update_of_ne here]
    by_cases done : tbe = be
    · subst done
      simpa using same
    · simpa [done] using same

/-! What is left when an element is taken off its list. -/

/-- The lists without an element whose entry is free. -/
structure BlockQueues.Without (queues left : BlockQueues)
    (be : Slot) : Prop where
  reqs : left.reqs = queues.reqs
  freeq : left.freeq = queues.freeq
  pending : Roster left.pendq
    (update queues.reqs be (queues.reqs be).freed) BlockifElem.Pending
  busy : Roster left.busyq
    (update queues.reqs be (queues.reqs be).freed) BlockifElem.Busy
  kept : ∀ other waiter, other ≠ be → waiter ≠ be →
    (other ∈ queues.busyq ∨ [other, waiter].Sublist queues.pendq) →
    other ∈ left.busyq ∨ [other, waiter].Sublist left.pendq

theorem BlockQueues.Queued.without (queued : queues.Queued) (be : Slot) :
    queues.Without (queues.remove be) be := by
  have free : (queues.reqs be).freed.status = .free := rfl
  unfold BlockQueues.remove
  split
  · rename_i busy
    have notPending : ¬(queues.reqs be).Pending := by
      rcases busy with done | busy
      · simp [BlockifElem.Pending, done]
      · simp [BlockifElem.Pending, busy]
    constructor
    · rfl
    · rfl
    · apply queued.pending.stay
      simp only [notPending, iff_false]
      simp [BlockifElem.Pending, free]
    · exact queued.busy.leave (by simp [BlockifElem.Busy, free])
    · intro other waiter apart _ listed
      exact listed.imp_left fun member =>
        (queued.busy.nodup.mem_erase_iff).mpr ⟨apart, member⟩
  · rename_i notBusy
    have idle : ¬(queues.reqs be).Busy := fun busy => notBusy busy.symm
    constructor
    · rfl
    · rfl
    · exact queued.pending.leave (by simp [BlockifElem.Pending, free])
    · apply queued.busy.stay
      simp only [idle, iff_false]
      simp [BlockifElem.Busy, free]
    · intro other waiter apart away listed
      exact listed.imp_right fun pair =>
        pair_sublist_erase pair apart.symm away.symm

/-- The loop may as well run after the element is freed. -/
theorem BlockQueues.Without.complete_reqs
    (without : queues.Without (queues.remove be) be) :
    (blockifComplete queues be).reqs =
      unblock (queues.remove be).pendq (queues.reqs be).block
        (update queues.reqs be (queues.reqs be).freed) := by
  funext other
  simp only [blockifComplete, BlockQueues.release, without.reqs]
  by_cases here : other = be
  · subst here
    have bare : ¬((queues.remove other).pendq.contains other ∧
        (queues.reqs other).freed.starts =
          some (queues.reqs other).block) := by
      simp [BlockifElem.starts, BlockifElem.freed]
    rw [update_self, unblock_apply, unblock_apply, update_self, if_neg bare]
    split <;> rfl
  · rw [update_of_ne here, unblock_apply, unblock_apply, update_of_ne here]

theorem BlockQueues.Without.pending_freed
    (without : queues.Without (queues.remove be) be) :
    ∀ other ∈ (queues.remove be).pendq,
      (update queues.reqs be (queues.reqs be).freed other).Pending :=
  fun other member => (without.pending.mem_iff other).mp member

theorem BlockQueues.Queued.complete (queued : queues.Queued)
    (taken : ¬(queues.reqs be).Free) :
    (blockifComplete queues be).Queued := by
  have without := queued.without be
  have kinds := unblock_kinds without.pending_freed (queues.reqs be).block
  constructor
  · rw [without.complete_reqs]
    show Roster ((queues.remove be).freeq ++ [be]) _ _
    rw [without.freeq]
    have freed : (queues.reqs be).freed.Free := rfl
    exact (queued.free.enter taken freed).congr fun other => (kinds other).1
  · rw [without.complete_reqs]
    exact without.pending.congr fun other => (kinds other).2.1
  · rw [without.complete_reqs]
    exact without.busy.congr fun other => (kinds other).2.2
  · intro waiter blocked
    rw [without.complete_reqs] at blocked
    have here : waiter ≠ be := by
      rintro rfl
      have free := (kinds waiter).1.mpr (by rw [update_self]; rfl)
      rw [BlockifElem.Free, blocked] at free
      cases free
    rw [unblock_apply] at blocked
    split at blocked
    · cases blocked
    · rename_i unreached
      have pending : waiter ∈ (queues.remove be).pendq :=
        (without.pending.mem_iff waiter).mpr (.inr blocked)
      rw [update_of_ne here] at blocked unreached
      obtain ⟨tbe, same, listed⟩ := queued.awaited waiter blocked
      have apart : tbe ≠ be := by
        rintro rfl
        exact unreached ⟨List.contains_iff_mem.mpr pending, same⟩
      refine ⟨tbe, ?_, without.kept tbe waiter apart here listed⟩
      rw [without.complete_reqs, unblock_block, update_of_ne apart,
        BlockifElem.starts, unblock_req, update_of_ne here]
      exact same

/-! What the two ends of a list answer. -/

theorem BlockQueues.Queued.enqueue (queued : queues.Queued)
    (room : queues.freeq.isEmpty = false) (breq : QueuedReq)
    (op : Blockop) :
    ∃ be, (queues.reqs be).Free ∧ blockifEnqueue queues breq op =
      (decide (queues.statusFor breq = .pend),
        queues.enlist breq op be) := by
  cases list : queues.freeq with
  | nil =>
      rw [list] at room
      cases room
  | cons be rest =>
      have free : (queues.reqs be).Free := by
        rw [← queued.free.mem_iff, list]
        exact List.mem_cons_self
      refine ⟨be, free, ?_⟩
      unfold blockifEnqueue
      rw [list]
      exact if_neg (not_not_intro free)

/-- The answer is E2BIG exactly if all elements are in use. -/
theorem BlockQueues.Queued.e2big_iff (queued : queues.Queued)
    (breq : QueuedReq) (op : Blockop) :
    (blockifRequest queues breq op).1 = e2big ↔
      ∀ be, (queues.reqs be).status ≠ .free := by
  have empty : queues.freeq.isEmpty = true ↔
      ∀ be, (queues.reqs be).status ≠ .free := by
    rw [List.isEmpty_iff, List.eq_nil_iff_forall_not_mem]
    exact forall_congr' fun be => not_congr (queued.free.mem_iff be)
  rw [← empty]
  unfold blockifRequest
  split
  · rename_i full
    exact iff_of_true rfl full
  · rename_i room
    exact iff_of_false (by decide : (0 : Int) ≠ e2big) room

theorem blockifDequeue_some {t : Nat} {after : BlockQueues}
    (taken : blockifDequeue queues t = some (be, after)) :
    be ∈ queues.pendq ∧ (queues.reqs be).status = .pend ∧
      after = queues.assign be t := by
  unfold blockifDequeue at taken
  split at taken
  · cases taken
  · rename_i found
    cases taken
    have startable : queues.startable be = true := List.find?_some found
    exact ⟨List.mem_of_find?_eq_some found, of_decide_eq_true startable,
      rfl⟩

theorem blockifDequeue_none {t : Nat}
    (stuck : blockifDequeue queues t = none) :
    ∀ be ∈ queues.pendq, (queues.reqs be).status ≠ .pend := by
  unfold blockifDequeue at stuck
  split at stuck
  · rename_i missing
    intro be member pend
    exact List.find?_eq_none.mp missing be member (decide_eq_true pend)
  · cases stuck

/-- Whoever is first on `pendq` may start, or waits for work in progress. -/
theorem BlockQueues.Queued.unstarted (queued : queues.Queued)
    (waiting : queues.pendq ≠ [])
    (unpended : ∀ be ∈ queues.pendq, (queues.reqs be).status ≠ .pend) :
    queues.busyq ≠ [] := by
  cases list : queues.pendq with
  | nil => exact absurd list waiting
  | cons be rest =>
      have first : be ∈ queues.pendq := list ▸ List.mem_cons_self
      have blocked := ((queued.pending.mem_iff be).mp first).resolve_left
        (unpended be first)
      obtain ⟨tbe, _, listed⟩ := queued.awaited be blocked
      cases listed with
      | inl busy => exact List.ne_nil_of_mem busy
      | inr pair =>
          have nodup := queued.pending.nodup
          rw [list] at pair nodup
          exact absurd pair (not_pair_sublist_head nodup)

end Queues

end VirtioGpu.Block
