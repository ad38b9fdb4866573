import Mathlib.Algebra.GroupWithZero.Nat
import VirtioGpu.Block.Queue
import VirtioGpu.Foundation.Transition

namespace VirtioGpu.Block

open Foundation
open Function

/-! The threads of one context, each of them in `blockif_thr`. -/

/-- Before `pthread_cond_wait` returns, before a dequeue, in `blockif_proc`,
and behind its callback. -/
inductive Worker where
  | waiting
  | awake
  | processing (be : Slot)
  | completing (be : Slot)
  deriving Repr, DecidableEq

/-- The element a thread works on, with the status it has meanwhile. -/
def Worker.hand : Worker → Option (Slot × Blockstat)
  | .processing be => some (be, .busy)
  | .completing be => some (be, .done)
  | _ => none

/-- `accepted` has the addresses of the requests that were accepted and
neither called back nor cancelled since. -/
structure BlockState where
  queues : BlockQueues
  threads : List Worker
  accepted : Finset Nat

def BlockState.initial : BlockState where
  queues := .initial
  threads := List.replicate blockifNumthr .awake
  accepted := ∅

/-- One waiting thread wakes up, if there is one. -/
def pthreadCondSignal (threads : List Worker) (woken : Nat) :
    Option (List Worker) :=
  if threads[woken]? = some .waiting then
    some (threads.set woken .awake)
  else if .waiting ∈ threads then none
  else some threads

/-- Calls of others, then steps of the thread with a number. -/
inductive BlockLabel where
  | request (breq : QueuedReq) (op : Blockop) (woken : Nat)
  | cancel (breq : Nat)
  | wake (t : Nat)
  | dequeue (t : Nat)
  | callback (t : Nat)
  | complete (t : Nat)

def BlockifElem.calls (elem : BlockifElem) (breq : Nat) : Bool :=
  elem.req.any fun req => req.address = breq

def BlockifElem.forget (elem : BlockifElem) (accepted : Finset Nat) :
    Finset Nat :=
  match elem.req with
  | none => accepted
  | some req => accepted.erase req.address

/-- `blockif_request`, for a request that is not under way. -/
def requestAct (state : BlockState) (breq : QueuedReq) (op : Blockop)
    (woken : Nat) : Option BlockState :=
  if breq.address ∈ state.accepted then none
  else
    let answer := blockifRequest state.queues breq op
    if answer.1 ≠ 0 then some { state with queues := answer.2.2 }
    else
      let threads :=
        if answer.2.1 then pthreadCondSignal state.threads woken
        else some state.threads
      threads.map fun threads => {
        queues := answer.2.2
        threads := threads
        accepted := insert breq.address state.accepted }

/-- `blockif_cancel`, for a request that is pending. -/
def blockifCancel (state : BlockState) (breq : Nat) : Option BlockState :=
  (state.queues.pendq.find? fun be =>
    (state.queues.reqs be).calls breq).map fun be =>
      { state with
        queues := blockifComplete state.queues be
        accepted := state.accepted.erase breq }

def dequeueAct (state : BlockState) (t : Nat) : Option BlockState :=
  if state.threads[t]? = some .awake then
    match blockifDequeue state.queues t with
    | none => some { state with threads := state.threads.set t .waiting }
    | some (be, queues) => some { state with
        queues := queues
        threads := state.threads.set t (.processing be) }
  else none

/-- `blockif_proc` stores the status and calls back. -/
def callbackAct (state : BlockState) (t : Nat) : Option BlockState :=
  match state.threads[t]? with
  | some (.processing be) => some {
      queues := state.queues.markDone be
      threads := state.threads.set t (.completing be)
      accepted := (state.queues.reqs be).forget state.accepted }
  | _ => none

def completeAct (state : BlockState) (t : Nat) : Option BlockState :=
  match state.threads[t]? with
  | some (.completing be) => some { state with
      queues := blockifComplete state.queues be
      threads := state.threads.set t .awake }
  | _ => none

def blockAct (state : BlockState) : BlockLabel → Option BlockState
  | .request breq op woken => requestAct state breq op woken
  | .cancel breq => blockifCancel state breq
  | .wake t =>
      if state.threads[t]? = some .waiting then
        some { state with threads := state.threads.set t .awake }
      else none
  | .dequeue t => dequeueAct state t
  | .callback t => callbackAct state t
  | .complete t => completeAct state t

def blockSystem : TransitionSystem BlockState BlockLabel where
  initial := fun state => state = .initial
  step := fun before label after => blockAct before label = some after

/-! Who works on what. -/

def BlockifElem.work (elem : BlockifElem) : Option (Blockstat × Nat) :=
  match elem.status with
  | .busy => some (.busy, elem.tid)
  | .done => some (.done, elem.tid)
  | _ => none

/-- The thread that an element names has it in hand. -/
def Staffed (reqs : Slot → BlockifElem) (threads : List Worker) : Prop :=
  ∀ be stage t, (reqs be).work = some (stage, t) ↔
    threads[t]?.bind Worker.hand = some (be, stage)

section Staff

variable {reqs later : Slot → BlockifElem} {threads : List Worker}
  {t : Nat} {old new : Worker}

theorem hand_set (here : threads[t]? = some old) (place : Nat) :
    (threads.set t new)[place]?.bind Worker.hand =
      if place = t then new.hand
      else threads[place]?.bind Worker.hand := by
  obtain ⟨bound, _⟩ := List.getElem?_eq_some_iff.mp here
  rw [List.getElem?_set]
  by_cases same : place = t
  · subst same
    simp [bound]
  · rw [if_neg (Ne.symm same), if_neg same]

/-- A thread with nothing in hand before and after. -/
theorem Staffed.idle (staffed : Staffed reqs threads)
    (here : threads[t]? = some old) (before : old.hand = none)
    (after : new.hand = none) : Staffed reqs (threads.set t new) := by
  intro be stage place
  rw [staffed, hand_set here]
  by_cases same : place = t
  · rw [same, here, if_pos rfl, after, Option.bind_some, before]
  · rw [if_neg same]

theorem Staffed.congr (staffed : Staffed reqs threads)
    (same : ∀ be, (later be).work = (reqs be).work) :
    Staffed later threads := by
  intro be stage place
  rw [same]
  exact staffed be stage place

/-- A thread changes what it does, to one element at most. -/
theorem Staffed.change (staffed : Staffed reqs threads)
    (here : threads[t]? = some old) (be : Slot)
    (others : ∀ other, other ≠ be → (later other).work = (reqs other).work)
    (before : ∀ stage place, (reqs be).work = some (stage, place) →
      place = t)
    (held : ∀ other stage, old.hand = some (other, stage) → other = be)
    (after : ∀ stage place, (later be).work = some (stage, place) ↔
      place = t ∧ new.hand = some (be, stage))
    (holds : ∀ other stage, new.hand = some (other, stage) → other = be) :
    Staffed later (threads.set t new) := by
  intro other stage place
  rw [hand_set here]
  by_cases mine : other = be
  · rw [mine, after]
    by_cases same : place = t
    · rw [if_pos same]
      exact and_iff_right same
    · rw [if_neg same]
      refine iff_of_false (fun both => same both.1) fun elsewhere => ?_
      exact same (before stage place ((staffed be stage place).mpr elsewhere))
  · rw [others other mine, staffed]
    by_cases same : place = t
    · rw [if_pos same, same, here]
      exact iff_of_false (fun hand => mine (held other stage hand))
        fun hand => mine (holds other stage hand)
    · rw [if_neg same]

end Staff

/-! Who holds which request. -/

def BlockifElem.holds (elem : BlockifElem) : Option Nat :=
  match elem.status with
  | .pend | .block | .busy => elem.req.map (·.address)
  | _ => none

structure BlockState.Kept (state : BlockState) : Prop where
  queued : state.queues.Queued
  staffed : Staffed state.queues.reqs state.threads
  custody : Custody (fun be => (state.queues.reqs be).holds) state.accepted
  manned : state.queues.pendq ≠ [] →
    ∃ worker ∈ state.threads, worker ≠ .waiting
  eight : state.threads.length = blockifNumthr

section Run

variable {state : BlockState} {queues : BlockQueues} {be other : Slot}

theorem BlockifElem.Pending.work {elem : BlockifElem}
    (pending : elem.Pending) : elem.work = none := by
  cases pending with
  | inl pend => simp [BlockifElem.work, pend]
  | inr blocked => simp [BlockifElem.work, blocked]

theorem BlockifElem.Pending.holds {elem : BlockifElem}
    (pending : elem.Pending) : elem.holds = elem.req.map (·.address) := by
  cases pending with
  | inl pend => simp [BlockifElem.holds, pend]
  | inr blocked => simp [BlockifElem.holds, blocked]

theorem BlockifElem.Busy.work {elem : BlockifElem} (busy : elem.Busy) :
    ∃ stage, elem.work = some (stage, elem.tid) := by
  cases busy with
  | inl busy => exact ⟨.busy, by simp [BlockifElem.work, busy]⟩
  | inr done => exact ⟨.done, by simp [BlockifElem.work, done]⟩

theorem BlockifElem.Free.work {elem : BlockifElem} (free : elem.Free) :
    elem.work = none := by
  unfold BlockifElem.Free at free
  simp [BlockifElem.work, free]

theorem BlockifElem.Free.holds {elem : BlockifElem} (free : elem.Free) :
    elem.holds = none := by
  unfold BlockifElem.Free at free
  simp [BlockifElem.holds, free]

theorem initial_kept : BlockState.initial.Kept where
  queued := initial_queued
  staffed := by
    intro be stage t
    refine iff_of_false (fun work => by cases work) fun hand => ?_
    obtain ⟨worker, here, held⟩ := Option.bind_eq_some_iff.mp hand
    have awake := List.mem_replicate.mp (List.mem_of_getElem? here)
    rw [awake.2] at held
    cases held
  custody := by
    constructor
    · intro address
      refine iff_of_false (Finset.notMem_empty address) ?_
      rintro ⟨be, holds⟩
      cases holds
    · intro first second address holds
      cases holds
  manned := fun waiting => absurd rfl waiting
  eight := List.length_replicate

/-! The effect of the loop on work and on requests. -/

theorem complete_apply (queued : queues.Queued) (apart : other ≠ be) :
    (blockifComplete queues be).reqs other = queues.reqs other ∨
      (queues.reqs other).Pending ∧
        (blockifComplete queues be).reqs other =
          { queues.reqs other with status := .pend } := by
  have without := queued.without be
  rw [without.complete_reqs, unblock_apply, update_of_ne apart]
  split
  · rename_i reached
    have pending := without.pending_freed other
      (List.contains_iff_mem.mp reached.1)
    rw [update_of_ne apart] at pending
    exact .inr ⟨pending, rfl⟩
  · exact .inl rfl

theorem complete_self (queued : queues.Queued) :
    ((blockifComplete queues be).reqs be).Free := by
  have without := queued.without be
  rw [without.complete_reqs, (unblock_kinds without.pending_freed _ be).1,
    update_self]
  rfl

theorem complete_work (queued : queues.Queued) (apart : other ≠ be) :
    ((blockifComplete queues be).reqs other).work =
      (queues.reqs other).work := by
  cases complete_apply queued apart with
  | inl same => rw [same]
  | inr both =>
      rw [both.2, both.1.work]
      rfl

theorem complete_holds (queued : queues.Queued) (apart : other ≠ be) :
    ((blockifComplete queues be).reqs other).holds =
      (queues.reqs other).holds := by
  cases complete_apply queued apart with
  | inl same => rw [same]
  | inr both =>
      rw [both.2, both.1.holds]
      rfl

theorem complete_hold (queued : queues.Queued) :
    (fun other => ((blockifComplete queues be).reqs other).holds) =
      update (fun other => (queues.reqs other).holds) be none := by
  funext other
  by_cases here : other = be
  · subst here
    rw [update_self]
    exact (complete_self queued).holds
  · rw [update_of_ne here]
    exact complete_holds queued here

theorem update_hold (reqs : Slot → BlockifElem) (elem : BlockifElem) :
    (fun other => (update reqs be elem other).holds) =
      update (fun other => (reqs other).holds) be elem.holds :=
  comp_update BlockifElem.holds reqs be elem

/-! Nobody sleeps while there is work. -/

theorem BlockState.Kept.worker (kept : state.Kept)
    (busy : be ∈ state.queues.busyq) :
    ∃ (t : Nat) (worker : Worker) (stage : Blockstat),
      state.threads[t]? = some worker ∧ worker.hand = some (be, stage) := by
  obtain ⟨stage, work⟩ := ((kept.queued.busy.mem_iff be).mp busy).work
  obtain ⟨worker, here, hand⟩ := Option.bind_eq_some_iff.mp
    ((kept.staffed be stage _).mp work)
  exact ⟨_, worker, stage, here, hand⟩

theorem ne_waiting {worker : Worker} {pair : Slot × Blockstat}
    (hand : worker.hand = some pair) : worker ≠ .waiting := by
  rintro rfl
  cases hand

theorem exists_mem_set {threads : List Worker} {t : Nat} {old new : Worker}
    (here : threads[t]? = some old) (up : new ≠ .waiting) :
    ∃ worker ∈ threads.set t new, worker ≠ .waiting := by
  obtain ⟨bound, _⟩ := List.getElem?_eq_some_iff.mp here
  exact ⟨new, List.mem_set bound new, up⟩

theorem signal_manned {threads later : List Worker} {woken : Nat}
    (eight : threads.length = blockifNumthr)
    (signalled : pthreadCondSignal threads woken = some later) :
    ∃ worker ∈ later, worker ≠ .waiting := by
  unfold pthreadCondSignal at signalled
  split at signalled
  · rename_i here
    cases signalled
    exact exists_mem_set here (by decide)
  · split at signalled
    · cases signalled
    · rename_i up
      cases signalled
      have nonempty : 0 < threads.length := by
        rw [eight]
        decide
      obtain ⟨worker, member⟩ := List.exists_mem_of_length_pos nonempty
      exact ⟨worker, member, fun waiting => up (waiting ▸ member)⟩

theorem signal_staffed {reqs : Slot → BlockifElem}
    {threads later : List Worker} {woken : Nat}
    (staffed : Staffed reqs threads)
    (signalled : pthreadCondSignal threads woken = some later) :
    Staffed reqs later ∧ later.length = threads.length := by
  unfold pthreadCondSignal at signalled
  split at signalled
  · rename_i here
    cases signalled
    exact ⟨staffed.idle here rfl rfl, List.length_set⟩
  · split at signalled
    · cases signalled
    · cases signalled
      exact ⟨staffed, rfl⟩

/-! What a step of a thread can do. -/

theorem dequeueAct_cases {after : BlockState} {t : Nat}
    (acted : dequeueAct state t = some after) :
    state.threads[t]? = some .awake ∧
      ((∀ be ∈ state.queues.pendq, (state.queues.reqs be).status ≠ .pend) ∧
        after = { state with threads := state.threads.set t .waiting } ∨
      ∃ be, be ∈ state.queues.pendq ∧
        (state.queues.reqs be).status = .pend ∧
        after = { state with
          queues := state.queues.assign be t
          threads := state.threads.set t (.processing be) }) := by
  obtain ⟨here, acted⟩ := Option.ite_none_right_eq_some.mp acted
  refine ⟨here, ?_⟩
  cases took : blockifDequeue state.queues t with
  | none =>
      rw [took] at acted
      exact .inl ⟨blockifDequeue_none took, (Option.some.inj acted).symm⟩
  | some pair =>
      obtain ⟨be, queues⟩ := pair
      obtain ⟨member, pend, rfl⟩ := blockifDequeue_some took
      rw [took] at acted
      exact .inr ⟨be, member, pend, (Option.some.inj acted).symm⟩

theorem callbackAct_cases {after : BlockState} {t : Nat}
    (acted : callbackAct state t = some after) :
    ∃ be, state.threads[t]? = some (.processing be) ∧ after = {
      queues := state.queues.markDone be
      threads := state.threads.set t (.completing be)
      accepted := (state.queues.reqs be).forget state.accepted } := by
  unfold callbackAct at acted
  split at acted
  · rename_i be here
    exact ⟨be, here, (Option.some.inj acted).symm⟩
  · cases acted

theorem completeAct_cases {after : BlockState} {t : Nat}
    (acted : completeAct state t = some after) :
    ∃ be, state.threads[t]? = some (.completing be) ∧ after = { state with
      queues := blockifComplete state.queues be
      threads := state.threads.set t .awake } := by
  unfold completeAct at acted
  split at acted
  · rename_i be here
    exact ⟨be, here, (Option.some.inj acted).symm⟩
  · cases acted

/-! Every step keeps all this. -/

theorem enlist_work (free : (queues.reqs be).Free) (breq : QueuedReq)
    (op : Blockop) (other : Slot) :
    ((queues.enlist breq op be).reqs other).work =
      (queues.reqs other).work := by
  by_cases here : other = be
  · subst here
    rw [free.work]
    simp only [BlockQueues.enlist, update_self]
    exact BlockifElem.Pending.work (statusFor_pending queues breq)
  · simp only [BlockQueues.enlist, update_of_ne here]

theorem enlist_hold (queues : BlockQueues) (be : Slot) (breq : QueuedReq)
    (op : Blockop) :
    (fun other => ((queues.enlist breq op be).reqs other).holds) =
      update (fun other => (queues.reqs other).holds) be
        (some breq.address) := by
  have pending : BlockifElem.Pending { queues.reqs be with
      req := some breq
      op := op
      status := queues.statusFor breq
      block := breq.ends op } := statusFor_pending queues breq
  simp only [BlockQueues.enlist]
  rw [update_hold, pending.holds]
  rfl

/-- Whoever has to wait does so while somebody is up. -/
theorem BlockState.Kept.blocked_manned {breq : QueuedReq}
    (kept : state.Kept)
    (blocked : state.queues.statusFor breq = .block) :
    ∃ worker ∈ state.threads, worker ≠ .waiting := by
  obtain ⟨tbe, listed, _⟩ := statusFor_block blocked
  cases listed with
  | inl pending => exact kept.manned (List.ne_nil_of_mem pending)
  | inr busy =>
      obtain ⟨_, worker, _, here, hand⟩ := kept.worker busy
      exact ⟨worker, List.mem_of_getElem? here, ne_waiting hand⟩

theorem BlockState.Kept.request {after : BlockState} {breq : QueuedReq}
    {op : Blockop} {woken : Nat} (kept : state.Kept)
    (acted : requestAct state breq op woken = some after) : after.Kept := by
  obtain ⟨fresh, acted⟩ := Option.ite_none_left_eq_some.mp acted
  cases room : state.queues.freeq.isEmpty with
  | true =>
      simp only [blockifRequest, room] at acted
      cases acted
      exact kept
  | false =>
      obtain ⟨be, free, enqueued⟩ := kept.queued.enqueue room breq op
      simp only [blockifRequest, room, enqueued, Bool.false_eq_true,
        if_false, ne_eq, not_true_eq_false, decide_eq_true_eq] at acted
      obtain ⟨threads, signalled, done⟩ := Option.map_eq_some_iff.mp acted
      have custody := kept.custody.give fresh free.holds
      have staffed := kept.staffed.congr (enlist_work free breq op)
      rw [← enlist_hold state.queues be breq op] at custody
      cases done
      cases statusFor_pending state.queues breq with
      | inl pend =>
          rw [if_pos pend] at signalled
          obtain ⟨staffed, same⟩ := signal_staffed staffed signalled
          exact ⟨kept.queued.enlist free breq op, staffed, custody,
            fun _ => signal_manned kept.eight signalled,
            same.trans kept.eight⟩
      | inr blocked =>
          rw [if_neg (by rw [blocked]; decide)] at signalled
          cases signalled
          exact ⟨kept.queued.enlist free breq op, staffed, custody,
            fun _ => kept.blocked_manned blocked, kept.eight⟩

theorem BlockState.Kept.cancel {after : BlockState} {breq : Nat}
    (kept : state.Kept)
    (acted : blockifCancel state breq = some after) : after.Kept := by
  obtain ⟨be, found, done⟩ := Option.map_eq_some_iff.mp acted
  have member := List.mem_of_find?_eq_some found
  have pending := (kept.queued.pending.mem_iff be).mp member
  have calls := List.find?_some found
  have holds : (state.queues.reqs be).holds = some breq := by
    obtain ⟨req, same, address⟩ := (Option.any_eq_true _ _).mp calls
    rw [pending.holds, same, Option.map_some, of_decide_eq_true address]
  have taken : ¬(state.queues.reqs be).Free := by
    intro free
    rw [free.holds] at holds
    cases holds
  cases done
  constructor
  · exact kept.queued.complete taken
  · apply kept.staffed.congr
    intro other
    by_cases here : other = be
    · subst here
      rw [(complete_self kept.queued).work, pending.work]
    · exact complete_work kept.queued here
  · show Custody (fun other =>
      ((blockifComplete state.queues be).reqs other).holds) _
    rw [complete_hold kept.queued]
    exact kept.custody.drop holds
  · exact fun _ => kept.manned (List.ne_nil_of_mem member)
  · exact kept.eight

theorem assign_hold {t : Nat} (pend : (queues.reqs be).status = .pend) :
    (fun other => ((queues.assign be t).reqs other).holds) =
      fun other => (queues.reqs other).holds := by
  simp only [BlockQueues.assign]
  rw [update_hold]
  apply update_eq_self_iff.mpr
  simp [BlockifElem.holds, pend]

theorem BlockState.Kept.dequeue {after : BlockState} {t : Nat}
    (kept : state.Kept)
    (acted : dequeueAct state t = some after) : after.Kept := by
  obtain ⟨here, nothing | taken⟩ := dequeueAct_cases acted
  · obtain ⟨idle, rfl⟩ := nothing
    constructor
    · exact kept.queued
    · exact kept.staffed.idle here rfl rfl
    · exact kept.custody
    · intro waiting
      obtain ⟨be, busy⟩ := List.exists_mem_of_ne_nil _
        (kept.queued.unstarted waiting idle)
      obtain ⟨place, worker, stage, there, hand⟩ := kept.worker busy
      have apart : t ≠ place := by
        rintro rfl
        rw [here] at there
        cases there
        cases hand
      refine ⟨worker, ?_, ne_waiting hand⟩
      apply List.mem_of_getElem? (i := place)
      rw [List.getElem?_set_ne apart, there]
    · exact List.length_set.trans kept.eight
  · obtain ⟨be, member, pend, rfl⟩ := taken
    constructor
    · exact kept.queued.assign pend t
    · apply kept.staffed.change here be
      · intro other apart
        simp only [BlockQueues.assign, update_of_ne apart]
      · intro stage place work
        rw [BlockifElem.Pending.work (.inl pend)] at work
        cases work
      · intro other stage hand
        cases hand
      · intro stage place
        simp [BlockQueues.assign, BlockifElem.work, Worker.hand,
          and_comm, eq_comm]
      · intro other stage hand
        cases hand
        rfl
    · exact (assign_hold pend).symm ▸ kept.custody
    · exact fun _ => exists_mem_set here (by simp)
    · exact List.length_set.trans kept.eight

theorem BlockState.Kept.inHand {t : Nat} {worker : Worker}
    {stage : Blockstat} (kept : state.Kept)
    (here : state.threads[t]? = some worker)
    (hand : worker.hand = some (be, stage)) :
    (state.queues.reqs be).status = stage ∧
      (state.queues.reqs be).tid = t := by
  have work := (kept.staffed be stage t).mpr (by
    rw [here, Option.bind_some, hand])
  unfold BlockifElem.work at work
  split at work
  · rename_i busy
    cases work
    exact ⟨busy, rfl⟩
  · rename_i done
    cases work
    exact ⟨done, rfl⟩
  · cases work

theorem markDone_hold (queues : BlockQueues) (be : Slot) :
    (fun other => ((queues.markDone be).reqs other).holds) =
      update (fun other => (queues.reqs other).holds) be none := by
  simp only [BlockQueues.markDone]
  rw [update_hold]
  rfl

theorem BlockState.Kept.called (kept : state.Kept)
    (busy : (state.queues.reqs be).status = .busy) :
    Custody (update (fun other => (state.queues.reqs other).holds) be none)
      ((state.queues.reqs be).forget state.accepted) := by
  have holds : (state.queues.reqs be).holds =
      (state.queues.reqs be).req.map (·.address) := by
    simp [BlockifElem.holds, busy]
  unfold BlockifElem.forget
  split
  · rename_i bare
    rw [bare, Option.map_none] at holds
    rw [update_eq_self_iff.mpr holds.symm]
    exact kept.custody
  · rename_i req same
    rw [same, Option.map_some] at holds
    exact kept.custody.drop holds

theorem BlockState.Kept.callback {after : BlockState} {t : Nat}
    (kept : state.Kept)
    (acted : callbackAct state t = some after) : after.Kept := by
  obtain ⟨be, here, rfl⟩ := callbackAct_cases acted
  obtain ⟨busy, mine⟩ := kept.inHand here rfl
  constructor
  · exact kept.queued.markDone busy
  · apply kept.staffed.change here be
    · intro other apart
      simp only [BlockQueues.markDone, update_of_ne apart]
    · intro stage place work
      simp only [BlockifElem.work, busy, mine] at work
      cases work
      rfl
    · intro other stage hand
      cases hand
      rfl
    · intro stage place
      simp [BlockQueues.markDone, BlockifElem.work, Worker.hand, mine,
        and_comm, eq_comm]
    · intro other stage hand
      cases hand
      rfl
  · exact (markDone_hold state.queues be).symm ▸ kept.called busy
  · exact fun _ => exists_mem_set here (by simp)
  · exact List.length_set.trans kept.eight

theorem BlockState.Kept.complete {after : BlockState} {t : Nat}
    (kept : state.Kept)
    (acted : completeAct state t = some after) : after.Kept := by
  obtain ⟨be, here, rfl⟩ := completeAct_cases acted
  obtain ⟨done, mine⟩ := kept.inHand here rfl
  have taken : ¬(state.queues.reqs be).Free := by
    simp [BlockifElem.Free, done]
  have holds : (state.queues.reqs be).holds = none := by
    simp [BlockifElem.holds, done]
  constructor
  · exact kept.queued.complete taken
  · apply kept.staffed.change here be
    · exact fun other apart => complete_work kept.queued apart
    · intro stage place work
      simp only [BlockifElem.work, done, mine] at work
      cases work
      rfl
    · intro other stage hand
      cases hand
      rfl
    · intro stage place
      rw [(complete_self kept.queued).work]
      simp [Worker.hand]
    · intro other stage hand
      cases hand
  · show Custody (fun other =>
      ((blockifComplete state.queues be).reqs other).holds) _
    rw [complete_hold kept.queued, update_eq_self_iff.mpr holds.symm]
    exact kept.custody
  · exact fun _ => exists_mem_set here (by decide)
  · exact List.length_set.trans kept.eight

theorem BlockState.Kept.step {before after : BlockState}
    {label : BlockLabel} (kept : before.Kept)
    (acted : blockAct before label = some after) : after.Kept := by
  cases label with
  | request breq op woken => exact kept.request acted
  | cancel breq => exact kept.cancel acted
  | wake t =>
      obtain ⟨here, done⟩ := Option.ite_none_right_eq_some.mp acted
      cases done
      exact ⟨kept.queued, kept.staffed.idle here rfl rfl, kept.custody,
        fun _ => exists_mem_set here (by decide),
        List.length_set.trans kept.eight⟩
  | dequeue t => exact kept.dequeue acted
  | callback t => exact kept.callback acted
  | complete t => exact kept.complete acted

theorem blockSystem_kept (reached : blockSystem.Reached state) :
    state.Kept := by
  apply TransitionSystem.Reached.invariant BlockState.Kept _ _ reached
  · rintro _ rfl
    exact initial_kept
  · exact fun _ _ _ kept acted => kept.step acted

/-! The threads alone bring everything to its end. -/

def BlockLabel.byWorker : BlockLabel → Bool
  | .dequeue _ | .callback _ | .complete _ => true
  | _ => false

def Worker.effort : Worker → Nat
  | .waiting => 0
  | .awake => 1
  | .processing _ => 3
  | .completing _ => 2

/-- At most so many steps of the threads are left. -/
def BlockState.load (state : BlockState) : Nat :=
  4 * state.queues.pendq.length + (state.threads.map Worker.effort).sum

theorem effort_set {threads : List Worker} {t : Nat} {old : Worker}
    (here : threads[t]? = some old) (new : Worker) :
    ((threads.set t new).map Worker.effort).sum + old.effort =
      (threads.map Worker.effort).sum + new.effort := by
  induction threads generalizing t with
  | nil => cases here
  | cons first rest induction =>
      cases t with
      | zero =>
          cases here
          simp only [List.set_cons_zero, List.map_cons, List.sum_cons]
          omega
      | succ t =>
          have later := induction here
          simp only [List.set_cons_succ, List.map_cons, List.sum_cons]
          omega

theorem complete_pendq (done : (queues.reqs be).status = .done) :
    (blockifComplete queues be).pendq = queues.pendq := by
  simp [blockifComplete, BlockQueues.release, BlockQueues.remove, done]

theorem BlockState.Kept.load_lt {before after : BlockState}
    {label : BlockLabel} (kept : before.Kept)
    (worker : label.byWorker = true)
    (acted : blockAct before label = some after) :
    after.load < before.load := by
  cases label with
  | request breq op woken => cases worker
  | cancel breq => cases worker
  | wake t => cases worker
  | dequeue t =>
      obtain ⟨here, nothing | taken⟩ := dequeueAct_cases acted
      · obtain ⟨_, rfl⟩ := nothing
        have effort := effort_set here .waiting
        simp only [Worker.effort] at effort
        simp only [BlockState.load]
        omega
      · obtain ⟨be, member, _, rfl⟩ := taken
        have effort := effort_set here (.processing be)
        have fewer := List.length_erase_of_mem member
        have nonempty := List.length_pos_of_mem member
        simp only [Worker.effort] at effort
        simp only [BlockState.load, BlockQueues.assign]
        omega
  | callback t =>
      obtain ⟨be, here, rfl⟩ := callbackAct_cases acted
      have effort := effort_set here (.completing be)
      simp only [Worker.effort] at effort
      simp only [BlockState.load, BlockQueues.markDone]
      omega
  | complete t =>
      obtain ⟨be, here, rfl⟩ := completeAct_cases acted
      have effort := effort_set here .awake
      have pendq := complete_pendq (kept.inHand here rfl).1
      simp only [Worker.effort] at effort
      simp only [BlockState.load, pendq]
      omega

theorem BlockState.Kept.run_length {labels : List BlockLabel}
    {later : BlockState} (kept : state.Kept)
    (workers : ∀ label ∈ labels, label.byWorker = true)
    (ran : labels.foldlM blockAct state = some later) :
    later.Kept ∧ labels.length + later.load ≤ state.load := by
  induction labels generalizing state with
  | nil =>
      cases ran
      exact ⟨kept, Nat.le_of_eq (Nat.zero_add _)⟩
  | cons label rest induction =>
      rw [List.foldlM_cons] at ran
      obtain ⟨next, acted, ran⟩ := Option.bind_eq_some_iff.mp ran
      have first := List.forall_mem_cons.mp workers
      have less := kept.load_lt first.1 acted
      obtain ⟨keptLater, bound⟩ := induction (kept.step acted) first.2 ran
      refine ⟨keptLater, ?_⟩
      rw [List.length_cons]
      omega

/-- When no thread can go on, none has anything left to do. -/
theorem BlockState.Kept.stuck (kept : state.Kept)
    (stuck : ∀ label : BlockLabel, label.byWorker = true →
      blockAct state label = none) :
    ∀ be, (state.queues.reqs be).status = .free := by
  have asleep : ∀ worker ∈ state.threads, worker = .waiting := by
    intro worker member
    obtain ⟨t, here⟩ := List.mem_iff_getElem?.mp member
    cases worker with
    | waiting => rfl
    | awake =>
        have still := stuck (.dequeue t) rfl
        simp only [blockAct, dequeueAct, here, if_true] at still
        split at still <;> cases still
    | processing be =>
        have still := stuck (.callback t) rfl
        simp [blockAct, callbackAct, here] at still
    | completing be =>
        have still := stuck (.complete t) rfl
        simp [blockAct, completeAct, here] at still
  have notPending : state.queues.pendq = [] := by
    by_contra waiting
    obtain ⟨worker, member, up⟩ := kept.manned waiting
    exact up (asleep worker member)
  have notBusy : state.queues.busyq = [] := by
    apply List.eq_nil_iff_forall_not_mem.mpr
    intro be busy
    obtain ⟨_, worker, _, here, hand⟩ := kept.worker busy
    exact ne_waiting hand (asleep worker (List.mem_of_getElem? here))
  intro be
  have pending := kept.queued.pending.mem_iff be
  have busy := kept.queued.busy.mem_iff be
  simp only [notPending, notBusy, List.not_mem_nil, false_iff,
    BlockifElem.Pending, BlockifElem.Busy, not_or] at pending busy
  cases status : (state.queues.reqs be).status with
  | free => rfl
  | pend => exact absurd status pending.1
  | block => exact absurd status pending.2
  | busy => exact absurd status busy.1
  | done => exact absurd status busy.2

end Run

/-- How often an element is on `freeq`, `pendq` and `busyq`. -/
def BlockQueues.places (queues : BlockQueues) (be : Slot) :
    Nat × Nat × Nat :=
  (queues.freeq.count be, queues.pendq.count be, queues.busyq.count be)

def Blockstat.places : Blockstat → Nat × Nat × Nat
  | .free => (1, 0, 0)
  | .pend | .block => (0, 1, 0)
  | .busy | .done => (0, 0, 1)

theorem BlockQueues.Queued.places {queues : BlockQueues}
    (queued : queues.Queued) (be : Slot) :
    queues.places be = (queues.reqs be).status.places := by
  unfold BlockQueues.places
  cases status : (queues.reqs be).status with
  | free =>
      rw [queued.free.count_fits status,
        queued.pending.count_unfit (by simp [BlockifElem.Pending, status]),
        queued.busy.count_unfit (by simp [BlockifElem.Busy, status])]
      rfl
  | pend =>
      rw [queued.free.count_unfit (by simp [BlockifElem.Free, status]),
        queued.pending.count_fits (.inl status),
        queued.busy.count_unfit (by simp [BlockifElem.Busy, status])]
      rfl
  | block =>
      rw [queued.free.count_unfit (by simp [BlockifElem.Free, status]),
        queued.pending.count_fits (.inr status),
        queued.busy.count_unfit (by simp [BlockifElem.Busy, status])]
      rfl
  | busy =>
      rw [queued.free.count_unfit (by simp [BlockifElem.Free, status]),
        queued.pending.count_unfit (by simp [BlockifElem.Pending, status]),
        queued.busy.count_fits (.inl status)]
      rfl
  | done =>
      rw [queued.free.count_unfit (by simp [BlockifElem.Free, status]),
        queued.pending.count_unfit (by simp [BlockifElem.Pending, status]),
        queued.busy.count_fits (.inr status)]
      rfl

/-- The lists agree with the statuses, every accepted request is in one
place, whoever is blocked waits for another element, E2BIG means that all
elements are in use, and the threads alone, in any order, free all elements
in so many steps. -/
structure BlockState.Sound (state : BlockState) : Prop where
  listed : ∀ be, state.queues.places be =
    (state.queues.reqs be).status.places
  held : ∀ breq ∈ state.accepted,
    ∃! be, (state.queues.reqs be).holds = some breq
  awaited : ∀ be, (state.queues.reqs be).status = .block →
    ∃ other, other ≠ be ∧
      (other ∈ state.queues.pendq ∨ other ∈ state.queues.busyq) ∧
      (state.queues.reqs be).starts = some (state.queues.reqs other).block
  full : ∀ breq op, (blockifRequest state.queues breq op).1 = e2big ↔
    ∀ be, (state.queues.reqs be).status ≠ .free
  ends : ∀ (labels : List BlockLabel) (later : BlockState),
    (∀ label ∈ labels, label.byWorker = true) →
    labels.foldlM blockAct state = some later →
    labels.length ≤ state.load ∧
      ((∀ label : BlockLabel, label.byWorker = true →
          blockAct later label = none) →
        ∀ be, (later.queues.reqs be).status = .free)

theorem BlockQueues.Queued.waitsFor {queues : BlockQueues} {be : Slot}
    (queued : queues.Queued) (blocked : (queues.reqs be).status = .block) :
    ∃ other, other ≠ be ∧
      (other ∈ queues.pendq ∨ other ∈ queues.busyq) ∧
      (queues.reqs be).starts = some (queues.reqs other).block := by
  obtain ⟨other, same, listed⟩ := queued.awaited be blocked
  refine ⟨other, ?_, listed.symm.imp_left fun pair =>
    pair.subset List.mem_cons_self, same⟩
  rintro rfl
  cases listed with
  | inl busy =>
      have kind := (queued.busy.mem_iff other).mp busy
      simp [BlockifElem.Busy, blocked] at kind
  | inr pair =>
      have twice := pair.nodup queued.pending.nodup
      simp at twice

theorem blockSystem_sound {state : BlockState}
    (reached : blockSystem.Reached state) : state.Sound := by
  have kept := blockSystem_kept reached
  constructor
  · exact kept.queued.places
  · exact fun breq accepted => kept.custody.existsUnique accepted
  · exact fun be blocked => kept.queued.waitsFor blocked
  · exact kept.queued.e2big_iff
  · intro labels later workers ran
    obtain ⟨keptLater, bound⟩ := kept.run_length workers ran
    exact ⟨Nat.le_trans (Nat.le_add_right _ _) bound, keptLater.stuck⟩

/-- A request in work, and one that starts where it ends. -/
theorem blockSystem_sound_chained :
    ∃ state, blockSystem.Reached state ∧
      state.queues.busyq.map (fun be => (state.queues.reqs be).status) =
        [.busy] ∧
      state.queues.pendq.map (fun be => (state.queues.reqs be).status) =
        [.block] ∧
      state.Sound := by
  obtain ⟨state, reached, checked⟩ :=
    @TransitionSystem.exists_reached _ _ blockSystem blockAct .initial
      [.request ⟨4096, 0, [512, 512]⟩ .write 0, .dequeue 3,
        .request ⟨8192, 1024, [4096]⟩ .read 0]
      (fun state => decide (
        state.queues.busyq.map (fun be => (state.queues.reqs be).status) =
          [.busy] ∧
        state.queues.pendq.map (fun be => (state.queues.reqs be).status) =
          [.block]))
      (fun acted => acted) rfl (by decide +kernel)
  obtain ⟨busy, blocked⟩ := of_decide_eq_true checked
  exact ⟨state, reached, busy, blocked, blockSystem_sound reached⟩

end VirtioGpu.Block
