import VirtioGpu.Foundation.Rosters
import VirtioGpu.Foundation.Transition

namespace VirtioGpu.Core

open Foundation
open Function

/-! Events that the dispatch thread handles and any thread deletes. -/

def meventMax : Nat := 64

/-- How far the calls about an mevent have got: not allocated, known to epoll
only, on `global_head`, taken off it by another thread, on `del_head`, or
freed. -/
inductive Stage where
  | fresh
  | adding
  | listed
  | removing
  | deferred
  | freed
  deriving Repr, DecidableEq

/-- `teardown` says whether there is one, `registered` whether epoll reports
the mevent, `deleted` whether a call of `mevent_delete` for it returned. -/
structure Mevent where
  meState : Bool
  teardown : Bool
  registered : Bool
  stage : Stage
  deleted : Bool
  deriving Repr, DecidableEq

/-- The dispatch thread, with what `mevent_handle` has still to look at. -/
inductive DispatchPhase where
  | polling
  | handling (batch : List Nat)
  | calling (mevp : Nat) (rest : List Nat)
  | running (mevp : Nat) (rest : List Nat)
  | leaving
  | destroyed
  deriving Repr, DecidableEq

def DispatchPhase.pending : DispatchPhase → List Nat
  | .handling batch => batch
  | .calling mevp rest => mevp :: rest
  | .running _ rest => rest
  | _ => []

inductive LoopFault where
  | usesFreed (mevp : Nat)
  | runsDeleted (mevp : Nat)
  deriving Repr, DecidableEq

/-- `removing` has the mevents that other threads are in the middle of
deleting, `teardowns` and `frees` the calls so far. -/
structure MeventLoop where
  mevents : Nat → Mevent
  globalHead : List Nat
  removing : List Nat
  delHead : List Nat
  teardowns : List Nat
  frees : List Nat
  phase : DispatchPhase
  faults : List LoopFault

def MeventLoop.initial : MeventLoop where
  mevents := fun _ => ⟨false, false, false, .fresh, false⟩
  globalHead := []
  removing := []
  delHead := []
  teardowns := []
  frees := []
  phase := .polling
  faults := []

def MeventLoop.revise (loop : MeventLoop) (evp : Nat) (entry : Mevent) :
    MeventLoop :=
  { loop with mevents := update loop.mevents evp entry }

/-- The call of the teardown, if there is one, and `free`. -/
def MeventLoop.release (loop : MeventLoop) (evp : Nat) : MeventLoop :=
  { loop.revise evp { loop.mevents evp with stage := .freed } with
    teardowns :=
      if (loop.mevents evp).teardown then loop.teardowns ++ [evp]
      else loop.teardowns
    frees := loop.frees ++ [evp] }

/-- `mevent_add` up to `epoll_ctl`, which succeeds. -/
def meventAlloc (loop : MeventLoop) (mevp : Nat) (teardown : Bool) :
    MeventLoop :=
  loop.revise mevp ⟨true, teardown, true, .adding, false⟩

def meventInsert (loop : MeventLoop) (mevp : Nat) : MeventLoop :=
  { loop.revise mevp { loop.mevents mevp with stage := .listed } with
    globalHead := mevp :: loop.globalHead }

/-! `mevent_delete_event` of another thread, section by section. -/

def deleteRemove (loop : MeventLoop) (evp : Nat) : MeventLoop :=
  { loop.revise evp { loop.mevents evp with stage := .removing } with
    globalHead := loop.globalHead.erase evp
    removing := evp :: loop.removing }

def deleteClear (loop : MeventLoop) (evp : Nat) : MeventLoop :=
  loop.revise evp { loop.mevents evp with meState := false }

def deleteUnregister (loop : MeventLoop) (evp : Nat) : MeventLoop :=
  loop.revise evp { loop.mevents evp with registered := false }

/-- `mevent_add_to_del_list`, and the return. -/
def meventAddToDelList (loop : MeventLoop) (evp : Nat) : MeventLoop :=
  { loop.revise evp
      { loop.mevents evp with stage := .deferred, deleted := true } with
    removing := loop.removing.erase evp
    delHead := evp :: loop.delHead }

/-- `mevent_delete_event` of the dispatch thread, as a whole. -/
def deleteHere (loop : MeventLoop) (evp : Nat) : MeventLoop :=
  MeventLoop.release
    { loop.revise evp { loop.mevents evp with
        meState := false
        registered := false
        deleted := true } with
      globalHead := loop.globalHead.erase evp } evp

def drainOne (loop : MeventLoop) (evp : Nat) : MeventLoop :=
  MeventLoop.release { loop with delHead := loop.delHead.erase evp } evp

def meventDrainDelList (loop : MeventLoop) : MeventLoop :=
  loop.delHead.foldl drainOne loop

def destroyOne (loop : MeventLoop) (mevp : Nat) : MeventLoop :=
  MeventLoop.release
    { loop.revise mevp
        { loop.mevents mevp with registered := false } with
      globalHead := loop.globalHead.erase mevp } mevp

/-- The second loop differs from a drain in the descriptors it closes. -/
def meventDestroy (loop : MeventLoop) : MeventLoop :=
  meventDrainDelList (loop.globalHead.foldl destroyOne loop)

/-- A read of the mevent, and perhaps a call of `run`. -/
def MeventLoop.touch (loop : MeventLoop) (mevp : Nat) (runs : Bool) :
    MeventLoop :=
  { loop with faults := loop.faults ++
      (if (loop.mevents mevp).stage = .freed then [.usesFreed mevp]
       else []) ++
      (if runs && (loop.mevents mevp).deleted then [.runsDeleted mevp]
       else []) }

inductive LoopLabel where
  | alloc (mevp : Nat) (teardown : Bool)
  | insert (mevp : Nat)
  | remove (evp : Nat)
  | clear (evp : Nat)
  | unregister (evp : Nat)
  | defer (evp : Nat)
  | poll (batch : List Nat)
  | test
  | run
  | callbackDeletes (evp : Nat)
  | callbackReturns
  | drain (leave : Bool)
  | destroy
  deriving Repr, DecidableEq

/-- The test of `me_state` in `mevent_handle`. -/
def testAct (loop : MeventLoop) : Option MeventLoop :=
  match loop.phase with
  | .handling (mevp :: rest) => some { loop.touch mevp false with
      phase := if (loop.mevents mevp).meState then .calling mevp rest
        else .handling rest }
  | _ => none

def runAct (loop : MeventLoop) : Option MeventLoop :=
  match loop.phase with
  | .calling mevp rest =>
      some { loop.touch mevp true with phase := .running mevp rest }
  | _ => none

def DispatchPhase.deletes : DispatchPhase → Bool
  | .running _ _ | .leaving => true
  | _ => false

def meventAct (loop : MeventLoop) : LoopLabel → Option MeventLoop
  | .alloc mevp teardown =>
      if (loop.mevents mevp).stage = .fresh ∧ loop.phase ≠ .destroyed then
        some (meventAlloc loop mevp teardown)
      else none
  | .insert mevp =>
      if (loop.mevents mevp).stage = .adding then
        some (meventInsert loop mevp)
      else none
  | .remove evp =>
      if (loop.mevents evp).stage = .listed ∧ loop.phase ≠ .destroyed then
        some (deleteRemove loop evp)
      else none
  | .clear evp =>
      if (loop.mevents evp).stage = .removing then
        some (deleteClear loop evp)
      else none
  | .unregister evp =>
      if (loop.mevents evp).stage = .removing ∧
          (loop.mevents evp).meState = false then
        some (deleteUnregister loop evp)
      else none
  | .defer evp =>
      if (loop.mevents evp).stage = .removing ∧
          (loop.mevents evp).meState = false ∧
          (loop.mevents evp).registered = false then
        some (meventAddToDelList loop evp)
      else none
  | .poll batch =>
      if loop.phase = .polling ∧ batch.length ≤ meventMax ∧
          batch.Nodup ∧
          ∀ mevp ∈ batch, (loop.mevents mevp).registered = true then
        some { loop with phase := .handling batch }
      else none
  | .test => testAct loop
  | .run => runAct loop
  | .callbackDeletes evp =>
      if loop.phase.deletes ∧ (loop.mevents evp).stage = .listed then
        some (deleteHere loop evp)
      else none
  | .callbackReturns =>
      match loop.phase with
      | .running _ rest => some { loop with phase := .handling rest }
      | _ => none
  | .drain leave =>
      if loop.phase = .handling [] then
        some { meventDrainDelList loop with
          phase := if leave then .leaving else .polling }
      else none
  | .destroy =>
      if loop.phase = .leaving then
        some { meventDestroy loop with phase := .destroyed }
      else none

def meventSystem : TransitionSystem MeventLoop LoopLabel where
  initial := fun loop => loop = .initial
  step := fun before label after => meventAct before label = some after

/-- No freed mevent is used and no deleted one run; whoever is deleted is
torn down and freed at most once, and has been when the loop is destroyed. -/
structure MeventLoop.Safe (loop : MeventLoop) : Prop where
  right : loop.faults = []
  once : ∀ evp, (loop.mevents evp).deleted = true →
    loop.frees.count evp ≤ 1 ∧ loop.teardowns.count evp =
      if (loop.mevents evp).teardown then loop.frees.count evp else 0
  settled : loop.phase = .destroyed →
    ∀ evp, (loop.mevents evp).deleted = true → loop.frees.count evp = 1

/-- A callback deletes an mevent that is still to be looked at, another
thread's delete returns between the test of `me_state` and the call of `run`,
or the loop is destroyed in the middle of a delete. -/
def careless (loop : MeventLoop) : LoopLabel → Bool
  | .callbackDeletes evp => evp ∈ loop.phase.pending
  | .defer evp =>
      match loop.phase with
      | .calling mevp _ => mevp = evp
      | _ => false
  | .destroy => loop.removing ≠ []
  | _ => false

/-! What holds between any two steps. -/

/-- Epoll reports nothing that waits to be freed, and what has been deleted
is off the list and out of use. -/
structure Mevent.Coherent (mevp : Mevent) : Prop where
  reported : mevp.registered = true →
    mevp.stage ≠ .deferred ∧ mevp.stage ≠ .freed
  gone : mevp.deleted = true →
    (mevp.stage = .deferred ∨ mevp.stage = .freed) ∧ mevp.meState = false

structure MeventLoop.Sorted (loop : MeventLoop) : Prop where
  listed : Roster loop.globalHead loop.mevents (·.stage = .listed)
  removing : Roster loop.removing loop.mevents (·.stage = .removing)
  deferred : Roster loop.delHead loop.mevents (·.stage = .deferred)
  freed : Roster loop.frees loop.mevents (·.stage = .freed)

structure MeventLoop.Kept (loop : MeventLoop) : Prop where
  sorted : loop.Sorted
  coherent : ∀ evp, (loop.mevents evp).Coherent
  torn : loop.teardowns =
    loop.frees.filter fun evp => (loop.mevents evp).teardown
  alive : ∀ evp ∈ loop.phase.pending, (loop.mevents evp).stage ≠ .freed
  called : ∀ evp rest, loop.phase = .calling evp rest →
    (loop.mevents evp).deleted = false
  right : loop.faults = []
  settled : loop.phase = .destroyed →
    loop.removing = [] ∧ loop.delHead = []

section Loop

variable {loop after : MeventLoop} {evp : Nat} {entry : Mevent}

theorem initial_kept : MeventLoop.initial.Kept where
  sorted := by
    constructor <;>
      exact ⟨List.nodup_nil, fun evp => by simp [MeventLoop.initial]⟩
  coherent := by
    intro evp
    constructor
    · intro reported
      cases reported
    · intro gone
      cases gone
  torn := rfl
  alive := fun evp member => by cases member
  called := fun evp rest phase => by cases phase
  right := rfl
  settled := fun phase => by cases phase

/-! Steps that change one mevent and its place. -/

/-- A new entry that says as much about its list as the old one. -/
theorem MeventLoop.Sorted.stay (sorted : loop.Sorted)
    (same : ∀ stage, stage ≠ .fresh → stage ≠ .adding →
      (entry.stage = stage ↔ (loop.mevents evp).stage = stage)) :
    (loop.revise evp entry).Sorted where
  listed := sorted.listed.stay (same _ (by decide) (by decide))
  removing := sorted.removing.stay (same _ (by decide) (by decide))
  deferred := sorted.deferred.stay (same _ (by decide) (by decide))
  freed := sorted.freed.stay (same _ (by decide) (by decide))

/-- One mevent is changed, and none is freed. -/
structure Revises (loop after : MeventLoop) (evp : Nat)
    (entry : Mevent) : Prop where
  table : after.mevents = update loop.mevents evp entry
  frees : after.frees = loop.frees
  teardowns : after.teardowns = loop.teardowns
  phase : after.phase = loop.phase
  faults : after.faults = loop.faults

theorem Revises.kept (revises : Revises loop after evp entry)
    (kept : loop.Kept) (sorted : after.Sorted) (coherent : entry.Coherent)
    (teardown : entry.teardown = (loop.mevents evp).teardown ∨
      evp ∉ loop.frees)
    (alive : entry.stage ≠ .freed)
    (called : ∀ rest, loop.phase = .calling evp rest →
      entry.deleted = false)
    (settled : loop.phase = .destroyed →
      after.removing = [] ∧ after.delHead = []) : after.Kept := by
  refine ⟨sorted, ?_, ?_, ?_, ?_, ?_, ?_⟩
  · rw [revises.table]
    intro other
    by_cases here : other = evp
    · rw [here, update_self]
      exact coherent
    · rw [update_of_ne here]
      exact kept.coherent other
  · rw [revises.teardowns, revises.frees, kept.torn, revises.table]
    apply List.filter_congr
    intro other member
    by_cases here : other = evp
    · rw [here, update_self]
      rw [here] at member
      exact (teardown.resolve_right (not_not_intro member)).symm
    · rw [update_of_ne here]
  · rw [revises.phase, revises.table]
    intro other pending
    by_cases here : other = evp
    · rw [here, update_self]
      exact alive
    · rw [update_of_ne here]
      exact kept.alive other pending
  · rw [revises.phase, revises.table]
    intro other rest phase
    by_cases here : other = evp
    · rw [here, update_self]
      exact called rest (here ▸ phase)
    · rw [update_of_ne here]
      exact kept.called other rest phase
  · rw [revises.faults]
    exact kept.right
  · rw [revises.phase]
    exact settled

theorem MeventLoop.Kept.alloc (kept : loop.Kept)
    (fresh : (loop.mevents evp).stage = .fresh) (teardown : Bool) :
    (meventAlloc loop evp teardown).Kept := by
  have revises : Revises loop (meventAlloc loop evp teardown) evp
      ⟨true, teardown, true, .adding, false⟩ := ⟨rfl, rfl, rfl, rfl, rfl⟩
  apply revises.kept kept
  · apply kept.sorted.stay
    intro stage notFresh notAdding
    rw [fresh]
    exact iff_of_false notAdding.symm notFresh.symm
  · constructor
    · simp
    · intro gone
      cases gone
  · refine .inr fun member => ?_
    have freed := (kept.sorted.freed.mem_iff evp).mp member
    rw [fresh] at freed
    cases freed
  · simp
  · exact fun _ _ => rfl
  · exact kept.settled

theorem MeventLoop.Kept.insert (kept : loop.Kept)
    (adding : (loop.mevents evp).stage = .adding) :
    (meventInsert loop evp).Kept := by
  have revises : Revises loop (meventInsert loop evp) evp
      { loop.mevents evp with stage := .listed } := ⟨rfl, rfl, rfl, rfl, rfl⟩
  apply revises.kept kept
  · constructor
    · exact kept.sorted.listed.push (by simp [adding]) rfl
    · exact kept.sorted.removing.stay (by simp [adding])
    · exact kept.sorted.deferred.stay (by simp [adding])
    · exact kept.sorted.freed.stay (by simp [adding])
  · refine ⟨fun _ => ⟨by simp, by simp⟩, fun gone => ?_⟩
    have stage := ((kept.coherent evp).gone gone).1
    simp [adding] at stage
  · exact .inl rfl
  · simp
  · exact kept.called evp
  · exact kept.settled

theorem MeventLoop.Kept.remove (kept : loop.Kept)
    (listed : (loop.mevents evp).stage = .listed)
    (lasts : loop.phase ≠ .destroyed) : (deleteRemove loop evp).Kept := by
  have revises : Revises loop (deleteRemove loop evp) evp
      { loop.mevents evp with stage := .removing } :=
    ⟨rfl, rfl, rfl, rfl, rfl⟩
  apply revises.kept kept
  · constructor
    · exact kept.sorted.listed.leave (by simp)
    · exact kept.sorted.removing.push (by simp [listed]) rfl
    · exact kept.sorted.deferred.stay (by simp [listed])
    · exact kept.sorted.freed.stay (by simp [listed])
  · refine ⟨fun _ => ⟨by simp, by simp⟩, fun gone => ?_⟩
    have stage := ((kept.coherent evp).gone gone).1
    simp [listed] at stage
  · exact .inl rfl
  · simp
  · exact kept.called evp
  · exact fun phase => absurd phase lasts

theorem MeventLoop.Kept.clear (kept : loop.Kept)
    (removing : (loop.mevents evp).stage = .removing) :
    (deleteClear loop evp).Kept := by
  have revises : Revises loop (deleteClear loop evp) evp
      { loop.mevents evp with meState := false } := ⟨rfl, rfl, rfl, rfl, rfl⟩
  apply revises.kept kept
  · exact kept.sorted.stay fun _ _ _ => Iff.rfl
  · exact ⟨(kept.coherent evp).reported,
      fun gone => ⟨((kept.coherent evp).gone gone).1, rfl⟩⟩
  · exact .inl rfl
  · simp [removing]
  · exact kept.called evp
  · exact kept.settled

theorem MeventLoop.Kept.unregister (kept : loop.Kept)
    (removing : (loop.mevents evp).stage = .removing) :
    (deleteUnregister loop evp).Kept := by
  have revises : Revises loop (deleteUnregister loop evp) evp
      { loop.mevents evp with registered := false } :=
    ⟨rfl, rfl, rfl, rfl, rfl⟩
  apply revises.kept kept
  · exact kept.sorted.stay fun _ _ _ => Iff.rfl
  · constructor
    · intro reported
      cases reported
    · exact (kept.coherent evp).gone
  · exact .inl rfl
  · simp [removing]
  · exact kept.called evp
  · exact kept.settled

theorem MeventLoop.Kept.defer (kept : loop.Kept)
    (removing : (loop.mevents evp).stage = .removing)
    (cleared : (loop.mevents evp).meState = false)
    (unregistered : (loop.mevents evp).registered = false)
    (careful : careless loop (.defer evp) = false) :
    (meventAddToDelList loop evp).Kept := by
  have revises : Revises loop (meventAddToDelList loop evp) evp
      { loop.mevents evp with stage := .deferred, deleted := true } :=
    ⟨rfl, rfl, rfl, rfl, rfl⟩
  apply revises.kept kept
  · constructor
    · exact kept.sorted.listed.stay (by simp [removing])
    · exact kept.sorted.removing.leave (by simp)
    · exact kept.sorted.deferred.push (by simp [removing]) rfl
    · exact kept.sorted.freed.stay (by simp [removing])
  · refine ⟨fun reported => ?_, fun _ => ⟨.inl rfl, cleared⟩⟩
    rw [unregistered] at reported
    cases reported
  · exact .inl rfl
  · simp
  · intro rest phase
    simp [careless, phase] at careful
  · intro phase
    have member := (kept.sorted.removing.mem_iff evp).mpr removing
    rw [(kept.settled phase).1] at member
    cases member

/-! Steps that free. -/

/-- One mevent is freed, which no list has any more and nobody looks at. -/
structure Frees (loop after : MeventLoop) (evp : Nat)
    (entry : Mevent) : Prop where
  table : after.mevents = update loop.mevents evp entry
  frees : after.frees = loop.frees ++ [evp]
  teardowns : after.teardowns =
    if entry.teardown then loop.teardowns ++ [evp] else loop.teardowns
  removing : after.removing = loop.removing
  phase : after.phase = loop.phase
  faults : after.faults = loop.faults
  stage : entry.stage = .freed
  same : entry.teardown = (loop.mevents evp).teardown
  reported : entry.registered = false
  gone : entry.deleted = true → entry.meState = false

theorem Frees.kept (frees : Frees loop after evp entry) (kept : loop.Kept)
    (sorted : after.Sorted) (unseen : evp ∉ loop.phase.pending)
    (settled : loop.phase = .destroyed →
      after.removing = [] ∧ after.delHead = []) : after.Kept := by
  refine ⟨sorted, ?_, ?_, ?_, ?_, ?_, ?_⟩
  · rw [frees.table]
    intro other
    by_cases here : other = evp
    · rw [here, update_self]
      constructor
      · intro reported
        rw [frees.reported] at reported
        cases reported
      · exact fun gone => ⟨.inr frees.stage, frees.gone gone⟩
    · rw [update_of_ne here]
      exact kept.coherent other
  · have earlier : loop.frees.filter
        (fun other => (update loop.mevents evp entry other).teardown) =
        loop.teardowns := by
      rw [kept.torn]
      apply List.filter_congr
      intro other _
      by_cases here : other = evp
      · rw [here, update_self, frees.same]
      · rw [update_of_ne here]
    rw [frees.teardowns, frees.frees, frees.table, List.filter_append,
      earlier]
    cases torn : entry.teardown with
    | true => simp [torn]
    | false => simp [torn]
  · rw [frees.phase, frees.table]
    intro other pending
    have apart : other ≠ evp := fun same => unseen (same ▸ pending)
    rw [update_of_ne apart]
    exact kept.alive other pending
  · rw [frees.phase, frees.table]
    intro other rest phase
    have pending : other ∈ loop.phase.pending := by
      rw [phase]
      exact List.mem_cons_self
    have apart : other ≠ evp := fun same => unseen (same ▸ pending)
    rw [update_of_ne apart]
    exact kept.called other rest phase
  · rw [frees.faults]
    exact kept.right
  · rw [frees.phase]
    exact settled

theorem MeventLoop.Kept.deleteHere (kept : loop.Kept)
    (listed : (loop.mevents evp).stage = .listed)
    (careful : careless loop (.callbackDeletes evp) = false) :
    (deleteHere loop evp).Kept := by
  have frees : Frees loop (Core.deleteHere loop evp) evp
      { loop.mevents evp with
        meState := false
        registered := false
        stage := .freed
        deleted := true } := by
    constructor <;>
      simp [Core.deleteHere, MeventLoop.release, MeventLoop.revise]
  apply frees.kept kept
  · constructor
    · rw [frees.table]
      exact kept.sorted.listed.leave (by simp)
    · rw [frees.table]
      exact kept.sorted.removing.stay (by simp [listed])
    · rw [frees.table]
      exact kept.sorted.deferred.stay (by simp [listed])
    · rw [frees.table, frees.frees]
      exact kept.sorted.freed.enter (by simp [listed]) (by simp)
  · exact of_decide_eq_false careful
  · exact kept.settled

theorem drainOne_frees (kept : loop.Kept)
    (deferred : (loop.mevents evp).stage = .deferred) :
    Frees loop (drainOne loop evp) evp
      { loop.mevents evp with stage := .freed } := by
  have coherent := kept.coherent evp
  constructor
  case reported =>
    cases reported : (loop.mevents evp).registered with
    | false => rfl
    | true => exact absurd deferred (coherent.reported reported).1
  case gone => exact fun gone => (coherent.gone gone).2
  all_goals simp [drainOne, MeventLoop.release, MeventLoop.revise]

theorem MeventLoop.Kept.drainOne (kept : loop.Kept)
    (deferred : (loop.mevents evp).stage = .deferred)
    (idle : loop.phase.pending = []) :
    (drainOne loop evp).Kept := by
  have frees := drainOne_frees kept deferred
  apply frees.kept kept
  · constructor
    · rw [frees.table]
      exact kept.sorted.listed.stay (by simp [deferred])
    · rw [frees.table]
      exact kept.sorted.removing.stay (by simp [deferred])
    · rw [frees.table]
      exact kept.sorted.deferred.leave (by simp)
    · rw [frees.table, frees.frees]
      exact kept.sorted.freed.enter (by simp [deferred]) (by simp)
  · rw [idle]
    exact List.not_mem_nil
  · intro phase
    have member := (kept.sorted.deferred.mem_iff evp).mpr deferred
    rw [(kept.settled phase).2] at member
    cases member

theorem destroyOne_frees (kept : loop.Kept) (evp : Nat) :
    Frees loop (destroyOne loop evp) evp
      { loop.mevents evp with registered := false, stage := .freed } := by
  have coherent := kept.coherent evp
  constructor
  case gone => exact fun gone => (coherent.gone gone).2
  all_goals simp [destroyOne, MeventLoop.release, MeventLoop.revise]

theorem MeventLoop.Kept.destroyOne (kept : loop.Kept)
    (listed : (loop.mevents evp).stage = .listed)
    (idle : loop.phase.pending = []) :
    (destroyOne loop evp).Kept := by
  have frees := destroyOne_frees kept evp
  apply frees.kept kept
  · constructor
    · rw [frees.table]
      exact kept.sorted.listed.leave (by simp)
    · rw [frees.table]
      exact kept.sorted.removing.stay (by simp [listed])
    · rw [frees.table]
      exact kept.sorted.deferred.stay (by simp [listed])
    · rw [frees.table, frees.frees]
      exact kept.sorted.freed.enter (by simp [listed]) (by simp)
  · rw [idle]
    exact List.not_mem_nil
  · exact kept.settled

/-! Whole lists. -/

/-- The mevents of a list are freed, and nothing else is touched. -/
structure Emptied (loop after : MeventLoop) (items : List Nat) : Prop where
  kept : after.Kept
  removing : after.removing = loop.removing
  phase : after.phase = loop.phase
  stage : ∀ evp, (after.mevents evp).stage =
    if evp ∈ items then .freed else (loop.mevents evp).stage

theorem emptied_foldl (stage : Stage) {one : MeventLoop → Nat → MeventLoop}
    (frees : ∀ {loop evp}, loop.Kept → (loop.mevents evp).stage = stage →
      ∃ entry, Frees loop (one loop evp) evp entry)
    (keeps : ∀ {loop evp}, loop.Kept → (loop.mevents evp).stage = stage →
      loop.phase.pending = [] → (one loop evp).Kept)
    {items : List Nat} (nodup : items.Nodup)
    (here : ∀ evp ∈ items, (loop.mevents evp).stage = stage)
    (kept : loop.Kept) (idle : loop.phase.pending = []) :
    Emptied loop (items.foldl one loop) items := by
  induction items generalizing loop with
  | nil => exact ⟨kept, rfl, rfl, fun evp => (if_neg List.not_mem_nil).symm⟩
  | cons first rest induction =>
      obtain ⟨absent, nodup⟩ := List.nodup_cons.mp nodup
      obtain ⟨head, tail⟩ := List.forall_mem_cons.mp here
      obtain ⟨entry, freed⟩ := frees kept head
      have apart : ∀ evp ∈ rest, evp ≠ first :=
        fun evp member same => absent (same ▸ member)
      have later := induction nodup
        (fun evp member => by
          rw [freed.table, update_of_ne (apart evp member)]
          exact tail evp member)
        (keeps kept head idle) (by rw [freed.phase, idle])
      refine ⟨later.kept, later.removing.trans freed.removing,
        later.phase.trans freed.phase, fun evp => ?_⟩
      show ((rest.foldl one (one loop first)).mevents evp).stage = _
      rw [later.stage, freed.table]
      by_cases same : evp = first
      · subst same
        simp [absent, freed.stage]
      · simp [same]

theorem MeventLoop.Kept.drain (kept : loop.Kept)
    (idle : loop.phase.pending = []) :
    Emptied loop (meventDrainDelList loop) loop.delHead := by
  apply emptied_foldl .deferred _ _ kept.sorted.deferred.nodup _
    kept idle
  · exact fun kept deferred => ⟨_, drainOne_frees kept deferred⟩
  · exact fun kept deferred idle => kept.drainOne deferred idle
  · exact fun evp member => (kept.sorted.deferred.mem_iff evp).mp member

theorem Emptied.delHead (emptied : Emptied loop after loop.delHead)
    (kept : loop.Kept) : after.delHead = [] := by
  apply List.eq_nil_iff_forall_not_mem.mpr
  intro evp member
  have stage := emptied.stage evp
  rw [(emptied.kept.sorted.deferred.mem_iff evp).mp member] at stage
  split at stage
  · cases stage
  · rename_i absent
    exact absent ((kept.sorted.deferred.mem_iff evp).mpr stage.symm)

theorem MeventLoop.Kept.destroy_parts (kept : loop.Kept)
    (idle : loop.phase.pending = []) :
    ∃ middle, Emptied loop middle loop.globalHead ∧
      Emptied middle (meventDestroy loop) middle.delHead := by
  have first : Emptied loop
      (loop.globalHead.foldl Core.destroyOne loop) loop.globalHead := by
    apply emptied_foldl .listed _ _ kept.sorted.listed.nodup _
      kept idle
    · exact fun kept _ => ⟨_, destroyOne_frees kept _⟩
    · exact fun kept listed idle => kept.destroyOne listed idle
    · exact fun evp member => (kept.sorted.listed.mem_iff evp).mp member
  exact ⟨_, first, first.kept.drain (by rw [first.phase, idle])⟩

/-- After `mevent_destroy` nothing waits, unless a delete is under way. -/
theorem MeventLoop.Kept.destroy (kept : loop.Kept)
    (idle : loop.phase.pending = []) :
    let after := meventDestroy loop
    after.Kept ∧ after.removing = loop.removing ∧ after.delHead = [] := by
  obtain ⟨middle, first, second⟩ := kept.destroy_parts idle
  exact ⟨second.kept, second.removing.trans first.removing,
    second.delHead first.kept⟩

/-! Steps of the dispatch thread. -/

/-- The phase may change while nothing else does. -/
theorem MeventLoop.Kept.rephase (kept : loop.Kept)
    (phase : DispatchPhase)
    (alive : ∀ evp ∈ phase.pending, (loop.mevents evp).stage ≠ .freed)
    (called : ∀ evp rest, phase = .calling evp rest →
      (loop.mevents evp).deleted = false)
    (lasts : phase = .destroyed →
      loop.removing = [] ∧ loop.delHead = []) :
    MeventLoop.Kept { loop with phase := phase } :=
  ⟨⟨kept.sorted.listed, kept.sorted.removing, kept.sorted.deferred,
    kept.sorted.freed⟩, kept.coherent, kept.torn, alive, called, kept.right,
    lasts⟩

theorem MeventLoop.Kept.idle (kept : loop.Kept) (phase : DispatchPhase)
    (nothing : phase.pending = [])
    (uncalled : ∀ evp rest, phase ≠ .calling evp rest)
    (lasts : phase = .destroyed →
      loop.removing = [] ∧ loop.delHead = []) :
    MeventLoop.Kept { loop with phase := phase } := by
  apply kept.rephase phase _ _ lasts
  · intro evp member
    rw [nothing] at member
    cases member
  · exact fun evp rest same => absurd same (uncalled evp rest)

theorem MeventLoop.touch_eq {runs : Bool}
    (alive : (loop.mevents evp).stage ≠ .freed)
    (undeleted : runs = true → (loop.mevents evp).deleted = false) :
    loop.touch evp runs = loop := by
  cases runs with
  | false => simp [MeventLoop.touch, alive]
  | true => simp [MeventLoop.touch, alive, undeleted rfl]

theorem MeventLoop.Kept.kept_by_test (kept : loop.Kept)
    (acted : testAct loop = some after) : after.Kept := by
  unfold testAct at acted
  split at acted
  · rename_i mevp rest phase
    have pending : loop.phase.pending = mevp :: rest := by
      rw [phase]
      rfl
    have alive := kept.alive
    rw [pending] at alive
    have head := alive mevp List.mem_cons_self
    rw [MeventLoop.touch_eq head (fun runs => by cases runs)] at acted
    cases acted
    cases state : (loop.mevents mevp).meState with
    | true =>
        apply kept.rephase
        · exact alive
        · intro evp later same
          cases same
          by_contra deleted
          have gone := (kept.coherent mevp).gone (eq_true_of_ne_false deleted)
          rw [state] at gone
          cases gone.2
        · intro destroyed
          cases destroyed
    | false =>
        exact kept.rephase (.handling rest)
          (fun evp member => alive evp (List.mem_cons_of_mem mevp member))
          (by simp) (by simp)
  · cases acted

theorem MeventLoop.Kept.kept_by_run (kept : loop.Kept)
    (acted : runAct loop = some after) : after.Kept := by
  unfold runAct at acted
  split at acted
  · rename_i mevp rest phase
    have alive := kept.alive
    rw [phase] at alive
    have head := alive mevp List.mem_cons_self
    rw [MeventLoop.touch_eq head
      (fun _ => kept.called mevp rest phase)] at acted
    cases acted
    exact kept.rephase (.running mevp rest)
      (fun evp member => alive evp (List.mem_cons_of_mem mevp member))
      (by simp) (by simp)
  · cases acted

theorem MeventLoop.Kept.step {before after : MeventLoop}
    {label : LoopLabel} (kept : before.Kept)
    (careful : careless before label = false)
    (acted : meventAct before label = some after) : after.Kept := by
  cases label with
  | alloc mevp teardown =>
      obtain ⟨fresh, done⟩ := Option.ite_none_right_eq_some.mp acted
      cases done
      exact kept.alloc fresh.1 teardown
  | insert mevp =>
      obtain ⟨adding, done⟩ := Option.ite_none_right_eq_some.mp acted
      cases done
      exact kept.insert adding
  | remove evp =>
      obtain ⟨listed, done⟩ := Option.ite_none_right_eq_some.mp acted
      cases done
      exact kept.remove listed.1 listed.2
  | clear evp =>
      obtain ⟨removing, done⟩ := Option.ite_none_right_eq_some.mp acted
      cases done
      exact kept.clear removing
  | unregister evp =>
      obtain ⟨removing, done⟩ := Option.ite_none_right_eq_some.mp acted
      cases done
      exact kept.unregister removing.1
  | defer evp =>
      obtain ⟨removing, done⟩ := Option.ite_none_right_eq_some.mp acted
      cases done
      exact kept.defer removing.1 removing.2.1 removing.2.2 careful
  | poll batch =>
      obtain ⟨polled, done⟩ := Option.ite_none_right_eq_some.mp acted
      cases done
      exact kept.rephase (.handling batch)
        (fun evp member =>
          ((kept.coherent evp).reported (polled.2.2.2 evp member)).2)
        (by simp) (by simp)
  | test => exact kept.kept_by_test acted
  | run => exact kept.kept_by_run acted
  | callbackDeletes evp =>
      obtain ⟨listed, done⟩ := Option.ite_none_right_eq_some.mp acted
      cases done
      exact kept.deleteHere listed.2 careful
  | callbackReturns =>
      simp only [meventAct] at acted
      split at acted
      · rename_i mevp rest phase
        cases acted
        have alive := kept.alive
        rw [phase] at alive
        exact kept.rephase (.handling rest) alive (by simp) (by simp)
      · cases acted
  | drain leave =>
      obtain ⟨phase, done⟩ := Option.ite_none_right_eq_some.mp acted
      cases done
      have emptied := kept.drain (by rw [phase]; rfl)
      cases leave with
      | true => exact emptied.kept.idle .leaving rfl (by simp) (by simp)
      | false => exact emptied.kept.idle .polling rfl (by simp) (by simp)
  | destroy =>
      obtain ⟨phase, done⟩ := Option.ite_none_right_eq_some.mp acted
      cases done
      obtain ⟨later, removing, delHead⟩ := kept.destroy (by rw [phase]; rfl)
      have unremoved : before.removing = [] := by simpa [careless] using careful
      exact later.idle .destroyed rfl (by simp)
        (fun _ => ⟨removing.trans unremoved, delHead⟩)

theorem MeventLoop.Kept.frees_le_one (kept : loop.Kept) (evp : Nat) :
    loop.frees.count evp ≤ 1 :=
  List.nodup_iff_count_le_one.mp kept.sorted.freed.nodup evp

theorem MeventLoop.Kept.teardowns_count (kept : loop.Kept) (evp : Nat) :
    loop.teardowns.count evp =
      if (loop.mevents evp).teardown then loop.frees.count evp else 0 := by
  rw [kept.torn]
  split
  · rename_i torn
    exact List.count_filter torn
  · rename_i bare
    apply List.count_eq_zero.mpr
    intro member
    exact bare (List.mem_filter.mp member).2

theorem MeventLoop.Kept.safe (kept : loop.Kept) : loop.Safe where
  right := kept.right
  once := fun evp _ => ⟨kept.frees_le_one evp, kept.teardowns_count evp⟩
  settled := by
    intro destroyed evp deleted
    have gone := ((kept.coherent evp).gone deleted).1
    apply kept.sorted.freed.count_fits
    apply gone.resolve_left
    intro deferred
    have member := (kept.sorted.deferred.mem_iff evp).mpr deferred
    rw [(kept.settled destroyed).2] at member
    cases member

/-! Every careless step can be followed by steps that show it. -/

/-- Some continuation comes to an unsafe state. -/
def Endangered (loop : MeventLoop) : Prop :=
  ∃ (labels : List LoopLabel) (later : MeventLoop),
    labels.foldlM meventAct loop = some later ∧ ¬later.Safe

theorem Endangered.before (label : LoopLabel)
    (acted : meventAct loop label = some after)
    (endangered : Endangered after) : Endangered loop := by
  obtain ⟨labels, later, ran, unsafe_⟩ := endangered
  refine ⟨label :: labels, later, ?_, unsafe_⟩
  rw [List.foldlM_cons, acted]
  exact ran

theorem endangered_of_faults (faults : loop.faults ≠ []) :
    Endangered loop :=
  ⟨[], loop, rfl, fun safe => faults safe.right⟩

/-- A freed mevent in a batch is come to, at the latest when the callbacks of
those before it have returned. -/
theorem endangered_of_pending {rest : List Nat}
    (phase : loop.phase = .handling rest) (member : evp ∈ rest)
    (freed : (loop.mevents evp).stage = .freed) : Endangered loop := by
  induction rest generalizing loop with
  | nil => cases member
  | cons first rest induction =>
      have tested : meventAct loop .test = some { loop.touch first false with
          phase := if (loop.mevents first).meState then .calling first rest
            else .handling rest } := by
        simp only [meventAct, testAct, phase]
      apply Endangered.before .test tested
      cases List.mem_cons.mp member with
      | inl same =>
          subst same
          apply endangered_of_faults
          simp [MeventLoop.touch, freed]
      | inr later =>
          cases (loop.mevents first).meState with
          | false => exact induction rfl later freed
          | true =>
              apply Endangered.before .run rfl
              apply Endangered.before .callbackReturns rfl
              exact induction rfl later freed

theorem Emptied.keeps {items : List Nat}
    (emptied : Emptied loop after items) (absent : evp ∉ items) :
    (after.mevents evp).stage = (loop.mevents evp).stage := by
  rw [emptied.stage, if_neg absent]

theorem MeventLoop.Kept.destroy_keeps (kept : loop.Kept)
    (idle : loop.phase.pending = [])
    (removing : (loop.mevents evp).stage = .removing) :
    ((meventDestroy loop).mevents evp).stage = .removing := by
  obtain ⟨middle, first, second⟩ := kept.destroy_parts idle
  have unlisted : evp ∉ loop.globalHead := by
    rw [kept.sorted.listed.mem_iff, removing]
    decide
  have early := (first.keeps unlisted).trans removing
  have undeferred : evp ∉ middle.delHead := by
    rw [first.kept.sorted.deferred.mem_iff, early]
    decide
  exact (second.keeps undeferred).trans early

/-- A delete that goes on behind `mevent_destroy` frees nothing. -/
theorem endangered_of_removing (sorted : loop.Sorted)
    (phase : loop.phase = .destroyed)
    (removing : (loop.mevents evp).stage = .removing) :
    Endangered loop := by
  have unfreed : evp ∉ loop.frees := by
    rw [sorted.freed.mem_iff, removing]
    decide
  have cleared : meventAct loop (.clear evp) =
      some (deleteClear loop evp) := if_pos removing
  apply Endangered.before _ cleared
  have unregistered : meventAct (deleteClear loop evp) (.unregister evp) =
      some (deleteUnregister (deleteClear loop evp) evp) := by
    apply if_pos
    simp [deleteClear, MeventLoop.revise, removing]
  apply Endangered.before _ unregistered
  have deferred : meventAct (deleteUnregister (deleteClear loop evp) evp)
      (.defer evp) = some (meventAddToDelList
        (deleteUnregister (deleteClear loop evp) evp) evp) := by
    apply if_pos
    simp [deleteUnregister, deleteClear, MeventLoop.revise, removing]
  apply Endangered.before _ deferred
  refine ⟨[], _, rfl, fun safe => ?_⟩
  have once := safe.settled phase evp (by
    simp [meventAddToDelList, MeventLoop.revise])
  have never : loop.frees.count evp = 0 := List.count_eq_zero.mpr unfreed
  change loop.frees.count evp = 1 at once
  rw [never] at once
  cases once

theorem DispatchPhase.deletes_cases {phase : DispatchPhase}
    (deletes : phase.deletes = true) :
    (∃ mevp rest, phase = .running mevp rest) ∨ phase = .leaving := by
  cases phase with
  | running mevp rest => exact .inl ⟨mevp, rest, rfl⟩
  | leaving => exact .inr rfl
  | polling => cases deletes
  | handling batch => cases deletes
  | calling mevp rest => cases deletes
  | destroyed => cases deletes

theorem endangered_of_callback
    (deletes : loop.phase.deletes = true)
    (pending : evp ∈ loop.phase.pending) :
    Endangered (deleteHere loop evp) := by
  cases DispatchPhase.deletes_cases deletes with
  | inl running =>
      obtain ⟨mevp, rest, phase⟩ := running
      rw [phase] at pending
      have returned : meventAct (deleteHere loop evp) .callbackReturns =
          some { deleteHere loop evp with phase := .handling rest } := by
        have same : (deleteHere loop evp).phase = .running mevp rest := phase
        simp only [meventAct, same]
      apply Endangered.before _ returned
      apply endangered_of_pending rfl pending
      simp [deleteHere, MeventLoop.release, MeventLoop.revise]
  | inr leaving =>
      rw [leaving] at pending
      cases pending

theorem endangered_of_defer {rest : List Nat}
    (phase : loop.phase = .calling evp rest) :
    Endangered (meventAddToDelList loop evp) := by
  have ran : meventAct (meventAddToDelList loop evp) .run =
      some { (meventAddToDelList loop evp).touch evp true with
        phase := .running evp rest } := by
    have same : (meventAddToDelList loop evp).phase = .calling evp rest :=
      phase
    simp only [meventAct, runAct, same]
  apply Endangered.before _ ran
  apply endangered_of_faults
  simp [MeventLoop.touch, meventAddToDelList, MeventLoop.revise]

theorem MeventLoop.Kept.endangered_of_destroy (kept : loop.Kept)
    (idle : loop.phase.pending = [])
    (removing : loop.removing ≠ []) :
    Endangered { meventDestroy loop with phase := .destroyed } := by
  obtain ⟨evp, member⟩ := List.exists_mem_of_ne_nil _ removing
  have stage := (kept.sorted.removing.mem_iff evp).mp member
  have sorted := (kept.destroy idle).1.sorted
  exact endangered_of_removing
    ⟨sorted.listed, sorted.removing, sorted.deferred, sorted.freed⟩ rfl
    (kept.destroy_keeps idle stage)

/-- Only deletions and the end of the loop can be careless. -/
theorem careless_cases {label : LoopLabel}
    (carelessly : careless loop label = true) :
    (∃ evp, label = .callbackDeletes evp ∧ evp ∈ loop.phase.pending) ∨
      (∃ evp rest, label = .defer evp ∧
        loop.phase = .calling evp rest) ∨
      label = .destroy ∧ loop.removing ≠ [] := by
  unfold careless at carelessly
  split at carelessly
  · rename_i evp
    exact .inl ⟨evp, rfl, of_decide_eq_true carelessly⟩
  · rename_i evp
    split at carelessly
    · rename_i mevp rest phase
      have same := of_decide_eq_true carelessly
      exact .inr (.inl ⟨evp, rest, rfl, same ▸ phase⟩)
    · cases carelessly
  · exact .inr (.inr ⟨rfl, of_decide_eq_true carelessly⟩)
  · cases carelessly

theorem careless_endangers {label : LoopLabel} (kept : loop.Kept)
    (carelessly : careless loop label = true)
    (acted : meventAct loop label = some after) : Endangered after := by
  rcases careless_cases carelessly with callback | defer | destroy
  · obtain ⟨evp, rfl, pending⟩ := callback
    obtain ⟨able, done⟩ := Option.ite_none_right_eq_some.mp acted
    cases done
    exact endangered_of_callback able.1 pending
  · obtain ⟨evp, rest, rfl, phase⟩ := defer
    obtain ⟨_, done⟩ := Option.ite_none_right_eq_some.mp acted
    cases done
    exact endangered_of_defer phase
  · obtain ⟨rfl, removing⟩ := destroy
    obtain ⟨phase, done⟩ := Option.ite_none_right_eq_some.mp acted
    cases done
    exact kept.endangered_of_destroy (by rw [phase]; rfl) removing

end Loop

/-- In a run without careless steps. -/
theorem meventSystem_safe {loop : MeventLoop}
    (reached : meventSystem.ReachedWhere
      (fun before label => careless before label = false) loop) :
    loop.Safe := by
  have kept : loop.Kept := by
    apply TransitionSystem.ReachedWhere.invariant MeventLoop.Kept _ _ reached
    · rintro _ rfl
      exact initial_kept
    · exact fun _ _ _ kept careful acted => kept.step careful acted
  exact kept.safe

/-- Another thread deletes an mevent while its callback has still to run in
the batch, a callback deletes itself, and the loop is left and destroyed. -/
theorem meventSystem_safe_destroyed :
    ∃ loop, meventSystem.ReachedWhere
        (fun before label => careless before label = false) loop ∧
      loop.phase = .destroyed ∧ loop.frees = [1, 0, 2] ∧ loop.Safe := by
  obtain ⟨loop, reached, checked⟩ :=
    @TransitionSystem.exists_reachedWhere _ _ meventSystem
      (fun before label => careless before label = false) _ meventAct
      .initial
      [.alloc 0 true, .insert 0, .alloc 1 false, .insert 1,
        .alloc 2 true, .insert 2, .poll [0, 1], .test, .run,
        .callbackReturns, .remove 1, .clear 1, .test, .unregister 1,
        .defer 1, .drain false, .poll [2, 0], .test, .run,
        .callbackReturns, .test, .run, .callbackDeletes 0,
        .callbackReturns, .drain true, .destroy]
      (fun loop => decide (loop.phase = .destroyed ∧
        loop.frees = [1, 0, 2]))
      (fun acted => acted) rfl (by decide +kernel)
  obtain ⟨destroyed, frees⟩ := of_decide_eq_true checked
  exact ⟨loop, reached, destroyed, frees, meventSystem_safe reached⟩

/-- The callback of the first of two ready mevents deletes the second. -/
theorem batch_uses_freed :
    ∃ loop, meventSystem.Reached loop ∧ loop.faults = [.usesFreed 1] ∧
      ¬loop.Safe := by
  obtain ⟨loop, reached, checked⟩ :=
    @TransitionSystem.exists_reached _ _ meventSystem meventAct .initial
      [.alloc 0 true, .insert 0, .alloc 1 true, .insert 1, .poll [0, 1],
        .test, .run, .callbackDeletes 1, .callbackReturns, .test]
      (fun loop => loop.faults = [.usesFreed 1])
      (fun acted => acted) rfl (by decide +kernel)
  have faults := of_decide_eq_true checked
  refine ⟨loop, reached, faults, fun safe => ?_⟩
  have right := safe.right
  rw [faults] at right
  cases right

end VirtioGpu.Core
