import VirtioGpu.Backend.GpuRun
import VirtioGpu.Gpu.Table

namespace VirtioGpu.Backend

open Foundation
open Virtio
open Gpu

/-! Runs that create and remove resources, with their history. -/

abbrev TableEdit := KeyedList.Edit Resource2d Nat

/-- A device and the edits of its table, the latest first. -/
structure Recorded where
  gpu : GpuState
  history : List TableEdit

/-- The edit a command makes, told from its answer. -/
def tableEdit (env : Env) (gpu : GpuState) (cmd : Command) (memory : Memory)
    (reply : Reply) : List TableEdit :=
  if reply.Answers .okNodata then
    match CtrlCmd.ofCode cmd.hdr.type with
    | some .resourceUnref => [.drop (namedId cmd memory)]
    | _ => [.put (createdResource env gpu.vmctx cmd memory)]
  else
    []

inductive TableLabel where
  | serve (env : Env) (cmd : Command) (memory : Memory)
  | reset

/-- The device alone: a request that creates or removes a resource is served
out of a chain with a request buffer, or the device is reset. -/
inductive TableStep (before : Recorded) : TableLabel → Recorded → Prop
  | serve {env : Env} {cmd : Command} {memory : Memory} {reply : Reply}
      (edits : Creates cmd ∨ Unrefs cmd)
      (fresh : env.Fresh before.gpu)
      (based : cmd.base 0 = .ok cmd.address)
      (ran : ctrlDispatch env before.gpu cmd memory = .ok reply) :
      TableStep before (.serve env cmd memory)
        ⟨reply.gpu,
          tableEdit env before.gpu cmd memory reply ++ before.history⟩
  | reset {gpu : GpuState} (cleared : resetGpu before.gpu = .ok gpu) :
      TableStep before .reset ⟨gpu, .clear :: before.history⟩

def resourceTable : TransitionSystem Recorded TableLabel where
  initial := fun state => ∃ vmctx isBlobSupported scanoutNum,
    state = ⟨initialGpu vmctx isBlobSupported scanoutNum, []⟩
  step := TableStep

/-- A run of the whole backend whose control commands only create and remove
resources is such a run of its device. -/
theorem reached_recorded {state : Traced}
    (reached : backend.ReachedWhere
      (commandsMeet fun _ _ cmd _ => Creates cmd ∨ Unrefs cmd) state) :
    ∃ history, resourceTable.Reached ⟨state.machine.device.gpu, history⟩ := by
  refine reached.invariant (fun state => ∃ history,
    resourceTable.Reached ⟨state.machine.device.gpu, history⟩) ?_ ?_
  · rintro state ⟨vmctx, isBlobSupported, scanoutNum, memory, _, _, rfl⟩
    exact ⟨[], .initial ⟨vmctx, isBlobSupported, scanoutNum, rfl⟩⟩
  · rintro before label after ⟨history, recorded⟩ permitted
      ⟨sound, machine, events, stepped, rfl⟩
    cases machineStep_gpu stepped with
    | kept same =>
        rw [show (Traced.mk machine _).machine = machine from rfl, same]
        exact ⟨history, recorded⟩
    | command runs next changed =>
        subst runs
        obtain ⟨reply, ran, later⟩ := (bhStep_section stepped).dispatched next
        rw [show (Traced.mk machine _).machine = machine from rfl, later]
        exact ⟨_, .step recorded trivial (.serve (permitted _ _ rfl next) sound
          (nextCommand_base next) ran)⟩
    | reset cleared =>
        exact ⟨_, .step recorded trivial (.reset cleared)⟩

/-! The invariant of such runs. -/

structure Tabled (state : Recorded) : Prop where
  follows : KeyedList.Follows Resource2d.resourceId state.gpu.r2dList
    state.history
  counts : ∃ leaks, CountsBeside leaks state.gpu
  unfreed : ∀ r2d, r2d ∈ state.gpu.r2dList → r2d.iov ≠ .freed

theorem createdResource_resourceId (env : Env) (ctx : Vmctx) {cmd : Command}
    (memory : Memory) (creates : Creates cmd) :
    (createdResource env ctx cmd memory).resourceId = namedId cmd memory := by
  rcases creates with code | code
  · simp only [createdResource, namedId, code]
    rfl
  · simp only [createdResource, namedId, code, resourceOfCreateBlob]
    split
    · rfl
    · split
      · rfl
      · rfl

theorem createdResource_iov (env : Env) (ctx : Vmctx) {cmd : Command}
    (memory : Memory) (creates : Creates cmd) :
    (createdResource env ctx cmd memory).iov ≠ .freed := by
  intro freed
  rcases creates with code | code
  · simp only [createdResource, code] at freed
    cases freed
  · simp only [createdResource, code, resourceOfCreateBlob] at freed
    split at freed
    · cases freed
    · split at freed
      · cases freed
      · cases freed

/-! The edit of each answer. -/

theorem tableEdit_of_fails {env : Env} {gpu : GpuState} {cmd : Command}
    {memory : Memory} {reply : Reply} (fails : reply.Fails) :
    tableEdit env gpu cmd memory reply = [] :=
  if_neg fails.not_ok

theorem tableEdit_of_creates {env : Env} {gpu : GpuState} {cmd : Command}
    {memory : Memory} {reply : Reply} (creates : Creates cmd)
    (answers : reply.Answers .okNodata) :
    tableEdit env gpu cmd memory reply =
      [.put (createdResource env gpu.vmctx cmd memory)] := by
  rw [tableEdit, if_pos answers]
  rcases creates with code | code
  · rw [code]
  · rw [code]

theorem tableEdit_of_unrefs {env : Env} {gpu : GpuState} {cmd : Command}
    {memory : Memory} {reply : Reply} (unrefs : Unrefs cmd)
    (answers : reply.Answers .okNodata) :
    tableEdit env gpu cmd memory reply = [.drop (namedId cmd memory)] := by
  rw [tableEdit, if_pos answers, unrefs]

section Edits

variable {before : Recorded} {gpu : GpuState}

theorem Tabled.keep (tabled : Tabled before)
    (counts : ∃ leaks, CountsBeside leaks gpu)
    (same : gpu.r2dList = before.gpu.r2dList) :
    Tabled ⟨gpu, before.history⟩ := by
  refine ⟨?_, counts, ?_⟩
  · dsimp only
    rw [same]
    exact tabled.follows
  · dsimp only
    rw [same]
    exact tabled.unfreed

theorem Tabled.put {r2d : Resource2d} (tabled : Tabled before)
    (counts : ∃ leaks, CountsBeside leaks gpu)
    (absent : virtioGpuFindResource2d before.gpu r2d.resourceId = none)
    (unfreed : r2d.iov ≠ .freed)
    (inserted : gpu.r2dList = r2d :: before.gpu.r2dList) :
    Tabled ⟨gpu, .put r2d :: before.history⟩ := by
  refine ⟨?_, counts, ?_⟩
  · dsimp only
    rw [inserted]
    exact tabled.follows.put absent
  · dsimp only
    rw [inserted]
    intro entry member
    rcases List.mem_cons.mp member with rfl | earlier
    · exact unfreed
    · exact tabled.unfreed entry earlier

theorem Tabled.drop {resourceId : Nat} (tabled : Tabled before)
    (counts : ∃ leaks, CountsBeside leaks gpu)
    (shorter : gpu.r2dList = removeResource before.gpu.r2dList resourceId) :
    Tabled ⟨gpu, .drop resourceId :: before.history⟩ := by
  refine ⟨?_, counts, ?_⟩
  · dsimp only
    rw [shorter]
    exact tabled.follows.drop resourceId
  · dsimp only
    rw [shorter]
    intro entry member
    exact tabled.unfreed entry (List.mem_of_mem_eraseP member)

end Edits

theorem Tabled.serve {before : Recorded} {env : Env} {cmd : Command}
    {memory : Memory} {reply : Reply} (tabled : Tabled before)
    (edits : Creates cmd ∨ Unrefs cmd) (fresh : env.Fresh before.gpu)
    (based : cmd.base 0 = .ok cmd.address)
    (ran : ctrlDispatch env before.gpu cmd memory = .ok reply) :
    Tabled ⟨reply.gpu,
      tableEdit env before.gpu cmd memory reply ++ before.history⟩ := by
  have changed := (ctrlDispatch_changes env before.gpu cmd memory based reply
    ran).gpu
  have counts : ∃ leaks, CountsBeside leaks reply.gpu := by
    obtain ⟨leaks, counts⟩ := tabled.counts
    obtain ⟨more, kept, _⟩ := counts.change fresh changed
    exact ⟨more, kept⟩
  rcases edits with creates | unrefs
  · cases ctrlDispatch_createOutcome env before.gpu cmd memory creates based
      reply ran with
    | refused fails same =>
        rw [tableEdit_of_fails fails]
        exact tabled.keep counts same
    | accepted answers absent inserted =>
        rw [tableEdit_of_creates creates answers]
        refine tabled.put counts ?_ ?_ inserted
        · rw [createdResource_resourceId env _ memory creates]
          exact absent
        · exact createdResource_iov env _ memory creates
  · cases ctrlDispatch_unrefOutcome env before.gpu cmd memory unrefs based
      reply ran with
    | refused fails absent same =>
        rw [tableEdit_of_fails fails]
        exact tabled.keep counts same
    | removed answers shorter =>
        rw [tableEdit_of_unrefs unrefs answers]
        exact tabled.drop counts shorter

theorem Tabled.step {before after : Recorded} {label : TableLabel}
    (tabled : Tabled before) (stepped : TableStep before label after) :
    Tabled after := by
  cases stepped with
  | serve edits fresh based ran => exact tabled.serve edits fresh based ran
  | reset cleared =>
      obtain ⟨leaks, counts⟩ := tabled.counts
      have empty := resetGpu_r2dList cleared
      refine ⟨?_, ⟨leaks, counts.reset cleared⟩, ?_⟩
      · dsimp only
        rw [empty]
        exact .clear
      · dsimp only
        rw [empty]
        intro r2d member
        cases member

theorem reached_tabled {state : Recorded}
    (reached : resourceTable.Reached state) : Tabled state := by
  refine reached.invariant Tabled ?_ ?_
  · rintro state ⟨vmctx, isBlobSupported, scanoutNum, rfl⟩
    refine ⟨.nil, ⟨[], countsBeside_nil.mpr ?_⟩, nofun⟩
    exact counts_initial vmctx isBlobSupported scanoutNum
  · intro before label after tabled stepped
    exact tabled.step stepped

/-! The table is a finite map. -/

structure FiniteMap (state : Recorded) : Prop where
  distinct : (state.gpu.r2dList.map Resource2d.resourceId).Nodup
  lookup : ∀ resourceId, virtioGpuFindResource2d state.gpu resourceId =
    KeyedList.latest Resource2d.resourceId state.history resourceId
  present : ∀ env cmd memory, Creates cmd → cmd.base 0 = .ok cmd.address →
    virtioGpuFindResource2d state.gpu (namedId cmd memory) ≠ none →
    ∃ reply, ctrlDispatch env state.gpu cmd memory = .ok reply ∧
      reply.Fails ∧ reply.gpu.r2dList = state.gpu.r2dList
  creates : ∀ env cmd memory reply, Creates cmd →
    cmd.base 0 = .ok cmd.address →
    ctrlDispatch env state.gpu cmd memory = .ok reply →
    reply.Fails ∧ reply.gpu.r2dList = state.gpu.r2dList ∨
      reply.Answers .okNodata ∧
        virtioGpuFindResource2d state.gpu (namedId cmd memory) = none ∧
        ∀ resourceId, virtioGpuFindResource2d reply.gpu resourceId =
          if namedId cmd memory = resourceId then
            some (createdResource env state.gpu.vmctx cmd memory)
          else virtioGpuFindResource2d state.gpu resourceId
  unrefs : ∀ env cmd memory, Unrefs cmd → cmd.base 0 = .ok cmd.address →
    virtioGpuFindResource2d state.gpu (namedId cmd memory) ≠ none →
    ∃ reply, ctrlDispatch env state.gpu cmd memory = .ok reply ∧
      reply.Answers .okNodata ∧
      ∀ resourceId, virtioGpuFindResource2d reply.gpu resourceId =
        if namedId cmd memory = resourceId then none
        else virtioGpuFindResource2d state.gpu resourceId
  resets : ∃ after, resetGpu state.gpu = .ok after ∧ after.r2dList = []

theorem Tabled.unref_returns {state : Recorded} (tabled : Tabled state)
    (env : Env) {cmd : Command} {memory : Memory} (unrefs : Unrefs cmd)
    (based : cmd.base 0 = .ok cmd.address)
    (present : virtioGpuFindResource2d state.gpu (namedId cmd memory) ≠
      none) :
    Returns (ctrlDispatch env state.gpu cmd memory) fun _ => True := by
  obtain ⟨r2d, found⟩ := Option.ne_none_iff_exists'.mp present
  obtain ⟨leaks, counts⟩ := tabled.counts
  have listed := List.mem_of_find?_eq_some found
  apply ctrlDispatch_unref_returns env state.gpu cmd memory unrefs based found
  apply releaseResource_returns
  · intro cell image
    exact counts.image_live listed image
  · intro cell owned
    exact counts.dmabuf_live listed owned
  · exact tabled.unfreed r2d listed

theorem reached_finiteMap {state : Recorded}
    (reached : resourceTable.Reached state) : FiniteMap state := by
  have tabled := reached_tabled reached
  constructor
  · exact tabled.follows.distinct
  · exact tabled.follows.lookup
  · intro env cmd memory creates based present
    obtain ⟨reply, ran, _⟩ := ctrlDispatch_present_returns env state.gpu cmd
      memory creates based present
    refine ⟨reply, ran, ?_⟩
    cases ctrlDispatch_createOutcome env state.gpu cmd memory creates based
      reply ran with
    | refused fails same => exact ⟨fails, same⟩
    | accepted _ absent _ => exact absurd absent present
  · intro env cmd memory reply creates based ran
    cases ctrlDispatch_createOutcome env state.gpu cmd memory creates based
      reply ran with
    | refused fails same => exact .inl ⟨fails, same⟩
    | accepted answers absent inserted =>
        refine .inr ⟨answers, absent, ?_⟩
        intro resourceId
        rw [virtioGpuFindResource2d_eq, inserted, KeyedList.lookup_cons,
          createdResource_resourceId env _ memory creates]
        rfl
  · intro env cmd memory unrefs based present
    obtain ⟨reply, ran, _⟩ := tabled.unref_returns env unrefs based present
    refine ⟨reply, ran, ?_⟩
    cases ctrlDispatch_unrefOutcome env state.gpu cmd memory unrefs based
      reply ran with
    | refused _ absent _ => exact absurd absent present
    | removed answers shorter =>
        refine ⟨answers, ?_⟩
        intro resourceId
        rw [virtioGpuFindResource2d_eq, shorter, removeResource_eq]
        exact tabled.follows.distinct.lookup_remove _ resourceId
  · obtain ⟨leaks, counts⟩ := tabled.counts
    obtain ⟨after, cleared, _⟩ := counts.resetGpu_returns tabled.unfreed
    exact ⟨after, cleared, resetGpu_r2dList cleared⟩

/-- Two resources created and the first one removed. -/
theorem created_and_removed_finiteMap :
    ∃ state, resourceTable.Reached state ∧
      state.gpu.r2dList.map Resource2d.resourceId = [2] ∧ FiniteMap state := by
  obtain ⟨state, reached, checked⟩ :=
    @exists_serveRequests
      (fun _ _ cmd _ => decide (Creates cmd ∨ Unrefs cmd))
      (fun _ _ cmd _ => Creates cmd ∨ Unrefs cmd)
      [createRequest 1 64 48,
        request .resourceCreateBlob
          (le32 2 ++ le32 1 ++ le32 2 ++ le32 1 ++ le64 0 ++ le64 32768),
        request .resourceUnref (le32 1 ++ le32 0)]
      (fun state => decide
        (state.machine.device.gpu.r2dList.map Resource2d.resourceId = [2]))
      (fun _ _ _ _ edits => of_decide_eq_true edits)
      (by decide +kernel)
  obtain ⟨history, recorded⟩ := reached_recorded reached
  exact ⟨_, recorded, of_decide_eq_true checked, reached_finiteMap recorded⟩

end VirtioGpu.Backend
