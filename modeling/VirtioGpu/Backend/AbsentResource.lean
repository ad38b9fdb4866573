import VirtioGpu.Backend.Representation
import VirtioGpu.Gpu.Table

namespace VirtioGpu.Backend

open Foundation
open Virtio
open Gpu

/-! Commands that name a resource which is not in the table. -/

/-- A chain of at least two descriptors with the given request. -/
structure Asks (cmd : Command) (command : CtrlCmd) : Prop where
  code : CtrlCmd.ofCode cmd.hdr.type = some command
  based : cmd.base 0 = .ok cmd.address
  room : 2 ≤ cmd.iovcnt

structure Absent (gpu : GpuState) (resourceId : Nat) : Prop where
  nonzero : resourceId ≠ 0
  missing : virtioGpuFindResource2d gpu resourceId = none

/-- The command answers `ERR_INVALID_RESOURCE_ID` and changes nothing. -/
def RefusesAbsent (env : Env) (gpu : GpuState) (cmd : Command)
    (memory : Memory) : Prop :=
  ∃ reply, ctrlDispatch env gpu cmd memory = .ok reply ∧
    reply.Answers .errInvalidResourceId ∧ reply.gpu = gpu

/-- The handlers on a resource that is not in the table.  `attach` says
nothing of the answer: the handler overwrites its error with `OK_NODATA`. -/
structure AbsentHandled (gpu : GpuState) : Prop where
  unref : ∀ env cmd memory, Asks cmd .resourceUnref →
    Absent gpu (ResourceUnref.load memory cmd.address).resourceId →
    RefusesAbsent env gpu cmd memory
  transfer : ∀ env cmd memory, Asks cmd .transferToHost2d →
    Absent gpu (TransferToHost2d.load memory cmd.address).resourceId →
    RefusesAbsent env gpu cmd memory
  flush : ∀ env cmd memory, Asks cmd .resourceFlush →
    Absent gpu (ResourceFlush.load memory cmd.address).resourceId →
    RefusesAbsent env gpu cmd memory
  attach : ∀ env cmd memory, Asks cmd .resourceAttachBacking →
    Absent gpu (ResourceAttachBacking.load memory cmd.address).resourceId →
    ∃ reply, ctrlDispatch env gpu cmd memory = .ok reply ∧ reply.gpu = gpu
  detach : ∀ env cmd memory, Asks cmd .resourceDetachBacking →
    Absent gpu (ResourceDetachBacking.load memory cmd.address).resourceId →
    ∃ reply, ctrlDispatch env gpu cmd memory = .ok reply ∧
      reply.Answers .okNodata ∧ reply.gpu = gpu
  setScanoutBlob : ∀ env cmd memory, Asks cmd .setScanoutBlob →
    gpu.isBlobSupported = true →
    (SetScanoutBlob.load memory cmd.address).scanoutId <
      gpu.scanouts.length →
    Absent gpu (SetScanoutBlob.load memory cmd.address).resourceId →
    ∃ reply, ctrlDispatch env gpu cmd memory = .ok reply ∧
      reply.Answers .errInvalidResourceId ∧
      reply.gpu.r2dList = gpu.r2dList ∧
      reply.gpu.scanouts =
        gpu.scanouts.set (SetScanoutBlob.load memory cmd.address).scanoutId
          { scanoutAt gpu (SetScanoutBlob.load memory cmd.address).scanoutId
            with scanoutId :=
              (SetScanoutBlob.load memory cmd.address).scanoutId }
  setScanout : ∀ env cmd memory, Asks cmd .setScanout →
    (SetScanout.load memory cmd.address).scanoutId < gpu.scanouts.length →
    Absent gpu (SetScanout.load memory cmd.address).resourceId →
    ∃ reply, ctrlDispatch env gpu cmd memory = .ok reply ∧
      reply.Answers .okNodata ∧ reply.gpu.r2dList = gpu.r2dList ∧
      ∃ scanout, reply.gpu.scanouts =
          gpu.scanouts.set (SetScanout.load memory cmd.address).scanoutId
            scanout ∧
        scanout.scanoutId = (SetScanout.load memory cmd.address).scanoutId ∧
        scanout.resourceId = 0 ∧
        scanout.scanoutRect = (SetScanout.load memory cmd.address).r ∧
        (scanout.isActive = true ↔ virtioGpuFindResource2d gpu 0 ≠ none)

/-! The handlers that stop at the search. -/

section Handlers

variable {env : Env} {gpu : GpuState} {cmd : Command} {memory : Memory}

theorem unref_absent (asks : Asks cmd .resourceUnref)
    (absent : Absent gpu
      (ResourceUnref.load memory cmd.address).resourceId) :
    RefusesAbsent env gpu cmd memory := by
  unfold RefusesAbsent ctrlDispatch
  rw [asks.code]
  refine Returns.after asks.based ?_
  dsimp only
  rw [absent.missing]
  exact .pure ⟨rfl, rfl⟩

theorem transfer_absent (asks : Asks cmd .transferToHost2d)
    (absent : Absent gpu
      (TransferToHost2d.load memory cmd.address).resourceId) :
    RefusesAbsent env gpu cmd memory := by
  unfold RefusesAbsent ctrlDispatch
  rw [asks.code]
  refine Returns.after asks.based ?_
  dsimp only
  rw [absent.missing]
  exact .pure ⟨rfl, rfl⟩

theorem flush_absent (asks : Asks cmd .resourceFlush)
    (absent : Absent gpu
      (ResourceFlush.load memory cmd.address).resourceId) :
    RefusesAbsent env gpu cmd memory := by
  unfold RefusesAbsent ctrlDispatch
  rw [asks.code]
  refine Returns.after asks.based ?_
  dsimp only
  rw [absent.missing]
  exact .pure ⟨rfl, rfl⟩

theorem attach_absent (asks : Asks cmd .resourceAttachBacking)
    (absent : Absent gpu
      (ResourceAttachBacking.load memory cmd.address).resourceId) :
    Returns (ctrlDispatch env gpu cmd memory)
      fun reply => reply.gpu = gpu := by
  unfold ctrlDispatch
  rw [asks.code]
  refine .after asks.based (.ite (fun _ => .pure rfl) fun _ => ?_)
  rw [absent.missing]
  exact .pure rfl

theorem detach_absent (asks : Asks cmd .resourceDetachBacking)
    (absent : Absent gpu
      (ResourceDetachBacking.load memory cmd.address).resourceId) :
    Returns (ctrlDispatch env gpu cmd memory)
      fun reply => reply.Answers .okNodata ∧ reply.gpu = gpu := by
  unfold ctrlDispatch
  rw [asks.code]
  refine .after asks.based ?_
  dsimp only
  rw [absent.missing]
  exact .pure ⟨rfl, rfl⟩

theorem setScanoutBlob_absent (asks : Asks cmd .setScanoutBlob)
    (supported : gpu.isBlobSupported = true)
    (inside : (SetScanoutBlob.load memory cmd.address).scanoutId <
      gpu.scanouts.length)
    (absent : Absent gpu
      (SetScanoutBlob.load memory cmd.address).resourceId) :
    Returns (ctrlDispatch env gpu cmd memory) fun reply =>
      reply.Answers .errInvalidResourceId ∧
      reply.gpu.r2dList = gpu.r2dList ∧
      reply.gpu.scanouts =
        gpu.scanouts.set (SetScanoutBlob.load memory cmd.address).scanoutId
          { scanoutAt gpu (SetScanoutBlob.load memory cmd.address).scanoutId
            with scanoutId :=
              (SetScanoutBlob.load memory cmd.address).scanoutId } := by
  unfold ctrlDispatch
  rw [asks.code]
  refine .ite (fun off => ?_) fun _ => .after asks.based ?_
  · rw [supported] at off
    cases off
  refine .ite (fun outside => absurd inside (Nat.not_lt.mpr outside))
    fun _ => ?_
  refine .ite (fun zero => absurd zero absent.nonzero) fun _ => ?_
  dsimp only
  rw [find_setScanoutAt, show virtioGpuFindResource2d
    { gpu with vgaEnable := false } _ = none from absent.missing]
  exact .pure ⟨rfl, rfl, rfl⟩

end Handlers

/-! Resource 0 can only come from `RESOURCE_CREATE_2D`, so it has an image. -/

def ZeroVisible (gpu : GpuState) : Prop :=
  ∀ r2d, r2d ∈ gpu.r2dList → r2d.resourceId = 0 → r2d.image ≠ none

theorem ZeroVisible.change {env : Env} {cmd : Command} {memory : Memory}
    {address : Nat} {before after : GpuState} (visible : ZeroVisible before)
    (changed : Change env cmd memory address before after) :
    ZeroVisible after := by
  refine changed.listed visible ?_ ?_
  · intro r2d creation zero
    cases creation with
    | pixels code => exact Option.some_ne_none _
    | bare code accepted empty => exact absurd zero accepted.nonzero
    | blob code accepted => exact absurd zero accepted.nonzero
    | cursor code accepted entries gathered small iovAlloc made =>
        exact absurd zero accepted.nonzero
  · intro r2d resourceId iov iovcnt _ shown
    exact shown

/-- What lets a scanout be turned off in every state. -/
structure Releasable (gpu : GpuState) : Prop where
  counts : ∃ leaks, CountsBeside leaks gpu
  zero : ZeroVisible gpu

theorem reached_releasable {state : Traced}
    (reached : backend.Reached state) :
    Releasable state.machine.device.gpu := by
  have unrestricted : backend.ReachedWhere
      (commandsMeet fun _ _ _ _ => True) state :=
    reached.mono fun _ _ _ _ _ _ _ => trivial
  refine reached_gpu_invariant Releasable ?_ ?_ ?_ unrestricted
  · intro vmctx isBlobSupported scanoutNum _
    refine ⟨⟨[], countsBeside_nil.mpr ?_⟩, nofun⟩
    exact counts_initial vmctx isBlobSupported scanoutNum
  · intro env cmd memory before after releasable fresh _ changed
    obtain ⟨leaks, counts⟩ := releasable.counts
    obtain ⟨more, kept, _⟩ := counts.change fresh changed
    exact ⟨⟨more, kept⟩, releasable.zero.change changed⟩
  · intro before after releasable cleared
    obtain ⟨leaks, counts⟩ := releasable.counts
    refine ⟨⟨leaks, counts.reset cleared⟩, ?_⟩
    unfold ZeroVisible
    rw [resetGpu_r2dList cleared]
    nofun

/-! `SET_SCANOUT` takes an absent resource for resource 0. -/

section Marked

variable {gpu : GpuState} {scanoutId : Nat}

/-- The state in which `SET_SCANOUT` has noted the scanout's id. -/
def marked (gpu : GpuState) (scanoutId : Nat) : GpuState :=
  setScanoutAt gpu scanoutId
    { scanoutAt gpu scanoutId with scanoutId := scanoutId }

theorem update_marked_returns (releasable : Releasable gpu)
    (inside : scanoutId < gpu.scanouts.length) (scanRect : Rect) :
    Returns (virtioGpuUpdateScanout (marked gpu scanoutId) scanoutId 0
      scanRect) fun _ => True := by
  obtain ⟨leaks, counts⟩ := releasable.counts
  have same := core_setScanoutAt_scanoutId gpu scanoutId scanoutId
  refine (counts.of_core same).virtioGpuUpdateScanout_returns ?_ scanRect ?_
  · rw [length_scanouts_of_core gpu same]
    exact inside
  · intro r2d found _
    have listed := List.mem_of_find?_eq_some found
    have named := List.find?_some found
    exact releasable.zero r2d listed (beq_iff_eq.mp named)

theorem update_marked {after : GpuState} {scanRect : Rect}
    (inside : scanoutId < gpu.scanouts.length)
    (updated : virtioGpuUpdateScanout (marked gpu scanoutId) scanoutId 0
      scanRect = .ok after) :
    after.r2dList = gpu.r2dList ∧
      after.scanouts = gpu.scanouts.set scanoutId
        (shownScanout { scanoutAt gpu scanoutId with scanoutId := scanoutId }
          0 scanRect (virtioGpuFindResource2d gpu 0)) := by
  obtain ⟨next, images, dmabufs, released, _, _, rfl⟩ :=
    virtioGpuUpdateScanout_eq_ok updated
  obtain ⟨_, _, _, _, rfl⟩ := released.split
  refine ⟨rfl, ?_⟩
  unfold marked
  rw [scanoutAt_setScanoutAt inside, find_setScanoutAt]
  exact List.set_set _

end Marked

theorem setScanout_absent {env : Env} {gpu : GpuState} {cmd : Command}
    {memory : Memory} (releasable : Releasable gpu)
    (asks : Asks cmd .setScanout)
    (inside : (SetScanout.load memory cmd.address).scanoutId <
      gpu.scanouts.length)
    (absent : Absent gpu (SetScanout.load memory cmd.address).resourceId) :
    Returns (ctrlDispatch env gpu cmd memory) fun reply =>
      reply.Answers .okNodata ∧ reply.gpu.r2dList = gpu.r2dList ∧
      ∃ scanout, reply.gpu.scanouts =
          gpu.scanouts.set (SetScanout.load memory cmd.address).scanoutId
            scanout ∧
        scanout.scanoutId = (SetScanout.load memory cmd.address).scanoutId ∧
        scanout.resourceId = 0 ∧
        scanout.scanoutRect = (SetScanout.load memory cmd.address).r ∧
        (scanout.isActive = true ↔
          virtioGpuFindResource2d gpu 0 ≠ none) := by
  unfold ctrlDispatch
  rw [asks.code]
  refine .after asks.based ?_
  refine .ite (fun outside => absurd inside (Nat.not_lt.mpr outside))
    fun _ => ?_
  dsimp only
  rw [find_setScanoutAt, absent.missing, ite_self]
  obtain ⟨after, updated, _⟩ := update_marked_returns releasable inside
    (SetScanout.load memory cmd.address).r
  obtain ⟨r2dList, scanouts⟩ := update_marked inside updated
  refine .after updated (.pure ⟨rfl, r2dList, _, scanouts, rfl, rfl, rfl, ?_⟩)
  exact Option.isSome_iff_ne_none

/-- In every state, naming a resource that is not there changes neither the
table nor a scanout, except through `SET_SCANOUT`. -/
theorem reached_absentHandled {state : Traced}
    (reached : backend.Reached state) :
    AbsentHandled state.machine.device.gpu := by
  constructor
  · intro env cmd memory asks absent
    exact unref_absent asks absent
  · intro env cmd memory asks absent
    exact transfer_absent asks absent
  · intro env cmd memory asks absent
    exact flush_absent asks absent
  · intro env cmd memory asks absent
    exact attach_absent asks absent
  · intro env cmd memory asks absent
    exact detach_absent asks absent
  · intro env cmd memory asks supported inside absent
    exact setScanoutBlob_absent asks supported inside absent
  · intro env cmd memory asks inside absent
    exact setScanout_absent (reached_releasable reached) asks inside absent

/-- One resource in the table, shown on the first scanout. -/
theorem shown_resource_absentHandled :
    ∃ state, backend.Reached state ∧
      state.machine.device.gpu.r2dList.length = 1 ∧
      (scanoutAt state.machine.device.gpu 0).resourceId = 1 ∧
      AbsentHandled state.machine.device.gpu := by
  obtain ⟨state, reached, checked⟩ :=
    @exists_serveRequests (fun _ _ _ _ => true) (fun _ _ _ _ => True)
      [createRequest 1 64 48, showRequest 1 64 48]
      (fun state =>
        decide (state.machine.device.gpu.r2dList.length = 1) &&
        decide ((scanoutAt state.machine.device.gpu 0).resourceId = 1))
      (fun _ _ _ _ _ => trivial)
      (by decide +kernel)
  obtain ⟨listed, shown⟩ := Bool.and_eq_true_iff.mp checked
  have unrestricted : backend.Reached state :=
    reached.mono fun _ _ _ => trivial
  exact ⟨state, unrestricted, of_decide_eq_true listed, of_decide_eq_true shown,
    reached_absentHandled unrestricted⟩

/-- `SET_SCANOUT` with an absent resource answers `OK` and turns off the
scanout, which showed another one. -/
theorem absent_resource_turns_scanout_off :
    ∃ state, backend.Reached state ∧
      ∃ env cmd memory reply, Asks cmd .setScanout ∧
        (SetScanout.load memory cmd.address).scanoutId <
          state.machine.device.gpu.scanouts.length ∧
        Absent state.machine.device.gpu
          (SetScanout.load memory cmd.address).resourceId ∧
        ctrlDispatch env state.machine.device.gpu cmd memory = .ok reply ∧
        ¬reply.Answers .errInvalidResourceId ∧
        reply.gpu.scanouts ≠ state.machine.device.gpu.scanouts := by
  obtain ⟨state, reached, checked⟩ :=
    @exists_serveRequests (fun _ _ _ _ => true) (fun _ _ _ _ => True)
      [createRequest 1 64 48, showRequest 1 64 48]
      (fun state =>
        decide (state.machine.device.gpu.scanouts.length = 2) &&
        decide (virtioGpuFindResource2d state.machine.device.gpu 2 = none) &&
        (ctrlDispatch (Env.steady 2) state.machine.device.gpu
          (requestCommand (showRequest 2 64 48))
          (requestMemory 0 (showRequest 2 64 48))).toOption.any
          fun (reply : Reply) =>
            !decide (reply.Answers .errInvalidResourceId) &&
            !decide (reply.gpu.scanouts = state.machine.device.gpu.scanouts))
      (fun _ _ _ _ _ => trivial)
      (by decide +kernel)
  obtain ⟨setting, ran⟩ := Bool.and_eq_true_iff.mp checked
  obtain ⟨two, missing⟩ := Bool.and_eq_true_iff.mp setting
  obtain ⟨reply, handled, differs⟩ := Returns.of_any ran
  obtain ⟨answer, scanouts⟩ := Bool.and_eq_true_iff.mp differs
  have scanoutId : (SetScanout.load (requestMemory 0 (showRequest 2 64 48))
      (requestCommand (showRequest 2 64 48)).address).scanoutId = 0 := by
    decide +kernel
  have resourceId : (SetScanout.load (requestMemory 0 (showRequest 2 64 48))
      (requestCommand (showRequest 2 64 48)).address).resourceId = 2 := by
    decide +kernel
  refine ⟨state, reached.mono (fun _ _ _ => trivial), Env.steady 2,
    requestCommand (showRequest 2 64 48),
    requestMemory 0 (showRequest 2 64 48), reply,
    ⟨by decide +kernel, rfl, by decide⟩, ?_, ?_, handled, ?_, ?_⟩
  · rw [scanoutId, of_decide_eq_true two]
    decide
  · rw [resourceId]
    exact ⟨by decide, of_decide_eq_true missing⟩
  · simpa using answer
  · simpa using scanouts

end VirtioGpu.Backend
