import VirtioGpu.Backend.GpuRun
import VirtioGpu.Gpu.Counts

namespace VirtioGpu.Backend

open Foundation
open Virtio
open Gpu

/-! Reference counts of images and dmabufs along every run. -/

/-- Every count is the number of holders, and objects live exactly as long as
they are held. -/
structure RefCountsExact (gpu : GpuState) : Prop where
  images : ∀ cell, gpu.images.refs cell =
    gpu.r2dList.countP (fun r2d => r2d.image == some cell) +
      gpu.scanouts.countP (fun scanout => scanout.curImg == some cell)
  dmabufs : ∀ cell, gpu.dmabufs.refs cell =
    gpu.r2dList.countP (fun r2d => r2d.blob && r2d.dmaInfo == some cell) +
      gpu.scanouts.countP (fun scanout => scanout.dmaBuf == some cell)
  inactive : ∀ scanout, scanout ∈ gpu.scanouts → scanout.isActive = false →
    scanout.curImg = none ∧ scanout.dmaBuf = none
  imageLive : ∀ cell, gpu.images cell ≠ none ↔
    (∃ r2d, r2d ∈ gpu.r2dList ∧ r2d.image = some cell) ∨
      ∃ scanout, scanout ∈ gpu.scanouts ∧ scanout.curImg = some cell
  fdOpen : ∀ fd, gpu.openFds fd = true ↔
    ∃ cell counted, gpu.dmabufs cell = some counted ∧ counted.value = fd ∧
      ((∃ r2d, r2d ∈ gpu.r2dList ∧ r2d.blob = true ∧
          r2d.dmaInfo = some cell) ∨
        ∃ scanout, scanout ∈ gpu.scanouts ∧ scanout.dmaBuf = some cell)

theorem owned_eq_some_iff {r2d : Resource2d} {cell : Nat} :
    r2d.owned = some cell ↔ r2d.blob = true ∧ r2d.dmaInfo = some cell := by
  unfold Resource2d.owned
  cases r2d.blob with
  | false => simp
  | true => simp

theorem refCountsExact_of_counts {gpu : GpuState} (counts : Counts gpu) :
    RefCountsExact gpu := by
  constructor
  · intro cell
    rw [counts.held.images cell, GpuState.imageHolders, List.count_append,
      List.count_filterMap, List.count_filterMap]
  · intro cell
    have owners : gpu.r2dList.countP (fun r2d => r2d.owned == some cell) =
        gpu.r2dList.countP
          (fun r2d => r2d.blob && r2d.dmaInfo == some cell) := by
      apply List.countP_congr
      intro r2d _
      rw [beq_iff_eq, Bool.and_eq_true, beq_iff_eq, owned_eq_some_iff]
    rw [counts.held.dmabufs cell, GpuState.dmabufHolders, List.count_append,
      List.count_filterMap, List.count_filterMap, owners]
  · exact counts.inactive
  · intro cell
    rw [counts.held.images.live_iff, GpuState.imageHolders, List.mem_append,
      List.mem_filterMap, List.mem_filterMap]
  · intro fd
    rw [counts.held.files.isOpen fd]
    constructor
    · rintro ⟨cell, counted, live, value⟩
      refine ⟨cell, counted, live, value, ?_⟩
      have member := counts.held.dmabufs.live_iff.mp
        (show gpu.dmabufs cell ≠ none by rw [live]; nofun)
      rw [GpuState.dmabufHolders, List.mem_append, List.mem_filterMap,
        List.mem_filterMap] at member
      rcases member with ⟨r2d, listed, owns⟩ | holder
      · exact .inl ⟨r2d, listed, owned_eq_some_iff.mp owns⟩
      · exact .inr holder
    · rintro ⟨cell, counted, live, value, _⟩
      exact ⟨cell, counted, live, value⟩

theorem reached_refCountsExact {state : Traced}
    (reached : backend.ReachedWhere
      (commandsMeet fun env _ _ _ => env.Succeeds) state) :
    RefCountsExact state.machine.device.gpu := by
  refine refCountsExact_of_counts
    (reached_gpu_invariant Counts ?_ ?_ ?_ reached)
  · intro vmctx isBlobSupported scanoutNum _
    exact counts_initial vmctx isBlobSupported scanoutNum
  · intro env cmd memory before after counts fresh succeeds changed
    exact counts.change fresh succeeds changed
  · intro before after counts cleared
    exact counts.reset cleared

/-- An image whose resource is gone lives on in the scanout that shows it. -/
theorem shown_image_outlives_resource :
    ∃ state, backend.ReachedWhere
        (commandsMeet fun env _ _ _ => env.Succeeds) state ∧
      state.machine.device.gpu.r2dList = [] ∧
      state.machine.device.gpu.images.refs 0 = 1 ∧
      RefCountsExact state.machine.device.gpu := by
  obtain ⟨state, reached, checked⟩ :=
    @exists_serveRequests (fun env _ _ _ => decide env.Succeeds)
      (fun env _ _ _ => env.Succeeds)
      [createRequest 1 64 48, showRequest 1 64 48,
        request .resourceUnref (le32 1 ++ le32 0)]
      (fun state => decide (state.machine.device.gpu.r2dList = []) &&
        decide (state.machine.device.gpu.images.refs 0 = 1))
      (fun _ _ _ _ succeeds => of_decide_eq_true succeeds)
      (by decide +kernel)
  obtain ⟨removed, counted⟩ := Bool.and_eq_true_iff.mp checked
  exact ⟨state, reached, of_decide_eq_true removed, of_decide_eq_true counted,
    reached_refCountsExact reached⟩

end VirtioGpu.Backend
