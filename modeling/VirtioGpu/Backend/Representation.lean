import VirtioGpu.Backend.GpuRun
import VirtioGpu.Gpu.Backing

namespace VirtioGpu.Backend

open Foundation
open Virtio
open Gpu

/-! The backing objects of resources along every run. -/

/-- Every resource has its backing object, and no command meets a null image
or a null `dma_info`, unless it asks for the pixels of a blob resource. -/
structure RepresentedSafely (gpu : GpuState) : Prop where
  represented : Represented gpu
  control : ∀ env cmd memory, ¬ShowsBlobPixels gpu cmd memory →
    Avoids (ctrlDispatch env gpu cmd memory) Fault.IsNull
  cursor : ∀ cmd memory, ¬PointsAtBlob gpu cmd memory →
    Avoids (cursorDispatch gpu cmd memory) Fault.IsNull

theorem reached_representedSafely {state : Traced}
    (reached : backend.ReachedWhere
      (commandsMeet fun env gpu cmd memory =>
        ¬CreatesUnbacked env gpu cmd memory) state) :
    RepresentedSafely state.machine.device.gpu := by
  have represented : Represented state.machine.device.gpu := by
    refine reached_gpu_invariant Represented ?_ ?_ ?_ reached
    · intro _ _ _ _ r2d member
      cases member
    · intro env cmd memory before after represented _ backs changed
      exact represented.change backs changed
    · intro before after _ cleared r2d member
      rw [resetGpu_r2dList cleared] at member
      cases member
  refine ⟨represented, ?_, ?_⟩
  · intro env cmd memory plain
    exact ctrlDispatch_avoids env cmd memory represented plain
  · intro cmd memory plain
    exact cursorDispatch_avoids cmd memory represented plain

theorem not_createsUnbacked {env : Env} {gpu : GpuState} {cmd : Command}
    {memory : Memory}
    (backs : (decide ((ResourceCreateBlob.load memory cmd.address).nrEntries ≠
      0) && env.imageAlloc) = true) :
    ¬CreatesUnbacked env gpu cmd memory := by
  obtain ⟨nonempty, allocates⟩ := Bool.and_eq_true_iff.mp backs
  rintro ⟨_, _, empty | ⟨_, _, _, failed⟩⟩
  · exact of_decide_eq_true nonempty empty
  · rw [allocates] at failed
    cases failed

/-- A blob resource with one memory entry, and no other request. -/
theorem blob_resource_representedSafely :
    ∃ state, backend.ReachedWhere
        (commandsMeet fun env gpu cmd memory =>
          ¬CreatesUnbacked env gpu cmd memory) state ∧
      state.machine.device.gpu.r2dList.length = 1 ∧
      RepresentedSafely state.machine.device.gpu := by
  obtain ⟨state, reached, checked⟩ :=
    @exists_serveRequests
      (fun env _ cmd memory =>
        decide ((ResourceCreateBlob.load memory cmd.address).nrEntries ≠ 0) &&
          env.imageAlloc)
      (fun env gpu cmd memory => ¬CreatesUnbacked env gpu cmd memory)
      [request .resourceCreateBlob
        (le32 1 ++ le32 1 ++ le32 2 ++ le32 1 ++ le64 0 ++ le64 32768)]
      (fun state => decide (state.machine.device.gpu.r2dList.length = 1))
      (fun _ _ _ _ backs => not_createsUnbacked backs)
      (by decide +kernel)
  exact ⟨state, reached, of_decide_eq_true checked,
    reached_representedSafely reached⟩

/-- The handler stops with the given fault. -/
def failsWith (fault : Fault) : Except Fault α → Bool
  | .error other => decide (other = fault)
  | .ok _ => false

theorem failsWith_eq {fault : Fault} {result : Except Fault α}
    (fails : failsWith fault result = true) : result = .error fault := by
  cases result with
  | ok value => cases fails
  | error other =>
      rw [of_decide_eq_true fails]

/-- A chain of a request at 256 and of a response at 512. -/
def requestCommand (bytes : List UInt8) : Command where
  hdr := CtrlHdr.load (requestMemory 0 bytes) 256
  iov := fun slot => ⟨some (256 + 256 * slot), 64⟩
  iovcnt := 2
  iolen := 0

/-- `CREATE_BLOB` without memory entries succeeds and leaves a resource with
neither an image nor a dmabuf; flushing it hands pixman a null image. -/
theorem empty_blob_unbacked :
    ∃ state, backend.Reached state ∧
      ¬Represented state.machine.device.gpu ∧
      ∃ env cmd memory,
        ctrlDispatch env state.machine.device.gpu cmd memory =
          .error .nullImage := by
  obtain ⟨state, reached, checked⟩ :=
    @exists_serveRequests (fun _ _ _ _ => true) (fun _ _ _ _ => True)
      [request .resourceCreateBlob
        (le32 1 ++ le32 1 ++ le32 2 ++ le32 0 ++ le64 0 ++ le64 32768)]
      (fun state =>
        decide (state.machine.device.gpu.r2dList = [Resource2d.fresh 1]) &&
        failsWith .nullImage
          (ctrlDispatch (Env.steady 1) state.machine.device.gpu
            (requestCommand (flushRequest 1 1 1))
            (requestMemory 0 (flushRequest 1 1 1))))
      (fun _ _ _ _ _ => trivial)
      (by decide +kernel)
  obtain ⟨listed, fails⟩ := Bool.and_eq_true_iff.mp checked
  refine ⟨state, reached.mono (fun _ _ _ => trivial), ?_, Env.steady 1,
    requestCommand (flushRequest 1 1 1), requestMemory 0 (flushRequest 1 1 1),
    failsWith_eq fails⟩
  intro represented
  have backed := represented (Resource2d.fresh 1) (by
    rw [of_decide_eq_true listed]
    exact List.mem_singleton_self _)
  rcases backed with ⟨blob, _⟩ | ⟨_, image, _⟩
  · cases blob
  · exact image rfl

end VirtioGpu.Backend
