import VirtioGpu.Backend.Representation
import VirtioGpu.Gpu.Coverage
import VirtioGpu.Gpu.Regions

namespace VirtioGpu.Backend

open Foundation
open Virtio
open Gpu

/-! The surfaces of flushed resources along every run. -/

theorem reached_flushesInside {state : Traced}
    (reached : backend.ReachedWhere
      (commandsMeet fun env gpu cmd memory =>
        ¬Misplaces env gpu cmd memory) state) :
    FlushesInside state.machine.device.gpu := by
  refine Fits.flushesInside (reached_gpu_invariant Fits ?_ ?_ ?_ reached)
  · intro _ _ _ _
    refine ⟨List.nodup_nil, ?_, ?_⟩
    · intro _ member
      cases member
    · intro _ _ _ member
      cases member
  · intro env cmd memory before after fits _ placed changed
    exact fits.change placed changed
  · intro before after _ cleared
    have empty := resetGpu_r2dList cleared
    refine ⟨?_, ?_, ?_⟩
    · rw [empty]
      exact List.nodup_nil
    · rw [empty]
      intro _ member
      cases member
    · rw [empty]
      intro _ _ _ member
      cases member

/-- A check that is enough for a command not to misplace a rectangle: no
visible rectangle is stored for the id it may create, and there is no
resource 0. -/
def placesSafely (gpu : GpuState) (cmd : Command) (memory : Memory) : Bool :=
  gpu.scanouts.all (fun scanout =>
    decide (scanout.resourceId ≠
      (ResourceCreate2d.load memory cmd.address).resourceId) ||
      !decide scanout.scanoutRect.Visible) &&
    (virtioGpuFindResource2d gpu 0).isNone

theorem not_misplaces {env : Env} {gpu : GpuState} {cmd : Command}
    {memory : Memory} (places : placesSafely gpu cmd memory = true) :
    ¬Misplaces env gpu cmd memory := by
  obtain ⟨unused, missing⟩ := Bool.and_eq_true_iff.mp places
  have kept : ∀ width height, ¬Outgrown gpu
      (ResourceCreate2d.load memory cmd.address).resourceId width height := by
    rintro width height ⟨scanout, member, same, visible, _⟩
    have unseen := List.all_eq_true.mp unused scanout member
    simp [same, visible] at unseen
  intro misplaces
  cases misplaces with
  | create2d _ _ _ _ outgrown => exact kept _ _ outgrown
  | createCursor _ _ _ _ _ _ _ outgrown => exact kept _ _ outgrown
  | disable _ found _ _ =>
      rw [found] at missing
      cases missing

/-- An image shown on the first scanout. -/
theorem shown_image_flushesInside :
    ∃ state, backend.ReachedWhere
        (commandsMeet fun env gpu cmd memory =>
          ¬Misplaces env gpu cmd memory) state ∧
      (scanoutAt state.machine.device.gpu 0).resourceId = 1 ∧
      FlushesInside state.machine.device.gpu := by
  obtain ⟨state, reached, checked⟩ :=
    @exists_serveRequests (fun _ gpu cmd memory => placesSafely gpu cmd memory)
      (fun env gpu cmd memory => ¬Misplaces env gpu cmd memory)
      [createRequest 1 64 48, showRequest 1 64 48]
      (fun state =>
        decide ((scanoutAt state.machine.device.gpu 0).resourceId = 1))
      (fun _ _ _ _ places => not_misplaces places)
      (by decide +kernel)
  exact ⟨state, reached, of_decide_eq_true checked,
    reached_flushesInside reached⟩

/-- The calls a flush makes to the display. -/
def flushCalls (gpu : GpuState) (bytes : List UInt8) : List DisplayCall :=
  match virtioGpuCmdResourceFlush gpu (requestCommand bytes)
      (requestMemory 0 bytes) with
  | .error _ => []
  | .ok reply => reply.display

theorem flush_of_call {gpu : GpuState} {bytes : List UInt8}
    {call : DisplayCall} (called : call ∈ flushCalls gpu bytes) :
    ∃ reply, virtioGpuCmdResourceFlush gpu (requestCommand bytes)
        (requestMemory 0 bytes) = .ok reply ∧ call ∈ reply.display := by
  unfold flushCalls at called
  cases ran : virtioGpuCmdResourceFlush gpu (requestCommand bytes)
      (requestMemory 0 bytes) with
  | error fault =>
      rw [ran] at called
      cases called
  | ok reply =>
      rw [ran] at called
      exact ⟨reply, rfl, called⟩

/-- The rectangle stored for a resource of 64 by 48 pixels is applied to the
16 by 16 image that was created later under the same id. -/
theorem recreated_image_overrun :
    ∃ state, backend.Reached state ∧
      ¬FlushesInside state.machine.device.gpu := by
  obtain ⟨state, reached, checked⟩ :=
    @exists_serveRequests (fun _ _ _ _ => true) (fun _ _ _ _ => True)
      [createRequest 1 64 48, showRequest 1 64 48,
        request .resourceUnref (le32 1 ++ le32 0), createRequest 1 16 16]
      (fun state =>
        decide ((virtioGpuFindResource2d state.machine.device.gpu 1).map
          (fun r2d => (r2d.blob, r2d.width)) = some (false, 16)) &&
        decide (DisplayCall.surfaceUpdate 0
            (.pixman pixmanA8r8g8b8 ⟨0, 0, 64, 48⟩ 64 (some 3) 0) ∈
          flushCalls state.machine.device.gpu (flushRequest 1 64 48)))
      (fun _ _ _ _ _ => trivial)
      (by decide +kernel)
  obtain ⟨small, shown⟩ := Bool.and_eq_true_iff.mp checked
  obtain ⟨r2d, found, size⟩ :=
    Option.map_eq_some_iff.mp (of_decide_eq_true small)
  obtain ⟨plain, narrow⟩ := Prod.mk.inj size
  obtain ⟨reply, ran, called⟩ := flush_of_call (of_decide_eq_true shown)
  refine ⟨state, reached.mono (fun _ _ _ => trivial), ?_⟩
  intro inside
  obtain ⟨_, fits, _⟩ := inside _ _ reply r2d _ _ _ _ _ _ ran found plain called
  rw [narrow] at fits
  exact absurd fits (by decide)

/-- A flush of a rectangle that is 32768 wide does not reach the scanout it
covers. -/
theorem wide_flush_dropped :
    ∃ state, backend.Reached state ∧
      ¬FlushExact (scanoutAt state.machine.device.gpu 0) 1
        ⟨0, 0, 32768, 48⟩ := by
  obtain ⟨state, reached, checked⟩ :=
    @exists_serveRequests (fun _ _ _ _ => true) (fun _ _ _ _ => True)
      [createRequest 1 64 48, showRequest 1 64 48]
      (fun state => !decide (FlushExact
        (scanoutAt state.machine.device.gpu 0) 1 ⟨0, 0, 32768, 48⟩))
      (fun _ _ _ _ _ => trivial)
      (by decide +kernel)
  exact ⟨state, reached.mono (fun _ _ _ => trivial), by simpa using checked⟩

end VirtioGpu.Backend
