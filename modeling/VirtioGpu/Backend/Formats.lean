import VirtioGpu.Backend.AbsentResource

namespace VirtioGpu.Backend

open Foundation
open Virtio
open Gpu

/-! The pixel format of a created resource on its way into pixman. -/

/-- The case labels of `virtio_gpu_get_pixman_format`. -/
def supportedFormats : List Nat := [2, 1, 4, 3, 134, 67, 68, 121]

def Supported (format : Nat) : Prop := format ∈ supportedFormats

instance (format : Nat) : Decidable (Supported format) :=
  inferInstanceAs (Decidable (_ ∈ _))

theorem Supported.bpp {format : Nat} (supported : Supported format) :
    pixmanFormatBpp (virtioGpuGetPixmanFormat format) = 32 := by
  unfold Supported supportedFormats at supported
  simp only [List.mem_cons, List.not_mem_nil, or_false] at supported
  rcases supported with
    rfl | rfl | rfl | rfl | rfl | rfl | rfl | rfl
  all_goals decide

theorem virtioGpuGetPixmanFormat_default {format : Nat}
    (unsupported : ¬Supported format) :
    virtioGpuGetPixmanFormat format = 0 := by
  unfold Supported supportedFormats at unsupported
  simp only [List.mem_cons, List.not_mem_nil, or_false, not_or]
    at unsupported
  simp [virtioGpuGetPixmanFormat, unsupported]

/-! Pixman's divisions. -/

theorem createBits_returns {format width : Nat} (height : Nat)
    (bpp : pixmanFormatBpp format = 32) (wide : width ≠ 0) :
    Returns (createBits format width height) fun _ => True := by
  unfold createBits
  dsimp only
  rw [bpp]
  refine .ite (fun zero => absurd zero (by decide)) fun _ => ?_
  refine .ite (fun _ => .pure trivial) fun _ => ?_
  refine .ite (fun _ => .pure trivial) fun _ => ?_
  refine .ite (fun zero => ?_) fun _ => ?_
  · omega
  · exact .ite (fun _ => .pure trivial) fun _ => .pure trivial

theorem pixmanImageCreateBits_returns {format : Nat}
    (recordAlloc bitsAlloc : Bool) (width height : Nat)
    (bpp : pixmanFormatBpp format = 32) :
    Returns (pixmanImageCreateBits recordAlloc bitsAlloc format width height)
      fun _ => True := by
  unfold pixmanImageCreateBits
  refine .ite (fun _ => .pure trivial) fun _ => ?_
  refine .ite (fun _ => .pure trivial) fun _ => ?_
  refine .ite (fun sized => ?_) fun _ => .pure trivial
  obtain ⟨result, made, _⟩ := createBits_returns height bpp sized.1
  rw [made]
  cases result with
  | none => exact .pure trivial
  | some stride => exact .ite (fun _ => .pure trivial) fun _ => .pure trivial

/-- Format 0 has no bits per pixel, so pixman divides by zero unless it gets
no record or needs no buffer. -/
theorem pixmanImageCreateBits_zero (recordAlloc bitsAlloc : Bool)
    (width height : Nat) :
    pixmanImageCreateBits recordAlloc bitsAlloc 0 width height =
      if !recordAlloc then .ok none
      else if width ≠ 0 ∧ height ≠ 0 then .error .divideByZero
      else .ok (some ⟨0, width, height, 0, fun _ => 0⟩) := by
  unfold pixmanImageCreateBits
  rw [if_neg (by decide)]
  rfl

/-! The handler. -/

/-- The request is answered without a division by zero; an unsupported format
is answered with an error that leaves the table as it was, and a supported one
has bits in its pixels. -/
structure CreatesSafely (env : Env) (gpu : GpuState) (cmd : Command)
    (memory : Memory) : Prop where
  answered : Returns (ctrlDispatch env gpu cmd memory) fun _ => True
  refused : ¬Supported (ResourceCreate2d.load memory cmd.address).format →
    Ensures (ctrlDispatch env gpu cmd memory) fun reply =>
      reply.Fails ∧ reply.gpu.r2dList = gpu.r2dList
  pixels : Supported (ResourceCreate2d.load memory cmd.address).format →
    pixmanFormatBpp (virtioGpuGetPixmanFormat
      (ResourceCreate2d.load memory cmd.address).format) ≠ 0

/-- The format is supported, the id is taken, or the record of the resource or
that of its image is not allocated. -/
def FormatHarmless (env : Env) (gpu : GpuState) (req : ResourceCreate2d) :
    Prop :=
  Supported req.format ∨
    virtioGpuFindResource2d gpu req.resourceId ≠ none ∨
      env.r2dAlloc = false ∨ env.imageRecordAlloc = false

section Handler

variable {env : Env} {gpu : GpuState} {cmd : Command} {memory : Memory}

theorem create2d_dispatched
    (code : CtrlCmd.ofCode cmd.hdr.type = some .resourceCreate2d) :
    ctrlDispatch env gpu cmd memory =
      virtioGpuCmdResourceCreate2d env gpu cmd memory := by
  unfold ctrlDispatch
  rw [code]

theorem create2d_supported (based : cmd.base 0 = .ok cmd.address)
    (supported : Supported
      (ResourceCreate2d.load memory cmd.address).format) :
    Returns (virtioGpuCmdResourceCreate2d env gpu cmd memory)
      fun _ => True := by
  unfold virtioGpuCmdResourceCreate2d
  refine .after based ?_
  dsimp only
  cases virtioGpuFindResource2d gpu
      (ResourceCreate2d.load memory cmd.address).resourceId with
  | some _ => exact .pure trivial
  | none =>
      refine .ite (fun _ => .pure trivial) fun _ => ?_
      obtain ⟨image, made, _⟩ := pixmanImageCreateBits_returns
        env.imageRecordAlloc env.imageBitsAlloc
        (ResourceCreate2d.load memory cmd.address).width
        (ResourceCreate2d.load memory cmd.address).height supported.bpp
      unfold createImage
      rw [made]
      cases image with
      | none => exact .pure trivial
      | some image => exact .pure trivial

/-- The image pixman makes of a size without pixels. -/
def unformattedImage (req : ResourceCreate2d) : Image :=
  ⟨0, req.width, req.height, 0, fun _ => 0⟩

/-- What becomes of an unsupported format. -/
theorem create2d_unsupported (based : cmd.base 0 = .ok cmd.address)
    (unsupported : ¬Supported
      (ResourceCreate2d.load memory cmd.address).format)
    (absent : virtioGpuFindResource2d gpu
      (ResourceCreate2d.load memory cmd.address).resourceId = none)
    (allocated : env.r2dAlloc = true) :
    virtioGpuCmdResourceCreate2d env gpu cmd memory =
      (if !env.imageRecordAlloc then
        .ok (answer gpu cmd .errOutOfMemory 1 [⟨0, ResourceCreate2d.size⟩])
      else if (ResourceCreate2d.load memory cmd.address).width ≠ 0 ∧
          (ResourceCreate2d.load memory cmd.address).height ≠ 0 then
        .error .divideByZero
      else
        .ok (answer (insertResource
            { gpu with
              images := gpu.images.alloc env.imageCell (unformattedImage
                (ResourceCreate2d.load memory cmd.address)) }
            (resourceOfCreate2d (ResourceCreate2d.load memory cmd.address)
              env.imageCell))
          cmd .okNodata 1 [⟨0, ResourceCreate2d.size⟩])) := by
  unfold virtioGpuCmdResourceCreate2d createImage resourceOfCreate2d
  rw [based]
  simp only [bind, Except.bind, absent, allocated,
    virtioGpuGetPixmanFormat_default unsupported, pixmanImageCreateBits_zero]
  rw [if_neg (by decide)]
  cases env.imageRecordAlloc with
  | false => rfl
  | true =>
      simp only [Bool.not_true, Bool.false_eq_true, if_false]
      by_cases sized : (ResourceCreate2d.load memory cmd.address).width ≠ 0 ∧
          (ResourceCreate2d.load memory cmd.address).height ≠ 0
      · rw [if_pos sized, if_pos sized]
      · rw [if_neg sized, if_neg sized]
        rfl

theorem create2d_refused (based : cmd.base 0 = .ok cmd.address)
    (refuses : virtioGpuFindResource2d gpu
        (ResourceCreate2d.load memory cmd.address).resourceId ≠ none ∨
      env.r2dAlloc = false) :
    Returns (virtioGpuCmdResourceCreate2d env gpu cmd memory) fun reply =>
      reply.Fails ∧ reply.gpu.r2dList = gpu.r2dList := by
  unfold virtioGpuCmdResourceCreate2d
  refine .after based ?_
  dsimp only
  cases found : virtioGpuFindResource2d gpu
      (ResourceCreate2d.load memory cmd.address).resourceId with
  | some _ => exact .pure ⟨answer_fails _ _ _ _ rfl, rfl⟩
  | none =>
      rcases refuses with present | failed
      · exact absurd found present
      · rw [failed]
        exact .pure ⟨answer_fails _ _ _ _ rfl, rfl⟩

theorem safely_of_refused
    (code : CtrlCmd.ofCode cmd.hdr.type = some .resourceCreate2d)
    (refused : Returns (virtioGpuCmdResourceCreate2d env gpu cmd memory)
      fun reply => reply.Fails ∧ reply.gpu.r2dList = gpu.r2dList) :
    CreatesSafely env gpu cmd memory := by
  have dispatched := @create2d_dispatched env gpu cmd memory code
  obtain ⟨reply, ran, fails, same⟩ := refused
  refine ⟨⟨reply, dispatched.trans ran, trivial⟩, ?_, ?_⟩
  · intro _ other equal
    rw [dispatched, ran] at equal
    cases equal
    exact ⟨fails, same⟩
  · intro supported
    rw [supported.bpp]
    decide

theorem createsSafely_unsupported_iff
    (code : CtrlCmd.ofCode cmd.hdr.type = some .resourceCreate2d)
    (based : cmd.base 0 = .ok cmd.address)
    (unsupported : ¬Supported
      (ResourceCreate2d.load memory cmd.address).format)
    (absent : virtioGpuFindResource2d gpu
      (ResourceCreate2d.load memory cmd.address).resourceId = none)
    (allocated : env.r2dAlloc = true) :
    CreatesSafely env gpu cmd memory ↔ env.imageRecordAlloc = false := by
  have result := create2d_unsupported based unsupported absent allocated
  constructor
  · intro safe
    obtain ⟨reply, ran, _⟩ := safe.answered
    have refused := safe.refused unsupported reply ran
    rw [create2d_dispatched code, result] at ran
    split at ran
    · rename_i failed
      simpa using failed
    · split at ran
      · cases ran
      · cases ran
        exact absurd rfl refused.1.not_ok
  · intro failed
    apply safely_of_refused code
    rw [result, failed]
    exact .pure ⟨answer_fails _ _ _ _ rfl, rfl⟩

theorem createsSafely_iff
    (code : CtrlCmd.ofCode cmd.hdr.type = some .resourceCreate2d)
    (based : cmd.base 0 = .ok cmd.address) :
    CreatesSafely env gpu cmd memory ↔
      FormatHarmless env gpu (ResourceCreate2d.load memory cmd.address) := by
  by_cases supported : Supported
      (ResourceCreate2d.load memory cmd.address).format
  · refine iff_of_true ⟨?_, ?_, ?_⟩ (.inl supported)
    · rw [create2d_dispatched code]
      exact create2d_supported based supported
    · intro unsupported
      exact absurd supported unsupported
    · intro _
      rw [supported.bpp]
      decide
  · by_cases refuses : virtioGpuFindResource2d gpu
        (ResourceCreate2d.load memory cmd.address).resourceId ≠ none ∨
      env.r2dAlloc = false
    · refine iff_of_true (safely_of_refused code
        (create2d_refused based refuses)) ?_
      rcases refuses with present | failed
      · exact .inr (.inl present)
      · exact .inr (.inr (.inl failed))
    · obtain ⟨present, failed⟩ := not_or.mp refuses
      rw [createsSafely_unsupported_iff code based supported
        (not_not.mp present) (by simpa using failed)]
      unfold FormatHarmless
      simp only [supported, present, failed, false_or, Bool.true_eq_false]

end Handler

/-- An image of 64 by 48 pixels on a fresh device. -/
theorem created_image_safely :
    CreatesSafely (Env.steady 0) (initialGpu ⟨65536, 5⟩ true 2)
      (requestCommand (createRequest 1 64 48))
      (requestMemory 0 (createRequest 1 64 48)) :=
  (createsSafely_iff (by decide) (by decide)).mpr (.inl (by decide))

/-- A request for 64 by 48 pixels of format 0. -/
def unknownFormatRequest : List UInt8 :=
  request .resourceCreate2d (le32 1 ++ le32 0 ++ le32 64 ++ le32 48)

/-- A fresh device divides by zero for an unknown format. -/
theorem unknown_format_divides :
    ∃ state, backend.Reached state ∧
      ctrlDispatch (Env.steady 0) state.machine.device.gpu
        (requestCommand unknownFormatRequest)
        (requestMemory 0 unknownFormatRequest) = .error .divideByZero ∧
      ¬CreatesSafely (Env.steady 0) state.machine.device.gpu
        (requestCommand unknownFormatRequest)
        (requestMemory 0 unknownFormatRequest) := by
  obtain ⟨state, reached, checked⟩ :=
    @exists_serveRequests (fun _ _ _ _ => true) (fun _ _ _ _ => True) []
      (fun state => failsWith .divideByZero
        (ctrlDispatch (Env.steady 0) state.machine.device.gpu
          (requestCommand unknownFormatRequest)
          (requestMemory 0 unknownFormatRequest)))
      (fun _ _ _ _ _ => trivial)
      (by decide +kernel)
  have divides := failsWith_eq checked
  refine ⟨state, reached.mono (fun _ _ _ => trivial), divides, ?_⟩
  intro safe
  obtain ⟨reply, ran, _⟩ := safe.answered
  rw [divides] at ran
  cases ran

end VirtioGpu.Backend
