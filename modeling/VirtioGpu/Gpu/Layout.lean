import VirtioGpu.Gpu.Local

namespace VirtioGpu.Gpu

open Foundation
open Virtio

/-! The buffers behind the images of the table. -/

/-- The image has the layout `pixman_image_create_bits` gives it, whatever its
pixels. -/
def Image.LaidOut (image : Image) : Prop :=
  pixmanImageCreateBits true true image.format image.width image.height =
    .ok (some { image with data := fun _ => 0 })

/-- What is created for some outcomes of the two allocations is created when
both succeed. -/
theorem pixmanImageCreateBits_allocates {recordAlloc bitsAlloc : Bool}
    {format width height : Nat} {image : Image}
    (made : pixmanImageCreateBits recordAlloc bitsAlloc format width height =
      .ok (some image)) :
    pixmanImageCreateBits true true format width height =
      .ok (some image) := by
  unfold pixmanImageCreateBits at made ⊢
  cases recordAlloc with
  | false =>
      split at made
      · cases made
      · cases made
  | true =>
      cases bitsAlloc with
      | true => exact made
      | false =>
          split at made
          · cases made
          rename_i deep
          rw [if_neg deep]
          rw [Bool.not_true, if_neg Bool.false_ne_true] at made ⊢
          split at made
          · split at made
            · cases made
            · cases made
            · cases made
          · rename_i empty
            rw [if_neg empty]
            exact made

theorem pixmanImageCreateBits_laidOut {recordAlloc bitsAlloc : Bool}
    {format width height : Nat} {image : Image}
    (made : pixmanImageCreateBits recordAlloc bitsAlloc format width height =
      .ok (some image)) :
    image.LaidOut ∧ image.format = format ∧ image.width = width ∧
      image.height = height := by
  have allocated := pixmanImageCreateBits_allocates made
  have shape : image.format = format ∧ image.width = width ∧
      image.height = height ∧
        image = { image with data := fun _ => 0 } := by
    unfold pixmanImageCreateBits at allocated
    split at allocated
    · cases allocated
    split at allocated
    · cases allocated
    split at allocated
    · split at allocated
      · cases allocated
      · cases allocated
      · cases allocated
        exact ⟨rfl, rfl, rfl, rfl⟩
    · cases allocated
      exact ⟨rfl, rfl, rfl, rfl⟩
  obtain ⟨sameFormat, sameWidth, sameHeight, blank⟩ := shape
  refine ⟨?_, sameFormat, sameWidth, sameHeight⟩
  unfold Image.LaidOut
  rw [← blank, sameFormat, sameWidth, sameHeight]
  exact allocated

/-- The sizes of a buffer with pixels in it. -/
structure Image.Spacious (image : Image) : Prop where
  width : image.width < 2147483648
  height : image.height < 2147483648
  row : image.width * (pixmanFormatBpp image.format / 8) ≤ image.stride
  rowBytes : image.width * (pixmanFormatBpp image.format / 8) < 2147483648

theorem Image.LaidOut.spacious {image : Image} (laidOut : image.LaidOut)
    (wide : image.width ≠ 0) (high : image.height ≠ 0) : image.Spacious := by
  unfold Image.LaidOut pixmanImageCreateBits at laidOut
  split at laidOut
  · cases laidOut
  rw [Bool.not_true, if_neg Bool.false_ne_true, if_pos ⟨wide, high⟩]
    at laidOut
  cases bits : createBits image.format image.width image.height with
  | error fault =>
      rw [bits] at laidOut
      cases laidOut
  | ok made =>
      rw [bits] at laidOut
      cases made with
      | none => cases laidOut
      | some stride =>
          have same : stride = image.stride := by
            have equal := Option.some.inj (Except.ok.inj laidOut)
            exact congrArg Image.stride equal
          obtain ⟨narrow, low⟩ := createBits_bounded bits
          unfold createBits at bits
          dsimp only at bits
          split at bits
          · cases bits
          split at bits
          · cases bits
          split at bits
          · cases bits
          rename_i fits
          split at bits
          · cases bits
          split at bits
          · cases bits
          have stride := Option.some.inj (Except.ok.inj bits)
          rw [same] at stride
          have pixels : image.width * (pixmanFormatBpp image.format / 8) ≤
              image.width * pixmanFormatBpp image.format / 8 :=
            Nat.mul_div_le_mul_div_assoc _ _ _
          unfold int32Max at fits
          exact ⟨narrow, low, by omega, by omega⟩

/-- An image of the table belongs to a resource of its size and format, which
is no blob. -/
structure View.Sized (view : View) : Prop where
  image : ∀ image, view.image = some image → image.LaidOut ∧
    image.format = view.record.format ∧ image.width = view.record.width ∧
    image.height = view.record.height
  plain : view.image ≠ none → view.record.blob = false

theorem View.Sized.back {view : View} (sized : view.Sized) (iov : IovArray)
    (iovcnt : Nat) : (view.back iov iovcnt).Sized :=
  ⟨sized.image, sized.plain⟩

theorem View.sized_of_none {record : Resource2d} :
    View.Sized ⟨record, none⟩ := by
  constructor
  · intro image same
    cases same
  · intro backed
    exact absurd rfl backed

def SizedResult (result : RespType × Option View) : Prop :=
  ∀ view, result.2 = some view → view.Sized

theorem sizedResult_none (type : RespType) : SizedResult (type, none) := by
  intro view same
  cases same

theorem sizedResult_some {type : RespType} {view : View}
    (sized : view.Sized) : SizedResult (type, some view) := by
  intro other same
  cases same
  exact sized

/-! Each act keeps the layout of what it is given. -/

section Acts

variable {found : Option View} {memory : Memory}

theorem sizedResult_found (sized : ∀ view, found = some view → view.Sized)
    (type : RespType) : SizedResult (type, found) :=
  sized

theorem actCreate2d_sized (env : Env) (req : ResourceCreate2d)
    (sized : ∀ view, found = some view → view.Sized) :
    Ensures (actCreate2d env req found) SizedResult := by
  have kept := sizedResult_found sized
  unfold actCreate2d
  cases found with
  | some view => exact .ok (kept _)
  | none =>
      refine .ite (fun _ => .ok (kept _)) fun _ => ?_
      refine .bind fun image made => ?_
      cases image with
      | none => exact .pure (kept _)
      | some image =>
          refine .pure (sizedResult_some ⟨?_, fun _ => rfl⟩)
          intro other same
          cases same
          exact pixmanImageCreateBits_laidOut made

theorem actUnref_sized (sized : ∀ view, found = some view → view.Sized) :
    Ensures (actUnref found) SizedResult := by
  unfold actUnref
  cases found with
  | none => exact .ok (sizedResult_found sized _)
  | some view => exact .bind fun _ _ => .pure (sizedResult_none _)

theorem actAttachBacking_sized (env : Env) (ctx : Vmctx) (cmd : Command)
    (req : ResourceAttachBacking)
    (sized : ∀ view, found = some view → view.Sized) :
    Ensures (actAttachBacking env ctx cmd memory req found) SizedResult := by
  have kept := sizedResult_found sized
  unfold actAttachBacking
  refine .ite (fun _ => .ok (kept _)) fun _ => ?_
  cases found with
  | none => exact .ok (kept _)
  | some view =>
      have backed : ∀ type iov iovcnt,
          SizedResult (type, some (view.back iov iovcnt)) :=
        fun _ iov iovcnt =>
          sizedResult_some ((sized view rfl).back iov iovcnt)
      refine .ite (fun _ => .ok (kept _)) fun _ => ?_
      refine .ite (fun _ => .ok (kept _)) fun _ => ?_
      refine .ite (fun _ => .ok (backed _ _ _)) fun _ => ?_
      exact .bind fun _ _ => .pure (backed _ _ _)

theorem actDetachBacking_sized
    (sized : ∀ view, found = some view → view.Sized) :
    Ensures (actDetachBacking found) SizedResult := by
  unfold actDetachBacking
  cases found with
  | none => exact .ok (sizedResult_found sized _)
  | some view =>
      refine .bind fun _ _ => .pure (sizedResult_some ?_)
      exact (sized view rfl).back _ _

theorem actTransferToHost2d_sized (req : TransferToHost2d)
    (sized : ∀ view, found = some view → view.Sized) :
    Ensures (actTransferToHost2d memory req found) SizedResult := by
  have kept := sizedResult_found sized
  unfold actTransferToHost2d
  cases found with
  | none => exact .ok (kept _)
  | some view =>
      have whole := sized view rfl
      refine .ite (fun _ => .ok (kept _)) fun _ => ?_
      refine .ite (fun _ => .ok (kept _)) fun _ => ?_
      cases pixels : view.image with
      | none => exact .error
      | some image =>
          refine .bind fun data _ => .pure (sizedResult_some ⟨?_, ?_⟩)
          · intro other same
            cases same
            exact whole.image image pixels
          · intro _
            exact whole.plain (pixels ▸ Option.some_ne_none image)

theorem actCreateBlob_sized (env : Env) (ctx : Vmctx) (cmd : Command)
    (req : ResourceCreateBlob)
    (sized : ∀ view, found = some view → view.Sized) :
    Ensures (actCreateBlob env ctx cmd memory req found) SizedResult := by
  have kept := sizedResult_found sized
  unfold actCreateBlob
  refine .ite (fun _ => .ok (kept _)) fun _ => ?_
  refine .ite (fun _ => .ok (kept _)) fun _ => ?_
  refine .ite (fun _ => .ok (kept _)) fun _ => ?_
  cases found with
  | some view => exact .ok (kept _)
  | none =>
      refine .ite (fun _ => .ok (kept _)) fun _ => ?_
      refine .ite (fun _ => .ok (sizedResult_some View.sized_of_none))
        fun _ => ?_
      refine .ite (fun _ => .ok (kept _)) fun _ => ?_
      refine .bind fun entries _ => .ite (fun _ => ?_) fun _ => ?_
      · exact .ite (fun _ => .pure (sizedResult_some View.sized_of_none))
          fun _ => .pure (kept _)
      · refine .bind fun image made => .ite (fun _ => .pure (kept _))
          fun _ => .pure (sizedResult_some ⟨?_, fun _ => rfl⟩)
        intro other same
        cases same
        exact pixmanImageCreateBits_laidOut made

theorem act_sized (env : Env) (ctx : Vmctx) (isBlobSupported : Bool)
    (cmd : Command) (memory : Memory)
    (sized : ∀ view, found = some view → view.Sized) :
    Ensures (act env ctx isBlobSupported cmd memory found) SizedResult := by
  have blobs : Ensures (if !isBlobSupported then
        (.ok (.errUnspec, found) : Act)
      else
        actCreateBlob env ctx cmd memory
          (ResourceCreateBlob.load memory cmd.address) found)
      SizedResult :=
    .ite (fun _ => .ok (sizedResult_found sized _))
      fun _ => actCreateBlob_sized env ctx cmd _ sized
  unfold act
  cases CtrlCmd.ofCode cmd.hdr.type with
  | none => exact blobs
  | some command =>
      cases command with
      | resourceCreate2d => exact actCreate2d_sized env _ sized
      | resourceUnref => exact actUnref_sized sized
      | resourceAttachBacking =>
          exact actAttachBacking_sized env ctx cmd _ sized
      | resourceDetachBacking => exact actDetachBacking_sized sized
      | transferToHost2d => exact actTransferToHost2d_sized _ sized
      | getEdid | getDisplayInfo | setScanout | resourceFlush
      | setScanoutBlob | setModifier | resourceCreateBlob => exact blobs

end Acts

/-! The table along a run. -/

structure WellSized (gpu : GpuState) : Prop where
  tidy : Tidy gpu
  sized : ∀ resourceId view, gpu.view resourceId = some view → view.Sized

theorem WellSized.handle {env : Env} {gpu : GpuState} {cmd : Command}
    {memory : Memory} {reply : Reply} (well : WellSized gpu)
    (fresh : env.Fresh gpu) (based : cmd.base 0 = .ok cmd.address)
    (handled : ctrlDispatch env gpu cmd memory = .ok reply) :
    WellSized reply.gpu := by
  have changed :=
    (ctrlDispatch_changes env gpu cmd memory based reply handled).gpu
  have tidy := well.tidy.change fresh changed
  refine ⟨tidy, ?_⟩
  cases onResource : OnResource cmd with
  | false =>
      have undisturbed :=
        ctrlDispatch_undisturbed env gpu cmd memory onResource reply handled
      rw [undisturbed.view tidy]
      exact well.sized
  | true =>
      have does := @ctrlDispatch_does env gpu cmd memory well.tidy fresh based
        onResource
      rw [handled] at does
      generalize acted : act env gpu.vmctx gpu.isBlobSupported cmd memory
        (gpu.view (touchedId cmd memory)) = result at does
      cases does with
      | @done result _ related =>
          intro resourceId view found
          rw [related.view] at found
          rcases eq_or_ne resourceId (touchedId cmd memory) with
            same | different
          · rw [same, Function.update_self] at found
            exact act_sized env gpu.vmctx gpu.isBlobSupported cmd memory
              (well.sized (touchedId cmd memory)) result acted view found
          · rw [Function.update_of_ne different] at found
            exact well.sized resourceId view found

theorem WellSized.reset {before after : GpuState} (well : WellSized before)
    (cleared : resetGpu before = .ok after) : WellSized after := by
  refine ⟨well.tidy.reset cleared, ?_⟩
  intro resourceId view found
  unfold GpuState.view virtioGpuFindResource2d at found
  rw [resetGpu_r2dList cleared] at found
  cases found

theorem wellSized_initial (vmctx : Vmctx) (isBlobSupported : Bool)
    (scanoutNum : Nat) :
    WellSized (initialGpu vmctx isBlobSupported scanoutNum) := by
  refine ⟨tidy_initial vmctx isBlobSupported scanoutNum, ?_⟩
  intro resourceId view found
  cases found

/-- The image of a listed resource. -/
theorem WellSized.image {gpu : GpuState} (well : WellSized gpu)
    {r2d : Resource2d} {cell : Nat} (listed : r2d ∈ gpu.r2dList)
    (own : r2d.image = some cell) :
    ∃ image, gpu.images.contents cell = some image ∧ image.LaidOut ∧
      image.format = r2d.format ∧ image.width = r2d.width ∧
      image.height = r2d.height ∧ r2d.blob = false := by
  obtain ⟨counted, held⟩ := Option.ne_none_iff_exists'.mp
    (well.tidy.image_live listed own)
  have contents : gpu.images.contents cell = some counted.value := by
    rw [RefHeap.contents, held, Option.map_some]
  have view : gpu.view r2d.resourceId = some (viewOf gpu.images r2d) := by
    rw [view_of_find (find_of_mem well.tidy.distinct listed), Option.map_some]
  have pixels : (viewOf gpu.images r2d).image = some counted.value := by
    rw [viewOf, own, Option.bind_some, contents]
  have sized := well.sized _ _ view
  obtain ⟨laidOut, format, width, height⟩ := sized.image _ pixels
  exact ⟨counted.value, contents, laidOut, format, width, height,
    sized.plain (pixels ▸ Option.some_ne_none _)⟩

end VirtioGpu.Gpu
