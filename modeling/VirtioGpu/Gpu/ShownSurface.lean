import VirtioGpu.Gpu.Exits
import VirtioGpu.Gpu.Local

namespace VirtioGpu.Gpu

open Foundation
open Virtio

/-! What a scanout shows, and which commands leave it alone. -/

/-- The command drops the resource or gives the scanout something else to
show. -/
def Disturbs (scanoutId resourceId : Nat) (cmd : Command) (memory : Memory) :
    Prop :=
  CtrlCmd.ofCode cmd.hdr.type = some .resourceUnref ∧
      (ResourceUnref.load memory cmd.address).resourceId = resourceId ∨
    CtrlCmd.ofCode cmd.hdr.type = some .setScanout ∧
      (SetScanout.load memory cmd.address).scanoutId = scanoutId ∨
    CtrlCmd.ofCode cmd.hdr.type = some .setScanoutBlob ∧
      (SetScanoutBlob.load memory cmd.address).scanoutId = scanoutId

/-- The scanout shows an image resource, and `surface` describes it there. -/
structure Displays (gpu : GpuState) (scanoutId resourceId : Nat)
    (surface : Surface) : Prop where
  inside : scanoutId < gpu.scanouts.length
  shown : (scanoutAt gpu scanoutId).resourceId = resourceId
  described : ∃ r2d image,
    virtioGpuFindResource2d gpu resourceId = some r2d ∧ r2d.blob = false ∧
      r2d.image.bind gpu.images.contents = some image ∧
        surface = pixmanSurface r2d image (scanoutAt gpu scanoutId).scanoutRect

theorem Displays.congr {before after : GpuState}
    {scanoutId resourceId : Nat} {surface : Surface}
    (displays : Displays before scanoutId resourceId surface)
    (r2dList : after.r2dList = before.r2dList)
    (scanouts : after.scanouts = before.scanouts)
    (images : after.images = before.images) :
    Displays after scanoutId resourceId surface := by
  obtain ⟨inside, shown, described⟩ := displays
  have same : scanoutAt after scanoutId = scanoutAt before scanoutId := by
    unfold scanoutAt
    rw [scanouts]
  unfold virtioGpuFindResource2d at described
  refine ⟨?_, ?_, ?_⟩
  · rw [scanouts]
    exact inside
  · rw [same]
    exact shown
  · unfold virtioGpuFindResource2d
    rw [same, r2dList, images]
    exact described

/-! The resource. -/

/-- An act that keeps the resource and the stride of its image. -/
def KeepsStride (view : View) (acted : RespType × Option View) : Prop :=
  ∃ after, acted.2 = some after ∧
    after.image.map Image.stride = view.image.map Image.stride

theorem KeepsStride.same (view : View) (type : RespType) :
    KeepsStride view (type, some view) := ⟨view, rfl, rfl⟩

theorem KeepsStride.back (view : View) (type : RespType) (iov : IovArray)
    (iovcnt : Nat) : KeepsStride view (type, some (view.back iov iovcnt)) :=
  ⟨_, rfl, rfl⟩

section Acts

variable {env : Env} {ctx : Vmctx} {cmd : Command} {memory : Memory}

theorem actAttachBacking_keeps (req : ResourceAttachBacking) (view : View) :
    Ensures (actAttachBacking env ctx cmd memory req (some view))
      (KeepsStride view) := by
  refine .ite (fun _ => .ok (.same view _)) fun _ => ?_
  refine .ite (fun _ => .ok (.same view _)) fun _ => ?_
  refine .ite (fun _ => .ok (.same view _)) fun _ => ?_
  refine .ite (fun _ => .ok (.back view _ _ _)) fun _ => ?_
  exact .bind fun _ _ => .pure (.back view _ _ _)

theorem actTransferToHost2d_keeps (req : TransferToHost2d) (view : View) :
    Ensures (actTransferToHost2d memory req (some view))
      (KeepsStride view) := by
  refine .ite (fun _ => .ok (.same view _)) fun _ => ?_
  refine .ite (fun _ => .ok (.same view _)) fun _ => ?_
  cases held : view.image with
  | none => exact .error
  | some image =>
      refine .bind fun data _ => .pure ⟨_, rfl, ?_⟩
      rw [held]
      rfl

theorem actCreateBlob_keeps (req : ResourceCreateBlob) (view : View) :
    Ensures (actCreateBlob env ctx cmd memory req (some view))
      (KeepsStride view) := by
  refine .ite (fun _ => .ok (.same view _)) fun _ => ?_
  refine .ite (fun _ => .ok (.same view _)) fun _ => ?_
  exact .ite (fun _ => .ok (.same view _)) fun _ => .ok (.same view _)

/-- Whatever a command does to a resource but to drop it. -/
theorem act_keeps {isBlobSupported : Bool} (view : View)
    (kept : CtrlCmd.ofCode cmd.hdr.type ≠ some .resourceUnref) :
    Ensures (act env ctx isBlobSupported cmd memory (some view))
      (KeepsStride view) := by
  have blob : Ensures
      (if !isBlobSupported then .ok (.errUnspec, some view)
        else actCreateBlob env ctx cmd memory
          (ResourceCreateBlob.load memory cmd.address) (some view))
      (KeepsStride view) :=
    .ite (fun _ => .ok (.same view _)) fun _ => actCreateBlob_keeps _ view
  unfold act
  cases code : CtrlCmd.ofCode cmd.hdr.type with
  | none => exact blob
  | some command =>
      cases command with
      | resourceCreate2d => exact .ok (.same view _)
      | resourceUnref => exact absurd code kept
      | resourceAttachBacking => exact actAttachBacking_keeps _ view
      | resourceDetachBacking =>
          exact .bind fun _ _ => .pure (.back view _ _ _)
      | transferToHost2d => exact actTransferToHost2d_keeps _ view
      | getEdid | getDisplayInfo | setScanout | resourceFlush
      | setScanoutBlob | setModifier | resourceCreateBlob => exact blob

end Acts

section Commands

variable {env : Env} {gpu : GpuState} {cmd : Command} {memory : Memory}
  {scanoutId resourceId : Nat}

/-- A command that does not drop a resource keeps it and its stride. -/
theorem ctrlDispatch_view (tidy : Tidy gpu) (fresh : env.Fresh gpu)
    (based : cmd.base 0 = .ok cmd.address)
    (kept : ¬(CtrlCmd.ofCode cmd.hdr.type = some .resourceUnref ∧
      (ResourceUnref.load memory cmd.address).resourceId = resourceId))
    {view : View} (viewed : gpu.view resourceId = some view) :
    Ensures (ctrlDispatch env gpu cmd memory) fun reply =>
      ∃ after, reply.gpu.view resourceId = some after ∧
        after.image.map Image.stride = view.image.map Image.stride := by
  intro reply ran
  cases onResource : OnResource cmd with
  | false =>
      have undisturbed := ctrlDispatch_undisturbed env gpu cmd memory
        onResource reply ran
      have changed := (ctrlDispatch_changes env gpu cmd memory based reply
        ran).gpu
      rw [undisturbed.view (tidy.change fresh changed)]
      exact ⟨view, viewed, rfl⟩
  | true =>
      obtain ⟨acted, acts, does⟩ :=
        (ctrlDispatch_does tidy fresh based onResource).ensures reply ran
      rw [does.view]
      by_cases same : resourceId = touchedId cmd memory
      · subst same
        rw [viewed] at acts
        rw [Function.update_self]
        refine act_keeps view ?_ acted acts
        intro code
        apply kept
        refine ⟨code, ?_⟩
        unfold touchedId
        rw [code]
      · rw [Function.update_of_ne same]
        exact ⟨view, viewed, rfl⟩

theorem find_insertResource (gpu : GpuState) (r2d : Resource2d)
    (resourceId : Nat) :
    virtioGpuFindResource2d (insertResource gpu r2d) resourceId =
      if r2d.resourceId = resourceId then some r2d
      else virtioGpuFindResource2d gpu resourceId :=
  KeyedList.lookup_cons Resource2d.resourceId r2d gpu.r2dList resourceId

/-- As long as a resource is there, only its backing changes. -/
theorem Change.resource_kept {address : Nat} {before after : GpuState}
    {r2d later : Resource2d}
    (changed : Change env cmd memory address before after)
    (distinct : KeyedList.Distinct Resource2d.resourceId before.r2dList)
    (found : virtioGpuFindResource2d before resourceId = some r2d)
    (still : virtioGpuFindResource2d after resourceId = some later) :
    later = { r2d with iov := later.iov, iovcnt := later.iovcnt } := by
  have listed : ∀ {gpu : GpuState}, gpu.r2dList = before.r2dList →
      virtioGpuFindResource2d gpu resourceId = some later → later = r2d := by
    intro gpu same here
    unfold virtioGpuFindResource2d at here found
    rw [same, found] at here
    exact (Option.some.inj here).symm
  have inserted : ∀ {gpu : GpuState} {created : Resource2d},
      after = insertResource gpu created → gpu.r2dList = before.r2dList →
      virtioGpuFindResource2d before created.resourceId = none →
        later = r2d := by
    intro gpu created result same absent
    rw [result, find_insertResource] at still
    split at still
    · rename_i named
      rw [named, found] at absent
      cases absent
    · exact listed same still
  cases changed with
  | kept same => rw [listed (r2dList_of_core same) still]
  | created2d code absent allocated made result =>
      rw [inserted result rfl absent]
  | createdBare code accepted empty result =>
      rw [inserted result rfl accepted.absent]
  | createdBlob code accepted valid result =>
      rw [inserted result rfl accepted.absent]
  | createdCursor code accepted backed entries gathered small iovAlloc made
      result =>
      rw [inserted result (createImage_r2dList made) accepted.absent]
  | leaked iovAlloc made => rw [listed (createImage_r2dList made) still]
  | @removed dropped _ _ _ released result =>
      obtain ⟨_, _, _, _, rfl⟩ := (releaseResource_released released).split
      have looked := distinct.lookup_remove dropped resourceId
      subst result
      rw [virtioGpuFindResource2d_eq, removeResource_eq, looked] at still
      split at still
      · cases still
      · rw [listed rfl still]
  | backed reason result =>
      subst result
      rw [find_setBacking, found] at still
      split at still
      · cases still
        rfl
      · cases still
        rfl
  | painted result => rw [listed (by rw [result]) still]
  | shown reason starts inside updated result =>
      rw [listed (by rw [r2dList_of_core result,
        virtioGpuUpdateScanout_r2dList updated, r2dList_of_core starts]) still]

/-! The scanout. -/

theorem scanoutAt_setScanoutAt_of_ne (gpu : GpuState) {other : Nat}
    (scanout : Scanout) (different : scanoutId ≠ other) :
    scanoutAt (setScanoutAt gpu other scanout) scanoutId =
      scanoutAt gpu scanoutId := by
  unfold scanoutAt setScanoutAt
  rw [List.getD_eq_getElem?_getD, List.getD_eq_getElem?_getD,
    List.getElem?_set_ne different.symm]

theorem anonymous_scanoutAt (gpu : GpuState) (scanoutId : Nat) :
    (scanoutAt gpu scanoutId).anonymous = scanoutAt gpu.core scanoutId := by
  unfold scanoutAt GpuState.core
  rw [List.getD_eq_getElem?_getD, List.getD_eq_getElem?_getD,
    List.getElem?_map]
  cases gpu.scanouts[scanoutId]? with
  | none => rfl
  | some scanout => rfl

theorem scanoutAt_of_core {before after : GpuState}
    (same : after.core = before.core) (scanoutId : Nat) :
    (scanoutAt after scanoutId).anonymous =
      (scanoutAt before scanoutId).anonymous := by
  rw [anonymous_scanoutAt, anonymous_scanoutAt, same]

/-- Only the scanout a request names gets something else to show. -/
theorem Change.scanout_kept {address : Nat} {before after : GpuState}
    (changed : Change env cmd memory address before after)
    (elsewhere : scanoutId ≠ (SetScanout.load memory address).scanoutId) :
    (scanoutAt after scanoutId).anonymous =
      (scanoutAt before scanoutId).anonymous := by
  cases changed with
  | kept same => exact scanoutAt_of_core same scanoutId
  | created2d _ _ _ _ result | createdBare _ _ _ result
  | createdBlob _ _ _ result | backed _ result | painted result =>
      subst result
      rfl
  | createdCursor _ _ _ _ _ _ _ made result =>
      subst result
      rcases createImage_eq_ok made with ⟨_, rfl, _⟩ | ⟨bits, _, rfl, _⟩
      · rfl
      · rfl
  | leaked _ made =>
      rcases createImage_eq_ok made with ⟨_, rfl, _⟩ | ⟨bits, _, rfl, _⟩
      · rfl
      · rfl
  | removed _ released result =>
      obtain ⟨_, _, _, _, rfl⟩ := (releaseResource_released released).split
      subst result
      rfl
  | @shown start shown resourceId _ starts _ updated result =>
      obtain ⟨next, _, _, released, _, _, rfl⟩ :=
        virtioGpuUpdateScanout_eq_ok updated
      obtain ⟨_, _, _, _, rfl⟩ := released.split
      rw [scanoutAt_of_core result,
        scanoutAt_setScanoutAt_of_ne _ _ elsewhere]
      exact scanoutAt_of_core starts scanoutId

theorem ctrlDispatch_scanout (tidy : Tidy gpu) (fresh : env.Fresh gpu)
    (based : cmd.base 0 = .ok cmd.address)
    (undisturbed : ¬Disturbs scanoutId resourceId cmd memory) :
    Ensures (ctrlDispatch env gpu cmd memory) fun reply =>
      (scanoutAt reply.gpu scanoutId).anonymous =
        (scanoutAt gpu scanoutId).anonymous := by
  intro reply ran
  cases onResource : OnResource cmd with
  | true =>
      obtain ⟨acted, _, does⟩ :=
        (ctrlDispatch_does tidy fresh based onResource).ensures reply ran
      unfold scanoutAt
      rw [does.scanouts]
  | false =>
      have changed := (ctrlDispatch_changes env gpu cmd memory based reply
        ran).gpu
      have same : ∀ {result : Except Fault Reply},
          Ensures result (fun reply => reply.gpu = gpu) →
          result = .ok reply → (scanoutAt reply.gpu scanoutId).anonymous =
            (scanoutAt gpu scanoutId).anonymous := by
        intro result ensured equal
        rw [ensured reply equal]
      unfold ctrlDispatch at ran
      unfold OnResource at onResource
      cases code : CtrlCmd.ofCode cmd.hdr.type with
      | none =>
          rw [code] at ran
          exact same (.ok rfl) ran
      | some command =>
          rw [code] at ran onResource
          cases command with
          | getEdid =>
              exact same (.bind fun _ _ => .ite (fun _ => .error) fun _ =>
                .pure rfl) ran
          | setModifier =>
              exact same (.bind fun _ _ => .pure rfl) ran
          | getDisplayInfo => exact same (.ok rfl) ran
          | resourceFlush =>
              exact same (virtioGpuCmdResourceFlush_gpu gpu cmd memory) ran
          | setScanout =>
              apply changed.scanout_kept
              intro named
              exact undisturbed (.inr (.inl ⟨code, named.symm⟩))
          | setScanoutBlob =>
              apply changed.scanout_kept
              intro named
              exact undisturbed (.inr (.inr ⟨code, named.symm⟩))
          | resourceCreate2d | resourceUnref | resourceAttachBacking
          | resourceDetachBacking | transferToHost2d | resourceCreateBlob =>
              cases onResource

end Commands

/-! The surface. -/

section Surfaces

variable {env : Env} {gpu : GpuState} {cmd : Command} {memory : Memory}
  {scanoutId resourceId : Nat} {surface : Surface}

/-- A command that disturbs neither the scanout nor the resource leaves the
surface as it is. -/
theorem Displays.dispatched (displays : Displays gpu scanoutId resourceId
      surface) (tidy : Tidy gpu) (fresh : env.Fresh gpu)
    (based : cmd.base 0 = .ok cmd.address)
    (undisturbed : ¬Disturbs scanoutId resourceId cmd memory) :
    Ensures (ctrlDispatch env gpu cmd memory) fun reply =>
      Displays reply.gpu scanoutId resourceId surface := by
  intro reply ran
  have changed := (ctrlDispatch_changes env gpu cmd memory based reply
    ran).gpu
  have scanout := ctrlDispatch_scanout tidy fresh based undisturbed reply ran
  have rect : (scanoutAt reply.gpu scanoutId).scanoutRect =
      (scanoutAt gpu scanoutId).scanoutRect := by
    have equal := congrArg Scanout.scanoutRect scanout
    exact equal
  have named : (scanoutAt reply.gpu scanoutId).resourceId =
      (scanoutAt gpu scanoutId).resourceId := by
    have equal := congrArg Scanout.resourceId scanout
    exact equal
  obtain ⟨r2d, image, found, plain, held, rfl⟩ := displays.described
  obtain ⟨view, viewed, kept⟩ := ctrlDispatch_view tidy fresh based
    (fun unrefs => undisturbed (.inl unrefs)) (view_of_find found) reply ran
  obtain ⟨later, still, rfl⟩ := Option.map_eq_some_iff.mp viewed
  have same := changed.resource_kept tidy.distinct found still
  have stride : (later.image.bind reply.gpu.images.contents).map
      Image.stride = some image.stride := by
    simp only [viewOf, held, Option.map_some] at kept
    exact kept
  obtain ⟨painted, contents, equal⟩ := Option.map_eq_some_iff.mp stride
  refine ⟨?_, named.trans displays.shown, later, painted, still, ?_,
    contents, ?_⟩
  · rw [changed.sameSetup.scanoutNum]
    exact displays.inside
  · rw [same]
    exact plain
  · unfold pixmanSurface
    rw [rect, equal, same]

/-- `SET_SCANOUT` shows an image resource and is answered `OK`. -/
structure SetsScanout (env : Env) (gpu : GpuState) (cmd : Command)
    (memory : Memory) (scanoutId resourceId : Nat) (reply : Reply) :
    Prop where
  code : CtrlCmd.ofCode cmd.hdr.type = some .setScanout
  scanout : (SetScanout.load memory cmd.address).scanoutId = scanoutId
  resource : (SetScanout.load memory cmd.address).resourceId = resourceId
  nonzero : resourceId ≠ 0
  plain : ∃ r2d, virtioGpuFindResource2d gpu resourceId = some r2d ∧
    r2d.blob = false
  handled : ctrlDispatch env gpu cmd memory = .ok reply
  answers : reply.Answers .okNodata

theorem virtioGpuUpdateScanout_shows {after : GpuState} {scanRect : Rect}
    (inside : scanoutId < gpu.scanouts.length)
    (updated : virtioGpuUpdateScanout gpu scanoutId resourceId scanRect =
      .ok after) :
    (scanoutAt after scanoutId).resourceId = resourceId ∧
      (scanoutAt after scanoutId).scanoutRect = scanRect := by
  obtain ⟨next, images, dmabufs, released, _, _, rfl⟩ :=
    virtioGpuUpdateScanout_eq_ok updated
  have within : scanoutId < next.scanouts.length := by
    rw [released.sameSetup.scanoutNum]
    exact inside
  have shown := @scanoutAt_setScanoutAt
    { next with images := images, dmabufs := dmabufs } scanoutId within
  rw [shown]
  exact ⟨rfl, rfl⟩

theorem derefImage_eq_ok {image : Option Nat} {held : Image}
    (read : derefImage gpu image = .ok held) :
    image.bind gpu.images.contents = some held := by
  cases image with
  | none => cases read
  | some cell =>
      obtain ⟨counted, lifted, rest⟩ := bind_eq_ok read
      cases rest
      rw [Option.bind_some, RefHeap.contents, liftHeap_eq_ok lifted]
      rfl

/-- The surface handed to the display is what the scanout shows then. -/
theorem SetsScanout.displays {reply : Reply}
    (sets : SetsScanout env gpu cmd memory scanoutId resourceId reply)
    (based : cmd.base 0 = .ok cmd.address) :
    ∃ surface, reply.display = [.surfaceSet scanoutId (some surface)] ∧
      Displays reply.gpu scanoutId resourceId surface := by
  obtain ⟨r2d, found, plain⟩ := sets.plain
  have handled := sets.handled
  unfold ctrlDispatch at handled
  rw [sets.code] at handled
  dsimp only at handled
  unfold virtioGpuCmdSetScanout at handled
  rw [based] at handled
  obtain ⟨address, same, rest⟩ := bind_eq_ok handled
  cases same
  dsimp only at rest
  rw [sets.scanout, sets.resource, find_setScanoutAt, if_neg sets.nonzero,
    found] at rest
  split at rest
  · cases rest
  rename_i valid
  have inside := Nat.not_le.mp valid
  dsimp only at rest
  split at rest
  · cases rest
    exact absurd sets.answers
      (Reply.Fails.not_ok ⟨.errInvalidParameter, rfl, rfl⟩)
  obtain ⟨shown, updated, rest⟩ := bind_eq_ok rest
  obtain ⟨taken, ref, rest⟩ := bind_eq_ok rest
  obtain ⟨image, read, rest⟩ := bind_eq_ok rest
  obtain ⟨dropped, unref, rest⟩ := bind_eq_ok rest
  cases rest
  cases pixmanImageUnref_of_ref ref unref
  suffices displays : Displays shown scanoutId resourceId
      (pixmanSurface r2d image (SetScanout.load memory cmd.address).r) from
    ⟨_, rfl, displays.congr rfl rfl rfl⟩
  have marks : scanoutId < (setScanoutAt gpu scanoutId
      { scanoutAt gpu scanoutId with scanoutId := scanoutId }
      ).scanouts.length := by
    rw [setScanoutAt, List.length_set]
    exact inside
  obtain ⟨named, rect⟩ := virtioGpuUpdateScanout_shows marks updated
  obtain ⟨cell, images, own, raised, rfl⟩ := pixmanImageRef_eq_ok ref
  have contents := derefImage_eq_ok read
  rw [own, Option.bind_some] at contents
  have held : images cell ≠ none := RefHeap.live_of_contents contents
  refine ⟨?_, named, r2d, image, ?_, plain, ?_, ?_⟩
  · rw [(virtioGpuUpdateScanout_sameSetup updated).scanoutNum]
    exact marks
  · unfold virtioGpuFindResource2d at found ⊢
    rw [virtioGpuUpdateScanout_r2dList updated]
    exact found
  · rw [own, Option.bind_some,
      ← @RefHeap.KeepsContents.refOption _ _ _ (some cell) raised cell held]
    exact contents
  · rw [rect]

/-- A flush of the resource that reaches the scanout updates it with the
surface it shows. -/
theorem Displays.flushed (displays : Displays gpu scanoutId resourceId
      surface) (tidy : Tidy gpu)
    (code : CtrlCmd.ofCode cmd.hdr.type = some .resourceFlush)
    (based : cmd.base 0 = .ok cmd.address)
    (named : (ResourceFlush.load memory cmd.address).resourceId = resourceId)
    (reaches : virtioGpuScanoutNeedsFlush (scanoutAt gpu scanoutId) resourceId
      (ResourceFlush.load memory cmd.address).r = true) :
    Returns (ctrlDispatch env gpu cmd memory) fun reply =>
      ∀ updated, .surfaceUpdate scanoutId updated ∈ reply.display ↔
        updated = surface := by
  obtain ⟨r2d, image, found, plain, held, rfl⟩ := displays.described
  obtain ⟨cell, own, contents⟩ := Option.bind_eq_some_iff.mp held
  have live := tidy.image_live (List.mem_of_find?_eq_some found) own
  obtain ⟨taken, ref⟩ := RefHeap.exists_ref live
  unfold ctrlDispatch
  rw [code]
  refine .after based ?_
  dsimp only
  rw [named, found]
  dsimp only
  rw [plain, own]
  refine .after (by simp only [pixmanImageRef, ref]; rfl) ?_
  refine .after (derefImage_of_ref contents ref) ?_
  refine .after (by
    simp only [pixmanImageUnref, RefHeap.unref_of_ref ref]
    rfl) ?_
  refine .pure ?_
  intro updated
  dsimp only
  rw [List.mem_map]
  constructor
  · rintro ⟨entry, flushed, same⟩
    obtain ⟨stored, _⟩ := mem_scanoutsToFlush flushed
    cases same
    rw [stored]
  · rintro rfl
    refine ⟨(scanoutId, scanoutAt gpu scanoutId), ?_, rfl⟩
    exact List.mem_filter.mpr ⟨List.mem_map.mpr
      ⟨scanoutId, List.mem_range.mpr displays.inside, rfl⟩, reaches⟩

/-- A flush updates scanouts of the resource it names only. -/
theorem flush_names (code : CtrlCmd.ofCode cmd.hdr.type = some .resourceFlush) :
    Ensures (ctrlDispatch env gpu cmd memory) fun reply =>
      ∀ other updated, .surfaceUpdate other updated ∈ reply.display →
        (scanoutAt gpu other).resourceId =
          (ResourceFlush.load memory cmd.address).resourceId := by
  unfold ctrlDispatch
  rw [code]
  dsimp only
  refine .bind fun address based => ?_
  cases address_of_base based
  dsimp only
  have named : ∀ entry, entry ∈ scanoutsToFlush gpu
      (ResourceFlush.load memory cmd.address).resourceId
      (ResourceFlush.load memory cmd.address).r →
        (scanoutAt gpu entry.1).resourceId =
          (ResourceFlush.load memory cmd.address).resourceId := by
    intro entry flushed
    obtain ⟨stored, _, same, _⟩ := mem_scanoutsToFlush flushed
    rw [← stored, same]
  split
  · refine .pure ?_
    intro other updated member
    cases member
  · refine .ite (fun _ => ?_) fun _ => ?_
    · refine .bind fun taken _ => .bind fun display shown => ?_
      refine .bind fun after _ => .pure ?_
      intro other updated member
      obtain ⟨entry, flushed, same⟩ := Ensures.mapM _ display shown _ member
      obtain ⟨fd, _, same⟩ := bind_eq_ok same
      cases same
      exact named entry flushed
    · refine .bind fun taken _ => .bind fun image _ => ?_
      refine .bind fun after _ => .pure ?_
      intro other updated member
      obtain ⟨entry, flushed, same⟩ := List.mem_map.mp member
      cases same
      exact named entry flushed

end Surfaces

end VirtioGpu.Gpu
