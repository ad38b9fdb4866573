import VirtioGpu.Gpu.Coverage

namespace VirtioGpu.Gpu

open Foundation
open Virtio

/-! Devices the guest cannot tell apart: the same resources, the same visible
scanouts, and the same contents of every image and dmabuf in use. -/

/-- What commands can read of a scanout. -/
def Scanout.seen (scanout : Scanout) : Scanout where
  scanoutId := 0
  resourceId := scanout.resourceId
  scanoutRect :=
    if scanout.scanoutRect.Visible then scanout.scanoutRect else Rect.zero
  curImg := scanout.curImg
  dmaBuf := scanout.dmaBuf
  isActive := scanout.isActive

/-- Every cell a resource or a scanout names is one of `Pics` or `Bufs`. -/
structure Names (Pics Bufs : Nat → Prop) (gpu : GpuState) : Prop where
  image : ∀ r2d, r2d ∈ gpu.r2dList → ∀ cell, r2d.image = some cell → Pics cell
  dmaInfo : ∀ r2d, r2d ∈ gpu.r2dList → ∀ cell,
    r2d.dmaInfo = some cell → Bufs cell
  curImg : ∀ scanout, scanout ∈ gpu.scanouts → ∀ cell,
    scanout.curImg = some cell → Pics cell
  dmaBuf : ∀ scanout, scanout ∈ gpu.scanouts → ∀ cell,
    scanout.dmaBuf = some cell → Bufs cell

structure Alike (Pics Bufs : Nat → Prop) (left right : GpuState) : Prop where
  vmctx : left.vmctx = right.vmctx
  isBlobSupported : left.isBlobSupported = right.isBlobSupported
  r2dList : left.r2dList = right.r2dList
  scanouts : left.scanouts.map Scanout.seen = right.scanouts.map Scanout.seen
  images : RefHeap.AgreeOn Pics left.images right.images
  dmabufs : RefHeap.AgreeOn Bufs left.dmabufs right.dmabufs
  names : Names Pics Bufs left

section Primitives

variable {Pics Bufs : Nat → Prop} {left right : GpuState}

theorem Alike.find (alike : Alike Pics Bufs left right) (resourceId : Nat) :
    virtioGpuFindResource2d left resourceId =
      virtioGpuFindResource2d right resourceId := by
  unfold virtioGpuFindResource2d
  rw [alike.r2dList]

theorem Alike.scanoutNum (alike : Alike Pics Bufs left right) :
    left.scanouts.length = right.scanouts.length := by
  have same := congrArg List.length alike.scanouts
  simpa using same

theorem seen_zero : Scanout.zero.seen = Scanout.zero := by
  decide

theorem seen_scanoutAt (gpu : GpuState) (scanoutId : Nat) :
    (scanoutAt gpu scanoutId).seen =
      (gpu.scanouts.map Scanout.seen).getD scanoutId Scanout.zero := by
  unfold scanoutAt
  rw [List.getD_eq_getElem?_getD, List.getD_eq_getElem?_getD,
    List.getElem?_map]
  cases gpu.scanouts[scanoutId]? with
  | none => exact seen_zero
  | some scanout => rfl

theorem Alike.scanoutAt (alike : Alike Pics Bufs left right)
    (scanoutId : Nat) :
    (scanoutAt left scanoutId).seen = (scanoutAt right scanoutId).seen := by
  rw [seen_scanoutAt, seen_scanoutAt, alike.scanouts]

theorem Names.scanoutAt {gpu : GpuState} (names : Names Pics Bufs gpu)
    (scanoutId : Nat) :
    (∀ cell, (Gpu.scanoutAt gpu scanoutId).curImg = some cell → Pics cell) ∧
      ∀ cell, (Gpu.scanoutAt gpu scanoutId).dmaBuf = some cell →
        Bufs cell := by
  unfold Gpu.scanoutAt
  rw [List.getD_eq_getElem?_getD]
  cases found : gpu.scanouts[scanoutId]? with
  | none => exact ⟨nofun, nofun⟩
  | some scanout =>
      have member := List.mem_of_getElem? found
      exact ⟨names.curImg scanout member, names.dmaBuf scanout member⟩

theorem Alike.with_images (alike : Alike Pics Bufs left right)
    {leftImages rightImages : RefHeap Image}
    (agree : RefHeap.AgreeOn Pics leftImages rightImages) :
    Alike Pics Bufs { left with images := leftImages }
      { right with images := rightImages } :=
  ⟨alike.vmctx, alike.isBlobSupported, alike.r2dList, alike.scanouts, agree,
    alike.dmabufs, ⟨alike.names.image, alike.names.dmaInfo,
      alike.names.curImg, alike.names.dmaBuf⟩⟩

theorem Alike.with_dmabufs (alike : Alike Pics Bufs left right)
    {leftDmabufs rightDmabufs : RefHeap Int} {leftFds rightFds : Int → Bool}
    (agree : RefHeap.AgreeOn Bufs leftDmabufs rightDmabufs) :
    Alike Pics Bufs
      { left with dmabufs := leftDmabufs, openFds := leftFds }
      { right with dmabufs := rightDmabufs, openFds := rightFds } :=
  ⟨alike.vmctx, alike.isBlobSupported, alike.r2dList, alike.scanouts,
    alike.images, agree, ⟨alike.names.image, alike.names.dmaInfo,
      alike.names.curImg, alike.names.dmaBuf⟩⟩

theorem liftHeap_ref_paired {Within : Nat → Prop} {first second : RefHeap α}
    {cell : Nat} (agree : RefHeap.AgreeOn Within first second)
    (known : Within cell) :
    Paired (RefHeap.AgreeOn Within) (liftHeap (first.ref cell))
      (liftHeap (second.ref cell)) := by
  rcases agree.ref known with
    ⟨leftFails, rightFails⟩ | ⟨_, _, leftNext, rightNext, later⟩
  · rw [leftFails, rightFails]
    exact .failed _
  · rw [leftNext, rightNext]
    exact .done later

theorem liftHeap_unref_paired {Within : Nat → Prop}
    {first second : RefHeap α} {cell : Nat}
    (agree : RefHeap.AgreeOn Within first second) (known : Within cell) :
    Paired (RefHeap.AgreeOn Within) (liftHeap (first.unref cell))
      (liftHeap (second.unref cell)) := by
  rcases agree.unref known with
    ⟨leftFails, rightFails⟩ | ⟨_, _, leftNext, rightNext, later⟩
  · rw [leftFails, rightFails]
    exact .failed _
  · rw [leftNext, rightNext]
    exact .done later

theorem Alike.pixmanImageRef (alike : Alike Pics Bufs left right)
    {image : Option Nat} (known : ∀ cell, image = some cell → Pics cell) :
    Paired (Alike Pics Bufs) (pixmanImageRef left image)
      (pixmanImageRef right image) := by
  cases image with
  | none => exact .failed _
  | some cell =>
      exact .bind (liftHeap_ref_paired alike.images (known cell rfl))
        fun _ _ agree => .pure (alike.with_images agree)

theorem Alike.pixmanImageUnref (alike : Alike Pics Bufs left right)
    {image : Option Nat} (known : ∀ cell, image = some cell → Pics cell) :
    Paired (Alike Pics Bufs) (pixmanImageUnref left image)
      (pixmanImageUnref right image) := by
  cases image with
  | none => exact .failed _
  | some cell =>
      exact .bind (liftHeap_unref_paired alike.images (known cell rfl))
        fun _ _ agree => .pure (alike.with_images agree)

theorem Alike.derefImage (alike : Alike Pics Bufs left right)
    {image : Option Nat} (known : ∀ cell, image = some cell → Pics cell) :
    derefImage left image = derefImage right image := by
  cases image with
  | none => rfl
  | some cell =>
      simp only [Gpu.derefImage, alike.images cell (known cell rfl)]

theorem Alike.derefDmabuf (alike : Alike Pics Bufs left right)
    {info : Option Nat} (known : ∀ cell, info = some cell → Bufs cell) :
    derefDmabuf left info = derefDmabuf right info := by
  cases info with
  | none => rfl
  | some cell =>
      simp only [Gpu.derefDmabuf, alike.dmabufs cell (known cell rfl)]

theorem Alike.virtioGpuDmabufRef (alike : Alike Pics Bufs left right)
    {info : Option Nat} (known : ∀ cell, info = some cell → Bufs cell) :
    Paired (Alike Pics Bufs) (virtioGpuDmabufRef left info)
      (virtioGpuDmabufRef right info) := by
  cases info with
  | none => exact .done alike
  | some cell =>
      exact .bind (liftHeap_ref_paired alike.dmabufs (known cell rfl))
        fun _ _ agree => .pure (alike.with_dmabufs agree)

theorem Alike.virtioGpuDmabufUnref (alike : Alike Pics Bufs left right)
    {info : Option Nat} (known : ∀ cell, info = some cell → Bufs cell) :
    Paired (Alike Pics Bufs) (virtioGpuDmabufUnref left info)
      (virtioGpuDmabufUnref right info) := by
  cases info with
  | none => exact .done alike
  | some cell =>
      refine @Paired.bind _ _ _ _ _ Eq _ _ _ _ _ ?_ fun counted _ _ => ?_
      · rw [alike.dmabufs cell (known cell rfl)]
        exact .refl _
      · exact .bind (liftHeap_unref_paired alike.dmabufs (known cell rfl))
          fun _ _ agree => .pure (alike.with_dmabufs agree)

theorem Alike.releaseScanout (alike : Alike Pics Bufs left right)
    {first second : Scanout} (seen : first.seen = second.seen)
    (image : ∀ cell, first.curImg = some cell → Pics cell)
    (dmabuf : ∀ cell, first.dmaBuf = some cell → Bufs cell) :
    Paired (Alike Pics Bufs) (releaseScanout left first)
      (releaseScanout right second) := by
  have sameImage : first.seen.curImg = second.seen.curImg := by rw [seen]
  have sameDmabuf : first.seen.dmaBuf = second.seen.dmaBuf := by rw [seen]
  unfold Gpu.releaseScanout
  rw [show second.curImg = first.curImg from sameImage.symm,
    show second.dmaBuf = first.dmaBuf from sameDmabuf.symm]
  refine .bind (alike.virtioGpuDmabufUnref dmabuf) fun _ _ next => ?_
  cases held : first.curImg with
  | none => exact .pure next
  | some cell =>
      exact next.pixmanImageUnref fun other same => image other (held ▸ same)

theorem Alike.setScanoutAt (alike : Alike Pics Bufs left right)
    (scanoutId : Nat) {first second : Scanout}
    (seen : first.seen = second.seen)
    (image : ∀ cell, first.curImg = some cell → Pics cell)
    (dmabuf : ∀ cell, first.dmaBuf = some cell → Bufs cell) :
    Alike Pics Bufs (setScanoutAt left scanoutId first)
      (setScanoutAt right scanoutId second) := by
  refine ⟨alike.vmctx, alike.isBlobSupported, alike.r2dList, ?_, alike.images,
    alike.dmabufs, ⟨alike.names.image, alike.names.dmaInfo, ?_, ?_⟩⟩
  · show (left.scanouts.set scanoutId first).map Scanout.seen =
      (right.scanouts.set scanoutId second).map Scanout.seen
    rw [List.map_set, List.map_set, alike.scanouts, seen]
  · intro scanout member
    rcases List.mem_or_eq_of_mem_set member with earlier | rfl
    · exact alike.names.curImg scanout earlier
    · exact image
  · intro scanout member
    rcases List.mem_or_eq_of_mem_set member with earlier | rfl
    · exact alike.names.dmaBuf scanout earlier
    · exact dmabuf

/-- Storing the scanout's own id is not seen. -/
theorem Alike.mark (alike : Alike Pics Bufs left right) (scanoutId : Nat) :
    Alike Pics Bufs
      (Gpu.setScanoutAt left scanoutId
        { Gpu.scanoutAt left scanoutId with scanoutId := scanoutId })
      (Gpu.setScanoutAt right scanoutId
        { Gpu.scanoutAt right scanoutId with scanoutId := scanoutId }) := by
  have known := alike.names.scanoutAt scanoutId
  exact alike.setScanoutAt scanoutId (alike.scanoutAt scanoutId) known.1
    known.2

theorem Alike.vga (alike : Alike Pics Bufs left right) (enable : Bool) :
    Alike Pics Bufs { left with vgaEnable := enable }
      { right with vgaEnable := enable } :=
  ⟨alike.vmctx, alike.isBlobSupported, alike.r2dList, alike.scanouts,
    alike.images, alike.dmabufs, ⟨alike.names.image, alike.names.dmaInfo,
      alike.names.curImg, alike.names.dmaBuf⟩⟩

/-- The resources a search finds name known cells. -/
theorem Names.find {gpu : GpuState} (names : Names Pics Bufs gpu)
    {resourceId : Nat} {r2d : Resource2d}
    (found : virtioGpuFindResource2d gpu resourceId = some r2d) :
    (∀ cell, r2d.image = some cell → Pics cell) ∧
      ∀ cell, r2d.dmaInfo = some cell → Bufs cell :=
  have member := List.mem_of_find?_eq_some found
  ⟨names.image r2d member, names.dmaInfo r2d member⟩

theorem Alike.virtioGpuUpdateScanout (alike : Alike Pics Bufs left right)
    (scanoutId resourceId : Nat) (scanRect : Rect) :
    Paired (Alike Pics Bufs)
      (virtioGpuUpdateScanout left scanoutId resourceId scanRect)
      (virtioGpuUpdateScanout right scanoutId resourceId scanRect) := by
  have known := alike.names.scanoutAt scanoutId
  refine .bind (alike.releaseScanout (alike.scanoutAt scanoutId) known.1
    known.2) fun leftNext rightNext next => ?_
  dsimp only
  rw [next.find]
  cases found : virtioGpuFindResource2d rightNext resourceId with
  | none => exact .pure (next.setScanoutAt scanoutId rfl nofun nofun)
  | some r2d =>
      rw [← next.find] at found
      have cells := next.names.find found
      refine .ite (fun _ => ?_) fun _ => ?_
      · exact .bind (next.virtioGpuDmabufRef cells.2) fun _ _ taken =>
          .pure (taken.setScanoutAt scanoutId rfl nofun cells.2)
      · exact .bind (next.pixmanImageRef cells.1) fun _ _ taken =>
          .pure (taken.setScanoutAt scanoutId rfl cells.1 nofun)

theorem Alike.releaseResource (alike : Alike Pics Bufs left right)
    {r2d : Resource2d} (image : ∀ cell, r2d.image = some cell → Pics cell)
    (dmaInfo : ∀ cell, r2d.dmaInfo = some cell → Bufs cell) :
    Paired (Alike Pics Bufs) (releaseResource left r2d)
      (releaseResource right r2d) := by
  rw [releaseResource_eq, releaseResource_eq]
  refine @Paired.bind _ _ _ _ _ (Alike Pics Bufs) _ _ _ _ _ ?_
    fun _ _ next => ?_
  · cases held : r2d.image with
    | none => exact .pure alike
    | some cell =>
        exact alike.pixmanImageUnref fun other same => image other (held ▸ same)
  · refine @Paired.bind _ _ _ _ _ (Alike Pics Bufs) _ _ _ _ _ ?_
      fun _ _ last => ?_
    · exact .ite (fun _ => next.virtioGpuDmabufUnref dmaInfo)
        fun _ => .pure next
    · exact .bind (.refl _) fun _ _ _ => .pure last

/-- The same change of the resource table on both sides, where the new entries
name known cells. -/
theorem Alike.with_r2dList (alike : Alike Pics Bufs left right)
    {first second : List Resource2d} (same : first = second)
    (image : ∀ r2d, r2d ∈ first → ∀ cell, r2d.image = some cell → Pics cell)
    (dmaInfo : ∀ r2d, r2d ∈ first → ∀ cell,
      r2d.dmaInfo = some cell → Bufs cell) :
    Alike Pics Bufs { left with r2dList := first }
      { right with r2dList := second } :=
  ⟨alike.vmctx, alike.isBlobSupported, same, alike.scanouts, alike.images,
    alike.dmabufs, ⟨image, dmaInfo, alike.names.curImg, alike.names.dmaBuf⟩⟩

theorem Alike.insert (alike : Alike Pics Bufs left right) {r2d : Resource2d}
    (image : ∀ cell, r2d.image = some cell → Pics cell)
    (dmaInfo : ∀ cell, r2d.dmaInfo = some cell → Bufs cell) :
    Alike Pics Bufs (insertResource left r2d) (insertResource right r2d) := by
  refine alike.with_r2dList (by rw [alike.r2dList]) ?_ ?_
  · intro listed member
    rcases List.mem_cons.mp member with rfl | earlier
    · exact image
    · exact alike.names.image listed earlier
  · intro listed member
    rcases List.mem_cons.mp member with rfl | earlier
    · exact dmaInfo
    · exact alike.names.dmaInfo listed earlier

theorem Alike.setBacking (alike : Alike Pics Bufs left right)
    (resourceId : Nat) (iov : IovArray) (iovcnt : Nat) :
    Alike Pics Bufs (setBacking left resourceId iov iovcnt)
      (setBacking right resourceId iov iovcnt) := by
  refine alike.with_r2dList (by rw [alike.r2dList]) ?_ ?_
  · intro r2d member
    rcases mem_modifyResource member with listed | ⟨original, listed, rfl⟩
    · exact alike.names.image r2d listed
    · exact alike.names.image original listed
  · intro r2d member
    rcases mem_modifyResource member with listed | ⟨original, listed, rfl⟩
    · exact alike.names.dmaInfo r2d listed
    · exact alike.names.dmaInfo original listed

/-- An image created on both sides is one more image they agree on. -/
theorem Alike.createImage (alike : Alike Pics Bufs left right) (env : Env)
    (format width height : Nat) :
    Paired (fun first second => first.2 = second.2 ∧
        ∃ Pics, (∀ cell, first.2 = some cell → Pics cell) ∧
          Alike Pics Bufs first.1 second.1)
      (createImage env left format width height)
      (createImage env right format width height) := by
  refine .bind (.refl _) ?_
  rintro image _ rfl
  cases image with
  | none => exact .pure ⟨rfl, Pics, nofun, alike⟩
  | some bits =>
      refine .pure ⟨rfl, fun cell => cell = env.imageCell ∨ Pics cell, ?_, ?_⟩
      · intro cell named
        cases named
        exact .inl rfl
      · have names := alike.names
        exact ⟨alike.vmctx, alike.isBlobSupported, alike.r2dList,
          alike.scanouts, alike.images.alloc env.imageCell bits,
          alike.dmabufs, ⟨fun r2d member cell named =>
              .inr (names.image r2d member cell named), names.dmaInfo,
            fun scanout member cell named =>
              .inr (names.curImg scanout member cell named), names.dmaBuf⟩⟩

theorem Alike.createUdmabuf (alike : Alike Pics Bufs left right) (env : Env)
    (entries : List MemEntry) :
    (virtioGpuCreateUdmabuf env left entries).2 =
        (virtioGpuCreateUdmabuf env right entries).2 ∧
      ∃ Bufs, (∀ cell, (virtioGpuCreateUdmabuf env left entries).2 =
          some cell → Bufs cell) ∧
        Alike Pics Bufs (virtioGpuCreateUdmabuf env left entries).1
          (virtioGpuCreateUdmabuf env right entries).1 := by
  unfold virtioGpuCreateUdmabuf
  rw [alike.vmctx]
  split
  · exact ⟨rfl, Bufs, nofun, alike⟩
  · split
    · exact ⟨rfl, Bufs, nofun, alike⟩
    · split
      · exact ⟨rfl, Bufs, nofun, alike⟩
      · split
        · exact ⟨rfl, Bufs, nofun, alike⟩
        · refine ⟨rfl, fun cell => cell = env.dmaCell ∨ Bufs cell, ?_, ?_⟩
          · intro cell named
            cases named
            exact .inl rfl
          · have names := alike.names
            exact ⟨rfl, alike.isBlobSupported, alike.r2dList,
              alike.scanouts, alike.images,
              alike.dmabufs.alloc env.dmaCell env.createList,
              ⟨names.image, fun r2d member cell named =>
                  .inr (names.dmaInfo r2d member cell named), names.curImg,
                fun scanout member cell named =>
                  .inr (names.dmaBuf scanout member cell named)⟩⟩

theorem needsFlush_seen (scanout : Scanout) (resourceId : Nat)
    (flushRect : Rect) :
    virtioGpuScanoutNeedsFlush scanout.seen resourceId flushRect =
      virtioGpuScanoutNeedsFlush scanout resourceId flushRect := by
  have region : regionOfRect scanout.seen.scanoutRect =
      regionOfRect scanout.scanoutRect := by
    unfold Scanout.seen
    dsimp only
    split
    · rfl
    · rename_i hidden
      rw [not_not.mp hidden]
      decide
  unfold virtioGpuScanoutNeedsFlush
  rw [region]
  rfl

/-- A scanout that is flushed has the rectangle it is seen with. -/
theorem rect_of_needsFlush {scanout : Scanout} {resourceId : Nat}
    {flushRect : Rect}
    (flushes : virtioGpuScanoutNeedsFlush scanout resourceId flushRect =
      true) : scanout.seen.scanoutRect = scanout.scanoutRect := by
  unfold Scanout.seen
  dsimp only
  split
  · rfl
  · rename_i hidden
    unfold virtioGpuScanoutNeedsFlush at flushes
    rw [not_not.mp hidden] at flushes
    split at flushes
    · cases flushes
    · cases flushes

/-- The scanouts a flush visits have visible rectangles, so both sides visit
the same ones. -/
theorem Alike.scanoutsToFlush (alike : Alike Pics Bufs left right)
    (resourceId : Nat) (flushRect : Rect) :
    (scanoutsToFlush left resourceId flushRect).map
        (fun entry => (entry.1, entry.2.scanoutRect)) =
      (scanoutsToFlush right resourceId flushRect).map
        (fun entry => (entry.1, entry.2.scanoutRect)) := by
  unfold Gpu.scanoutsToFlush
  rw [alike.scanoutNum]
  induction List.range right.scanouts.length with
  | nil => rfl
  | cons index rest induction =>
      have seen := alike.scanoutAt index
      have same : virtioGpuScanoutNeedsFlush (Gpu.scanoutAt left index)
          resourceId flushRect =
            virtioGpuScanoutNeedsFlush (Gpu.scanoutAt right index) resourceId
              flushRect := by
        rw [← needsFlush_seen, seen, needsFlush_seen]
      rw [List.map_cons, List.map_cons, List.filter_cons, List.filter_cons]
      dsimp only
      rw [same]
      cases flushes : virtioGpuScanoutNeedsFlush (Gpu.scanoutAt right index)
          resourceId flushRect with
      | false => simpa using induction
      | true =>
          rw [flushes] at same
          have rect : (Gpu.scanoutAt left index).scanoutRect =
              (Gpu.scanoutAt right index).scanoutRect := by
            rw [← rect_of_needsFlush same, seen, rect_of_needsFlush flushes]
          rw [if_pos rfl, if_pos rfl, List.map_cons, List.map_cons, induction]
          dsimp only
          rw [rect]

end Primitives

/-! Commands on devices that are alike. -/

/-- The same response and the same calls to the display, from devices that
stay alike. -/
structure SameReply (left right : Reply) : Prop where
  iolen : left.iolen = right.iolen
  slot : left.slot = right.slot
  resp : left.resp = right.resp
  display : left.display = right.display
  gpu : ∃ Pics Bufs, Alike Pics Bufs left.gpu right.gpu

theorem mapM_first (visit : Nat → Except Fault DisplayCall)
    (entries : List (Nat × Scanout)) :
    entries.mapM (fun entry => visit entry.1) =
      (entries.map Prod.fst).mapM visit := by
  rw [List.mapM_map]
  rfl

section Commands

variable {Pics Bufs : Nat → Prop} {left right : GpuState}
  (alike : Alike Pics Bufs left right) (env : Env) (cmd : Command)
  (memory : Memory)
include alike

theorem Alike.answer (type : RespType) (slot : Nat) (reads : List Access) :
    SameReply (answer left cmd type slot reads)
      (answer right cmd type slot reads) :=
  ⟨rfl, rfl, rfl, rfl, Pics, Bufs, alike⟩

theorem Alike.answerKeepingIolen (type : RespType) (slot : Nat)
    (reads : List Access) :
    SameReply (answerKeepingIolen left cmd type slot reads)
      (answerKeepingIolen right cmd type slot reads) :=
  ⟨rfl, rfl, rfl, rfl, Pics, Bufs, alike⟩

theorem Alike.cmdGetEdid :
    Paired SameReply (virtioGpuCmdGetEdid env left cmd memory)
      (virtioGpuCmdGetEdid env right cmd memory) := by
  refine .bind (.refl _) ?_
  rintro address _ rfl
  dsimp only
  rw [alike.scanoutNum]
  exact .ite (fun _ => .failed _) fun _ =>
    .pure ⟨rfl, rfl, rfl, rfl, Pics, Bufs, alike⟩

theorem Alike.cmdGetDisplayInfo :
    Paired SameReply (virtioGpuCmdGetDisplayInfo env left cmd)
      (virtioGpuCmdGetDisplayInfo env right cmd) := by
  unfold virtioGpuCmdGetDisplayInfo
  rw [alike.scanoutNum]
  exact .done ⟨rfl, rfl, rfl, rfl, Pics, Bufs, alike⟩

theorem Alike.cmdSetModifier :
    Paired SameReply (virtioGpuCmdSetModifier left cmd memory)
      (virtioGpuCmdSetModifier right cmd memory) := by
  refine .bind (.refl _) ?_
  rintro address _ rfl
  exact .pure ⟨rfl, rfl, rfl, rfl, Pics, Bufs, alike⟩

theorem Alike.cmdResourceCreate2d :
    Paired SameReply (virtioGpuCmdResourceCreate2d env left cmd memory)
      (virtioGpuCmdResourceCreate2d env right cmd memory) := by
  refine .bind (.refl _) ?_
  rintro address _ rfl
  dsimp only
  rw [alike.find]
  cases virtioGpuFindResource2d right
      (ResourceCreate2d.load memory address).resourceId with
  | some _ => exact .pure (alike.answer cmd _ _ _)
  | none =>
      refine .ite (fun _ => .pure (alike.answer cmd _ _ _)) fun _ => ?_
      refine .bind (alike.createImage env _ _ _) ?_
      rintro ⟨leftNext, image⟩ ⟨rightNext, _⟩ ⟨rfl, Pics, named, next⟩
      cases image with
      | none => exact .pure (next.answer cmd _ _ _)
      | some cell =>
          exact .pure ((next.insert named (by nofun)).answer cmd _ _ _)

theorem Alike.cmdResourceUnref :
    Paired SameReply (virtioGpuCmdResourceUnref left cmd memory)
      (virtioGpuCmdResourceUnref right cmd memory) := by
  refine .bind (.refl _) ?_
  rintro address _ rfl
  dsimp only
  rw [alike.find]
  cases found : virtioGpuFindResource2d right
      (ResourceUnref.load memory address).resourceId with
  | none => exact .pure (alike.answer cmd _ _ _)
  | some r2d =>
      rw [← alike.find] at found
      have cells := alike.names.find found
      refine .bind (alike.releaseResource cells.1 cells.2)
        fun leftNext rightNext next => .pure ?_
      refine (next.with_r2dList (by rw [next.r2dList]) ?_ ?_).answer cmd _ _ _
      · intro listed member
        exact next.names.image listed (List.mem_of_mem_eraseP member)
      · intro listed member
        exact next.names.dmaInfo listed (List.mem_of_mem_eraseP member)

theorem Alike.cmdResourceAttachBacking :
    Paired SameReply (virtioGpuCmdResourceAttachBacking env left cmd memory)
      (virtioGpuCmdResourceAttachBacking env right cmd memory) := by
  refine .bind (.refl _) ?_
  rintro address _ rfl
  refine .ite (fun _ => .pure ⟨rfl, rfl, rfl, rfl, Pics, Bufs, alike⟩)
    fun _ => ?_
  dsimp only
  rw [alike.find, alike.vmctx]
  cases virtioGpuFindResource2d right
      (ResourceAttachBacking.load memory address).resourceId with
  | none => exact .pure (alike.answer cmd _ _ _)
  | some _ =>
      refine .ite (fun _ => .pure (alike.answer cmd _ _ _)) fun _ => ?_
      refine .ite (fun _ => .pure (alike.answer cmd _ _ _)) fun _ => ?_
      refine .ite (fun _ => .pure ?_) fun _ => .bind (.refl _) ?_
      · exact (alike.setBacking _ _ _).answer cmd _ _ _
      · rintro entries _ rfl
        exact .pure ⟨rfl, rfl, rfl, rfl, Pics, Bufs, alike.setBacking _ _ _⟩

theorem Alike.cmdResourceDetachBacking :
    Paired SameReply (virtioGpuCmdResourceDetachBacking left cmd memory)
      (virtioGpuCmdResourceDetachBacking right cmd memory) := by
  refine .bind (.refl _) ?_
  rintro address _ rfl
  dsimp only
  rw [alike.find]
  cases virtioGpuFindResource2d right
      (ResourceDetachBacking.load memory address).resourceId with
  | none => exact .pure (alike.answer cmd _ _ _)
  | some r2d =>
      refine .bind (.refl _) fun _ _ _ => .pure ?_
      exact (alike.setBacking _ _ _).answer cmd _ _ _

theorem Alike.cmdCreateBlob :
    Paired SameReply (virtioGpuCmdCreateBlob env left cmd memory)
      (virtioGpuCmdCreateBlob env right cmd memory) := by
  refine .bind (.refl _) ?_
  rintro address _ rfl
  refine .ite (fun _ => .pure (alike.answer cmd _ _ _)) fun _ => ?_
  refine .ite (fun _ => .pure (alike.answer cmd _ _ _)) fun _ => ?_
  refine .ite (fun _ => .pure (alike.answer cmd _ _ _)) fun _ => ?_
  dsimp only
  rw [alike.find]
  cases virtioGpuFindResource2d right
      (ResourceCreateBlob.load memory address).resourceId with
  | some _ => exact .pure (alike.answer cmd _ _ _)
  | none =>
      refine .ite (fun _ => .pure (alike.answer cmd _ _ _)) fun _ => ?_
      refine .ite (fun _ => .pure 
        ((alike.insert (by nofun) (by nofun)).answer cmd _ _ _)) fun _ => ?_
      refine .ite (fun _ => .pure (alike.answer cmd _ _ _)) fun _ => ?_
      refine .bind (.refl _) ?_
      rintro entries _ rfl
      refine .ite (fun _ => ?_) fun _ => ?_
      · obtain ⟨same, Bufs, named, next⟩ := alike.createUdmabuf env entries
        rw [← same]
        cases made : (virtioGpuCreateUdmabuf env left entries).2 with
        | none => exact .pure (next.answer cmd _ _ _)
        | some cell =>
            rw [made] at named
            exact .pure ((next.insert (by nofun) named).answer cmd _ _ _)
      · refine .bind (alike.createImage env _ _ _) ?_
        rintro ⟨leftNext, image⟩ ⟨rightNext, _⟩ ⟨rfl, Pics, named, next⟩
        refine .ite (fun _ => .pure (next.answer cmd _ _ _)) fun _ => .pure ?_
        dsimp only
        rw [next.vmctx]
        exact ⟨rfl, rfl, rfl, rfl, Pics, Bufs, next.insert named nofun⟩

theorem Alike.cmdSetScanout :
    Paired SameReply (virtioGpuCmdSetScanout left cmd memory)
      (virtioGpuCmdSetScanout right cmd memory) := by
  refine .bind (.refl _) ?_
  rintro address _ rfl
  dsimp only
  rw [alike.scanoutNum]
  refine .ite (fun _ => .failed _) fun _ => ?_
  have marked := alike.mark (SetScanout.load memory address).scanoutId
  rw [marked.find]
  cases wanted : (if (SetScanout.load memory address).resourceId = 0 then none
      else virtioGpuFindResource2d (Gpu.setScanoutAt right _ _)
        (SetScanout.load memory address).resourceId) with
  | none =>
      refine .bind (marked.virtioGpuUpdateScanout _ _ _) fun _ _ next => ?_
      exact .pure ⟨rfl, rfl, rfl, rfl, Pics, Bufs, next⟩
  | some r2d =>
      refine .ite (fun _ => .pure ((marked.vga false).answer cmd _ _ _))
        fun _ => ?_
      have found : virtioGpuFindResource2d left
          (SetScanout.load memory address).resourceId = some r2d := by
        split at wanted
        · cases wanted
        · rw [alike.find]
          exact wanted
      have cells := alike.names.find found
      refine .bind (marked.virtioGpuUpdateScanout _ _ _) fun _ _ shown => ?_
      refine .bind (shown.pixmanImageRef cells.1) fun _ _ taken => ?_
      rw [taken.derefImage cells.1]
      refine .bind (.refl _) ?_
      rintro image _ rfl
      refine .bind (taken.pixmanImageUnref cells.1) fun _ _ next => ?_
      exact .pure ⟨rfl, rfl, rfl, rfl, Pics, Bufs, next.vga false⟩

theorem Alike.cmdSetScanoutBlob :
    Paired SameReply (virtioGpuCmdSetScanoutBlob left cmd memory)
      (virtioGpuCmdSetScanoutBlob right cmd memory) := by
  refine .bind (.refl _) ?_
  rintro address _ rfl
  dsimp only
  rw [alike.scanoutNum]
  refine .ite (fun _ => .failed _) fun _ => ?_
  have marked := (alike.vga false).mark
    (SetScanoutBlob.load memory address).scanoutId
  refine .ite (fun _ => ?_) fun _ => ?_
  · refine .bind (marked.virtioGpuUpdateScanout _ _ _) fun _ _ next => ?_
    exact .pure ⟨rfl, rfl, rfl, rfl, Pics, Bufs, next⟩
  · rw [marked.find]
    cases found : virtioGpuFindResource2d
        (Gpu.setScanoutAt { right with vgaEnable := false } _ _)
        (SetScanoutBlob.load memory address).resourceId with
    | none => exact .pure (marked.answer cmd _ _ _)
    | some r2d =>
        rw [← marked.find] at found
        have cells := marked.names.find found
        refine .ite (fun _ => ?_) fun _ => ?_
        · refine .bind (marked.cmdSetScanout _ memory) fun _ _ same => .pure ?_
          exact ⟨same.iolen, same.slot, same.resp, same.display, same.gpu⟩
        · refine .bind (marked.virtioGpuUpdateScanout _ _ _)
            fun _ _ shown => ?_
          refine .bind (shown.virtioGpuDmabufRef cells.2) fun _ _ taken => ?_
          rw [taken.derefDmabuf cells.2]
          refine .bind (.refl _) ?_
          rintro fd _ rfl
          refine .bind (taken.virtioGpuDmabufUnref cells.2)
            fun _ _ next => .pure ?_
          exact ⟨rfl, rfl, rfl, rfl, Pics, Bufs, next⟩

theorem Alike.cmdTransferToHost2d :
    Paired SameReply (virtioGpuCmdTransferToHost2d left cmd memory)
      (virtioGpuCmdTransferToHost2d right cmd memory) := by
  refine .bind (.refl _) ?_
  rintro address _ rfl
  dsimp only
  rw [alike.find]
  cases found : virtioGpuFindResource2d right
      (TransferToHost2d.load memory address).resourceId with
  | none => exact .pure (alike.answerKeepingIolen cmd _ _ _)
  | some r2d =>
      rw [← alike.find] at found
      have cells := alike.names.find found
      refine .ite (fun _ => .pure (alike.answerKeepingIolen cmd _ _ _))
        fun _ => ?_
      refine .ite (fun _ => .pure (alike.answer cmd _ _ _)) fun _ => ?_
      cases held : r2d.image with
      | none => exact .failed _
      | some cell =>
          rw [held] at cells
          have known := cells.1 cell rfl
          refine .bind (alike.pixmanImageRef cells.1) fun _ _ taken => ?_
          rw [taken.derefImage cells.1]
          refine .bind (.refl _) ?_
          rintro image _ rfl
          refine .bind (.refl _) ?_
          rintro data _ rfl
          refine .bind ((taken.with_images
            (taken.images.set known _)).pixmanImageUnref cells.1)
            fun _ _ next => .pure (next.answer cmd _ _ _)

theorem Alike.cmdResourceFlush :
    Paired SameReply (virtioGpuCmdResourceFlush left cmd memory)
      (virtioGpuCmdResourceFlush right cmd memory) := by
  refine .bind (.refl _) ?_
  rintro address _ rfl
  have visited := alike.scanoutsToFlush
    (ResourceFlush.load memory address).resourceId
    (ResourceFlush.load memory address).r
  dsimp only
  rw [alike.find]
  cases found : virtioGpuFindResource2d right
      (ResourceFlush.load memory address).resourceId with
  | none => exact .pure (alike.answerKeepingIolen cmd _ _ _)
  | some r2d =>
      rw [← alike.find] at found
      have cells := alike.names.find found
      refine .ite (fun _ => ?_) fun _ => ?_
      · have indices := congrArg (List.map Prod.fst) visited
        rw [List.map_map, List.map_map] at indices
        refine .bind (alike.virtioGpuDmabufRef cells.2)
          fun leftTaken rightTaken taken => ?_
        rw [taken.derefDmabuf cells.2]
        have calls := fun entries => mapM_first (fun index => do
          let fd ← Gpu.derefDmabuf rightTaken r2d.dmaInfo
          return DisplayCall.surfaceUpdate index (.dmabufUpdate fd)) entries
        rw [calls, calls, show (Gpu.scanoutsToFlush left _ _).map Prod.fst =
          (Gpu.scanoutsToFlush right _ _).map Prod.fst from indices]
        refine .bind (.refl _) ?_
        rintro display _ rfl
        refine .bind (taken.virtioGpuDmabufUnref cells.2)
          fun _ _ next => .pure ?_
        exact ⟨rfl, rfl, rfl, rfl, Pics, Bufs, next⟩
      · refine .bind (alike.pixmanImageRef cells.1) fun _ _ taken => ?_
        rw [taken.derefImage cells.1]
        refine .bind (.refl _) ?_
        rintro image _ rfl
        refine .bind (taken.pixmanImageUnref cells.1) fun _ _ next => .pure ?_
        refine ⟨rfl, rfl, rfl, ?_, Pics, Bufs, next⟩
        have drawn := congrArg (List.map fun shown : Nat × Rect =>
          DisplayCall.surfaceUpdate shown.1
            (pixmanSurface r2d image shown.2)) visited
        rw [List.map_map, List.map_map] at drawn
        exact drawn

theorem Alike.ctrlDispatch :
    Paired SameReply (ctrlDispatch env left cmd memory)
      (ctrlDispatch env right cmd memory) := by
  have unspec : Paired SameReply (virtioGpuCmdUnspec left cmd)
      (virtioGpuCmdUnspec right cmd) :=
    .done ⟨rfl, rfl, rfl, rfl, Pics, Bufs, alike⟩
  unfold Gpu.ctrlDispatch
  rw [alike.isBlobSupported]
  cases CtrlCmd.ofCode cmd.hdr.type with
  | none => exact unspec
  | some command =>
      cases command with
      | getEdid => exact alike.cmdGetEdid env cmd memory
      | getDisplayInfo => exact alike.cmdGetDisplayInfo env cmd
      | resourceCreate2d => exact alike.cmdResourceCreate2d env cmd memory
      | resourceUnref => exact alike.cmdResourceUnref cmd memory
      | resourceAttachBacking =>
          exact alike.cmdResourceAttachBacking env cmd memory
      | resourceDetachBacking =>
          exact alike.cmdResourceDetachBacking cmd memory
      | setScanout => exact alike.cmdSetScanout cmd memory
      | transferToHost2d => exact alike.cmdTransferToHost2d cmd memory
      | resourceFlush => exact alike.cmdResourceFlush cmd memory
      | resourceCreateBlob =>
          exact .ite (fun _ => unspec) fun _ =>
            alike.cmdCreateBlob env cmd memory
      | setScanoutBlob =>
          exact .ite (fun _ => unspec) fun _ =>
            alike.cmdSetScanoutBlob cmd memory
      | setModifier => exact alike.cmdSetModifier cmd memory

theorem Alike.cursorDispatch :
    Paired (fun first second => first.display = second.display ∧
        Alike Pics Bufs first.gpu second.gpu)
      (cursorDispatch left cmd memory) (cursorDispatch right cmd memory) := by
  unfold Gpu.cursorDispatch
  cases CursorCmd.ofCode cmd.hdr.type with
  | none => exact .done ⟨rfl, alike⟩
  | some command =>
      cases command with
      | moveCursor =>
          refine .bind (.refl _) ?_
          rintro address _ rfl
          exact .pure ⟨rfl, alike⟩
      | updateCursor =>
          refine .bind (.refl _) ?_
          rintro address _ rfl
          refine .ite (fun _ => .pure ⟨rfl, alike⟩) fun _ => ?_
          rw [alike.find]
          cases found : virtioGpuFindResource2d right
              (UpdateCursor.load memory address).resourceId with
          | none => exact .pure ⟨rfl, alike⟩
          | some r2d =>
              rw [← alike.find] at found
              have cells := alike.names.find found
              refine .bind (alike.pixmanImageRef cells.1) fun _ _ taken => ?_
              exact .bind (taken.pixmanImageUnref cells.1) fun _ _ next =>
                .pure ⟨rfl, next⟩

end Commands

/-! Sequences of commands. -/

inductive Request where
  | control (env : Env) (cmd : Command) (memory : Memory)
  | cursor (cmd : Command) (memory : Memory)

/-- What the guest and the display see of one command: the response with its
slot and reported length, and the display calls. -/
structure Answer where
  response : Option (Nat × Resp × Nat)
  display : List DisplayCall

def serve (gpu : GpuState) : Request → Except Fault (GpuState × Answer)
  | .control env cmd memory => do
      let reply ← ctrlDispatch env gpu cmd memory
      return (reply.gpu,
        ⟨some (reply.slot, reply.resp, reply.iolen), reply.display⟩)
  | .cursor cmd memory => do
      let reply ← cursorDispatch gpu cmd memory
      return (reply.gpu, ⟨none, reply.display⟩)

/-- The answers to a sequence of commands, up to the first fault. -/
def serveAll (gpu : GpuState) : List Request → List (Except Fault Answer)
  | [] => []
  | request :: rest =>
      match serve gpu request with
      | .error fault => [.error fault]
      | .ok (gpu, answer) => .ok answer :: serveAll gpu rest

theorem Alike.serve {Pics Bufs : Nat → Prop} {left right : GpuState}
    (alike : Alike Pics Bufs left right) (request : Request) :
    Paired (fun first second => first.2 = second.2 ∧
        ∃ Pics Bufs, Alike Pics Bufs first.1 second.1)
      (serve left request) (serve right request) := by
  cases request with
  | control env cmd memory =>
      refine .bind (alike.ctrlDispatch env cmd memory)
        fun first second same => .pure ⟨?_, same.gpu⟩
      dsimp only
      rw [same.slot, same.resp, same.iolen, same.display]
  | cursor cmd memory =>
      refine .bind (alike.cursorDispatch cmd memory)
        fun first second same => .pure ⟨?_, Pics, Bufs, same.2⟩
      dsimp only
      rw [same.1]

theorem Alike.serveAll {Pics Bufs : Nat → Prop} {left right : GpuState}
    (alike : Alike Pics Bufs left right) (requests : List Request) :
    serveAll left requests = serveAll right requests := by
  induction requests generalizing Pics Bufs left right with
  | nil => rfl
  | cons request rest induction =>
      unfold Gpu.serveAll
      have paired := alike.serve request
      generalize Gpu.serve left request = first at paired
      generalize Gpu.serve right request = second at paired
      cases paired with
      | failed fault => rfl
      | done related =>
          obtain ⟨same, Pics, Bufs, next⟩ := related
          dsimp only
          rw [same, induction next]

end VirtioGpu.Gpu
