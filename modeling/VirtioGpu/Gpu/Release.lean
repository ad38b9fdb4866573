import VirtioGpu.Gpu.Counts

namespace VirtioGpu.Gpu

open Foundation
open Virtio

/-! Releases that succeed: whatever is counted as held is live. -/

section Live

variable {gpu : GpuState}

theorem pixmanImageRef_returns {cell : Nat} (live : gpu.images cell ≠ none) :
    Returns (pixmanImageRef gpu (some cell)) fun _ => True := by
  obtain ⟨next, taken⟩ := RefHeap.exists_ref live
  simp only [pixmanImageRef, taken]
  exact .of_eq rfl

theorem pixmanImageUnref_returns {cell : Nat}
    (live : gpu.images cell ≠ none) :
    Returns (pixmanImageUnref gpu (some cell)) fun _ => True := by
  obtain ⟨next, dropped⟩ := RefHeap.exists_unref live
  simp only [pixmanImageUnref, dropped]
  exact .of_eq rfl

/-- An image is read through a reference taken for the time being. -/
theorem derefImage_of_ref {cell : Nat} {taken : RefHeap Image} {image : Image}
    (held : gpu.images.contents cell = some image)
    (ref : gpu.images.ref cell = some taken) :
    derefImage { gpu with images := taken } (some cell) = .ok image := by
  obtain ⟨counted, known, rfl⟩ := Option.map_eq_some_iff.mp ref
  rw [RefHeap.contents, known] at held
  cases held
  simp only [derefImage, Function.update_self]
  rfl

theorem virtioGpuDmabufRef_returns {info : Option Nat}
    (live : ∀ cell, info = some cell → gpu.dmabufs cell ≠ none) :
    Returns (virtioGpuDmabufRef gpu info) fun _ => True := by
  cases info with
  | none => exact .of_eq rfl
  | some cell =>
      obtain ⟨next, taken⟩ := RefHeap.exists_ref (live cell rfl)
      simp only [virtioGpuDmabufRef, taken]
      exact .of_eq rfl

theorem virtioGpuDmabufUnref_returns {info : Option Nat}
    (live : ∀ cell, info = some cell → gpu.dmabufs cell ≠ none) :
    Returns (virtioGpuDmabufUnref gpu info) fun _ => True := by
  cases info with
  | none => exact .of_eq rfl
  | some cell =>
      obtain ⟨counted, found⟩ :=
        Option.ne_none_iff_exists'.mp (live cell rfl)
      obtain ⟨next, dropped⟩ := RefHeap.exists_unref (live cell rfl)
      simp only [virtioGpuDmabufUnref, found, dropped]
      exact .of_eq rfl

theorem free_eq_ok {iov : IovArray} (unfreed : iov ≠ .freed) :
    iov.free = .ok () := by
  cases iov with
  | null => rfl
  | live _ => rfl
  | freed => exact absurd rfl unfreed

theorem releaseResource_returns {r2d : Resource2d}
    (image : ∀ cell, r2d.image = some cell → gpu.images cell ≠ none)
    (dmabuf : ∀ cell, r2d.owned = some cell → gpu.dmabufs cell ≠ none)
    (unfreed : r2d.iov ≠ .freed) :
    Returns (releaseResource gpu r2d) fun _ => True := by
  rw [releaseResource_eq]
  refine Returns.bind
    (?_ : Returns _ fun next => next.dmabufs = gpu.dmabufs) ?_
  · cases held : r2d.image with
    | none => exact .pure rfl
    | some cell =>
        refine (pixmanImageUnref_returns (image cell held)).ensuring ?_
        intro next dropped
        obtain ⟨_, _, _, _, rfl⟩ := pixmanImageUnref_eq_ok dropped
        rfl
  · intro next same
    refine Returns.bind (?_ : Returns _ fun _ => True) ?_
    · refine .ite (fun blob => ?_) fun _ => .pure trivial
      apply virtioGpuDmabufUnref_returns
      intro cell info
      rw [same]
      refine dmabuf cell ?_
      rw [Resource2d.owned, if_pos blob, info]
    · intro after _
      exact .after (free_eq_ok unfreed) (.pure trivial)

theorem releaseScanout_returns {scanout : Scanout}
    (image : ∀ cell, scanout.curImg = some cell → gpu.images cell ≠ none)
    (dmabuf : ∀ cell, scanout.dmaBuf = some cell →
      gpu.dmabufs cell ≠ none) :
    Returns (releaseScanout gpu scanout) fun _ => True := by
  have first : Returns (virtioGpuDmabufUnref gpu scanout.dmaBuf)
      fun next => next.images = gpu.images := by
    refine (virtioGpuDmabufUnref_returns dmabuf).ensuring ?_
    intro next dropped
    obtain ⟨dmabufs, _, rfl⟩ := virtioGpuDmabufUnref_eq_ok dropped
    rfl
  refine first.bind ?_
  intro next same
  cases held : scanout.curImg with
  | none => exact .pure trivial
  | some cell =>
      apply pixmanImageUnref_returns
      rw [same]
      exact image cell held

end Live

/-! Holders are live. -/

theorem HeldBy.image_live {gpu : GpuState} {images dmabufs : List Nat}
    (held : HeldBy gpu images dmabufs) {cell : Nat} (member : cell ∈ images) :
    gpu.images cell ≠ none :=
  held.images.live_iff.mpr member

theorem HeldBy.dmabuf_live {gpu : GpuState} {images dmabufs : List Nat}
    (held : HeldBy gpu images dmabufs) {cell : Nat}
    (member : cell ∈ dmabufs) : gpu.dmabufs cell ≠ none :=
  held.dmabufs.live_iff.mpr member

/-- The loop of the reset gets through the resources it finds held. -/
theorem releaseResources_returns {gpu : GpuState} {r2dList : List Resource2d}
    {images dmabufs : List Nat}
    (held : HeldBy gpu (r2dList.filterMap Resource2d.image ++ images)
      (r2dList.filterMap Resource2d.owned ++ dmabufs))
    (unfreed : ∀ r2d, r2d ∈ r2dList → r2d.iov ≠ .freed) :
    Returns (releaseResources gpu r2dList) fun _ => True := by
  induction r2dList generalizing gpu with
  | nil => exact .of_eq rfl
  | cons head tail induction =>
      rw [filterMap_cons_toList, filterMap_cons_toList, List.append_assoc,
        List.append_assoc] at held
      have first := @releaseResource_returns gpu head
        (by
          intro cell image
          apply held.image_live
          rw [image]
          exact List.mem_cons_self)
        (by
          intro cell owned
          apply held.dmabuf_live
          rw [owned]
          exact List.mem_cons_self)
        (unfreed head List.mem_cons_self)
      obtain ⟨next, ran, _⟩ := first
      have remaining := held.release (releaseResource_released ran)
      refine .after ran (induction ?_ ?_)
      · exact ⟨remaining.images, remaining.dmabufs, remaining.files⟩
      · intro r2d member
        exact unfreed r2d (List.mem_cons_of_mem _ member)

namespace CountsBeside

variable {leaks : List Nat} {gpu : GpuState}

theorem image_live {r2d : Resource2d} {cell : Nat}
    (counts : CountsBeside leaks gpu) (listed : r2d ∈ gpu.r2dList)
    (image : r2d.image = some cell) : gpu.images cell ≠ none := by
  apply counts.held.image_live
  apply List.mem_append_left
  apply List.mem_append_left
  exact List.mem_filterMap.mpr ⟨r2d, listed, image⟩

theorem dmabuf_live {r2d : Resource2d} {cell : Nat}
    (counts : CountsBeside leaks gpu) (listed : r2d ∈ gpu.r2dList)
    (owned : r2d.owned = some cell) : gpu.dmabufs cell ≠ none := by
  apply counts.held.dmabuf_live
  apply List.mem_append_left
  exact List.mem_filterMap.mpr ⟨r2d, listed, owned⟩

theorem resetGpu_returns (counts : CountsBeside leaks gpu)
    (unfreed : ∀ r2d, r2d ∈ gpu.r2dList → r2d.iov ≠ .freed) :
    Returns (resetGpu gpu) fun _ => True := by
  have holders := counts.held
  unfold GpuState.imageHolders at holders
  rw [List.append_assoc] at holders
  exact (releaseResources_returns holders unfreed).bind
    fun _ _ => .pure trivial

theorem releaseScanout_returns {scanoutId : Nat}
    (counts : CountsBeside leaks gpu)
    (inside : scanoutId < gpu.scanouts.length) :
    Returns (releaseScanout gpu (scanoutAt gpu scanoutId))
      fun _ => True := by
  have member : scanoutAt gpu scanoutId ∈ gpu.scanouts := by
    rw [scanoutAt, List.getD_eq_getElem?_getD,
      List.getElem?_eq_getElem inside, Option.getD_some]
    exact List.getElem_mem inside
  apply Gpu.releaseScanout_returns
  · intro cell shown
    apply counts.held.image_live
    apply List.mem_append_left
    apply List.mem_append_right
    exact List.mem_filterMap.mpr ⟨_, member, shown⟩
  · intro cell shown
    apply counts.held.dmabuf_live
    apply List.mem_append_right
    exact List.mem_filterMap.mpr ⟨_, member, shown⟩

/-- A scanout can be given any resource that is a blob or has an image. -/
theorem virtioGpuUpdateScanout_returns {scanoutId resourceId : Nat}
    (counts : CountsBeside leaks gpu)
    (inside : scanoutId < gpu.scanouts.length) (scanRect : Rect)
    (visible : ∀ r2d, virtioGpuFindResource2d gpu resourceId = some r2d →
      r2d.blob = false → r2d.image ≠ none) :
    Returns (virtioGpuUpdateScanout gpu scanoutId resourceId scanRect)
      fun _ => True := by
  obtain ⟨next, first, _⟩ := counts.releaseScanout_returns inside
  have released := releaseScanout_released first
  have held := counts.release_scanout inside released
  have same : virtioGpuFindResource2d next resourceId =
      virtioGpuFindResource2d gpu resourceId := by
    obtain ⟨_, _, _, _, rfl⟩ := released.split
    rfl
  refine .after first ?_
  dsimp only
  rw [same]
  cases found : virtioGpuFindResource2d gpu resourceId with
  | none => exact .pure trivial
  | some r2d =>
      have listed := List.mem_of_find?_eq_some found
      refine .ite (fun blob => ?_) fun plain => ?_
      · refine Returns.bind (virtioGpuDmabufRef_returns ?_)
          fun _ _ => .pure trivial
        intro cell info
        apply held.dmabuf_live
        apply List.mem_append_left
        refine List.mem_filterMap.mpr ⟨r2d, listed, ?_⟩
        rw [Resource2d.owned, if_pos blob, info]
      · obtain ⟨cell, image⟩ := Option.ne_none_iff_exists'.mp
          (visible r2d found (by simpa using plain))
        rw [image]
        refine Returns.bind (pixmanImageRef_returns ?_) fun _ _ => .pure trivial
        apply held.image_live
        apply List.mem_append_left
        exact List.mem_filterMap.mpr ⟨r2d, listed, image⟩

end CountsBeside

end VirtioGpu.Gpu
