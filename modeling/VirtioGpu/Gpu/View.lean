import VirtioGpu.Gpu.Coverage
import VirtioGpu.Gpu.Release
import VirtioGpu.Gpu.Table

namespace VirtioGpu.Gpu

open Foundation
open Virtio

/-! The table as the driver knows it: a map from ids to resources with the
contents of their images, whatever cells hold them. -/

/-- Distinct ids, an image of its own for every resource, and counts that make
every image of the table live. -/
structure Tidy (gpu : GpuState) : Prop where
  counts : ∃ leaks, CountsBeside leaks gpu
  distinct : KeyedList.Distinct Resource2d.resourceId gpu.r2dList
  separate : (gpu.r2dList.filterMap Resource2d.image).Nodup

namespace Tidy

variable {gpu : GpuState}

theorem image_live (tidy : Tidy gpu) {r2d : Resource2d} {cell : Nat}
    (listed : r2d ∈ gpu.r2dList) (image : r2d.image = some cell) :
    gpu.images cell ≠ none := by
  obtain ⟨leaks, counts⟩ := tidy.counts
  exact counts.image_live listed image

/-- A free cell is no resource's image. -/
theorem fresh_image (tidy : Tidy gpu) {cell : Nat}
    (free : gpu.images cell = none) :
    cell ∉ gpu.r2dList.filterMap Resource2d.image := by
  intro member
  obtain ⟨r2d, listed, image⟩ := List.mem_filterMap.mp member
  exact tidy.image_live listed image free

end Tidy

theorem separate_insert {r2dList : List Resource2d} {r2d : Resource2d}
    (separate : (r2dList.filterMap Resource2d.image).Nodup)
    (own : ∀ cell, r2d.image = some cell →
      cell ∉ r2dList.filterMap Resource2d.image) :
    ((r2d :: r2dList).filterMap Resource2d.image).Nodup := by
  rw [filterMap_cons_toList]
  cases image : r2d.image with
  | none => exact separate
  | some cell => exact List.nodup_cons.mpr ⟨own cell image, separate⟩

theorem separate_sublist {r2dList part : List Resource2d}
    (separate : (r2dList.filterMap Resource2d.image).Nodup)
    (within : part.Sublist r2dList) :
    (part.filterMap Resource2d.image).Nodup :=
  separate.sublist (within.filterMap _)

theorem Tidy.change {env : Env} {cmd : Command} {memory : Memory}
    {before after : GpuState} (tidy : Tidy before) (fresh : env.Fresh before)
    (changed : Change env cmd memory cmd.address before after) :
    Tidy after := by
  obtain ⟨leaks, counts⟩ := tidy.counts
  obtain ⟨more, kept, _⟩ := counts.change fresh changed
  have unchanged : after.r2dList = before.r2dList → Tidy after := by
    intro same
    refine ⟨⟨more, kept⟩, ?_, ?_⟩
    · rw [same]
      exact tidy.distinct
    · rw [same]
      exact tidy.separate
  have inserted : ∀ r2d : Resource2d,
      after.r2dList = r2d :: before.r2dList →
        virtioGpuFindResource2d before r2d.resourceId = none →
          (∀ cell, r2d.image = some cell → cell = env.imageCell) →
            Tidy after := by
    intro r2d listed absent own
    refine ⟨⟨more, kept⟩, ?_, ?_⟩
    · rw [listed]
      exact tidy.distinct.cons absent
    · rw [listed]
      refine separate_insert tidy.separate ?_
      intro cell image
      rw [own cell image]
      exact tidy.fresh_image fresh.image
  cases changed with
  | kept same => exact unchanged (r2dList_of_core same)
  | created2d code absent allocated made result =>
      subst result
      refine inserted _ rfl absent ?_
      intro cell image
      cases image
      rfl
  | createdBare code accepted empty result =>
      subst result
      refine inserted _ rfl accepted.absent ?_
      intro cell image
      cases image
  | createdBlob code accepted valid result =>
      subst result
      refine inserted _ rfl accepted.absent ?_
      intro cell image
      cases image
  | createdCursor code accepted backed entries gathered small iovAlloc made
      result =>
      subst result
      rcases createImage_eq_ok made with ⟨_, rfl, rfl⟩ | ⟨bits, _, rfl, rfl⟩
      · refine inserted _ rfl accepted.absent ?_
        intro cell image
        cases image
      · refine inserted _ rfl accepted.absent ?_
        intro cell image
        cases image
        rfl
  | leaked iovAlloc made =>
      apply unchanged
      rcases createImage_eq_ok made with ⟨_, rfl, _⟩ | ⟨bits, _, rfl, _⟩
      · rfl
      · rfl
  | @removed resourceId r2d _ found released result =>
      subst result
      obtain ⟨_, _, _, _, rfl⟩ := (releaseResource_released released).split
      refine ⟨⟨more, kept⟩, ?_, ?_⟩
      · exact tidy.distinct.remove resourceId
      · exact separate_sublist tidy.separate List.eraseP_sublist
  | @backed resourceId iovcnt iov reason result =>
      subst result
      refine ⟨⟨more, kept⟩, ?_, ?_⟩
      · unfold KeyedList.Distinct setBacking
        dsimp only
        rw [map_modifyResource]
        · exact tidy.distinct
        · intro _
          rfl
      · unfold setBacking
        dsimp only
        rw [filterMap_modifyResource]
        · exact tidy.separate
        · intro _
          rfl
  | painted result =>
      subst result
      exact unchanged rfl
  | shown reason starts inside updated result =>
      apply unchanged
      rw [r2dList_of_core result, virtioGpuUpdateScanout_r2dList updated,
        r2dList_of_core starts]

theorem Tidy.reset {before after : GpuState} (tidy : Tidy before)
    (cleared : resetGpu before = .ok after) : Tidy after := by
  obtain ⟨leaks, counts⟩ := tidy.counts
  refine ⟨⟨leaks, counts.reset cleared⟩, ?_, ?_⟩
  · rw [resetGpu_r2dList cleared]
    exact List.nodup_nil
  · rw [resetGpu_r2dList cleared]
    exact List.nodup_nil

theorem tidy_initial (vmctx : Vmctx) (isBlobSupported : Bool)
    (scanoutNum : Nat) :
    Tidy (initialGpu vmctx isBlobSupported scanoutNum) :=
  ⟨⟨[], countsBeside_nil.mpr
    (counts_initial vmctx isBlobSupported scanoutNum)⟩, List.nodup_nil,
    List.nodup_nil⟩

/-! Views. -/

/-- A resource without its pointers, and the image behind the first of
them. -/
structure View where
  record : Resource2d
  image : Option Image

def viewOf (images : RefHeap Image) (r2d : Resource2d) : View where
  record := { r2d with image := none, dmaInfo := none }
  image := r2d.image.bind images.contents

def GpuState.view (gpu : GpuState) (resourceId : Nat) : Option View :=
  (virtioGpuFindResource2d gpu resourceId).map (viewOf gpu.images)

theorem viewOf_congr {before after : RefHeap Image} {r2d : Resource2d}
    (same : ∀ cell, r2d.image = some cell →
      after.contents cell = before.contents cell) :
    viewOf after r2d = viewOf before r2d := by
  unfold viewOf
  cases image : r2d.image with
  | none => rfl
  | some cell =>
      simp only [Option.bind_some, same cell image]

/-- The view of one id depends on the resource found there and on the contents
of its image. -/
theorem view_congr {before after : GpuState} {resourceId : Nat}
    (found : virtioGpuFindResource2d after resourceId =
      virtioGpuFindResource2d before resourceId)
    (same : ∀ r2d cell, virtioGpuFindResource2d before resourceId = some r2d →
      r2d.image = some cell →
        after.images.contents cell = before.images.contents cell) :
    after.view resourceId = before.view resourceId := by
  unfold GpuState.view
  rw [found]
  cases here : virtioGpuFindResource2d before resourceId with
  | none => rfl
  | some r2d =>
      rw [Option.map_some, Option.map_some,
        viewOf_congr fun cell image => same r2d cell here image]

theorem resourceId_of_find {gpu : GpuState} {resourceId : Nat}
    {r2d : Resource2d}
    (found : virtioGpuFindResource2d gpu resourceId = some r2d) :
    r2d.resourceId = resourceId := by
  have matched := List.find?_some found
  exact beq_iff_eq.mp matched

/-- Images of different resources are different cells. -/
theorem Tidy.cells_ne {gpu : GpuState} (tidy : Tidy gpu)
    {first second : Nat} {left right : Resource2d} {cell other : Nat}
    (different : first ≠ second)
    (leftFound : virtioGpuFindResource2d gpu first = some left)
    (rightFound : virtioGpuFindResource2d gpu second = some right)
    (leftImage : left.image = some cell)
    (rightImage : right.image = some other) : cell ≠ other := by
  rintro rfl
  have leftListed := List.mem_of_find?_eq_some leftFound
  have rightListed := List.mem_of_find?_eq_some rightFound
  apply different
  rw [← resourceId_of_find leftFound, ← resourceId_of_find rightFound]
  have separate := tidy.separate
  generalize gpu.r2dList = r2dList at leftListed rightListed separate
  induction r2dList with
  | nil => cases leftListed
  | cons head tail induction =>
      rw [filterMap_cons_toList] at separate
      have apart := List.nodup_append.mp separate
      have clash : ∀ r2d, r2d ∈ tail → r2d.image = some cell →
          head.image ≠ some cell := by
        intro r2d listed image held
        refine apart.2.2 cell ?_ cell ?_ rfl
        · rw [held]
          exact List.mem_singleton_self cell
        · exact List.mem_filterMap.mpr ⟨r2d, listed, image⟩
      rcases List.mem_cons.mp leftListed with rfl | leftLater
      · rcases List.mem_cons.mp rightListed with rfl | rightLater
        · rfl
        · exact absurd leftImage (clash right rightLater rightImage)
      · rcases List.mem_cons.mp rightListed with rfl | rightLater
        · exact absurd rightImage (clash left leftLater leftImage)
        · exact induction leftLater rightLater apart.2.1

/-- Only counts and scanouts have changed. -/
structure Undisturbed (before after : GpuState) : Prop where
  r2dList : after.r2dList = before.r2dList
  images : RefHeap.KeepsContents before.images after.images

theorem Undisturbed.view {before after : GpuState}
    (undisturbed : Undisturbed before after) (tidy : Tidy after) :
    after.view = before.view := by
  have found : ∀ resourceId, virtioGpuFindResource2d after resourceId =
      virtioGpuFindResource2d before resourceId := by
    intro resourceId
    unfold virtioGpuFindResource2d
    rw [undisturbed.r2dList]
  funext resourceId
  refine view_congr (found resourceId) ?_
  intro r2d cell here image
  rw [← found] at here
  exact undisturbed.images cell
    (tidy.image_live (List.mem_of_find?_eq_some here) image)

end VirtioGpu.Gpu
