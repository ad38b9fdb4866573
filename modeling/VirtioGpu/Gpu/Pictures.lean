import VirtioGpu.Gpu.BlobSurface
import VirtioGpu.Gpu.Board

namespace VirtioGpu.Gpu

open Foundation
open Virtio

/-! Pictures follow views: a resource that stays keeps its dmabuf, and a new
one has a dmabuf exactly when it is a blob. -/

/-- A table in order, in which only blobs have a `dma_info`. -/
structure Presentable (gpu : GpuState) : Prop where
  tidy : Tidy gpu
  plain : ∀ r2d, r2d ∈ gpu.r2dList → r2d.blob = false → r2d.dmaInfo = none

theorem presentable_initial (vmctx : Vmctx) (isBlobSupported : Bool)
    (scanoutNum : Nat) :
    Presentable (initialGpu vmctx isBlobSupported scanoutNum) :=
  ⟨tidy_initial vmctx isBlobSupported scanoutNum, by
    intro r2d listed
    cases listed⟩

theorem Presentable.reset {before after : GpuState}
    (presentable : Presentable before)
    (cleared : resetGpu before = .ok after) : Presentable after := by
  refine ⟨presentable.tidy.reset cleared, ?_⟩
  rw [resetGpu_r2dList cleared]
  intro r2d listed
  cases listed

section Commands

variable {env : Env} {cmd : Command} {memory : Memory}
  {before after : GpuState}

theorem Presentable.change (presentable : Presentable before)
    (fresh : env.Fresh before)
    (changed : Change env cmd memory cmd.address before after) :
    Presentable after := by
  refine ⟨presentable.tidy.change fresh changed, ?_⟩
  refine changed.listed presentable.plain ?_ ?_
  · intro r2d creation plain
    cases creation with
    | pixels code => rfl
    | bare code accepted empty => rfl
    | blob code accepted => cases plain
    | cursor code accepted entries gathered small iovAlloc made => rfl
  · intro r2d resourceId iov iovcnt _ kept
    exact kept

/-- A resource that was not there: no dmabuf, or the one the kernel has just
made. -/
def Newly (env : Env) (after : GpuState) (r2d : Resource2d) : Prop :=
  r2d.blob = false ∧ r2d.dmaInfo = none ∨
    r2d.blob = true ∧ r2d.dmaInfo = some env.dmaCell ∧
      after.dmabufs.contents env.dmaCell = some env.createList

theorem Change.appeared {address resourceId : Nat} {later : Resource2d}
    (changed : Change env cmd memory address before after)
    (distinct : KeyedList.Distinct Resource2d.resourceId before.r2dList)
    (absent : virtioGpuFindResource2d before resourceId = none)
    (here : virtioGpuFindResource2d after resourceId = some later) :
    Newly env after later := by
  have unlisted : ∀ {gpu : GpuState}, gpu.r2dList = before.r2dList →
      virtioGpuFindResource2d gpu resourceId ≠ some later := by
    intro gpu same
    unfold virtioGpuFindResource2d at absent ⊢
    rw [same, absent]
    exact nofun
  have inserted : ∀ {gpu : GpuState} {created : Resource2d},
      after = insertResource gpu created → gpu.r2dList = before.r2dList →
        later = created := by
    intro gpu created result same
    rw [result, find_insertResource] at here
    split at here
    · exact (Option.some.inj here).symm
    · exact absurd here (unlisted same)
  cases changed with
  | kept same => exact absurd here (unlisted (r2dList_of_core same))
  | created2d code _ allocated made result =>
      cases inserted result rfl
      exact .inl ⟨rfl, rfl⟩
  | createdBare code accepted empty result =>
      cases inserted result rfl
      exact .inl ⟨rfl, rfl⟩
  | createdBlob code accepted valid result =>
      cases inserted result rfl
      subst result
      exact .inr ⟨rfl, rfl, RefHeap.contents_alloc_self _ _ _⟩
  | createdCursor code accepted backed entries gathered small iovAlloc made
      result =>
      cases inserted result (createImage_r2dList made)
      exact .inl ⟨rfl, rfl⟩
  | leaked iovAlloc made =>
      exact absurd here (unlisted (createImage_r2dList made))
  | @removed dropped _ _ _ released result =>
      obtain ⟨_, _, _, _, rfl⟩ := (releaseResource_released released).split
      have looked := distinct.lookup_remove dropped resourceId
      subst result
      rw [virtioGpuFindResource2d_eq, removeResource_eq, looked] at here
      split at here
      · cases here
      · exact absurd here (unlisted rfl)
  | backed reason result =>
      subst result
      rw [find_setBacking, absent] at here
      split at here
      · cases here
      · cases here
  | painted result => exact absurd here (unlisted (by rw [result]))
  | shown reason starts inside updated result =>
      refine absurd here (unlisted ?_)
      rw [r2dList_of_core result, virtioGpuUpdateScanout_r2dList updated,
        r2dList_of_core starts]

theorem board_pictures (gpu : GpuState) (resourceId : Nat) :
    gpu.board.pictures resourceId =
      (virtioGpuFindResource2d gpu resourceId).map (pictureOf gpu) := rfl

theorem pictures_view (gpu : GpuState) (resourceId : Nat) :
    (gpu.board.pictures resourceId).map Picture.view =
      gpu.view resourceId := by
  rw [board_pictures, Option.map_map]
  rfl

/-- The descriptor of a picture comes from its own dmabuf. -/
theorem Presentable.fd_of_plain (presentable : Presentable before)
    {resourceId : Nat} {r2d : Resource2d}
    (found : virtioGpuFindResource2d before resourceId = some r2d)
    (plain : r2d.blob = false) : (pictureOf before r2d).fd = none := by
  have bare := presentable.plain r2d (List.mem_of_find?_eq_some found) plain
  simp only [pictureOf, bare, Option.bind_none]

/-- A dmabuf that a resource keeps has the descriptor it had. -/
theorem Presentable.fd_kept (presentable : Presentable before)
    (fresh : env.Fresh before)
    (changed : Change env cmd memory cmd.address before after)
    {resourceId : Nat} {r2d later : Resource2d}
    (found : virtioGpuFindResource2d before resourceId = some r2d)
    (still : virtioGpuFindResource2d after resourceId = some later)
    (blob : r2d.blob = true) :
    (pictureOf after later).fd = (pictureOf before r2d).fd := by
  have same := changed.resource_kept presentable.tidy.distinct found still
  have info : later.dmaInfo = r2d.dmaInfo := by rw [same]
  have kept : later.blob = true := by
    rw [same]
    exact blob
  simp only [pictureOf]
  rw [info]
  cases held : r2d.dmaInfo with
  | none => rfl
  | some cell =>
      obtain ⟨_, counts⟩ := presentable.tidy.counts
      obtain ⟨_, others⟩ := (presentable.tidy.change fresh changed).counts
      have live := counts.dmabuf_live (List.mem_of_find?_eq_some found)
        (by rw [Resource2d.owned, if_pos blob, held])
      have lives := others.dmabuf_live (List.mem_of_find?_eq_some still)
        (by rw [Resource2d.owned, if_pos kept, info, held])
      exact changed.dmabuf_kept fresh live lives

/-- What a command makes of the pictures is told by what it makes of the
views. -/
theorem Presentable.pictures (presentable : Presentable before)
    (fresh : env.Fresh before)
    (changed : Change env cmd memory cmd.address before after)
    (resourceId : Nat) :
    after.board.pictures resourceId =
      (after.view resourceId).map
        (Picture.become env (before.board.pictures resourceId)) := by
  rw [← pictures_view, board_pictures, Option.map_map]
  cases still : virtioGpuFindResource2d after resourceId with
  | none => rfl
  | some later =>
      rw [Option.map_some, Option.map_some, Function.comp_apply]
      have blobs : (pictureOf after later).view.record.blob = later.blob := rfl
      suffices fd : (pictureOf after later).fd =
          (Picture.become env (before.board.pictures resourceId)
            (pictureOf after later).view).fd from
        congrArg (fun fd => some (Picture.mk (viewOf after.images later) fd))
          fd
      simp only [Picture.become, blobs]
      have listed := (presentable.change fresh changed).fd_of_plain still
      rw [board_pictures]
      cases found : virtioGpuFindResource2d before resourceId with
      | none =>
          rcases changed.appeared presentable.tidy.distinct found still with
            ⟨plain, _⟩ | ⟨blob, info, held⟩
          · rw [listed plain, if_neg (by simp [plain])]
          · rw [if_pos blob, Option.map_none]
            simp only [pictureOf, info, Option.bind_some, held]
      | some r2d =>
          have same := changed.resource_kept presentable.tidy.distinct found
            still
          cases blob : later.blob with
          | false => rw [listed blob, if_neg (by simp)]
          | true =>
              rw [if_pos rfl, Option.map_some]
              refine presentable.fd_kept fresh changed found still ?_
              rw [same] at blob
              exact blob

/-- A resource left as it was is the picture it was. -/
theorem Presentable.become_same (presentable : Presentable before) (env : Env)
    (resourceId : Nat) :
    (before.view resourceId).map
        (Picture.become env (before.board.pictures resourceId)) =
      before.board.pictures resourceId := by
  rw [← pictures_view, board_pictures]
  cases found : virtioGpuFindResource2d before resourceId with
  | none => rfl
  | some r2d =>
      simp only [Option.map_some, Picture.become]
      have blobs : (pictureOf before r2d).view.record.blob = r2d.blob := rfl
      rw [blobs]
      cases blob : r2d.blob with
      | false =>
          have plain := presentable.fd_of_plain found blob
          rw [if_neg (by simp), ← plain]
      | true => rw [if_pos rfl]

/-- A command that makes one view of the table another. -/
theorem Presentable.pictures_update (presentable : Presentable before)
    (fresh : env.Fresh before)
    (changed : Change env cmd memory cmd.address before after)
    {touched : Nat} {view : Option View}
    (views : after.view = Function.update before.view touched view) :
    after.board.pictures = Function.update before.board.pictures touched
      (view.map (Picture.become env (before.board.pictures touched))) := by
  funext resourceId
  rw [presentable.pictures fresh changed, views]
  rcases eq_or_ne resourceId touched with rfl | different
  · rw [Function.update_self, Function.update_self]
  · rw [Function.update_of_ne different, Function.update_of_ne different,
      presentable.become_same]

end Commands

end VirtioGpu.Gpu
