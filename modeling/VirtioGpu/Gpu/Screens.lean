import VirtioGpu.Gpu.Pictures

namespace VirtioGpu.Gpu

open Foundation
open Virtio

/-! The control commands do on the board what they do to the device. -/

section Boards

variable {gpu before after : GpuState}

theorem Presentable.of_lists (presentable : Presentable before)
    (counts : ∃ leaks, CountsBeside leaks after)
    (same : after.r2dList = before.r2dList) : Presentable after := by
  refine ⟨⟨counts, ?_, ?_⟩, ?_⟩
  · rw [same]
    exact presentable.tidy.distinct
  · rw [same]
    exact presentable.tidy.separate
  · rw [same]
    exact presentable.plain

theorem Presentable.of_core (presentable : Presentable before)
    (same : after.core = before.core) : Presentable after := by
  obtain ⟨leaks, counts⟩ := presentable.tidy.counts
  exact presentable.of_lists ⟨leaks, counts.of_core same⟩
    (r2dList_of_core same)

theorem board_screens (gpu : GpuState) :
    gpu.board.screens = gpu.core.scanouts.map Scanout.screen := by
  unfold GpuState.core
  rw [List.map_map]
  rfl

theorem board_eq {board : Board} (vmctx : gpu.vmctx = board.vmctx)
    (supported : gpu.isBlobSupported = board.isBlobSupported)
    (pictures : gpu.board.pictures = board.pictures)
    (screens : gpu.board.screens = board.screens)
    (vga : gpu.vgaEnable = board.vgaEnable) : gpu.board = board := by
  cases board
  subst vmctx supported pictures screens vga
  rfl

theorem board_of_core (same : after.core = before.core)
    (vga : after.vgaEnable = before.vgaEnable) :
    after.board = before.board := by
  have vmctx := congrArg GpuState.vmctx same
  have supported := congrArg GpuState.isBlobSupported same
  refine board_eq vmctx supported ?_ ?_ vga
  · have pictures := congrArg (fun gpu => gpu.board.pictures) same
    exact pictures
  · rw [board_screens, board_screens, same]

/-- Noting its own id in a scanout is not seen. -/
theorem board_noted (gpu : GpuState) (scanoutId id : Nat) :
    (setScanoutAt gpu scanoutId
      { scanoutAt gpu scanoutId with scanoutId := id }).board = gpu.board :=
  board_of_core (core_setScanoutAt_scanoutId gpu scanoutId id) rfl

theorem board_vga (gpu : GpuState) :
    GpuState.board { gpu with vgaEnable := false } = gpu.board.leaveVga :=
  rfl

theorem length_screens (gpu : GpuState) :
    gpu.board.screens.length = gpu.scanouts.length := List.length_map _

/-- Dropping and taking references is not seen as long as what the table
names is live. -/
theorem Presentable.pictures_undisturbed (first : Presentable before)
    (second : Presentable after) (undisturbed : Undisturbed before after)
    (dmabufs : RefHeap.KeepsContents before.dmabufs after.dmabufs) :
    after.board.pictures = before.board.pictures := by
  funext resourceId
  have views := congrFun (undisturbed.view second.tidy) resourceId
  have found : virtioGpuFindResource2d after resourceId =
      virtioGpuFindResource2d before resourceId := by
    unfold virtioGpuFindResource2d
    rw [undisturbed.r2dList]
  unfold GpuState.view at views
  rw [board_pictures, board_pictures]
  rw [found] at views ⊢
  cases here : virtioGpuFindResource2d before resourceId with
  | none => rfl
  | some r2d =>
      rw [here, Option.map_some, Option.map_some, Option.some.injEq] at views
      rw [here] at found
      suffices fd : (pictureOf after r2d).fd = (pictureOf before r2d).fd by
        rw [Option.map_some, Option.map_some]
        unfold pictureOf at fd ⊢
        dsimp only at fd
        rw [views, fd]
      cases blob : r2d.blob with
      | false => rw [first.fd_of_plain here blob, second.fd_of_plain found blob]
      | true =>
          simp only [pictureOf]
          cases held : r2d.dmaInfo with
          | none => rfl
          | some cell =>
              obtain ⟨_, counts⟩ := second.tidy.counts
              exact dmabufs cell (counts.dmabuf_live
                (List.mem_of_find?_eq_some found)
                (by rw [Resource2d.owned, if_pos blob, held]))

end Boards

section Pairs

variable {gpu : GpuState}

/-- An image resource has an image in its picture when it has a pointer to
one. -/
theorem Presentable.pixels_eq (presentable : Presentable gpu)
    {resourceId cell : Nat} {r2d : Resource2d}
    (found : virtioGpuFindResource2d gpu resourceId = some r2d)
    (own : r2d.image = some cell) :
    ∃ image, gpu.images.contents cell = some image ∧
      (pictureOf gpu r2d).pixels = .ok image := by
  have live := presentable.tidy.image_live
    (List.mem_of_find?_eq_some found) own
  obtain ⟨counted, held⟩ := Option.ne_none_iff_exists'.mp live
  have contents : gpu.images.contents cell = some counted.value := by
    rw [RefHeap.contents, held, Option.map_some]
  refine ⟨counted.value, contents, ?_⟩
  simp only [Picture.pixels, pictureOf, viewOf, own, Option.bind_some,
    contents]

theorem pixels_of_null {r2d : Resource2d} (bare : r2d.image = none) :
    (pictureOf gpu r2d).pixels = .error .nullImage := by
  simp only [Picture.pixels, pictureOf, viewOf, bare, Option.bind_none]

/-- A scanout after `virtio_gpu_update_scanout`. -/
structure Given (gpu : GpuState) (board : Board) (after : GpuState) :
    Prop where
  presentable : Presentable after
  board : after.board = board
  pictures : after.board.pictures = gpu.board.pictures
  undisturbed : Undisturbed gpu after

/-- The update leaves the picture of a resource alone. -/
theorem Given.picture {board : Board} {after : GpuState}
    (given : Given gpu board after) {resourceId : Nat} {r2d : Resource2d}
    (found : virtioGpuFindResource2d gpu resourceId = some r2d) :
    virtioGpuFindResource2d after resourceId = some r2d ∧
      pictureOf after r2d = pictureOf gpu r2d := by
  have still : virtioGpuFindResource2d after resourceId = some r2d := by
    unfold virtioGpuFindResource2d at found ⊢
    rw [given.undisturbed.r2dList]
    exact found
  have same := congrFun given.pictures resourceId
  rw [board_pictures, board_pictures, still, found] at same
  exact ⟨still, Option.some.inj same⟩

theorem Presentable.given (presentable : Presentable gpu)
    {scanoutId resourceId : Nat} {rect : Rect} {after : GpuState}
    (inside : scanoutId < gpu.scanouts.length)
    (updated : virtioGpuUpdateScanout gpu scanoutId resourceId rect =
      .ok after) :
    Given gpu (gpu.board.setScreen scanoutId ⟨resourceId, rect,
      (gpu.board.pictures resourceId).isSome⟩) after := by
  obtain ⟨leaks, counts⟩ := presentable.tidy.counts
  have undisturbed : Undisturbed gpu after :=
    virtioGpuUpdateScanout_undisturbed updated (.refl gpu)
  have later := presentable.of_lists
    ⟨leaks, counts.update_scanout inside updated⟩ undisturbed.r2dList
  have setup := virtioGpuUpdateScanout_sameSetup updated
  have pictures := presentable.pictures_undisturbed later undisturbed
    (virtioGpuUpdateScanout_dmabufs updated)
  refine ⟨later, ?_, pictures, undisturbed⟩
  obtain ⟨next, images, dmabufs, released, _, _, rfl⟩ :=
    virtioGpuUpdateScanout_eq_ok updated
  obtain ⟨_, _, _, _, rfl⟩ := released.split
  refine board_eq setup.vmctx setup.isBlobSupported pictures ?_ rfl
  show (gpu.scanouts.set scanoutId _).map Scanout.screen = _
  rw [List.map_set, board_pictures, Option.isSome_map]
  rfl

theorem Presentable.give_paired (presentable : Presentable gpu)
    {scanoutId : Nat} (inside : scanoutId < gpu.scanouts.length)
    (resourceId : Nat) (rect : Rect) :
    Paired (Given gpu) (gpu.board.give scanoutId resourceId rect)
      (virtioGpuUpdateScanout gpu scanoutId resourceId rect) := by
  obtain ⟨leaks, counts⟩ := presentable.tidy.counts
  have returned := @CountsBeside.virtioGpuUpdateScanout_returns leaks gpu
    scanoutId resourceId counts inside rect
  have gives : ∀ {active : Bool},
      (gpu.board.pictures resourceId).isSome = active →
      Returns (virtioGpuUpdateScanout gpu scanoutId resourceId rect)
        (fun _ => True) →
      Paired (Given gpu)
        (.ok (gpu.board.setScreen scanoutId ⟨resourceId, rect, active⟩))
        (virtioGpuUpdateScanout gpu scanoutId resourceId rect) := by
    intro active known returns
    obtain ⟨after, updated, _⟩ := returns
    rw [updated, ← known]
    exact .done (presentable.given inside updated)
  unfold Board.give
  have shown := board_pictures gpu resourceId
  cases found : virtioGpuFindResource2d gpu resourceId with
  | none =>
      rw [found, Option.map_none] at shown
      rw [shown]
      refine gives (by rw [shown]; rfl) (returned ?_)
      rw [found]
      exact nofun
  | some r2d =>
      rw [found, Option.map_some] at shown
      rw [shown]
      have active : (gpu.board.pictures resourceId).isSome = true := by
        rw [shown]
        rfl
      have blobs : (pictureOf gpu r2d).view.record.blob = r2d.blob := rfl
      dsimp only
      rw [blobs]
      cases blob : r2d.blob with
      | true =>
          refine gives active (returned ?_)
          intro other here plain
          rw [found] at here
          cases here
          rw [blob] at plain
          cases plain
      | false =>
          rw [if_neg (by simp)]
          cases own : r2d.image with
          | none =>
              rw [pixels_of_null own]
              obtain ⟨next, first, _⟩ := counts.releaseScanout_returns inside
              obtain ⟨_, _, _, _, rfl⟩ :=
                (releaseScanout_released first).split
              unfold virtioGpuUpdateScanout
              refine .after first ?_
              unfold virtioGpuFindResource2d at found ⊢
              dsimp only
              rw [found]
              dsimp only
              rw [blob, own]
              exact .failed _
          | some cell =>
              obtain ⟨image, _, pixels⟩ := presentable.pixels_eq found own
              rw [pixels]
              refine gives active (returned ?_)
              intro other here _
              rw [found] at here
              cases here
              rw [own]
              exact Option.some_ne_none _

end Pairs

end VirtioGpu.Gpu
