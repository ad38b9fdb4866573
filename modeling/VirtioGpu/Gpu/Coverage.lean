import VirtioGpu.Gpu.Backing

namespace VirtioGpu.Gpu

open Foundation
open Virtio

/-! Which part of an image a stored scanout rectangle describes. -/

/-- The rectangle lies in an image of this size. -/
def Rect.FitsIn (rect : Rect) (width height : Nat) : Prop :=
  rect.x + rect.width ≤ width ∧ rect.y + rect.height ≤ height

instance (rect : Rect) (width height : Nat) :
    Decidable (rect.FitsIn width height) :=
  inferInstanceAs (Decidable (_ ∧ _))

/-- The rectangle's 16-bit region is not empty, so some flush updates it. -/
def Rect.Visible (rect : Rect) : Prop := regionOfRect rect ≠ none

instance (rect : Rect) : Decidable rect.Visible :=
  inferInstanceAs (Decidable (_ ≠ _))

theorem Rect.Visible.size {rect : Rect} (visible : rect.Visible) :
    rect.width ≠ 0 ∧ rect.height ≠ 0 := by
  unfold Rect.Visible regionOfRect pixmanRegionInitRect at visible
  dsimp only at visible
  split at visible
  · rename_i ordered
    constructor
    · intro flat
      rw [flat, Nat.add_zero] at ordered
      omega
    · intro flat
      rw [flat, Nat.add_zero] at ordered
      omega
  · exact absurd rfl visible

/-! The sizes pixman accepts keep `uint32_t` sums of coordinates exact. -/

def BoundedSize (width height : Nat) : Prop :=
  width = 0 ∨ height = 0 ∨ width < 2147483648 ∧ height < 2147483648

theorem createBits_bounded {format width height stride : Nat}
    (made : createBits format width height = .ok (some stride)) :
    width < 2147483648 ∧ height < 2147483648 := by
  unfold createBits at made
  dsimp only at made
  split at made
  · cases made
  split at made
  · cases made
  rename_i narrow
  split at made
  · cases made
  split at made
  · cases made
  rename_i bytes
  split at made
  · cases made
  rename_i low
  have row : 4 ≤ (width * pixmanFormatBpp format + 0x1f) / 32 * 4 := by
    omega
  have rows := @Nat.div_le_div_left _ _ sizeMax row (by decide)
  have columns : int32Max / pixmanFormatBpp format ≤ int32Max :=
    Nat.div_le_self _ _
  refine ⟨?_, ?_⟩
  · unfold int32Max at narrow columns
    omega
  · by_contra tall
    unfold signExtend32 at low
    rw [if_neg tall] at low
    unfold sizeMax at low rows
    omega

theorem pixmanImageCreateBits_bounded {recordAlloc bitsAlloc : Bool}
    {format width height : Nat} {image : Image}
    (made : pixmanImageCreateBits recordAlloc bitsAlloc format width height =
      .ok (some image)) : BoundedSize width height := by
  unfold pixmanImageCreateBits at made
  split at made
  · cases made
  split at made
  · cases made
  split at made
  · cases bits : createBits format width height with
    | error fault =>
        rw [bits] at made
        cases made
    | ok stride =>
        cases stride with
        | none =>
            rw [bits] at made
            cases made
        | some stride => exact .inr (.inr (createBits_bounded bits))
  · rename_i flat
    rcases not_and_or.mp flat with zero | zero
    · exact .inl (not_not.mp zero)
    · exact .inr (.inl (not_not.mp zero))

/-- The bounds test is exact in a resource of these sizes. -/
theorem rectInside_iff {rect : Rect} {r2d : Resource2d}
    (narrow : r2d.width < 2147483648) (low : r2d.height < 2147483648) :
    rectInside rect r2d = true ↔ rect.FitsIn r2d.width r2d.height := by
  unfold rectInside Rect.FitsIn
  simp only [Bool.not_eq_true', Bool.or_eq_false_iff,
    decide_eq_false_iff_not, Nat.not_lt, gt_iff_lt, add32]
  constructor
  · rintro ⟨⟨⟨⟨⟨left, top⟩, width⟩, height⟩, right⟩, bottom⟩
    rw [Nat.mod_eq_of_lt (by omega)] at right bottom
    exact ⟨right, bottom⟩
  · rintro ⟨right, bottom⟩
    rw [Nat.mod_eq_of_lt (by omega), Nat.mod_eq_of_lt (by omega)]
    exact ⟨⟨⟨⟨⟨by omega, by omega⟩, by omega⟩, by omega⟩, right⟩, bottom⟩

theorem size_of_rectInside {rect : Rect} {r2d : Resource2d}
    (inside : rectInside rect r2d = true) :
    rect.width ≤ r2d.width ∧ rect.height ≤ r2d.height := by
  unfold rectInside at inside
  simp only [Bool.not_eq_true', Bool.or_eq_false_iff,
    decide_eq_false_iff_not, Nat.not_lt, gt_iff_lt] at inside
  obtain ⟨⟨⟨⟨_, width⟩, height⟩, _⟩, _⟩ := inside
  exact ⟨width, height⟩

/-- The bounds test of `SET_SCANOUT` is exact for visible rectangles. -/
theorem fitsIn_of_rectInside {rect : Rect} {r2d : Resource2d}
    (bounded : BoundedSize r2d.width r2d.height) (visible : rect.Visible)
    (inside : rectInside rect r2d = true) :
    rect.FitsIn r2d.width r2d.height := by
  obtain ⟨wide, high⟩ := visible.size
  obtain ⟨width, height⟩ := size_of_rectInside inside
  rcases bounded with flat | flat | ⟨narrow, low⟩
  · omega
  · omega
  · exact (rectInside_iff narrow low).mp inside

/-! Stored rectangles and the resources of the same id. -/

/-- A flush of this resource shows its pixels. -/
def Resource2d.ShowsPixels (r2d : Resource2d) : Prop :=
  r2d.blob = false ∧ r2d.image ≠ none

structure Fits (gpu : GpuState) : Prop where
  distinct : (gpu.r2dList.map Resource2d.resourceId).Nodup
  bounded : ∀ r2d, r2d ∈ gpu.r2dList → BoundedSize r2d.width r2d.height
  fits : ∀ scanout r2d, scanout ∈ gpu.scanouts → r2d ∈ gpu.r2dList →
    r2d.resourceId = scanout.resourceId → r2d.ShowsPixels →
      scanout.scanoutRect.Visible →
        scanout.scanoutRect.FitsIn r2d.width r2d.height

theorem find_of_mem {gpu : GpuState} {r2d : Resource2d}
    (distinct : (gpu.r2dList.map Resource2d.resourceId).Nodup)
    (member : r2d ∈ gpu.r2dList) :
    virtioGpuFindResource2d gpu r2d.resourceId = some r2d := by
  unfold virtioGpuFindResource2d
  generalize gpu.r2dList = r2dList at distinct member
  induction r2dList with
  | nil => cases member
  | cons head tail induction =>
      rw [List.map_cons, List.nodup_cons] at distinct
      rcases List.mem_cons.mp member with rfl | later
      · rw [List.find?_cons_of_pos (by simp)]
      · have different : head.resourceId ≠ r2d.resourceId := by
          intro same
          apply distinct.1
          rw [same]
          exact List.mem_map_of_mem later
        rw [List.find?_cons_of_neg (by simpa using different)]
        exact induction distinct.2 later

/-- Some scanout still has a visible rectangle stored for this id that an
image of this size does not contain. -/
def Outgrown (gpu : GpuState) (resourceId width height : Nat) : Prop :=
  ∃ scanout, scanout ∈ gpu.scanouts ∧ scanout.resourceId = resourceId ∧
    scanout.scanoutRect.Visible ∧
    ¬scanout.scanoutRect.FitsIn width height

/-- The command creates an image smaller than a rectangle stored for its id,
or stores a rectangle for resource 0 that does not lie in it. -/
inductive Misplaces (env : Env) (gpu : GpuState) (cmd : Command)
    (memory : Memory) : Prop
  | create2d {image : Image}
      (code : CtrlCmd.ofCode cmd.hdr.type = some .resourceCreate2d)
      (absent : virtioGpuFindResource2d gpu
        (ResourceCreate2d.load memory cmd.address).resourceId = none)
      (allocated : env.r2dAlloc = true)
      (made : pixmanImageCreateBits env.imageRecordAlloc env.imageBitsAlloc
        (virtioGpuGetPixmanFormat
          (ResourceCreate2d.load memory cmd.address).format)
        (ResourceCreate2d.load memory cmd.address).width
        (ResourceCreate2d.load memory cmd.address).height = .ok (some image))
      (outgrown : Outgrown gpu
        (ResourceCreate2d.load memory cmd.address).resourceId
        (ResourceCreate2d.load memory cmd.address).width
        (ResourceCreate2d.load memory cmd.address).height)
  | createCursor
      (code : CtrlCmd.ofCode cmd.hdr.type = some .resourceCreateBlob)
      (accepted : AcceptsBlob env gpu cmd
        (ResourceCreateBlob.load memory cmd.address))
      (backed : (ResourceCreateBlob.load memory cmd.address).nrEntries ≠ 0)
      (entries : env.entriesAlloc = true)
      (small : (ResourceCreateBlob.load memory cmd.address).size ≤
        cursorBlobSize)
      (iovAlloc : env.iovAlloc = true)
      (imageAlloc : env.imageAlloc = true)
      (outgrown : Outgrown gpu
        (ResourceCreateBlob.load memory cmd.address).resourceId 64 64)
  | disable {r2d : Resource2d}
      (disables : DisablesScanout gpu cmd memory cmd.address)
      (found : virtioGpuFindResource2d gpu 0 = some r2d)
      (visible : (SetScanout.load memory cmd.address).r.Visible)
      (outside : ¬(SetScanout.load memory cmd.address).r.FitsIn r2d.width
        r2d.height)

theorem Fits.of_lists {before after : GpuState} (fits : Fits before)
    (r2dList : after.r2dList = before.r2dList)
    (scanouts : after.scanouts.map Scanout.anonymous =
      before.scanouts.map Scanout.anonymous) : Fits after := by
  refine ⟨?_, ?_, ?_⟩
  · rw [r2dList]
    exact fits.distinct
  · rw [r2dList]
    exact fits.bounded
  · intro scanout r2d shown listed
    have known : scanout.anonymous ∈
        before.scanouts.map Scanout.anonymous := by
      rw [← scanouts]
      exact List.mem_map_of_mem shown
    obtain ⟨original, member, same⟩ := List.mem_map.mp known
    rw [r2dList] at listed
    have id : original.anonymous.resourceId = scanout.anonymous.resourceId :=
      by rw [same]
    have rect : original.anonymous.scanoutRect =
        scanout.anonymous.scanoutRect := by rw [same]
    rw [show scanout.resourceId = original.resourceId from id.symm,
      show scanout.scanoutRect = original.scanoutRect from rect.symm]
    exact fits.fits original r2d member listed

theorem Fits.of_core {before after : GpuState} (fits : Fits before)
    (same : after.core = before.core) : Fits after := by
  refine fits.of_lists (r2dList_of_core same) ?_
  have scanouts : after.core.scanouts = before.core.scanouts := by rw [same]
  exact scanouts

theorem Fits.insert {gpu : GpuState} {r2d : Resource2d} (fits : Fits gpu)
    (absent : virtioGpuFindResource2d gpu r2d.resourceId = none)
    (bounded : BoundedSize r2d.width r2d.height)
    (covered : r2d.ShowsPixels →
      ¬Outgrown gpu r2d.resourceId r2d.width r2d.height) :
    Fits (insertResource gpu r2d) := by
  refine ⟨?_, ?_, ?_⟩
  · show ((r2d :: gpu.r2dList).map Resource2d.resourceId).Nodup
    rw [List.map_cons, List.nodup_cons]
    refine ⟨?_, fits.distinct⟩
    intro member
    obtain ⟨listed, known, same⟩ := List.mem_map.mp member
    have found := find_of_mem fits.distinct known
    rw [same, absent] at found
    cases found
  · intro listed member
    rcases List.mem_cons.mp member with rfl | earlier
    · exact bounded
    · exact fits.bounded listed earlier
  · intro scanout listed shown member same pixels visible
    rcases List.mem_cons.mp member with rfl | earlier
    · by_contra outside
      exact covered pixels ⟨scanout, shown, same.symm, visible, outside⟩
    · exact fits.fits scanout listed shown earlier same pixels visible

theorem Fits.sublist {gpu : GpuState} {r2dList : List Resource2d}
    (fits : Fits gpu) (part : r2dList.Sublist gpu.r2dList) :
    Fits { gpu with r2dList := r2dList } := by
  refine ⟨?_, ?_, ?_⟩
  · exact fits.distinct.sublist (part.map _)
  · intro r2d member
    exact fits.bounded r2d (part.subset member)
  · intro scanout r2d shown member
    exact fits.fits scanout r2d shown (part.subset member)

theorem map_modifyResource {f : Resource2d → β}
    {modify : Resource2d → Resource2d} (blind : ∀ r2d, f (modify r2d) = f r2d)
    (resourceId : Nat) (r2dList : List Resource2d) :
    (modifyResource resourceId modify r2dList).map f = r2dList.map f := by
  induction r2dList with
  | nil => rfl
  | cons head tail induction =>
      unfold modifyResource
      split
      · rw [List.map_cons, List.map_cons, blind]
      · rw [List.map_cons, List.map_cons, induction]

theorem Fits.back {gpu : GpuState} (fits : Fits gpu) (resourceId : Nat)
    (iov : IovArray) (iovcnt : Nat) :
    Fits (setBacking gpu resourceId iov iovcnt) := by
  have origin : ∀ r2d, r2d ∈ (setBacking gpu resourceId iov iovcnt).r2dList →
      ∃ original, original ∈ gpu.r2dList ∧
        r2d.resourceId = original.resourceId ∧ r2d.width = original.width ∧
        r2d.height = original.height ∧ r2d.blob = original.blob ∧
        r2d.image = original.image := by
    intro r2d member
    rcases mem_modifyResource member with listed | ⟨original, listed, rfl⟩
    · exact ⟨r2d, listed, rfl, rfl, rfl, rfl, rfl⟩
    · exact ⟨original, listed, rfl, rfl, rfl, rfl, rfl⟩
  refine ⟨?_, ?_, ?_⟩
  · have ids : (setBacking gpu resourceId iov iovcnt).r2dList.map
        Resource2d.resourceId = gpu.r2dList.map Resource2d.resourceId := by
      apply map_modifyResource
      intro _
      rfl
    rw [ids]
    exact fits.distinct
  · intro r2d member
    obtain ⟨original, listed, _, width, height, _, _⟩ := origin r2d member
    rw [width, height]
    exact fits.bounded original listed
  · intro scanout r2d shown member same pixels visible
    obtain ⟨original, listed, id, width, height, blob, image⟩ :=
      origin r2d member
    unfold Resource2d.ShowsPixels at pixels
    rw [id] at same
    rw [blob, image] at pixels
    rw [width, height]
    exact fits.fits scanout original shown listed same pixels visible

/-- The rectangle a scanout is given fits the resource it is given. -/
theorem Shows.fits {env : Env} {gpu : GpuState} {cmd : Command}
    {memory : Memory} {resourceId : Nat} {r2d : Resource2d}
    (fits : Fits gpu) (placed : ¬Misplaces env gpu cmd memory)
    (reason : Shows gpu cmd memory cmd.address resourceId)
    (member : r2d ∈ gpu.r2dList) (same : r2d.resourceId = resourceId)
    (pixels : r2d.ShowsPixels)
    (visible : (SetScanout.load memory cmd.address).r.Visible) :
    (SetScanout.load memory cmd.address).r.FitsIn r2d.width r2d.height := by
  have found := find_of_mem fits.distinct member
  rw [same] at found
  cases reason with
  | disabled disables =>
      by_contra outside
      exact placed (.disable disables found visible outside)
  | pixels other inside =>
      rw [found] at other
      cases other
      exact fitsIn_of_rectInside (fits.bounded r2d member) visible inside
  | blob other blob =>
      rw [found] at other
      cases other
      rw [pixels.1] at blob
      cases blob

theorem Fits.update_scanout {env : Env} {gpu start after : GpuState}
    {cmd : Command} {memory : Memory} {resourceId : Nat} (fits : Fits gpu)
    (placed : ¬Misplaces env gpu cmd memory)
    (reason : Shows gpu cmd memory cmd.address resourceId)
    (starts : start.core = gpu.core)
    (updated : virtioGpuUpdateScanout start
      (SetScanout.load memory cmd.address).scanoutId resourceId
      (SetScanout.load memory cmd.address).r = .ok after) : Fits after := by
  have begun := fits.of_core starts
  have listed := virtioGpuUpdateScanout_r2dList updated
  refine ⟨?_, ?_, ?_⟩
  · rw [listed]
    exact begun.distinct
  · rw [listed]
    exact begun.bounded
  · rw [listed]
    intro scanout r2d shown member same pixels visible
    obtain ⟨next, images, dmabufs, released, _, _, rfl⟩ :=
      virtioGpuUpdateScanout_eq_ok updated
    obtain ⟨_, _, _, _, rfl⟩ := released.split
    rcases List.mem_or_eq_of_mem_set shown with earlier | rfl
    · exact begun.fits scanout r2d earlier member same pixels visible
    · rw [r2dList_of_core starts] at member
      exact reason.fits fits placed member same pixels visible

theorem Fits.change {env : Env} {cmd : Command} {memory : Memory}
    {before after : GpuState} (fits : Fits before)
    (placed : ¬Misplaces env before cmd memory)
    (changed : Change env cmd memory cmd.address before after) :
    Fits after := by
  cases changed with
  | kept same => exact fits.of_core same
  | created2d code absent allocated made result =>
      subst result
      refine Fits.insert (fits.of_lists rfl rfl) absent
        (pixmanImageCreateBits_bounded made) ?_
      intro _ outgrown
      exact placed (.create2d code absent allocated made outgrown)
  | createdBare code accepted empty result =>
      subst result
      refine fits.insert accepted.absent (.inl rfl) ?_
      intro pixels
      exact absurd rfl pixels.2
  | createdBlob code accepted valid result =>
      subst result
      refine Fits.insert (fits.of_lists rfl rfl) accepted.absent (.inl rfl) ?_
      intro pixels
      cases pixels.1
  | createdCursor code accepted backed entries gathered small iovAlloc made
      result =>
      subst result
      have bounded : BoundedSize 64 64 := .inr (.inr (by decide))
      rcases createImage_eq_ok made with ⟨_, rfl, rfl⟩ |
        ⟨bits, created, rfl, rfl⟩
      · refine fits.insert accepted.absent bounded ?_
        intro pixels
        exact absurd rfl pixels.2
      · refine Fits.insert (fits.of_lists rfl rfl) accepted.absent bounded ?_
        intro _ outgrown
        exact placed (.createCursor code accepted backed entries small
          iovAlloc (imageAlloc_of_cursorImage created) outgrown)
  | leaked iovAlloc made =>
      rcases createImage_eq_ok made with ⟨_, rfl, _⟩ | ⟨bits, _, rfl, _⟩
      · exact fits
      · exact fits.of_lists rfl rfl
  | removed found released result =>
      subst result
      obtain ⟨_, _, _, _, rfl⟩ := (releaseResource_released released).split
      refine Fits.of_lists (fits.sublist ?_) rfl rfl
      exact List.eraseP_sublist
  | backed reason result =>
      subst result
      exact fits.back _ _ _
  | painted result =>
      subst result
      exact fits.of_lists rfl rfl
  | shown reason starts inside updated result =>
      exact (fits.update_scanout placed reason starts updated).of_core result

/-! Flushed surfaces. -/

/-- Every surface a flush of an image resource hands to the display describes
pixels of that resource's image. -/
def FlushesInside (gpu : GpuState) : Prop :=
  ∀ cmd memory reply r2d scanoutId format rect stride cell pixel,
    virtioGpuCmdResourceFlush gpu cmd memory = .ok reply →
    virtioGpuFindResource2d gpu
      (ResourceFlush.load memory cmd.address).resourceId = some r2d →
    r2d.blob = false →
    DisplayCall.surfaceUpdate scanoutId
      (.pixman format rect stride cell pixel) ∈ reply.display →
    rect = (scanoutAt gpu scanoutId).scanoutRect ∧
      rect.x + rect.width ≤ r2d.width ∧ rect.y + rect.height ≤ r2d.height

theorem mem_scanoutsToFlush {gpu : GpuState} {resourceId : Nat}
    {flushRect : Rect} {entry : Nat × Scanout}
    (member : entry ∈ scanoutsToFlush gpu resourceId flushRect) :
    entry.2 = scanoutAt gpu entry.1 ∧ entry.2 ∈ gpu.scanouts ∧
      entry.2.resourceId = resourceId ∧ entry.2.scanoutRect.Visible := by
  obtain ⟨mapped, flushed⟩ := List.mem_filter.mp member
  obtain ⟨index, inside, rfl⟩ := List.mem_map.mp mapped
  rw [List.mem_range] at inside
  refine ⟨rfl, ?_, ?_⟩
  · show gpu.scanouts.getD index Scanout.zero ∈ gpu.scanouts
    rw [List.getD_eq_getElem?_getD, List.getElem?_eq_getElem inside,
      Option.getD_some]
    exact List.getElem_mem inside
  · unfold virtioGpuScanoutNeedsFlush at flushed
    split at flushed
    · cases flushed
    · rename_i same
      refine ⟨(not_not.mp same).symm, ?_⟩
      intro empty
      rw [empty] at flushed
      cases flushed

theorem Fits.flushesInside {gpu : GpuState} (fits : Fits gpu) :
    FlushesInside gpu := by
  intro cmd memory reply r2d scanoutId format rect stride cell pixel ran found
    plain shown
  obtain ⟨address, based, rest⟩ := bind_eq_ok ran
  cases address_of_base based
  dsimp only at rest
  rw [found] at rest
  dsimp only at rest
  rw [if_neg (by rw [plain]; decide)] at rest
  obtain ⟨taken, ref, rest⟩ := bind_eq_ok rest
  obtain ⟨image, _, rest⟩ := bind_eq_ok rest
  obtain ⟨dropped, _, rest⟩ := bind_eq_ok rest
  cases rest
  obtain ⟨entry, flushed, equal⟩ := List.mem_map.mp shown
  cases equal
  obtain ⟨stored, member, same, visible⟩ := mem_scanoutsToFlush flushed
  obtain ⟨held, _, holds, _, _⟩ := pixmanImageRef_eq_ok ref
  have pixels : r2d.ShowsPixels := ⟨plain, by rw [holds]; nofun⟩
  have id : r2d.resourceId =
      (ResourceFlush.load memory cmd.address).resourceId := by
    simpa using List.find?_some found
  refine ⟨congrArg Scanout.scanoutRect stored, ?_⟩
  exact fits.fits entry.2 r2d member (List.mem_of_find?_eq_some found)
    (id.trans same.symm) pixels visible

end VirtioGpu.Gpu
