import VirtioGpu.Gpu.Change

namespace VirtioGpu.Gpu

open Foundation
open Virtio

/-! Who holds the images and the dmabufs: the resources of the table and the
scanouts. -/

/-- The dmabuf a resource owns. -/
def Resource2d.owned (r2d : Resource2d) : Option Nat :=
  if r2d.blob then r2d.dmaInfo else none

/-- The state after one reference to an image and one to a dmabuf, each of
which may be absent, have been dropped. -/
structure Released (gpu : GpuState) (image dmabuf : Option Nat)
    (after : GpuState) : Prop where
  split : ∃ images dmabufs, gpu.images.unrefOption image = some images ∧
    gpu.dmabufs.unrefOption dmabuf = some dmabufs ∧
    after =
      { gpu with
        images := images
        dmabufs := dmabufs
        openFds := filesAfterUnref gpu dmabuf }

/-- The three releases of a resource, one after the other. -/
theorem releaseResource_eq (gpu : GpuState) (r2d : Resource2d) :
    releaseResource gpu r2d =
      ((match r2d.image with
        | none => pure gpu
        | some cell => pixmanImageUnref gpu (some cell)) >>= fun gpu =>
      (if r2d.blob then virtioGpuDmabufUnref gpu r2d.dmaInfo
        else pure gpu) >>= fun gpu =>
      r2d.iov.free >>= fun _ => pure gpu) := by
  unfold releaseResource
  cases r2d.image with
  | none =>
      cases r2d.blob with
      | false => rfl
      | true => rfl
  | some cell =>
      cases r2d.blob with
      | false => rfl
      | true => rfl

theorem releaseResource_released {gpu after : GpuState} {r2d : Resource2d}
    (released : releaseResource gpu r2d = .ok after) :
    Released gpu r2d.image r2d.owned after := by
  rw [releaseResource_eq] at released
  obtain ⟨next, first, rest⟩ := bind_eq_ok released
  obtain ⟨last, second, rest⟩ := bind_eq_ok rest
  obtain ⟨_, _, rest⟩ := bind_eq_ok rest
  cases rest
  have images : ∃ images, gpu.images.unrefOption r2d.image = some images ∧
      next = { gpu with images := images } := by
    cases held : r2d.image with
    | none =>
        rw [held] at first
        cases first
        exact ⟨gpu.images, rfl, rfl⟩
    | some cell =>
        rw [held] at first
        obtain ⟨other, images, same, dropped, rfl⟩ :=
          pixmanImageUnref_eq_ok first
        cases same
        exact ⟨images, dropped, rfl⟩
  obtain ⟨images, dropped, rfl⟩ := images
  unfold Resource2d.owned
  cases blob : r2d.blob with
  | true =>
      rw [if_pos blob] at second
      obtain ⟨dmabufs, lowered, rfl⟩ := virtioGpuDmabufUnref_eq_ok second
      exact ⟨images, dmabufs, dropped, lowered, rfl⟩
  | false =>
      rw [if_neg (by simp [blob])] at second
      cases second
      exact ⟨images, gpu.dmabufs, dropped, rfl, rfl⟩

theorem releaseScanout_released {gpu after : GpuState} {scanout : Scanout}
    (released : releaseScanout gpu scanout = .ok after) :
    Released gpu scanout.curImg scanout.dmaBuf after := by
  obtain ⟨next, first, second⟩ := bind_eq_ok released
  obtain ⟨dmabufs, lowered, rfl⟩ := virtioGpuDmabufUnref_eq_ok first
  cases held : scanout.curImg with
  | none =>
      rw [held] at second
      cases second
      exact ⟨gpu.images, dmabufs, rfl, lowered, rfl⟩
  | some cell =>
      rw [held] at second
      obtain ⟨other, images, same, dropped, rfl⟩ :=
        pixmanImageUnref_eq_ok second
      cases same
      exact ⟨images, dmabufs, dropped, lowered, rfl⟩

/-- What `virtio_gpu_update_scanout` makes of a scanout and of the resource
the search found. -/
def shownScanout (scanout : Scanout) (resourceId : Nat) (scanRect : Rect)
    (found : Option Resource2d) : Scanout where
  scanoutId := scanout.scanoutId
  resourceId := resourceId
  scanoutRect := scanRect
  curImg := found.bind fun r2d => if r2d.blob then none else r2d.image
  dmaBuf := found.bind Resource2d.owned
  isActive := found.isSome

theorem virtioGpuUpdateScanout_eq_ok {gpu after : GpuState}
    {scanoutId resourceId : Nat} {scanRect : Rect}
    (updated : virtioGpuUpdateScanout gpu scanoutId resourceId scanRect =
      .ok after) :
    ∃ next images dmabufs,
      Released gpu (scanoutAt gpu scanoutId).curImg
        (scanoutAt gpu scanoutId).dmaBuf next ∧
      next.images.refOption
        (shownScanout (scanoutAt gpu scanoutId) resourceId scanRect
          (virtioGpuFindResource2d gpu resourceId)).curImg = some images ∧
      next.dmabufs.refOption
        (shownScanout (scanoutAt gpu scanoutId) resourceId scanRect
          (virtioGpuFindResource2d gpu resourceId)).dmaBuf = some dmabufs ∧
      after = setScanoutAt { next with images := images, dmabufs := dmabufs }
        scanoutId
        (shownScanout (scanoutAt gpu scanoutId) resourceId scanRect
          (virtioGpuFindResource2d gpu resourceId)) := by
  obtain ⟨next, first, rest⟩ := bind_eq_ok updated
  have released := releaseScanout_released first
  have same : virtioGpuFindResource2d next resourceId =
      virtioGpuFindResource2d gpu resourceId := by
    obtain ⟨_, _, _, _, rfl⟩ := released.split
    rfl
  dsimp only at rest
  rw [same] at rest
  cases found : virtioGpuFindResource2d gpu resourceId with
  | none =>
      rw [found] at rest
      cases rest
      exact ⟨next, next.images, next.dmabufs, released, rfl, rfl, rfl⟩
  | some r2d =>
      rw [found] at rest
      dsimp only at rest
      cases blob : r2d.blob with
      | true =>
          rw [if_pos blob] at rest
          obtain ⟨taken, ref, rest⟩ := bind_eq_ok rest
          obtain ⟨dmabufs, raised, rfl⟩ := virtioGpuDmabufRef_eq_ok ref
          cases rest
          refine ⟨next, next.images, dmabufs, released, ?_, ?_, ?_⟩
          · simp [shownScanout, blob, RefHeap.refOption]
          · simpa [shownScanout, Resource2d.owned, blob] using raised
          · simp [shownScanout, Resource2d.owned, blob, setScanoutAt]
      | false =>
          rw [if_neg (by simp [blob])] at rest
          obtain ⟨taken, ref, rest⟩ := bind_eq_ok rest
          obtain ⟨cell, images, held, raised, rfl⟩ := pixmanImageRef_eq_ok ref
          cases rest
          refine ⟨next, images, next.dmabufs, released, ?_, ?_, ?_⟩
          · simpa [shownScanout, blob, held, RefHeap.refOption] using raised
          · simp [shownScanout, Resource2d.owned, blob, RefHeap.refOption]
          · simp [shownScanout, Resource2d.owned, blob, setScanoutAt]

/-! Open descriptors and live dmabufs. -/

/-- The open descriptors are those of the live dmabufs, one each. -/
structure FilesMatch (dmabufs : RefHeap Int) (openFds : Int → Bool) :
    Prop where
  isOpen : ∀ fd, openFds fd = true ↔
    ∃ cell counted, dmabufs cell = some counted ∧ counted.value = fd
  positive : ∀ cell counted, dmabufs cell = some counted → 0 < counted.value
  distinct : ∀ cell other counted second, dmabufs cell = some counted →
    dmabufs other = some second → counted.value = second.value → cell = other

/-- The same cells hold the same descriptors. -/
theorem FilesMatch.of_values {dmabufs next : RefHeap Int}
    {openFds : Int → Bool} (files : FilesMatch dmabufs openFds)
    (same : ∀ cell,
      (next cell).map Counted.value = (dmabufs cell).map Counted.value) :
    FilesMatch next openFds := by
  have back : ∀ cell counted, next cell = some counted →
      ∃ earlier, dmabufs cell = some earlier ∧
        earlier.value = counted.value := by
    intro cell counted live
    have value := same cell
    rw [live] at value
    obtain ⟨earlier, found, equal⟩ := Option.map_eq_some_iff.mp value.symm
    exact ⟨earlier, found, equal⟩
  have forth : ∀ cell counted, dmabufs cell = some counted →
      ∃ later, next cell = some later ∧ later.value = counted.value := by
    intro cell counted live
    have value := same cell
    rw [live] at value
    obtain ⟨later, found, equal⟩ := Option.map_eq_some_iff.mp value
    exact ⟨later, found, equal⟩
  constructor
  · intro fd
    rw [files.isOpen fd]
    constructor
    · rintro ⟨cell, counted, live, rfl⟩
      obtain ⟨later, found, equal⟩ := forth cell counted live
      exact ⟨cell, later, found, equal⟩
    · rintro ⟨cell, counted, live, rfl⟩
      obtain ⟨earlier, found, equal⟩ := back cell counted live
      exact ⟨cell, earlier, found, equal⟩
  · intro cell counted live
    obtain ⟨earlier, found, equal⟩ := back cell counted live
    rw [← equal]
    exact files.positive cell earlier found
  · intro cell other counted second live alive equal
    obtain ⟨earlier, found, value⟩ := back cell counted live
    obtain ⟨former, known, fd⟩ := back other second alive
    exact files.distinct cell other earlier former found known
      (by rw [value, fd, equal])

theorem FilesMatch.alloc {dmabufs : RefHeap Int} {openFds : Int → Bool}
    {cell : Nat} {fd : Int} (files : FilesMatch dmabufs openFds)
    (free : dmabufs cell = none) (closed : openFds fd = false)
    (valid : 0 < fd) :
    FilesMatch (dmabufs.alloc cell fd) (Function.update openFds fd true) := by
  have unused : ∀ other counted, dmabufs other = some counted →
      counted.value ≠ fd := by
    intro other counted live equal
    have opened := (files.isOpen fd).mpr ⟨other, counted, live, equal⟩
    rw [closed] at opened
    cases opened
  have lookup : ∀ other counted,
      dmabufs.alloc cell fd other = some counted →
        other = cell ∧ counted.value = fd ∨
          other ≠ cell ∧ dmabufs other = some counted := by
    intro other counted live
    rcases eq_or_ne other cell with rfl | different
    · rw [RefHeap.alloc, Function.update_self] at live
      cases live
      exact .inl ⟨rfl, rfl⟩
    · rw [RefHeap.alloc, Function.update_of_ne different] at live
      exact .inr ⟨different, live⟩
  constructor
  · intro other
    rcases eq_or_ne other fd with rfl | different
    · rw [Function.update_self]
      exact ⟨fun _ => ⟨cell, ⟨0, other⟩, Function.update_self .., rfl⟩,
        fun _ => rfl⟩
    · rw [Function.update_of_ne different, files.isOpen other]
      constructor
      · rintro ⟨held, counted, live, rfl⟩
        have elsewhere : held ≠ cell := by
          rintro rfl
          rw [free] at live
          cases live
        refine ⟨held, counted, ?_, rfl⟩
        rw [RefHeap.alloc, Function.update_of_ne elsewhere]
        exact live
      · rintro ⟨held, counted, live, rfl⟩
        rcases lookup held counted live with ⟨_, equal⟩ | ⟨_, earlier⟩
        · exact absurd equal different
        · exact ⟨held, counted, earlier, rfl⟩
  · intro held counted live
    rcases lookup held counted live with ⟨_, equal⟩ | ⟨_, earlier⟩
    · rw [equal]
      exact valid
    · exact files.positive held counted earlier
  · intro held other counted second live alive equal
    rcases lookup held counted live with ⟨rfl, first⟩ | ⟨_, earlier⟩
    · rcases lookup other second alive with ⟨rfl, _⟩ | ⟨_, former⟩
      · rfl
      · exact absurd (equal.symm.trans first) (unused other second former)
    · rcases lookup other second alive with ⟨rfl, value⟩ | ⟨_, former⟩
      · exact absurd (equal.trans value) (unused held counted earlier)
      · exact files.distinct held other counted second earlier former equal

theorem FilesMatch.unref {gpu : GpuState} {dmabuf : Option Nat}
    {dmabufs : RefHeap Int} (files : FilesMatch gpu.dmabufs gpu.openFds)
    (dropped : gpu.dmabufs.unrefOption dmabuf = some dmabufs) :
    FilesMatch dmabufs (filesAfterUnref gpu dmabuf) := by
  cases dmabuf with
  | none =>
      cases dropped
      exact files
  | some cell =>
      obtain ⟨counted, live, rfl⟩ := Option.map_eq_some_iff.mp dropped
      have elsewhere : ∀ other, other ≠ cell →
          Function.update gpu.dmabufs cell counted.drop other =
            gpu.dmabufs other :=
        fun other different => Function.update_of_ne different _ _
      rcases counted with ⟨others, fd⟩
      cases others with
      | succ others =>
          have same : filesAfterUnref gpu (some cell) = gpu.openFds := by
            simp [filesAfterUnref, live, Counted.refs]
          rw [same]
          refine files.of_values ?_
          intro other
          rcases eq_or_ne other cell with rfl | different
          · rw [Function.update_self, live]
            rfl
          · rw [elsewhere other different]
      | zero =>
          have valid : 0 < fd := files.positive cell _ live
          have closing : filesAfterUnref gpu (some cell) =
              Function.update gpu.openFds fd false := by
            simp [filesAfterUnref, live, Counted.refs, closeFd, valid]
          have remaining : ∀ other counted,
              Function.update gpu.dmabufs cell
                (Counted.drop ⟨0, fd⟩) other = some counted →
              other ≠ cell ∧ gpu.dmabufs other = some counted := by
            intro other counted alive
            rcases eq_or_ne other cell with rfl | different
            · rw [Function.update_self] at alive
              cases alive
            · rw [elsewhere other different] at alive
              exact ⟨different, alive⟩
          rw [closing]
          constructor
          · intro other
            rcases eq_or_ne other fd with rfl | different
            · rw [Function.update_self]
              constructor
              · intro opened
                cases opened
              · rintro ⟨held, counted, alive, equal⟩
                obtain ⟨distinct, earlier⟩ := remaining held counted alive
                exact absurd (files.distinct held cell counted _ earlier live
                  equal) distinct
            · rw [Function.update_of_ne different, files.isOpen other]
              constructor
              · rintro ⟨held, counted, alive, rfl⟩
                refine ⟨held, counted, ?_, rfl⟩
                have distinct : held ≠ cell := by
                  rintro rfl
                  rw [live] at alive
                  cases alive
                  exact different rfl
                rw [elsewhere held distinct]
                exact alive
              · rintro ⟨held, counted, alive, rfl⟩
                exact ⟨held, counted, (remaining held counted alive).2, rfl⟩
          · intro held counted alive
            exact files.positive held counted (remaining held counted alive).2
          · intro held other counted second alive known equal
            exact files.distinct held other counted second
              (remaining held counted alive).2
              (remaining other second known).2 equal

theorem FilesMatch.ref {dmabufs next : RefHeap Int} {openFds : Int → Bool}
    {dmabuf : Option Nat} (files : FilesMatch dmabufs openFds)
    (taken : dmabufs.refOption dmabuf = some next) :
    FilesMatch next openFds := by
  cases dmabuf with
  | none =>
      cases taken
      exact files
  | some cell =>
      obtain ⟨counted, live, rfl⟩ := Option.map_eq_some_iff.mp taken
      refine files.of_values ?_
      intro other
      rcases eq_or_ne other cell with rfl | different
      · rw [Function.update_self, live]
        rfl
      · rw [Function.update_of_ne different]

/-! What commands and resets never change. -/

structure SameSetup (before after : GpuState) : Prop where
  vmctx : after.vmctx = before.vmctx
  isBlobSupported : after.isBlobSupported = before.isBlobSupported
  scanoutNum : after.scanouts.length = before.scanouts.length

theorem SameSetup.refl (gpu : GpuState) : SameSetup gpu gpu := ⟨rfl, rfl, rfl⟩

theorem SameSetup.trans {before between after : GpuState}
    (first : SameSetup before between) (second : SameSetup between after) :
    SameSetup before after :=
  ⟨second.vmctx.trans first.vmctx,
    second.isBlobSupported.trans first.isBlobSupported,
    second.scanoutNum.trans first.scanoutNum⟩

theorem sameSetup_of_core {before after : GpuState}
    (same : after.core = before.core) : SameSetup before after := by
  have vmctx : after.core.vmctx = before.core.vmctx := by rw [same]
  have blob : after.core.isBlobSupported = before.core.isBlobSupported := by
    rw [same]
  exact ⟨vmctx, blob, length_scanouts_of_core before same⟩

theorem Released.sameSetup {gpu after : GpuState} {image dmabuf : Option Nat}
    (released : Released gpu image dmabuf after) : SameSetup gpu after := by
  obtain ⟨_, _, _, _, rfl⟩ := released.split
  exact ⟨rfl, rfl, rfl⟩

theorem virtioGpuUpdateScanout_sameSetup {gpu after : GpuState}
    {scanoutId resourceId : Nat} {scanRect : Rect}
    (updated : virtioGpuUpdateScanout gpu scanoutId resourceId scanRect =
      .ok after) : SameSetup gpu after := by
  obtain ⟨next, _, _, released, _, _, rfl⟩ :=
    virtioGpuUpdateScanout_eq_ok updated
  have same := released.sameSetup
  refine ⟨same.vmctx, same.isBlobSupported, ?_⟩
  rw [setScanoutAt, List.length_set]
  exact same.scanoutNum

theorem createImage_sameSetup {env : Env} {gpu after : GpuState}
    {format width height : Nat} {image : Option Nat}
    (made : createImage env gpu format width height = .ok (after, image)) :
    SameSetup gpu after := by
  rcases createImage_eq_ok made with ⟨_, rfl, _⟩ | ⟨bits, _, rfl, _⟩
  · exact .refl _
  · exact ⟨rfl, rfl, rfl⟩

theorem Change.sameSetup {env : Env} {cmd : Command} {memory : Memory}
    {address : Nat} {before after : GpuState}
    (changed : Change env cmd memory address before after) :
    SameSetup before after := by
  cases changed with
  | kept same => exact sameSetup_of_core same
  | created2d _ _ _ _ result | createdBare _ _ _ result
  | createdBlob _ _ _ result | backed _ result | painted result =>
      subst result
      exact ⟨rfl, rfl, rfl⟩
  | createdCursor _ _ _ _ _ _ _ made result =>
      subst result
      have kept := createImage_sameSetup made
      exact ⟨kept.vmctx, kept.isBlobSupported, kept.scanoutNum⟩
  | leaked _ made => exact createImage_sameSetup made
  | removed _ released result =>
      subst result
      have kept := (releaseResource_released released).sameSetup
      exact ⟨kept.vmctx, kept.isBlobSupported, kept.scanoutNum⟩
  | shown _ starts _ updated result =>
      have begun := sameSetup_of_core starts
      have shown := virtioGpuUpdateScanout_sameSetup updated
      exact (begun.trans shown).trans (sameSetup_of_core result)

theorem releaseResources_sameSetup {gpu after : GpuState}
    {r2dList : List Resource2d}
    (released : releaseResources gpu r2dList = .ok after) :
    SameSetup gpu after := by
  induction r2dList generalizing gpu with
  | nil =>
      cases released
      exact ⟨rfl, rfl, rfl⟩
  | cons head tail induction =>
      obtain ⟨next, first, rest⟩ := bind_eq_ok released
      have kept := (releaseResource_released first).sameSetup
      have later := induction rest
      exact kept.trans ⟨later.vmctx, later.isBlobSupported, later.scanoutNum⟩

theorem resetGpu_sameSetup {before after : GpuState}
    (cleared : resetGpu before = .ok after) : SameSetup before after := by
  obtain ⟨next, released, rest⟩ := bind_eq_ok cleared
  cases rest
  have kept := releaseResources_sameSetup released
  exact ⟨kept.vmctx, kept.isBlobSupported, kept.scanoutNum⟩

end VirtioGpu.Gpu
