import VirtioGpu.Gpu.Holders

namespace VirtioGpu.Gpu

open Foundation
open Virtio

/-! Reference counts across commands and resets. -/

/-! Lists of optional holdings. -/

theorem filterMap_cons_toList (f : α → Option β) (head : α) (tail : List α) :
    (head :: tail).filterMap f = (f head).toList ++ tail.filterMap f := by
  rw [List.filterMap_cons]
  cases f head with
  | none => rfl
  | some value => rfl

theorem filterMap_perm_eraseP {p : α → Bool} {list : List α} {found : α}
    (f : α → Option β) (search : list.find? p = some found) :
    (list.filterMap f).Perm
      ((f found).toList ++ (list.eraseP p).filterMap f) := by
  induction list with
  | nil => cases search
  | cons head tail induction =>
      rw [List.find?_cons] at search
      cases matched : p head with
      | true =>
          rw [matched] at search
          cases search
          rw [List.eraseP_cons_of_pos matched, filterMap_cons_toList]
      | false =>
          rw [matched] at search
          rw [List.eraseP_cons_of_neg (by simp [matched]),
            filterMap_cons_toList, filterMap_cons_toList]
          refine ((induction search).append_left _).trans ?_
          rw [← List.append_assoc, ← List.append_assoc]
          exact (List.perm_append_comm.append_right _)

theorem filterMap_set_perm {list : List α} {index : Nat} (f : α → Option β)
    (inside : index < list.length) (value : α) :
    ((list.set index value).filterMap f).Perm
      ((f value).toList ++ (list.eraseIdx index).filterMap f) := by
  rw [← filterMap_cons_toList]
  exact (List.set_perm_cons_eraseIdx inside value).filterMap f

theorem filterMap_perm_eraseIdx {list : List α} {index : Nat} (default : α)
    (f : α → Option β) (inside : index < list.length) :
    (list.filterMap f).Perm
      ((f (list.getD index default)).toList ++
        (list.eraseIdx index).filterMap f) := by
  rw [List.getD_eq_getElem?_getD, List.getElem?_eq_getElem inside,
    Option.getD_some, ← filterMap_cons_toList]
  exact (List.getElem_cons_eraseIdx_perm inside).symm.filterMap f

/-! States whose objects have exactly the named holders. -/

structure HeldBy (gpu : GpuState) (images dmabufs : List Nat) : Prop where
  images : RefHeap.Balanced gpu.images images
  dmabufs : RefHeap.Balanced gpu.dmabufs dmabufs
  files : FilesMatch gpu.dmabufs gpu.openFds

theorem HeldBy.of_perm {gpu : GpuState} {images dmabufs others more : List Nat}
    (held : HeldBy gpu images dmabufs) (imagesPerm : images.Perm others)
    (dmabufsPerm : dmabufs.Perm more) : HeldBy gpu others more :=
  ⟨held.images.of_perm imagesPerm, held.dmabufs.of_perm dmabufsPerm,
    held.files⟩

theorem HeldBy.release {gpu after : GpuState} {images dmabufs : List Nat}
    {image dmabuf : Option Nat} (released : Released gpu image dmabuf after)
    (held : HeldBy gpu (image.toList ++ images) (dmabuf.toList ++ dmabufs)) :
    HeldBy after images dmabufs := by
  obtain ⟨nextImages, nextDmabufs, dropped, lowered, rfl⟩ := released.split
  exact ⟨held.images.unrefOption dropped, held.dmabufs.unrefOption lowered,
    held.files.unref lowered⟩

/-! The holders of a device. -/

def GpuState.imageHolders (gpu : GpuState) : List Nat :=
  gpu.r2dList.filterMap Resource2d.image ++
    gpu.scanouts.filterMap Scanout.curImg

def GpuState.dmabufHolders (gpu : GpuState) : List Nat :=
  gpu.r2dList.filterMap Resource2d.owned ++
    gpu.scanouts.filterMap Scanout.dmaBuf

structure Counts (gpu : GpuState) : Prop where
  held : HeldBy gpu gpu.imageHolders gpu.dmabufHolders
  inactive : ∀ scanout, scanout ∈ gpu.scanouts → scanout.isActive = false →
    scanout.curImg = none ∧ scanout.dmaBuf = none

/-- The counts with images in `leaks` that no pointer leads to any more. -/
structure CountsBeside (leaks : List Nat) (gpu : GpuState) : Prop where
  held : HeldBy gpu (gpu.imageHolders ++ leaks) gpu.dmabufHolders
  inactive : ∀ scanout, scanout ∈ gpu.scanouts → scanout.isActive = false →
    scanout.curImg = none ∧ scanout.dmaBuf = none

theorem countsBeside_nil {gpu : GpuState} :
    CountsBeside [] gpu ↔ Counts gpu := by
  constructor
  · intro counts
    have held := counts.held
    rw [List.append_nil] at held
    exact ⟨held, counts.inactive⟩
  · intro counts
    refine ⟨?_, counts.inactive⟩
    rw [List.append_nil]
    exact counts.held

theorem filterMap_anonymous {f : Scanout → Option β}
    (blind : ∀ scanout, f (Scanout.anonymous scanout) = f scanout)
    (scanouts : List Scanout) :
    (scanouts.map Scanout.anonymous).filterMap f = scanouts.filterMap f := by
  rw [List.filterMap_map]
  apply congrArg (fun f => scanouts.filterMap f)
  funext scanout
  exact blind scanout

theorem countsBeside_core (leaks : List Nat) (gpu : GpuState) :
    CountsBeside leaks gpu.core ↔ CountsBeside leaks gpu := by
  have images : gpu.core.imageHolders = gpu.imageHolders := by
    unfold GpuState.imageHolders
    rw [show gpu.core.scanouts = gpu.scanouts.map Scanout.anonymous from rfl,
      filterMap_anonymous fun _ => rfl]
    rfl
  have dmabufs : gpu.core.dmabufHolders = gpu.dmabufHolders := by
    unfold GpuState.dmabufHolders
    rw [show gpu.core.scanouts = gpu.scanouts.map Scanout.anonymous from rfl,
      filterMap_anonymous fun _ => rfl]
    rfl
  constructor
  · intro counts
    refine ⟨?_, ?_⟩
    · rw [← images, ← dmabufs]
      exact ⟨counts.held.images, counts.held.dmabufs, counts.held.files⟩
    · intro scanout member inactive
      exact counts.inactive scanout.anonymous (List.mem_map_of_mem member)
        inactive
  · intro counts
    refine ⟨?_, ?_⟩
    · rw [images, dmabufs]
      exact ⟨counts.held.images, counts.held.dmabufs, counts.held.files⟩
    · intro scanout member inactive
      obtain ⟨original, known, rfl⟩ := List.mem_map.mp member
      exact counts.inactive original known inactive

namespace CountsBeside

variable {leaks : List Nat} {gpu : GpuState}

theorem of_core {before after : GpuState}
    (same : after.core = before.core) (counts : CountsBeside leaks before) :
    CountsBeside leaks after := by
  rw [← countsBeside_core, same, countsBeside_core]
  exact counts

/-! One change at a time. -/

theorem insert {r2d : Resource2d}
    (held : HeldBy gpu (r2d.image.toList ++ (gpu.imageHolders ++ leaks))
      (r2d.owned.toList ++ gpu.dmabufHolders))
    (inactive : ∀ scanout, scanout ∈ gpu.scanouts →
      scanout.isActive = false →
        scanout.curImg = none ∧ scanout.dmaBuf = none) :
    CountsBeside leaks (insertResource gpu r2d) := by
  have images : (insertResource gpu r2d).imageHolders ++ leaks =
      r2d.image.toList ++ (gpu.imageHolders ++ leaks) := by
    unfold GpuState.imageHolders
    rw [← List.append_assoc, ← List.append_assoc, ← filterMap_cons_toList]
    rfl
  have dmabufs : (insertResource gpu r2d).dmabufHolders =
      r2d.owned.toList ++ gpu.dmabufHolders := by
    unfold GpuState.dmabufHolders
    rw [← List.append_assoc, ← filterMap_cons_toList]
    rfl
  refine ⟨?_, inactive⟩
  rw [images, dmabufs]
  exact ⟨held.images, held.dmabufs, held.files⟩

theorem insert_image {cell : Nat}
    (counts : CountsBeside leaks gpu) (free : gpu.images cell = none)
    (image : Image) {r2d : Resource2d} (names : r2d.image = some cell)
    (plain : r2d.owned = none) :
    CountsBeside leaks (insertResource
      { gpu with images := gpu.images.alloc cell image } r2d) := by
  refine insert ?_ counts.inactive
  rw [names, plain]
  exact ⟨counts.held.images.alloc free image, counts.held.dmabufs,
    counts.held.files⟩

theorem insert_dmabuf {cell : Nat} {fd : Int}
    (counts : CountsBeside leaks gpu) (free : gpu.dmabufs cell = none)
    (closed : gpu.openFds fd = false) (valid : 0 < fd) {r2d : Resource2d}
    (plain : r2d.image = none) (names : r2d.owned = some cell) :
    CountsBeside leaks (insertResource
      { gpu with
        dmabufs := gpu.dmabufs.alloc cell fd
        openFds := Function.update gpu.openFds fd true } r2d) := by
  refine insert ?_ counts.inactive
  rw [plain, names]
  exact ⟨counts.held.images, counts.held.dmabufs.alloc free fd,
    counts.held.files.alloc free closed valid⟩

theorem insert_bare (counts : CountsBeside leaks gpu)
    {r2d : Resource2d} (image : r2d.image = none) (dmabuf : r2d.owned = none) :
    CountsBeside leaks (insertResource gpu r2d) := by
  refine insert ?_ counts.inactive
  rw [image, dmabuf]
  exact counts.held

theorem remove {next : GpuState} {resourceId : Nat}
    {r2d : Resource2d} (counts : CountsBeside leaks gpu)
    (found : virtioGpuFindResource2d gpu resourceId = some r2d)
    (released : Released gpu r2d.image r2d.owned next) :
    CountsBeside leaks { next with
      r2dList := removeResource next.r2dList resourceId } := by
  have held : HeldBy next
      ((removeResource gpu.r2dList resourceId).filterMap Resource2d.image ++
        gpu.scanouts.filterMap Scanout.curImg ++ leaks)
      ((removeResource gpu.r2dList resourceId).filterMap Resource2d.owned ++
        gpu.scanouts.filterMap Scanout.dmaBuf) := by
    apply HeldBy.release released
    refine counts.held.of_perm ?_ ?_
    · rw [← List.append_assoc, ← List.append_assoc]
      exact ((filterMap_perm_eraseP Resource2d.image
        found).append_right _).append_right _
    · rw [← List.append_assoc]
      exact (filterMap_perm_eraseP Resource2d.owned found).append_right _
  obtain ⟨images, dmabufs, _, _, rfl⟩ := released.split
  exact ⟨⟨held.images, held.dmabufs, held.files⟩, counts.inactive⟩

end CountsBeside

theorem filterMap_modifyResource {f : Resource2d → Option β}
    {modify : Resource2d → Resource2d} (blind : ∀ r2d, f (modify r2d) = f r2d)
    (resourceId : Nat) (r2dList : List Resource2d) :
    (modifyResource resourceId modify r2dList).filterMap f =
      r2dList.filterMap f := by
  induction r2dList with
  | nil => rfl
  | cons head tail induction =>
      unfold modifyResource
      split
      · rw [filterMap_cons_toList, filterMap_cons_toList, blind]
      · rw [filterMap_cons_toList, filterMap_cons_toList, induction]

namespace CountsBeside

variable {leaks : List Nat} {gpu : GpuState}

theorem back (counts : CountsBeside leaks gpu)
    (resourceId : Nat) (iov : IovArray) (iovcnt : Nat) :
    CountsBeside leaks (setBacking gpu resourceId iov iovcnt) := by
  have images : (setBacking gpu resourceId iov iovcnt).imageHolders =
      gpu.imageHolders := by
    refine congrArg (fun held => held ++ _) ?_
    apply filterMap_modifyResource
    intro _
    rfl
  have dmabufs : (setBacking gpu resourceId iov iovcnt).dmabufHolders =
      gpu.dmabufHolders := by
    refine congrArg (fun held => held ++ _) ?_
    apply filterMap_modifyResource
    intro _
    rfl
  refine ⟨?_, counts.inactive⟩
  rw [images, dmabufs]
  exact ⟨counts.held.images, counts.held.dmabufs, counts.held.files⟩

/-- What is still held once a scanout has let go of its own. -/
theorem release_scanout {next : GpuState} {scanoutId : Nat}
    (counts : CountsBeside leaks gpu)
    (inside : scanoutId < gpu.scanouts.length)
    (released : Released gpu (scanoutAt gpu scanoutId).curImg
      (scanoutAt gpu scanoutId).dmaBuf next) :
    HeldBy next
      (gpu.r2dList.filterMap Resource2d.image ++
        ((gpu.scanouts.eraseIdx scanoutId).filterMap Scanout.curImg ++ leaks))
      (gpu.r2dList.filterMap Resource2d.owned ++
        (gpu.scanouts.eraseIdx scanoutId).filterMap Scanout.dmaBuf) := by
  apply HeldBy.release released
  refine counts.held.of_perm ?_ ?_
  · refine List.Perm.trans ?_ (List.perm_append_comm_assoc _ _ _)
    unfold GpuState.imageHolders
    rw [List.append_assoc, ← List.append_assoc (Option.toList _)]
    exact ((filterMap_perm_eraseIdx Scanout.zero Scanout.curImg
      inside).append_right _).append_left _
  · refine List.Perm.trans ?_ (List.perm_append_comm_assoc _ _ _)
    exact (filterMap_perm_eraseIdx Scanout.zero Scanout.dmaBuf
      inside).append_left _

theorem update_scanout {after : GpuState}
    {scanoutId resourceId : Nat} {scanRect : Rect}
    (counts : CountsBeside leaks gpu)
    (inside : scanoutId < gpu.scanouts.length)
    (updated : virtioGpuUpdateScanout gpu scanoutId resourceId scanRect =
      .ok after) : CountsBeside leaks after := by
  obtain ⟨next, images, dmabufs, released, raised, taken, rfl⟩ :=
    virtioGpuUpdateScanout_eq_ok updated
  have held := counts.release_scanout inside released
  obtain ⟨nextImages, nextDmabufs, _, _, rfl⟩ := released.split
  refine ⟨⟨?_, ?_, held.files.ref taken⟩, ?_⟩
  · refine (held.images.refOption raised).of_perm ?_
    refine (List.perm_append_comm_assoc _ _ _).trans ?_
    unfold GpuState.imageHolders
    rw [List.append_assoc, ← List.append_assoc (Option.toList _)]
    exact ((filterMap_set_perm Scanout.curImg inside
      _).symm.append_right _).append_left _
  · refine (held.dmabufs.refOption taken).of_perm ?_
    refine (List.perm_append_comm_assoc _ _ _).trans ?_
    exact ((filterMap_set_perm Scanout.dmaBuf inside _).symm.append_left _)
  · intro scanout member inactive
    rcases List.mem_or_eq_of_mem_set member with other | rfl
    · exact counts.inactive scanout other inactive
    · unfold shownScanout at inactive ⊢
      cases found : virtioGpuFindResource2d gpu resourceId with
      | none => exact ⟨rfl, rfl⟩
      | some r2d =>
          rw [found] at inactive
          cases inactive

/-- An image nobody refers to. -/
theorem leak {cell : Nat} (counts : CountsBeside leaks gpu)
    (free : gpu.images cell = none) (image : Image) :
    CountsBeside (cell :: leaks)
      { gpu with images := gpu.images.alloc cell image } := by
  refine ⟨⟨?_, counts.held.dmabufs, counts.held.files⟩, counts.inactive⟩
  refine (counts.held.images.alloc free image).of_perm ?_
  exact List.perm_middle.symm

/-- A control command keeps the counts, and leaks nothing unless the second
allocation of a cursor blob fails. -/
theorem change {env : Env} {cmd : Command} {memory : Memory}
    {address : Nat} {before after : GpuState}
    (counts : CountsBeside leaks before) (fresh : env.Fresh before)
    (changed : Change env cmd memory address before after) :
    ∃ more, CountsBeside more after ∧
      (env.iovAlloc = true → more = leaks) := by
  cases changed with
  | kept same => exact ⟨leaks, counts.of_core same, fun _ => rfl⟩
  | created2d code absent allocated made result =>
      subst result
      exact ⟨leaks, counts.insert_image fresh.image _ rfl rfl, fun _ => rfl⟩
  | createdBare code accepted empty result =>
      subst result
      exact ⟨leaks, counts.insert_bare rfl rfl, fun _ => rfl⟩
  | createdBlob code accepted valid result =>
      subst result
      have positive : 0 < env.createList := by
        have nonzero := fresh.notStdin
        omega
      exact ⟨leaks, counts.insert_dmabuf fresh.dmabuf fresh.fd positive rfl rfl,
        fun _ => rfl⟩
  | createdCursor code accepted backed entries gathered small iovAlloc made
      result =>
      subst result
      rcases createImage_eq_ok made with ⟨_, rfl, rfl⟩ | ⟨bits, _, rfl, rfl⟩
      · exact ⟨leaks, counts.insert_bare rfl rfl, fun _ => rfl⟩
      · exact ⟨leaks, counts.insert_image fresh.image _ rfl rfl, fun _ => rfl⟩
  | leaked iovAlloc made =>
      rcases createImage_eq_ok made with ⟨_, rfl, _⟩ | ⟨bits, _, rfl, _⟩
      · exact ⟨leaks, counts, fun _ => rfl⟩
      · refine ⟨_, counts.leak fresh.image bits, ?_⟩
        intro allocated
        rw [allocated] at iovAlloc
        cases iovAlloc
  | removed found released result =>
      subst result
      exact ⟨leaks, counts.remove found (releaseResource_released released),
        fun _ => rfl⟩
  | backed reason result =>
      subst result
      exact ⟨leaks, counts.back _ _ _, fun _ => rfl⟩
  | painted result =>
      subst result
      exact ⟨leaks, ⟨⟨counts.held.images.set _, counts.held.dmabufs,
        counts.held.files⟩, counts.inactive⟩, fun _ => rfl⟩
  | shown reason starts inside updated result =>
      refine ⟨leaks, of_core result ?_, fun _ => rfl⟩
      refine (counts.of_core starts).update_scanout ?_ updated
      rw [length_scanouts_of_core before starts]
      exact inside

end CountsBeside

/-- The loop of the reset drops what the resources hold. -/
theorem releaseResources_heldBy {gpu after : GpuState}
    {r2dList : List Resource2d} {images dmabufs : List Nat}
    (released : releaseResources gpu r2dList = .ok after)
    (held : HeldBy gpu (r2dList.filterMap Resource2d.image ++ images)
      (r2dList.filterMap Resource2d.owned ++ dmabufs)) :
    HeldBy after images dmabufs ∧ after.r2dList = [] ∧
      after.scanouts = gpu.scanouts := by
  induction r2dList generalizing gpu with
  | nil =>
      cases released
      exact ⟨⟨held.images, held.dmabufs, held.files⟩, rfl, rfl⟩
  | cons head tail induction =>
      obtain ⟨next, first, rest⟩ := bind_eq_ok released
      rw [filterMap_cons_toList, filterMap_cons_toList, List.append_assoc,
        List.append_assoc] at held
      have dropped := releaseResource_released first
      have remaining := held.release dropped
      obtain ⟨done, empty, scanouts⟩ := induction rest
        ⟨remaining.images, remaining.dmabufs, remaining.files⟩
      refine ⟨done, empty, ?_⟩
      rw [scanouts]
      obtain ⟨_, _, _, _, rfl⟩ := dropped.split
      rfl

theorem CountsBeside.reset {leaks : List Nat} {before after : GpuState}
    (counts : CountsBeside leaks before)
    (reset : resetGpu before = .ok after) : CountsBeside leaks after := by
  obtain ⟨next, released, rest⟩ := bind_eq_ok reset
  cases rest
  have holders := counts.held
  unfold GpuState.imageHolders at holders
  rw [List.append_assoc] at holders
  obtain ⟨held, empty, scanouts⟩ := releaseResources_heldBy released holders
  refine ⟨?_, ?_⟩
  · unfold GpuState.imageHolders GpuState.dmabufHolders
    dsimp only
    rw [empty, scanouts]
    exact ⟨held.images, held.dmabufs, held.files⟩
  · rw [scanouts]
    exact counts.inactive

theorem Counts.change {env : Env} {cmd : Command} {memory : Memory}
    {address : Nat} {before after : GpuState} (counts : Counts before)
    (fresh : env.Fresh before) (succeeds : env.Succeeds)
    (changed : Change env cmd memory address before after) :
    Counts after := by
  obtain ⟨more, kept, unleaked⟩ :=
    (countsBeside_nil.mpr counts).change fresh changed
  rw [unleaked succeeds.iov] at kept
  exact countsBeside_nil.mp kept

theorem Counts.reset {before after : GpuState} (counts : Counts before)
    (reset : resetGpu before = .ok after) : Counts after :=
  countsBeside_nil.mp ((countsBeside_nil.mpr counts).reset reset)

theorem counts_initial (vmctx : Vmctx) (isBlobSupported : Bool)
    (scanoutNum : Nat) :
    Counts (initialGpu vmctx isBlobSupported scanoutNum) := by
  have nothing : ∀ f : Scanout → Option Nat, f Scanout.zero = none →
      (List.replicate scanoutNum Scanout.zero).filterMap f = [] := by
    intro f zero
    apply List.filterMap_eq_nil_iff.mpr
    intro scanout member
    rw [List.eq_of_mem_replicate member]
    exact zero
  refine ⟨⟨?_, ?_, ?_⟩, ?_⟩
  · intro cell
    unfold GpuState.imageHolders initialGpu
    dsimp only
    rw [nothing Scanout.curImg rfl]
    rfl
  · intro cell
    unfold GpuState.dmabufHolders initialGpu
    dsimp only
    rw [nothing Scanout.dmaBuf rfl]
    rfl
  · constructor
    · intro fd
      exact ⟨nofun, fun ⟨_, _, live, _⟩ => nomatch live⟩
    · intro _ _ live
      cases live
    · intro _ _ _ _ live
      cases live
  · intro scanout member _
    rw [List.eq_of_mem_replicate member]
    exact ⟨rfl, rfl⟩

end VirtioGpu.Gpu
