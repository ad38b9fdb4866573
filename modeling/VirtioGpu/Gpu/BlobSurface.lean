import VirtioGpu.Gpu.ShownSurface

namespace VirtioGpu.Gpu

open Foundation
open Virtio

/-! Blob resources and the surfaces that show them. -/

/-- The resource is a blob, and its dmabuf has this descriptor. -/
def HoldsBlob (gpu : GpuState) (resourceId : Nat) (fd : Int) : Prop :=
  ∃ r2d cell, virtioGpuFindResource2d gpu resourceId = some r2d ∧
    r2d.blob = true ∧ r2d.dmaInfo = some cell ∧
      gpu.dmabufs.contents cell = some fd

/-- The number of bytes the entries describe. -/
def entriesLength (entries : List MemEntry) : Nat :=
  entries.foldr (fun entry total => entry.length + total) 0

/-- `CREATE_BLOB` makes a blob of the gathered entries. -/
structure CreatesBlob (env : Env) (gpu : GpuState) (cmd : Command)
    (memory : Memory) (resourceId : Nat) (entries : List MemEntry)
    (reply : Reply) : Prop where
  code : CtrlCmd.ofCode cmd.hdr.type = some .resourceCreateBlob
  resource : (ResourceCreateBlob.load memory cmd.address).resourceId =
    resourceId
  gathered : gatherEntries cmd memory
    (ResourceCreateBlob.load memory cmd.address).nrEntries = .ok entries
  handled : ctrlDispatch env gpu cmd memory = .ok reply
  absent : virtioGpuFindResource2d gpu resourceId = none
  blob : ∃ r2d, virtioGpuFindResource2d reply.gpu resourceId = some r2d ∧
    r2d.blob = true

section Blobs

variable {env : Env} {gpu : GpuState} {cmd : Command} {memory : Memory}
  {resourceId : Nat} {fd : Int}

/-- The blob's dmabuf is the one the kernel made for the command. -/
theorem CreatesBlob.holds {entries : List MemEntry} {reply : Reply}
    (creates : CreatesBlob env gpu cmd memory resourceId entries reply)
    (based : cmd.base 0 = .ok cmd.address) :
    HoldsBlob reply.gpu resourceId env.createList := by
  obtain ⟨r2d, found, blob⟩ := creates.blob
  have absent := creates.absent
  have changed := (ctrlDispatch_changes env gpu cmd memory based reply
    creates.handled).gpu
  have unlisted : ∀ {after : GpuState}, after.r2dList = gpu.r2dList →
      virtioGpuFindResource2d after resourceId ≠ some r2d := by
    intro after same here
    unfold virtioGpuFindResource2d at here absent
    rw [same, absent] at here
    cases here
  have pixels : ∀ {start : GpuState} {created : Resource2d},
      reply.gpu = insertResource start created →
      start.r2dList = gpu.r2dList → created.blob = false → False := by
    intro start created result same plain
    rw [result, find_insertResource] at found
    split at found
    · cases found
      rw [plain] at blob
      cases blob
    · exact unlisted same found
  cases changed with
  | kept same => exact absurd found (unlisted (r2dList_of_core same))
  | created2d code _ _ made result =>
      exact absurd (pixels result rfl rfl) not_false
  | createdBare _ _ _ result => exact absurd (pixels result rfl rfl) not_false
  | createdBlob _ _ _ result =>
      have named : (ResourceCreateBlob.load memory cmd.address).resourceId =
          resourceId := creates.resource
      rw [result]
      refine ⟨{ Resource2d.fresh
          (ResourceCreateBlob.load memory cmd.address).resourceId with
          blob := true
          dmaInfo := some env.dmaCell }, env.dmaCell, ?_, rfl, rfl, ?_⟩
      · rw [find_insertResource]
        exact if_pos named
      · exact RefHeap.contents_alloc_self _ _ _
  | createdCursor _ _ _ _ _ _ _ made result =>
      exact absurd (pixels result (createImage_r2dList made) rfl) not_false
  | leaked _ made =>
      exact absurd found (unlisted (createImage_r2dList made))
  | removed _ released result =>
      obtain ⟨_, _, _, _, rfl⟩ := (releaseResource_released released).split
      rw [result] at found
      have listed := List.mem_of_mem_eraseP (List.mem_of_find?_eq_some found)
      have named := List.find?_some found
      exact absurd named (List.find?_eq_none.mp absent r2d listed)
  | backed reason result =>
      rw [result, find_setBacking, absent] at found
      split at found <;> cases found
  | painted result => exact absurd found (unlisted (by rw [result]))
  | shown reason starts inside updated result =>
      exact absurd found (unlisted (by rw [r2dList_of_core result,
        virtioGpuUpdateScanout_r2dList updated, r2dList_of_core starts]))

theorem dmabufs_of_core {before after : GpuState}
    (same : after.core = before.core) : after.dmabufs = before.dmabufs := by
  have equal := congrArg GpuState.dmabufs same
  exact equal

theorem virtioGpuUpdateScanout_dmabufs {after : GpuState}
    {scanoutId : Nat} {scanRect : Rect}
    (updated : virtioGpuUpdateScanout gpu scanoutId resourceId scanRect =
      .ok after) : RefHeap.KeepsContents gpu.dmabufs after.dmabufs := by
  obtain ⟨next, _, dmabufs, released, _, raised, rfl⟩ :=
    virtioGpuUpdateScanout_eq_ok updated
  obtain ⟨_, lowered, _, dropped, rfl⟩ := released.split
  exact (RefHeap.KeepsContents.unrefOption dropped).trans
    (RefHeap.KeepsContents.refOption raised)

/-- A dmabuf that stays keeps its descriptor. -/
theorem Change.dmabuf_kept {address cell : Nat} {before after : GpuState}
    (changed : Change env cmd memory address before after)
    (fresh : env.Fresh before) (live : before.dmabufs cell ≠ none)
    (still : after.dmabufs cell ≠ none) :
    after.dmabufs.contents cell = before.dmabufs.contents cell := by
  cases changed with
  | kept same => rw [dmabufs_of_core same]
  | created2d _ _ _ _ result | createdBare _ _ _ result | backed _ result
  | painted result =>
      subst result
      rfl
  | createdBlob _ _ _ result =>
      subst result
      apply RefHeap.contents_update_of_ne
      rintro rfl
      exact live fresh.dmabuf
  | createdCursor _ _ _ _ _ _ _ made result =>
      subst result
      have same := createImage_dmabufs made
      exact congrArg (fun dmabufs : RefHeap Int => dmabufs.contents cell) same
  | leaked _ made => rw [createImage_dmabufs made]
  | removed _ released result =>
      obtain ⟨_, dmabufs, _, dropped, rfl⟩ :=
        (releaseResource_released released).split
      subst result
      exact RefHeap.KeepsContents.unrefOption dropped cell still
  | shown _ starts _ updated result =>
      rw [dmabufs_of_core result] at still ⊢
      rw [← dmabufs_of_core starts]
      exact virtioGpuUpdateScanout_dmabufs updated cell still

/-- A blob is the same as long as it is not dropped. -/
theorem HoldsBlob.dispatched (holds : HoldsBlob gpu resourceId fd)
    (tidy : Tidy gpu) (fresh : env.Fresh gpu)
    (based : cmd.base 0 = .ok cmd.address)
    (kept : ¬(CtrlCmd.ofCode cmd.hdr.type = some .resourceUnref ∧
      (ResourceUnref.load memory cmd.address).resourceId = resourceId)) :
    Ensures (ctrlDispatch env gpu cmd memory) fun reply =>
      HoldsBlob reply.gpu resourceId fd := by
  intro reply ran
  have changed := (ctrlDispatch_changes env gpu cmd memory based reply
    ran).gpu
  obtain ⟨r2d, cell, found, blob, info, held⟩ := holds
  obtain ⟨view, viewed, _⟩ := ctrlDispatch_view tidy fresh based kept
    (view_of_find found) reply ran
  obtain ⟨later, still, rfl⟩ := Option.map_eq_some_iff.mp viewed
  have same := changed.resource_kept tidy.distinct found still
  obtain ⟨leaks, counts⟩ := tidy.counts
  obtain ⟨_, others⟩ := (tidy.change fresh changed).counts
  have owned : later.owned = some cell := by
    rw [same, Resource2d.owned, if_pos blob, info]
  have live := counts.dmabuf_live (List.mem_of_find?_eq_some found)
    (by rw [Resource2d.owned, if_pos blob, info])
  have lives := others.dmabuf_live (List.mem_of_find?_eq_some still) owned
  refine ⟨later, cell, still, ?_, ?_, ?_⟩
  · rw [same]
    exact blob
  · rw [same]
    exact info
  · rw [changed.dmabuf_kept fresh live lives]
    exact held

/-- `SET_SCANOUT_BLOB` for this resource is answered `OK`. -/
structure SetsBlobScanout (env : Env) (gpu : GpuState) (cmd : Command)
    (memory : Memory) (resourceId : Nat) (reply : Reply) : Prop where
  code : CtrlCmd.ofCode cmd.hdr.type = some .setScanoutBlob
  resource : (SetScanoutBlob.load memory cmd.address).resourceId = resourceId
  nonzero : resourceId ≠ 0
  handled : ctrlDispatch env gpu cmd memory = .ok reply
  answers : reply.Answers .okNodata

/-- Where the rectangle starts in the buffer, over the natural numbers. -/
def blobOffset (req : SetScanoutBlob) : Nat :=
  req.offset + 4 * req.r.x + req.r.y * req.stride

/-- The one surface passed on shows this dmabuf from `offset` on. -/
def ShowsBlob (req : SetScanoutBlob) (fd : Int) (offset : Nat)
    (reply : Reply) : Prop :=
  reply.display = [.surfaceSet req.scanoutId (some (.dmabuf req.r req.stride
    fd (drmFourcc req.format) offset))]

theorem derefDmabuf_eq_ok {info : Option Nat} {value : Int}
    (read : derefDmabuf gpu info = .ok value) :
    info.bind gpu.dmabufs.contents = some value := by
  cases info with
  | none => cases read
  | some cell =>
      obtain ⟨counted, lifted, rest⟩ := bind_eq_ok read
      cases rest
      rw [Option.bind_some, RefHeap.contents, liftHeap_eq_ok lifted]
      rfl

/-- The offset that is passed on is taken modulo 2^32. -/
theorem SetsBlobScanout.shows {reply : Reply}
    (sets : SetsBlobScanout env gpu cmd memory resourceId reply)
    (based : cmd.base 0 = .ok cmd.address)
    (holds : HoldsBlob gpu resourceId fd) :
    ShowsBlob (SetScanoutBlob.load memory cmd.address) fd
      (blobOffset (SetScanoutBlob.load memory cmd.address) % 4294967296)
      reply := by
  obtain ⟨r2d, cell, found, blob, info, held⟩ := holds
  have handled := sets.handled
  unfold ctrlDispatch at handled
  rw [sets.code] at handled
  dsimp only at handled
  split at handled
  · cases handled
    exact absurd sets.answers (Reply.Fails.not_ok ⟨.errUnspec, rfl, rfl⟩)
  unfold virtioGpuCmdSetScanoutBlob at handled
  rw [based] at handled
  obtain ⟨address, same, rest⟩ := bind_eq_ok handled
  cases same
  dsimp only at rest
  split at rest
  · cases rest
  rw [if_neg (by rw [sets.resource]; exact sets.nonzero), sets.resource,
    find_setScanoutAt] at rest
  rw [show virtioGpuFindResource2d { gpu with vgaEnable := false } resourceId =
    some r2d from found] at rest
  dsimp only at rest
  rw [if_neg (by rw [blob]; decide)] at rest
  obtain ⟨shown, updated, rest⟩ := bind_eq_ok rest
  obtain ⟨taken, ref, rest⟩ := bind_eq_ok rest
  obtain ⟨value, read, rest⟩ := bind_eq_ok rest
  obtain ⟨dropped, unref, rest⟩ := bind_eq_ok rest
  cases rest
  obtain ⟨dmabufs, raised, rfl⟩ := virtioGpuDmabufRef_eq_ok ref
  have contents := derefDmabuf_eq_ok read
  rw [info, Option.bind_some] at contents
  have live : dmabufs cell ≠ none := RefHeap.live_of_contents contents
  have kept : RefHeap.KeepsContents gpu.dmabufs dmabufs :=
    (virtioGpuUpdateScanout_dmabufs updated).trans
      (RefHeap.KeepsContents.refOption raised)
  have same : value = fd :=
    Option.some.inj (contents.symm.trans ((kept cell live).trans held))
  rw [ShowsBlob, same]
  rfl

end Blobs

end VirtioGpu.Gpu
