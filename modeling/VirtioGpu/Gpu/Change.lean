import VirtioGpu.Gpu.Display
import VirtioGpu.Foundation.Ensures

namespace VirtioGpu.Gpu

open Foundation
open Virtio

/-! What one command can do to the device, said once for every handler. -/

/-! Reference counting primitives. -/

theorem liftHeap_eq_ok {result : Option α} {value : α}
    (lifted : liftHeap result = .ok value) : result = some value := by
  cases result with
  | none => cases lifted
  | some other =>
      cases lifted
      rfl

theorem pixmanImageRef_eq_ok {gpu after : GpuState} {image : Option Nat}
    (taken : pixmanImageRef gpu image = .ok after) :
    ∃ cell images, image = some cell ∧ gpu.images.ref cell = some images ∧
      after = { gpu with images := images } := by
  cases image with
  | none => cases taken
  | some cell =>
      obtain ⟨images, lifted, rest⟩ := bind_eq_ok taken
      cases rest
      exact ⟨cell, images, rfl, liftHeap_eq_ok lifted, rfl⟩

theorem pixmanImageUnref_eq_ok {gpu after : GpuState} {image : Option Nat}
    (dropped : pixmanImageUnref gpu image = .ok after) :
    ∃ cell images, image = some cell ∧ gpu.images.unref cell = some images ∧
      after = { gpu with images := images } := by
  cases image with
  | none => cases dropped
  | some cell =>
      obtain ⟨images, lifted, rest⟩ := bind_eq_ok dropped
      cases rest
      exact ⟨cell, images, rfl, liftHeap_eq_ok lifted, rfl⟩

/-- A temporary reference to an image leaves no trace. -/
theorem pixmanImageUnref_of_ref {gpu taken after : GpuState}
    {image : Option Nat} (ref : pixmanImageRef gpu image = .ok taken)
    (unref : pixmanImageUnref taken image = .ok after) : after = gpu := by
  obtain ⟨cell, images, rfl, held, rfl⟩ := pixmanImageRef_eq_ok ref
  obtain ⟨other, next, same, dropped, rfl⟩ := pixmanImageUnref_eq_ok unref
  cases same
  rw [RefHeap.unref_of_ref held] at dropped
  cases dropped
  rfl

theorem virtioGpuDmabufRef_eq_ok {gpu after : GpuState} {info : Option Nat}
    (taken : virtioGpuDmabufRef gpu info = .ok after) :
    ∃ dmabufs, gpu.dmabufs.refOption info = some dmabufs ∧
      after = { gpu with dmabufs := dmabufs } := by
  cases info with
  | none =>
      cases taken
      exact ⟨gpu.dmabufs, rfl, rfl⟩
  | some cell =>
      obtain ⟨dmabufs, lifted, rest⟩ := bind_eq_ok taken
      cases rest
      exact ⟨dmabufs, liftHeap_eq_ok lifted, rfl⟩

/-- The descriptors open after one reference to a dmabuf is dropped. -/
def filesAfterUnref (gpu : GpuState) : Option Nat → Int → Bool
  | none => gpu.openFds
  | some cell =>
      match gpu.dmabufs cell with
      | none => gpu.openFds
      | some counted =>
          if counted.refs = 1 then closeFd gpu.openFds counted.value
          else gpu.openFds

theorem virtioGpuDmabufUnref_eq_ok {gpu after : GpuState} {info : Option Nat}
    (dropped : virtioGpuDmabufUnref gpu info = .ok after) :
    ∃ dmabufs, gpu.dmabufs.unrefOption info = some dmabufs ∧
      after = { gpu with
        dmabufs := dmabufs
        openFds := filesAfterUnref gpu info } := by
  cases info with
  | none =>
      cases dropped
      exact ⟨gpu.dmabufs, rfl, rfl⟩
  | some cell =>
      obtain ⟨counted, live, rest⟩ := bind_eq_ok dropped
      obtain ⟨dmabufs, lifted, rest⟩ := bind_eq_ok rest
      cases rest
      refine ⟨dmabufs, liftHeap_eq_ok lifted, ?_⟩
      simp only [filesAfterUnref, liftHeap_eq_ok live]

theorem virtioGpuDmabufUnref_of_ref {gpu taken after : GpuState}
    {info : Option Nat} (ref : virtioGpuDmabufRef gpu info = .ok taken)
    (unref : virtioGpuDmabufUnref taken info = .ok after) : after = gpu := by
  obtain ⟨dmabufs, held, rfl⟩ := virtioGpuDmabufRef_eq_ok ref
  obtain ⟨next, dropped, rfl⟩ := virtioGpuDmabufUnref_eq_ok unref
  cases info with
  | none =>
      cases held
      cases dropped
      rfl
  | some cell =>
      have original : next = gpu.dmabufs := by
        have cancelled := RefHeap.unref_of_ref held
        rw [show dmabufs.unref cell = some next from dropped] at cancelled
        exact Option.some.inj cancelled
      have files : filesAfterUnref { gpu with dmabufs := dmabufs }
          (some cell) = gpu.openFds := by
        obtain ⟨counted, found, rfl⟩ := Option.map_eq_some_iff.mp held
        simp [filesAfterUnref, Counted.refs]
      rw [original, files]

/-! The parts of the state no command reads back. -/

def Scanout.anonymous (scanout : Scanout) : Scanout :=
  { scanout with scanoutId := 0 }

/-- The state without `vga.enable` and the `scanout_id` fields, which commands
write and never read. -/
def GpuState.core (gpu : GpuState) : GpuState :=
  { gpu with
    scanouts := gpu.scanouts.map Scanout.anonymous
    vgaEnable := false }

theorem core_vgaEnable (gpu : GpuState) (vgaEnable : Bool) :
    GpuState.core { gpu with vgaEnable := vgaEnable } = gpu.core := rfl

/-- Writing its own id into a scanout changes nothing a command reads. -/
theorem core_setScanoutAt_scanoutId (gpu : GpuState) (scanoutId id : Nat) :
    (setScanoutAt gpu scanoutId
      { scanoutAt gpu scanoutId with scanoutId := id }).core = gpu.core := by
  have same : (gpu.scanouts.set scanoutId
      { scanoutAt gpu scanoutId with scanoutId := id }).map
        Scanout.anonymous = gpu.scanouts.map Scanout.anonymous := by
    rw [List.map_set]
    apply List.ext_getElem?
    intro index
    rw [List.getElem?_set]
    split
    · subst index
      split
      · rename_i inside
        rw [List.length_map] at inside
        simp [scanoutAt, Scanout.anonymous, inside]
      · rename_i outside
        rw [List.getElem?_eq_none (Nat.not_lt.mp outside)]
    · rfl
  unfold GpuState.core setScanoutAt
  rw [same]

/-! The changes of the control commands. -/

def resourceOfCreate2d (req : ResourceCreate2d) (cell : Nat) : Resource2d :=
  { Resource2d.fresh req.resourceId with
    width := req.width
    height := req.height
    format := virtioGpuGetPixmanFormat req.format
    image := some cell }

/-- `CREATE_BLOB` gets past its checks. -/
structure AcceptsBlob (env : Env) (gpu : GpuState) (cmd : Command)
    (req : ResourceCreateBlob) : Prop where
  supported : gpu.isBlobSupported = true
  nonzero : req.resourceId ≠ 0
  room : 2 ≤ cmd.iovcnt
  guestMemory : req.blobMem = virtioGpuBlobMemGuest
  shareable : req.blobFlags = virtioGpuBlobFlagUseShareable
  absent : virtioGpuFindResource2d gpu req.resourceId = none
  allocated : env.r2dAlloc = true

/-- The command turns a scanout off, with resource 0 and the request's
rectangle stored in it. -/
def DisablesScanout (gpu : GpuState) (cmd : Command) (memory : Memory)
    (address : Nat) : Prop :=
  let req := SetScanout.load memory address
  req.scanoutId < gpu.scanouts.length ∧
    (CtrlCmd.ofCode cmd.hdr.type = some .setScanout ∧
        (req.resourceId = 0 ∨
          virtioGpuFindResource2d gpu req.resourceId = none) ∨
      CtrlCmd.ofCode cmd.hdr.type = some .setScanoutBlob ∧
        gpu.isBlobSupported = true ∧ req.resourceId = 0)

/-- Why a scanout is given a resource and a rectangle. -/
inductive Shows (gpu : GpuState) (cmd : Command) (memory : Memory)
    (address : Nat) : Nat → Prop
  | disabled (disables : DisablesScanout gpu cmd memory address) :
      Shows gpu cmd memory address 0
  | pixels {resourceId : Nat} {r2d : Resource2d}
      (found : virtioGpuFindResource2d gpu resourceId = some r2d)
      (inside : rectInside (SetScanout.load memory address).r r2d = true) :
      Shows gpu cmd memory address resourceId
  | blob {resourceId : Nat} {r2d : Resource2d}
      (found : virtioGpuFindResource2d gpu resourceId = some r2d)
      (blob : r2d.blob = true) : Shows gpu cmd memory address resourceId

/-- `ATTACH_BACKING` gets as far as its two allocations, and the first one
succeeds. -/
structure AttachesBacking (env : Env) (gpu : GpuState) (cmd : Command)
    (req : ResourceAttachBacking) : Prop where
  code : CtrlCmd.ofCode cmd.hdr.type = some .resourceAttachBacking
  room : 2 ≤ cmd.iovcnt
  present : virtioGpuFindResource2d gpu req.resourceId ≠ none
  nonempty : req.nrEntries ≠ 0
  iovAlloc : env.iovAlloc = true

/-- Why the backing of a resource is replaced: the resource, its new `iov`
and its new `iovcnt`. -/
inductive Backs (env : Env) (gpu : GpuState) (cmd : Command)
    (memory : Memory) (address : Nat) : Nat → IovArray → Nat → Prop
  | attached {entries : List MemEntry}
      (attaches : AttachesBacking env gpu cmd
        (ResourceAttachBacking.load memory address))
      (entriesAlloc : env.entriesAlloc = true)
      (gathered : gatherEntries cmd memory
        (ResourceAttachBacking.load memory address).nrEntries = .ok entries) :
      Backs env gpu cmd memory address
        (ResourceAttachBacking.load memory address).resourceId
        (.live (backingOf gpu.vmctx entries))
        (ResourceAttachBacking.load memory address).nrEntries
  | lost
      (attaches : AttachesBacking env gpu cmd
        (ResourceAttachBacking.load memory address))
      (entriesAlloc : env.entriesAlloc = false) :
      Backs env gpu cmd memory address
        (ResourceAttachBacking.load memory address).resourceId .freed
        (ResourceAttachBacking.load memory address).nrEntries
  | detached {r2d : Resource2d}
      (code : CtrlCmd.ofCode cmd.hdr.type = some .resourceDetachBacking)
      (found : virtioGpuFindResource2d gpu
        (ResourceDetachBacking.load memory address).resourceId = some r2d) :
      Backs env gpu cmd memory address
        (ResourceDetachBacking.load memory address).resourceId .null
        r2d.iovcnt

/-- Everything a control command can do to the device. -/
inductive Change (env : Env) (cmd : Command) (memory : Memory)
    (address : Nat) (before after : GpuState) : Prop
  | kept (same : after.core = before.core)
  | created2d {image : Image}
      (code : CtrlCmd.ofCode cmd.hdr.type = some .resourceCreate2d)
      (absent : virtioGpuFindResource2d before
        (ResourceCreate2d.load memory address).resourceId = none)
      (allocated : env.r2dAlloc = true)
      (made : pixmanImageCreateBits env.imageRecordAlloc env.imageBitsAlloc
        (virtioGpuGetPixmanFormat (ResourceCreate2d.load memory address).format)
        (ResourceCreate2d.load memory address).width
        (ResourceCreate2d.load memory address).height = .ok (some image))
      (result : after = insertResource
        { before with images := before.images.alloc env.imageCell image }
        (resourceOfCreate2d (ResourceCreate2d.load memory address)
          env.imageCell))
  | createdBare
      (code : CtrlCmd.ofCode cmd.hdr.type = some .resourceCreateBlob)
      (accepted : AcceptsBlob env before cmd
        (ResourceCreateBlob.load memory address))
      (empty : (ResourceCreateBlob.load memory address).nrEntries = 0)
      (result : after = insertResource before
        (.fresh (ResourceCreateBlob.load memory address).resourceId))
  | createdBlob
      (code : CtrlCmd.ofCode cmd.hdr.type = some .resourceCreateBlob)
      (accepted : AcceptsBlob env before cmd
        (ResourceCreateBlob.load memory address))
      (valid : 0 ≤ env.createList)
      (result : after = insertResource
        { before with
          dmabufs := before.dmabufs.alloc env.dmaCell env.createList
          openFds := Function.update before.openFds env.createList true }
        { Resource2d.fresh
            (ResourceCreateBlob.load memory address).resourceId with
          blob := true
          dmaInfo := some env.dmaCell })
  | createdCursor {gpu : GpuState} {image : Option Nat}
      {entries : List MemEntry}
      (code : CtrlCmd.ofCode cmd.hdr.type = some .resourceCreateBlob)
      (accepted : AcceptsBlob env before cmd
        (ResourceCreateBlob.load memory address))
      (backed : (ResourceCreateBlob.load memory address).nrEntries ≠ 0)
      (entriesAlloc : env.entriesAlloc = true)
      (gathered : gatherEntries cmd memory
        (ResourceCreateBlob.load memory address).nrEntries = .ok entries)
      (small : (ResourceCreateBlob.load memory address).size ≤ cursorBlobSize)
      (iovAlloc : env.iovAlloc = true)
      (made : createImage env before pixmanA8r8g8b8 64 64 = .ok (gpu, image))
      (result : after = insertResource gpu
        { Resource2d.fresh
            (ResourceCreateBlob.load memory address).resourceId with
          width := 64
          height := 64
          format := pixmanA8r8g8b8
          image := image
          iov := .live (backingOf before.vmctx entries)
          iovcnt := (ResourceCreateBlob.load memory address).nrEntries })
  | leaked {image : Option Nat} (iovAlloc : env.iovAlloc = false)
      (made : createImage env before pixmanA8r8g8b8 64 64 = .ok (after, image))
  | removed {resourceId : Nat} {r2d : Resource2d} {gpu : GpuState}
      (found : virtioGpuFindResource2d before resourceId = some r2d)
      (released : releaseResource before r2d = .ok gpu)
      (result : after =
        { gpu with r2dList := removeResource gpu.r2dList resourceId })
  | backed {resourceId iovcnt : Nat} {iov : IovArray}
      (reason : Backs env before cmd memory address resourceId iov iovcnt)
      (result : after = setBacking before resourceId iov iovcnt)
  | painted {cell : Nat} {image : Image}
      (result : after =
        { before with images := before.images.set cell image })
  | shown {start shown : GpuState} {resourceId : Nat}
      (reason : Shows before cmd memory address resourceId)
      (starts : start.core = before.core)
      (inside : (SetScanout.load memory address).scanoutId <
        before.scanouts.length)
      (updated : virtioGpuUpdateScanout start
        (SetScanout.load memory address).scanoutId resourceId
        (SetScanout.load memory address).r = .ok shown)
      (result : after.core = shown.core)

section Handlers

variable (env : Env) (gpu : GpuState) (cmd : Command) (memory : Memory)
  {address : Nat}

/-- The reply of a control command: how it leaves the device, and which guest
ranges it translated. -/
structure Reply.Changes (env : Env) (cmd : Command) (memory : Memory)
    (address : Nat) (before : GpuState) (reply : Reply) : Prop where
  gpu : Change env cmd memory address before reply.gpu
  calls : ∀ call, call ∈ reply.calls → call.Honest before.vmctx

theorem backingCalls_honest {ctx : Vmctx} {entries : List MemEntry}
    {call : Translation} (made : call ∈ backingCalls ctx entries) :
    call.Honest ctx := by
  obtain ⟨entry, _, rfl⟩ := List.mem_map.mp made
  exact translate_honest ctx entry.addr entry.length

theorem virtioGpuCmdUnspec_changes :
    Ensures (virtioGpuCmdUnspec gpu cmd)
      (Reply.Changes env cmd memory address gpu) :=
  .ok ⟨.kept rfl, nofun⟩

theorem virtioGpuCmdGetEdid_changes :
    Ensures (virtioGpuCmdGetEdid env gpu cmd memory)
      (Reply.Changes env cmd memory address gpu) :=
  .bind fun _ _ =>
    .ite (fun _ => .error) fun _ => .pure ⟨.kept rfl, nofun⟩

theorem virtioGpuCmdGetDisplayInfo_changes :
    Ensures (virtioGpuCmdGetDisplayInfo env gpu cmd)
      (Reply.Changes env cmd memory address gpu) :=
  .ok ⟨.kept rfl, nofun⟩

theorem virtioGpuCmdSetModifier_changes :
    Ensures (virtioGpuCmdSetModifier gpu cmd memory)
      (Reply.Changes env cmd memory address gpu) :=
  .bind fun _ _ => .pure ⟨.kept rfl, nofun⟩

theorem createImage_eq_ok {env : Env} {gpu after : GpuState}
    {format width height : Nat} {image : Option Nat}
    (made : createImage env gpu format width height = .ok (after, image)) :
    pixmanImageCreateBits env.imageRecordAlloc env.imageBitsAlloc format width
        height = .ok none ∧
        after = gpu ∧ image = none ∨
      ∃ bits, pixmanImageCreateBits env.imageRecordAlloc env.imageBitsAlloc
          format width height = .ok (some bits) ∧
        after = { gpu with images := gpu.images.alloc env.imageCell bits } ∧
        image = some env.imageCell := by
  obtain ⟨bits, created, rest⟩ := bind_eq_ok made
  cases bits with
  | none =>
      cases rest
      exact .inl ⟨created, rfl, rfl⟩
  | some bits =>
      cases rest
      exact .inr ⟨bits, created, rfl, rfl⟩

theorem virtioGpuCmdResourceCreate2d_changes
    (code : CtrlCmd.ofCode cmd.hdr.type = some .resourceCreate2d)
    (based : cmd.base 0 = .ok address) :
    Ensures (virtioGpuCmdResourceCreate2d env gpu cmd memory)
      (Reply.Changes env cmd memory address gpu) := by
  unfold virtioGpuCmdResourceCreate2d
  refine .after based ?_
  dsimp only
  cases found : virtioGpuFindResource2d gpu
      (ResourceCreate2d.load memory address).resourceId with
  | some _ => exact .pure ⟨.kept rfl, nofun⟩
  | none =>
      refine .ite (fun _ => .pure ⟨.kept rfl, nofun⟩) fun allocated => ?_
      refine .bind fun created made => ?_
      rcases created with ⟨after, image⟩
      rcases createImage_eq_ok made with
        ⟨_, rfl, rfl⟩ | ⟨bits, bitsMade, rfl, rfl⟩
      · exact .pure ⟨.kept rfl, nofun⟩
      · exact .pure ⟨.created2d code found (by simpa using allocated)
          bitsMade rfl, nofun⟩

theorem virtioGpuCmdResourceUnref_changes :
    Ensures (virtioGpuCmdResourceUnref gpu cmd memory)
      (Reply.Changes env cmd memory address gpu) := by
  unfold virtioGpuCmdResourceUnref
  refine .bind fun start _ => ?_
  dsimp only
  cases found : virtioGpuFindResource2d gpu
      (ResourceUnref.load memory start).resourceId with
  | none => exact .pure ⟨.kept rfl, nofun⟩
  | some r2d =>
      exact .bind fun after released =>
        .pure ⟨.removed found released rfl, nofun⟩

theorem virtioGpuCmdResourceAttachBacking_changes
    (code : CtrlCmd.ofCode cmd.hdr.type = some .resourceAttachBacking)
    (based : cmd.base 0 = .ok address) :
    Ensures (virtioGpuCmdResourceAttachBacking env gpu cmd memory)
      (Reply.Changes env cmd memory address gpu) := by
  unfold virtioGpuCmdResourceAttachBacking
  refine .after based ?_
  refine .ite (fun _ => .pure ⟨.kept rfl, nofun⟩) fun room => ?_
  dsimp only
  cases found : virtioGpuFindResource2d gpu
      (ResourceAttachBacking.load memory address).resourceId with
  | none => exact .pure ⟨.kept rfl, nofun⟩
  | some r2d =>
      refine .ite (fun _ => .pure ⟨.kept rfl, nofun⟩) fun nonempty => ?_
      refine .ite (fun _ => .pure ⟨.kept rfl, nofun⟩) fun iovAlloc => ?_
      have attaches : AttachesBacking env gpu cmd
          (ResourceAttachBacking.load memory address) := by
        refine ⟨code, Nat.not_lt.mp room, ?_, nonempty, by simpa using iovAlloc⟩
        rw [found]
        exact Option.some_ne_none r2d
      refine .ite (fun failed => .pure ⟨.backed (.lost attaches ?_) rfl, nofun⟩)
        fun entriesAlloc => .bind fun entries gathered => .pure ?_
      · simpa using failed
      · exact ⟨.backed (.attached attaches (by simpa using entriesAlloc)
          gathered) rfl, fun _ made => backingCalls_honest made⟩

theorem virtioGpuCmdResourceDetachBacking_changes
    (code : CtrlCmd.ofCode cmd.hdr.type = some .resourceDetachBacking)
    (based : cmd.base 0 = .ok address) :
    Ensures (virtioGpuCmdResourceDetachBacking gpu cmd memory)
      (Reply.Changes env cmd memory address gpu) := by
  unfold virtioGpuCmdResourceDetachBacking
  refine .after based ?_
  dsimp only
  cases found : virtioGpuFindResource2d gpu
      (ResourceDetachBacking.load memory address).resourceId with
  | none => exact .pure ⟨.kept rfl, nofun⟩
  | some r2d =>
      exact .bind fun _ _ => .pure ⟨.backed (.detached code found) rfl, nofun⟩

theorem virtioGpuCreateUdmabuf_cases (entries : List MemEntry) :
    virtioGpuCreateUdmabuf env gpu entries = (gpu, none) ∨
      0 ≤ env.createList ∧
        virtioGpuCreateUdmabuf env gpu entries =
          ({ gpu with
              dmabufs := gpu.dmabufs.alloc env.dmaCell env.createList
              openFds := Function.update gpu.openFds env.createList true },
            some env.dmaCell) := by
  unfold virtioGpuCreateUdmabuf
  split
  · exact .inl rfl
  · split
    · exact .inl rfl
    · split
      · exact .inl rfl
      · split
        · exact .inl rfl
        · rename_i valid
          exact .inr ⟨Int.not_lt.mp valid, rfl⟩

theorem virtioGpuCmdCreateBlob_changes
    (code : CtrlCmd.ofCode cmd.hdr.type = some .resourceCreateBlob)
    (supported : gpu.isBlobSupported = true)
    (based : cmd.base 0 = .ok address) :
    Ensures (virtioGpuCmdCreateBlob env gpu cmd memory)
      (Reply.Changes env cmd memory address gpu) := by
  unfold virtioGpuCmdCreateBlob
  refine .after based ?_
  refine .ite (fun _ => .pure ⟨.kept rfl, nofun⟩) fun nonzero => ?_
  refine .ite (fun _ => .pure ⟨.kept rfl, nofun⟩) fun room => ?_
  refine .ite (fun _ => .pure ⟨.kept rfl, nofun⟩) fun kind => ?_
  dsimp only
  cases absent : virtioGpuFindResource2d gpu
      (ResourceCreateBlob.load memory address).resourceId with
  | some _ => exact .pure ⟨.kept rfl, nofun⟩
  | none =>
      refine .ite (fun _ => .pure ⟨.kept rfl, nofun⟩) fun allocated => ?_
      obtain ⟨guestMemory, shareable⟩ := not_or.mp kind
      have accepted : AcceptsBlob env gpu cmd
          (ResourceCreateBlob.load memory address) :=
        ⟨supported, nonzero, Nat.not_lt.mp room, not_not.mp guestMemory,
          not_not.mp shareable, absent, by simpa using allocated⟩
      refine .ite (fun empty => .pure
        ⟨.createdBare code accepted empty rfl, nofun⟩)
        fun backed => ?_
      refine .ite (fun _ => .pure ⟨.kept rfl, nofun⟩) fun entriesAlloc => ?_
      refine .bind fun entries gathered => .ite (fun _ => ?_) fun small => ?_
      · rcases virtioGpuCreateUdmabuf_cases env gpu entries with
          failed | ⟨valid, made⟩
        · rw [failed]
          exact .pure ⟨.kept rfl, nofun⟩
        · rw [made]
          exact .pure ⟨.createdBlob code accepted valid rfl, nofun⟩
      · refine .bind fun created made => ?_
        rcases created with ⟨after, image⟩
        refine .ite (fun noIov => .pure
          ⟨.leaked (by simpa using noIov) made, nofun⟩)
          fun iovAlloc => .pure ?_
        have kept : after.vmctx = gpu.vmctx := by
          rcases createImage_eq_ok made with ⟨_, rfl, _⟩ | ⟨_, _, rfl, _⟩
          · rfl
          · rfl
        rw [kept]
        exact ⟨.createdCursor code accepted backed
          (by simpa using entriesAlloc) gathered (Nat.not_lt.mp small)
          (by simpa using iovAlloc) made rfl,
          fun _ translated => backingCalls_honest translated⟩

theorem find_of_core {start : GpuState} (starts : start.core = gpu.core)
    (resourceId : Nat) : virtioGpuFindResource2d start resourceId =
      virtioGpuFindResource2d gpu resourceId := by
  have same : start.core.r2dList = gpu.core.r2dList := by rw [starts]
  unfold virtioGpuFindResource2d
  rw [show start.r2dList = gpu.r2dList from same]

theorem length_scanouts_of_core {start : GpuState}
    (starts : start.core = gpu.core) :
    start.scanouts.length = gpu.scanouts.length := by
  have same := congrArg (fun gpu => gpu.scanouts.length) starts
  simpa [GpuState.core] using same

/-- `SET_SCANOUT` by itself or as the fallback of `SET_SCANOUT_BLOB`, which
only hands over requests that name a resource. -/
theorem virtioGpuCmdSetScanout_changes {start : GpuState} {iolen : Nat}
    (starts : start.core = gpu.core)
    (named : CtrlCmd.ofCode cmd.hdr.type = some .setScanout ∨
      (SetScanout.load memory address).resourceId ≠ 0 ∧
        virtioGpuFindResource2d gpu
          (SetScanout.load memory address).resourceId ≠ none)
    (based : cmd.base 0 = .ok address) :
    Ensures (virtioGpuCmdSetScanout start { cmd with iolen := iolen } memory)
      (Reply.Changes env cmd memory address gpu) := by
  unfold virtioGpuCmdSetScanout
  rw [show Command.base { cmd with iolen := iolen } 0 = .ok address from based]
  refine .bind fun value same => ?_
  cases same
  refine .ite (fun _ => .error) fun valid => ?_
  have inside : (SetScanout.load memory address).scanoutId <
      gpu.scanouts.length := by
    rw [← length_scanouts_of_core gpu starts]
    exact Nat.not_le.mp valid
  have marked := core_setScanoutAt_scanoutId start
    (SetScanout.load memory address).scanoutId
    (SetScanout.load memory address).scanoutId
  rw [starts] at marked
  generalize setScanoutAt start _ _ = next at marked
  dsimp only
  rw [find_of_core gpu marked]
  cases wanted : (if (SetScanout.load memory address).resourceId = 0 then none
      else virtioGpuFindResource2d gpu
        (SetScanout.load memory address).resourceId) with
  | none =>
      have disables : DisablesScanout gpu cmd memory address := by
        refine ⟨inside, .inl ?_⟩
        rcases named with code | ⟨nonzero, found⟩
        · refine ⟨code, ?_⟩
          split at wanted
          · exact .inl ‹_›
          · exact .inr wanted
        · rw [if_neg nonzero] at wanted
          exact absurd wanted found
      refine .bind fun after updated => .pure ?_
      exact ⟨.shown (.disabled disables) marked inside updated rfl, nofun⟩
  | some r2d =>
      have found : virtioGpuFindResource2d gpu
          (SetScanout.load memory address).resourceId = some r2d := by
        split at wanted
        · cases wanted
        · exact wanted
      refine .ite (fun _ => .pure ⟨.kept marked, nofun⟩) fun covered => ?_
      refine .bind fun after updated => .bind fun taken ref => ?_
      refine .bind fun image _ => .bind fun dropped unref => .pure ?_
      cases pixmanImageUnref_of_ref ref unref
      exact ⟨.shown (.pixels found (by simpa using covered)) marked inside
        updated rfl, nofun⟩

theorem virtioGpuCmdSetScanoutBlob_changes
    (code : CtrlCmd.ofCode cmd.hdr.type = some .setScanoutBlob)
    (supported : gpu.isBlobSupported = true)
    (based : cmd.base 0 = .ok address) :
    Ensures (virtioGpuCmdSetScanoutBlob gpu cmd memory)
      (Reply.Changes env cmd memory address gpu) := by
  unfold virtioGpuCmdSetScanoutBlob
  refine .after based ?_
  refine .ite (fun _ => .error) fun valid => ?_
  have inside : (SetScanout.load memory address).scanoutId <
      gpu.scanouts.length := Nat.not_le.mp valid
  have marked := core_setScanoutAt_scanoutId { gpu with vgaEnable := false }
    (SetScanoutBlob.load memory address).scanoutId
    (SetScanoutBlob.load memory address).scanoutId
  rw [core_vgaEnable] at marked
  dsimp only
  generalize setScanoutAt _ _ _ = next at marked
  refine .ite (fun zero => ?_) fun nonzero => ?_
  · refine .bind fun after updated => .pure ?_
    exact ⟨.shown (.disabled ⟨inside, .inr ⟨code, supported, zero⟩⟩) marked
      inside updated rfl, nofun⟩
  · rw [find_of_core gpu marked]
    cases found : virtioGpuFindResource2d gpu
        (SetScanoutBlob.load memory address).resourceId with
    | none => exact .pure ⟨.kept marked, nofun⟩
    | some r2d =>
        have named : virtioGpuFindResource2d gpu
            (SetScanout.load memory address).resourceId ≠ none := by
          rw [show (SetScanout.load memory address).resourceId =
            (SetScanoutBlob.load memory address).resourceId from rfl, found]
          exact Option.some_ne_none r2d
        refine .ite (fun _ => ?_) fun blob => ?_
        · refine .bind fun reply ran => .pure ?_
          have handed := virtioGpuCmdSetScanout_changes env gpu cmd memory
            marked (.inr ⟨nonzero, named⟩) based reply ran
          exact ⟨handed.gpu, handed.calls⟩
        · refine .bind fun after updated => .bind fun taken ref => ?_
          refine .bind fun fd _ => .bind fun dropped unref => .pure ?_
          cases virtioGpuDmabufUnref_of_ref ref unref
          exact ⟨.shown (.blob found (by simpa using blob)) marked inside
            updated rfl, nofun⟩

theorem virtioGpuCmdTransferToHost2d_changes :
    Ensures (virtioGpuCmdTransferToHost2d gpu cmd memory)
      (Reply.Changes env cmd memory address gpu) := by
  unfold virtioGpuCmdTransferToHost2d
  refine .bind fun start _ => ?_
  dsimp only
  cases virtioGpuFindResource2d gpu
      (TransferToHost2d.load memory start).resourceId with
  | none => exact .pure ⟨.kept rfl, nofun⟩
  | some r2d =>
      refine .ite (fun _ => .pure ⟨.kept rfl, nofun⟩) fun _ => ?_
      refine .ite (fun _ => .pure ⟨.kept rfl, nofun⟩) fun _ => ?_
      refine .bind fun taken ref => .bind fun image _ => ?_
      refine .bind fun data _ => .bind fun after unref => .pure ?_
      obtain ⟨cell, images, held, taken, rfl⟩ := pixmanImageRef_eq_ok ref
      obtain ⟨other, dropped, same, freed, rfl⟩ := pixmanImageUnref_eq_ok unref
      rw [held] at same freed
      cases same
      rw [show (some cell).getD 0 = cell from rfl,
        RefHeap.unref_set_of_ref _ taken] at freed
      cases freed
      exact ⟨.painted rfl, nofun⟩

theorem virtioGpuCmdResourceFlush_changes :
    Ensures (virtioGpuCmdResourceFlush gpu cmd memory)
      (Reply.Changes env cmd memory address gpu) := by
  unfold virtioGpuCmdResourceFlush
  refine .bind fun start _ => ?_
  dsimp only
  cases virtioGpuFindResource2d gpu
      (ResourceFlush.load memory start).resourceId with
  | none => exact .pure ⟨.kept rfl, nofun⟩
  | some r2d =>
      refine .ite (fun _ => ?_) fun _ => ?_
      · refine .bind fun taken ref => .bind fun display _ => ?_
        refine .bind fun after unref => .pure ?_
        cases virtioGpuDmabufUnref_of_ref ref unref
        exact ⟨.kept rfl, nofun⟩
      · refine .bind fun taken ref => .bind fun image _ => ?_
        refine .bind fun after unref => .pure ?_
        cases pixmanImageUnref_of_ref ref unref
        exact ⟨.kept rfl, nofun⟩

theorem ctrlDispatch_changes (based : cmd.base 0 = .ok address) :
    Ensures (ctrlDispatch env gpu cmd memory)
      (Reply.Changes env cmd memory address gpu) := by
  unfold ctrlDispatch
  cases code : CtrlCmd.ofCode cmd.hdr.type with
  | none => exact virtioGpuCmdUnspec_changes env gpu cmd memory
  | some command =>
      cases command with
      | getEdid => exact virtioGpuCmdGetEdid_changes env gpu cmd memory
      | getDisplayInfo =>
          exact virtioGpuCmdGetDisplayInfo_changes env gpu cmd memory
      | resourceCreate2d =>
          exact virtioGpuCmdResourceCreate2d_changes env gpu cmd memory code
            based
      | resourceUnref =>
          exact virtioGpuCmdResourceUnref_changes env gpu cmd memory
      | resourceAttachBacking =>
          exact virtioGpuCmdResourceAttachBacking_changes env gpu cmd memory
            code based
      | resourceDetachBacking =>
          exact virtioGpuCmdResourceDetachBacking_changes env gpu cmd memory
            code based
      | setScanout =>
          exact virtioGpuCmdSetScanout_changes env gpu cmd memory rfl
            (.inl code) based
      | transferToHost2d =>
          exact virtioGpuCmdTransferToHost2d_changes env gpu cmd memory
      | resourceFlush =>
          exact virtioGpuCmdResourceFlush_changes env gpu cmd memory
      | resourceCreateBlob =>
          cases supported : gpu.isBlobSupported with
          | false => exact virtioGpuCmdUnspec_changes env gpu cmd memory
          | true =>
              exact virtioGpuCmdCreateBlob_changes env gpu cmd memory code
                supported based
      | setScanoutBlob =>
          cases supported : gpu.isBlobSupported with
          | false => exact virtioGpuCmdUnspec_changes env gpu cmd memory
          | true =>
              exact virtioGpuCmdSetScanoutBlob_changes env gpu cmd memory code
                supported based
      | setModifier =>
          exact virtioGpuCmdSetModifier_changes env gpu cmd memory

/-- Cursor commands leave the device as it is. -/
theorem cursorDispatch_gpu :
    Ensures (cursorDispatch gpu cmd memory) fun reply => reply.gpu = gpu := by
  unfold cursorDispatch
  cases CursorCmd.ofCode cmd.hdr.type with
  | none => exact .ok rfl
  | some command =>
      cases command with
      | moveCursor => exact .bind fun _ _ => .pure rfl
      | updateCursor =>
          refine .bind fun start _ => .ite (fun _ => .pure rfl) fun _ => ?_
          cases virtioGpuFindResource2d gpu
              (UpdateCursor.load memory start).resourceId with
          | none => exact .pure rfl
          | some r2d =>
              refine .bind fun taken ref => .bind fun after unref => .pure ?_
              exact pixmanImageUnref_of_ref ref unref

end Handlers

end VirtioGpu.Gpu
