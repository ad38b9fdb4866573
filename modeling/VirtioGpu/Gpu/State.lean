import VirtioGpu.Gpu.Pixman
import VirtioGpu.Virtio.Chain
import VirtioGpu.Foundation.RefHeap

namespace VirtioGpu.Gpu

open Foundation
open Virtio

/-! The state of the device behind its queues: resources, scanouts, and the
images and dmabufs they share. -/

/-- The pointer `r2d->iov`.  The array has no other owner, so the pointer is
null, or owns a live array, or is left dangling after a `free`. -/
inductive IovArray where
  | null
  | live (entries : List IoVec)
  | freed
  deriving Repr, DecidableEq

def IovArray.free : IovArray → Except Fault Unit
  | .null => .ok ()
  | .live _ => .ok ()
  | .freed => .error .doubleFree

structure Resource2d where
  resourceId : Nat
  width : Nat
  height : Nat
  format : Nat
  image : Option Nat
  iov : IovArray
  iovcnt : Nat
  blob : Bool
  dmaInfo : Option Nat
  deriving Repr, DecidableEq

/-- The resource left by `calloc`, with its id set. -/
def Resource2d.fresh (resourceId : Nat) : Resource2d where
  resourceId := resourceId
  width := 0
  height := 0
  format := 0
  image := none
  iov := .null
  iovcnt := 0
  blob := false
  dmaInfo := none

structure Scanout where
  scanoutId : Nat
  resourceId : Nat
  scanoutRect : Rect
  curImg : Option Nat
  dmaBuf : Option Nat
  isActive : Bool
  deriving Repr, DecidableEq

/-- The scanout left by `calloc`. -/
def Scanout.zero : Scanout := ⟨0, 0, Rect.zero, none, none, false⟩

/-- `images` and `dmabufs` hold the objects reached through pointers, with
their reference counts; a dmabuf's value is its file descriptor, and `openFds`
tells which of these descriptors are open. -/
structure GpuState where
  vmctx : Vmctx
  isBlobSupported : Bool
  r2dList : List Resource2d
  scanouts : List Scanout
  images : RefHeap Image
  dmabufs : RefHeap Int
  openFds : Int → Bool
  vgaEnable : Bool

/-- Answers of the allocator, the kernel and the display while one command
runs. -/
structure Env where
  r2dAlloc : Bool
  entriesAlloc : Bool
  iovAlloc : Bool
  imageRecordAlloc : Bool
  imageBitsAlloc : Bool
  imageCell : Nat
  udmabufFd : Int
  listAlloc : Bool
  infoAlloc : Bool
  dmaCell : Nat
  createList : Int
  displayInfo : Nat → Nat × Nat
  edid : Nat → Nat → UInt8

/-- Pixman gets the record of an image and the buffer for its pixels. -/
def Env.imageAlloc (env : Env) : Bool :=
  env.imageRecordAlloc && env.imageBitsAlloc

theorem Env.imageAlloc_iff {env : Env} : env.imageAlloc = true ↔
    env.imageRecordAlloc = true ∧ env.imageBitsAlloc = true :=
  Bool.and_eq_true_iff

/-- The allocator and the kernel never hand out what is in use.  Descriptor 0
is in use throughout: it is the standard input of the process or, where that
was closed before its start, one of the descriptors that are opened before the
first command and stay open. -/
structure Env.Fresh (env : Env) (gpu : GpuState) : Prop where
  image : gpu.images env.imageCell = none
  dmabuf : gpu.dmabufs env.dmaCell = none
  fd : gpu.openFds env.createList = false
  notStdin : env.createList ≠ 0

instance (env : Env) (gpu : GpuState) : Decidable (env.Fresh gpu) :=
  decidable_of_iff
    (gpu.images env.imageCell = none ∧ gpu.dmabufs env.dmaCell = none ∧
      gpu.openFds env.createList = false ∧ env.createList ≠ 0)
    ⟨fun fresh => ⟨fresh.1, fresh.2.1, fresh.2.2.1, fresh.2.2.2⟩,
      fun fresh => ⟨fresh.image, fresh.dmabuf, fresh.fd, fresh.notStdin⟩⟩

structure Env.Succeeds (env : Env) : Prop where
  r2d : env.r2dAlloc = true
  entries : env.entriesAlloc = true
  iov : env.iovAlloc = true
  image : env.imageAlloc = true
  list : env.listAlloc = true
  info : env.infoAlloc = true

instance (env : Env) : Decidable env.Succeeds :=
  decidable_of_iff
    (env.r2dAlloc = true ∧ env.entriesAlloc = true ∧ env.iovAlloc = true ∧
      env.imageAlloc = true ∧ env.listAlloc = true ∧ env.infoAlloc = true)
    ⟨fun all => ⟨all.1, all.2.1, all.2.2.1, all.2.2.2.1, all.2.2.2.2.1,
        all.2.2.2.2.2⟩,
      fun all => ⟨all.r2d, all.entries, all.iov, all.image, all.list,
        all.info⟩⟩

/-- Everything succeeds, and new objects come from cell and descriptor
`next`. -/
def Env.steady (next : Nat) : Env where
  r2dAlloc := true
  entriesAlloc := true
  iovAlloc := true
  imageRecordAlloc := true
  imageBitsAlloc := true
  imageCell := next
  udmabufFd := 3
  listAlloc := true
  infoAlloc := true
  dmaCell := next
  createList := next + 4
  displayInfo := fun _ => (1024, 768)
  edid := fun _ _ => 0

def liftHeap : Option α → Except Fault α
  | none => .error .useAfterFree
  | some value => .ok value

/-! Reference counting. -/

def pixmanImageRef (gpu : GpuState) : Option Nat → Except Fault GpuState
  | none => .error .nullImage
  | some cell => do
      let images ← liftHeap (gpu.images.ref cell)
      return { gpu with images := images }

def pixmanImageUnref (gpu : GpuState) : Option Nat → Except Fault GpuState
  | none => .error .nullImage
  | some cell => do
      let images ← liftHeap (gpu.images.unref cell)
      return { gpu with images := images }

/-- The fields of an image behind a pointer. -/
def derefImage (gpu : GpuState) : Option Nat → Except Fault Image
  | none => .error .nullImage
  | some cell => do
      let counted ← liftHeap (gpu.images cell)
      return counted.value

/-- The `dmabuf_fd` field behind a pointer. -/
def derefDmabuf (gpu : GpuState) : Option Nat → Except Fault Int
  | none => .error .nullDmaInfo
  | some cell => do
      let counted ← liftHeap (gpu.dmabufs cell)
      return counted.value

def virtioGpuDmabufRef (gpu : GpuState) : Option Nat → Except Fault GpuState
  | none => .ok gpu
  | some cell => do
      let dmabufs ← liftHeap (gpu.dmabufs.ref cell)
      return { gpu with dmabufs := dmabufs }

/-- The descriptors open after the last reference to a dmabuf is dropped. -/
def closeFd (openFds : Int → Bool) (fd : Int) : Int → Bool :=
  if fd > 0 then Function.update openFds fd false else openFds

def virtioGpuDmabufUnref (gpu : GpuState) : Option Nat → Except Fault GpuState
  | none => .ok gpu
  | some cell => do
      let counted ← liftHeap (gpu.dmabufs cell)
      let dmabufs ← liftHeap (gpu.dmabufs.unref cell)
      return { gpu with
        dmabufs := dmabufs
        openFds :=
          if counted.refs = 1 then closeFd gpu.openFds counted.value
          else gpu.openFds }

/-! Resources. -/

def virtioGpuFindResource2d (gpu : GpuState) (resourceId : Nat) :
    Option Resource2d :=
  gpu.r2dList.find? fun r2d => r2d.resourceId == resourceId

/-- `LIST_REMOVE` of the resource the search found. -/
def removeResource (r2dList : List Resource2d) (resourceId : Nat) :
    List Resource2d :=
  r2dList.eraseP fun r2d => r2d.resourceId == resourceId

/-- A write through the pointer the search returned. -/
def modifyResource (resourceId : Nat) (modify : Resource2d → Resource2d) :
    List Resource2d → List Resource2d
  | [] => []
  | r2d :: rest =>
      if r2d.resourceId == resourceId then
        modify r2d :: rest
      else
        r2d :: modifyResource resourceId modify rest

def virtioGpuGetPixmanFormat (format : Nat) : Nat :=
  if format = 2 then pixmanX8r8g8b8
  else if format = 1 then pixmanA8r8g8b8
  else if format = 4 then pixmanB8g8r8x8
  else if format = 3 then pixmanB8g8r8a8
  else if format = 134 then pixmanX8b8g8r8
  else if format = 67 then pixmanA8b8g8r8
  else if format = 68 then pixmanR8g8b8x8
  else if format = 121 then pixmanR8g8b8a8
  else 0

/-- The releases `virtio_gpu_reset` and `RESOURCE_UNREF` make for one
resource. -/
def releaseResource (gpu : GpuState) (r2d : Resource2d) :
    Except Fault GpuState := do
  let gpu ←
    match r2d.image with
    | none => pure gpu
    | some cell => pixmanImageUnref gpu (some cell)
  let gpu ←
    if r2d.blob then virtioGpuDmabufUnref gpu r2d.dmaInfo else pure gpu
  r2d.iov.free
  return gpu

/-! Scanouts. -/

def scanoutAt (gpu : GpuState) (scanoutId : Nat) : Scanout :=
  gpu.scanouts.getD scanoutId Scanout.zero

def setScanoutAt (gpu : GpuState) (scanoutId : Nat) (scanout : Scanout) :
    GpuState :=
  { gpu with scanouts := gpu.scanouts.set scanoutId scanout }

/-- Drop what the scanout holds. -/
def releaseScanout (gpu : GpuState) (scanout : Scanout) :
    Except Fault GpuState := do
  let gpu ← virtioGpuDmabufUnref gpu scanout.dmaBuf
  match scanout.curImg with
  | none => return gpu
  | some cell => pixmanImageUnref gpu (some cell)

def virtioGpuUpdateScanout (gpu : GpuState) (scanoutId resourceId : Nat)
    (scanRect : Rect) : Except Fault GpuState := do
  let scanout := scanoutAt gpu scanoutId
  let gpu ← releaseScanout gpu scanout
  let scanout :=
    { scanout with
      dmaBuf := none
      curImg := none
      resourceId := resourceId
      scanoutRect := scanRect }
  match virtioGpuFindResource2d gpu resourceId with
  | none => return setScanoutAt gpu scanoutId { scanout with isActive := false }
  | some r2d =>
      if r2d.blob then
        let gpu ← virtioGpuDmabufRef gpu r2d.dmaInfo
        return setScanoutAt gpu scanoutId
          { scanout with isActive := true, dmaBuf := r2d.dmaInfo }
      else
        let gpu ← pixmanImageRef gpu r2d.image
        return setScanoutAt gpu scanoutId
          { scanout with isActive := true, curImg := r2d.image }

def regionOfRect (rect : Rect) : Region16 :=
  pixmanRegionInitRect rect.x rect.y rect.width rect.height

def virtioGpuScanoutNeedsFlush (scanout : Scanout) (resourceId : Nat)
    (flushRect : Rect) : Bool :=
  if resourceId ≠ scanout.resourceId then
    false
  else
    pixmanRegionNotEmpty
      (pixmanRegionIntersect (regionOfRect scanout.scanoutRect)
        (regionOfRect flushRect))

/-! The first state, and reset. -/

def initialGpu (vmctx : Vmctx) (isBlobSupported : Bool) (scanoutNum : Nat) :
    GpuState where
  vmctx := vmctx
  isBlobSupported := isBlobSupported
  r2dList := []
  scanouts := List.replicate scanoutNum Scanout.zero
  images := RefHeap.empty
  dmabufs := RefHeap.empty
  openFds := fun _ => false
  vgaEnable := true

/-- The loop of `virtio_gpu_reset` over the resource list. -/
def releaseResources (gpu : GpuState) : List Resource2d → Except Fault GpuState
  | [] => .ok { gpu with r2dList := [] }
  | r2d :: rest => do
      let gpu ← releaseResource gpu r2d
      releaseResources { gpu with r2dList := rest } rest

/-- The part of `virtio_gpu_reset` before `virtio_reset_dev`. -/
def resetGpu (gpu : GpuState) : Except Fault GpuState := do
  let gpu ← releaseResources gpu gpu.r2dList
  return { gpu with vgaEnable := true }

end VirtioGpu.Gpu
