import VirtioGpu.Gpu.State

namespace VirtioGpu.Gpu

open Foundation
open Virtio

/-! Commands on the resource table.  Every handler copies its request from
`iov[0]`, and every exit copies one response into one slot of the chain. -/

/-- One chain as its handler sees it; `iov` has the slots of earlier chains
behind the first `iovcnt`. -/
structure Command where
  hdr : CtrlHdr
  iov : Nat → IoVec
  iovcnt : Nat
  iolen : Nat

/-- Host address of a slot's buffer. -/
def Command.base (cmd : Command) (slot : Nat) : Except Fault Nat :=
  match (cmd.iov slot).base with
  | none => .error .nullPointer
  | some address => .ok address

/-- Host address of the request. -/
def Command.address (cmd : Command) : Nat := ((cmd.iov 0).base).getD 0

theorem base_eq_ok {cmd : Command} {slot address : Nat}
    (based : cmd.base slot = .ok address) :
    (cmd.iov slot).base = some address := by
  unfold Command.base at based
  cases found : (cmd.iov slot).base with
  | none =>
      rw [found] at based
      cases based
  | some host =>
      rw [found] at based
      cases based
      rfl

theorem address_of_base {cmd : Command} {address : Nat}
    (based : cmd.base 0 = .ok address) : cmd.address = address := by
  rw [Command.address, base_eq_ok based, Option.getD_some]

/-- `len` bytes read from the start of the buffer of `iov[slot]`. -/
structure Access where
  slot : Nat
  len : Nat
  deriving Repr, DecidableEq

/-- A surface handed to the display: an image buffer and a byte offset in it,
or a dmabuf. -/
inductive Surface where
  | pixman (format : Nat) (rect : Rect) (stride : Nat) (cell : Option Nat)
      (pixel : Nat)
  | dmabuf (rect : Rect) (stride : Nat) (fd : Int) (fourcc offset : Nat)
  | dmabufUpdate (fd : Int)
  deriving Repr, DecidableEq

inductive DisplayCall where
  | surfaceSet (scanoutId : Nat) (surface : Option Surface)
  | surfaceUpdate (scanoutId : Nat) (surface : Surface)
  | setModifier (scanoutId modifier : Nat)
  | cursorDefine (scanoutId x y hotX hotY width height : Nat)
      (cell : Option Nat)
  | cursorMove (scanoutId x y : Nat)
  deriving Repr, DecidableEq

/-- What a control handler leaves behind: the device, `cmd->iolen`, the
response and its slot, the request bytes it read, the guest ranges it
translated and the calls it made to the display. -/
structure Reply where
  gpu : GpuState
  iolen : Nat
  slot : Nat
  resp : Resp
  reads : List Access
  calls : List Translation := []
  display : List DisplayCall := []

/-- The response header of `hdr`'s request with nothing but its fence set. -/
def fencedHdr (hdr : CtrlHdr) : CtrlHdr :=
  virtioGpuUpdateRespFence hdr CtrlHdr.zero

def virtioGpuCmdUnspec (gpu : GpuState) (cmd : Command) : Except Fault Reply :=
  .ok
    { gpu := gpu
      iolen := CtrlHdr.size
      slot := cmd.iovcnt - 1
      resp := .nodata ((fencedHdr cmd.hdr).withType .errUnspec)
      reads := [] }

def virtioGpuCmdGetEdid (env : Env) (gpu : GpuState) (cmd : Command)
    (memory : Memory) : Except Fault Reply := do
  let address ← cmd.base 0
  let req := GetEdid.load memory address
  if req.scanout ≥ gpu.scanouts.length then
    -- `pr_err` is given the id where its format has `%s`.
    .error .formatString
  else
    let resp : Resp :=
      ⟨(fencedHdr cmd.hdr).withType .okEdid,
        .edid virtioGpuEdidSize fun index =>
          if index < virtioGpuEdidSize then env.edid req.scanout index else 0⟩
    return {
      gpu := gpu
      iolen := resp.size
      slot := 1
      resp := resp
      reads := [⟨0, GetEdid.size⟩] }

def virtioGpuCmdGetDisplayInfo (env : Env) (gpu : GpuState) (cmd : Command) :
    Except Fault Reply :=
  let resp : Resp :=
    ⟨(fencedHdr cmd.hdr).withType .okDisplayInfo,
      .displayInfo fun index =>
        if index < gpu.scanouts.length then
          ⟨⟨0, 0, (env.displayInfo index).1, (env.displayInfo index).2⟩, 1⟩
        else
          ⟨Rect.zero, 0⟩⟩
  .ok
    { gpu := gpu
      iolen := resp.size
      slot := 1
      resp := resp
      reads := [] }

/-- The exits shared by handlers whose response is a bare header. -/
def answer (gpu : GpuState) (cmd : Command) (type : RespType) (slot : Nat)
    (reads : List Access) : Reply where
  gpu := gpu
  iolen := CtrlHdr.size
  slot := slot
  resp := .nodata ((fencedHdr cmd.hdr).withType type)
  reads := reads

/-- Create an image, recording it under the cell the allocator chose. -/
def createImage (env : Env) (gpu : GpuState) (format width height : Nat) :
    Except Fault (GpuState × Option Nat) := do
  let image ← pixmanImageCreateBits env.imageRecordAlloc env.imageBitsAlloc
    format width height
  match image with
  | none => return (gpu, none)
  | some image =>
      return ({ gpu with images := gpu.images.alloc env.imageCell image },
        some env.imageCell)

def insertResource (gpu : GpuState) (r2d : Resource2d) : GpuState :=
  { gpu with r2dList := r2d :: gpu.r2dList }

def virtioGpuCmdResourceCreate2d (env : Env) (gpu : GpuState) (cmd : Command)
    (memory : Memory) : Except Fault Reply := do
  let address ← cmd.base 0
  let req := ResourceCreate2d.load memory address
  let reads : List Access := [⟨0, ResourceCreate2d.size⟩]
  match virtioGpuFindResource2d gpu req.resourceId with
  | some _ => return answer gpu cmd .errInvalidResourceId 1 reads
  | none =>
      if !env.r2dAlloc then
        return answer gpu cmd .errOutOfMemory 1 reads
      else
        let format := virtioGpuGetPixmanFormat req.format
        let (gpu, image) ← createImage env gpu format req.width req.height
        match image with
        | none => return answer gpu cmd .errOutOfMemory 1 reads
        | some cell =>
            let r2d :=
              { Resource2d.fresh req.resourceId with
                width := req.width
                height := req.height
                format := format
                image := some cell }
            return answer (insertResource gpu r2d) cmd .okNodata 1 reads

def virtioGpuCmdResourceUnref (gpu : GpuState) (cmd : Command)
    (memory : Memory) : Except Fault Reply := do
  let address ← cmd.base 0
  let req := ResourceUnref.load memory address
  let reads : List Access := [⟨0, ResourceUnref.size⟩]
  match virtioGpuFindResource2d gpu req.resourceId with
  | none => return answer gpu cmd .errInvalidResourceId 1 reads
  | some r2d =>
      let gpu ← releaseResource gpu r2d
      return answer
        { gpu with r2dList := removeResource gpu.r2dList req.resourceId }
        cmd .okNodata 1 reads

/-! Memory entries, gathered from the descriptors between the request and the
response. -/

/-- The slots of the descriptors between the first and the last. -/
def Command.middle (cmd : Command) : List Nat :=
  (List.range (cmd.iovcnt - 2)).map fun index => index + 1

def Command.middleReads (cmd : Command) : List Access :=
  cmd.middle.map fun slot => ⟨slot, (cmd.iov slot).len⟩

/-- The bytes the gathering loop copies, one descriptor after the other. -/
def gatherBytes (cmd : Command) (memory : Memory) :
    Except Fault (List UInt8) := do
  let parts ← cmd.middle.mapM fun slot => do
    let address ← cmd.base slot
    return memory.read address (cmd.iov slot).len
  return parts.flatten

/-- The array of `nrEntries` zeroed records after the gathering loop. -/
def gatherEntries (cmd : Command) (memory : Memory) (nrEntries : Nat) :
    Except Fault (List MemEntry) := do
  let bytes ← gatherBytes cmd memory
  if bytes.length > nrEntries * MemEntry.size then
    .error .heapOverflow
  else
    return (List.range nrEntries).map fun index =>
      MemEntry.load (fun position => bytes.getD position 0)
        (index * MemEntry.size)

def backingOf (ctx : Vmctx) (entries : List MemEntry) : List IoVec :=
  entries.map fun entry =>
    ⟨paddrGuest2host ctx entry.addr entry.length, entry.length⟩

def backingCalls (ctx : Vmctx) (entries : List MemEntry) : List Translation :=
  entries.map fun entry => translate ctx entry.addr entry.length

def setBacking (gpu : GpuState) (resourceId : Nat) (iov : IovArray)
    (iovcnt : Nat) : GpuState :=
  { gpu with
    r2dList := modifyResource resourceId
      (fun r2d => { r2d with iov := iov, iovcnt := iovcnt }) gpu.r2dList }

def virtioGpuCmdResourceAttachBacking (env : Env) (gpu : GpuState)
    (cmd : Command) (memory : Memory) : Except Fault Reply := do
  let address ← cmd.base 0
  let req := ResourceAttachBacking.load memory address
  let reads : List Access := [⟨0, ResourceAttachBacking.size⟩]
  let last := cmd.iovcnt - 1
  if cmd.iovcnt < 2 then
    return {
      gpu := gpu
      iolen := cmd.iolen
      slot := last
      resp := .nodata (CtrlHdr.zero.withType .errInvalidParameter)
      reads := reads }
  else
    match virtioGpuFindResource2d gpu req.resourceId with
    | none => return answer gpu cmd .okNodata last reads
    | some _ =>
        if req.nrEntries = 0 then
          return answer gpu cmd .okNodata last reads
        else if !env.iovAlloc then
          return answer gpu cmd .errOutOfMemory last reads
        else if !env.entriesAlloc then
          return answer (setBacking gpu req.resourceId .freed req.nrEntries)
            cmd .errOutOfMemory last reads
        else
          let entries ← gatherEntries cmd memory req.nrEntries
          let backing := IovArray.live (backingOf gpu.vmctx entries)
          return { answer
              (setBacking gpu req.resourceId backing req.nrEntries)
              cmd .okNodata last (reads ++ cmd.middleReads) with
            calls := backingCalls gpu.vmctx entries }

def virtioGpuCmdResourceDetachBacking (gpu : GpuState) (cmd : Command)
    (memory : Memory) : Except Fault Reply := do
  let address ← cmd.base 0
  let req := ResourceDetachBacking.load memory address
  let reads : List Access := [⟨0, ResourceDetachBacking.size⟩]
  match virtioGpuFindResource2d gpu req.resourceId with
  | none => return answer gpu cmd .okNodata 1 reads
  | some r2d =>
      r2d.iov.free
      return answer (setBacking gpu req.resourceId .null r2d.iovcnt) cmd
        .okNodata 1 reads

/-! Blob resources. -/

/-- `udmabuf_fd` is opened once; `env.udmabufFd` is what it returns. -/
def virtioGpuCreateUdmabuf (env : Env) (gpu : GpuState)
    (entries : List MemEntry) : GpuState × Option Nat :=
  if env.udmabufFd < 0 then
    (gpu, none)
  else if !env.infoAlloc || !env.listAlloc ||
      decide (entries.length ≥ 2147483648) then
    (gpu, none)
  else if entries.any fun entry =>
      (vmFindMemfdRegion gpu.vmctx entry.addr).isNone then
    (gpu, none)
  else if env.createList < 0 then
    (gpu, none)
  else
    ({ gpu with
        dmabufs := gpu.dmabufs.alloc env.dmaCell env.createList
        openFds := Function.update gpu.openFds env.createList true },
      some env.dmaCell)

def virtioGpuCmdCreateBlob (env : Env) (gpu : GpuState) (cmd : Command)
    (memory : Memory) : Except Fault Reply := do
  let address ← cmd.base 0
  let req := ResourceCreateBlob.load memory address
  let reads : List Access := [⟨0, ResourceCreateBlob.length⟩]
  let last := cmd.iovcnt - 1
  let r2d := Resource2d.fresh req.resourceId
  if req.resourceId = 0 then
    return answer gpu cmd .errInvalidResourceId last reads
  else if cmd.iovcnt < 2 then
    return answer gpu cmd .errInvalidParameter last reads
  else if req.blobMem ≠ virtioGpuBlobMemGuest ∨
      req.blobFlags ≠ virtioGpuBlobFlagUseShareable then
    return answer gpu cmd .errInvalidParameter last reads
  else
    match virtioGpuFindResource2d gpu req.resourceId with
    | some _ => return answer gpu cmd .errInvalidResourceId last reads
    | none =>
        if !env.r2dAlloc then
          return answer gpu cmd .errOutOfMemory last reads
        else if req.nrEntries = 0 then
          return answer (insertResource gpu r2d) cmd .okNodata last reads
        else if !env.entriesAlloc then
          return answer gpu cmd .errOutOfMemory last reads
        else
          let entries ← gatherEntries cmd memory req.nrEntries
          let reads := reads ++ cmd.middleReads
          if req.size > cursorBlobSize then
            let (gpu, dmaInfo) := virtioGpuCreateUdmabuf env gpu entries
            match dmaInfo with
            | none => return answer gpu cmd .errUnspec last reads
            | some cell =>
                return answer
                  (insertResource gpu
                    { r2d with blob := true, dmaInfo := some cell })
                  cmd .okNodata last reads
          else
            let (gpu, image) ← createImage env gpu pixmanA8r8g8b8 64 64
            if !env.iovAlloc then
              return answer gpu cmd .errOutOfMemory last reads
            else
              let r2d :=
                { r2d with
                  width := 64
                  height := 64
                  format := pixmanA8r8g8b8
                  image := image
                  iov := .live (backingOf gpu.vmctx entries)
                  iovcnt := req.nrEntries }
              return { answer (insertResource gpu r2d) cmd .okNodata last
                  reads with
                calls := backingCalls gpu.vmctx entries }

end VirtioGpu.Gpu
