import VirtioGpu.Gpu.Resource

namespace VirtioGpu.Gpu

open Foundation
open Virtio

/-! Commands that move pixels and drive scanouts, and the two dispatchers. -/

/-- Addition of `uint32_t` values. -/
def add32 (left right : Nat) : Nat := (left + right) % 4294967296

/-- The bounds test of `SET_SCANOUT` and `TRANSFER_TO_HOST_2D`, in `uint32_t`
arithmetic. -/
def rectInside (r : Rect) (r2d : Resource2d) : Bool :=
  !(decide (r.x > r2d.width) || decide (r.y > r2d.height) ||
    decide (r.width > r2d.width) || decide (r.height > r2d.height) ||
    decide (add32 r.x r.width > r2d.width) ||
    decide (add32 r.y r.height > r2d.height))

/-- The surface `SET_SCANOUT` and `RESOURCE_FLUSH` describe for a rectangle of
a resource.  The two 32-bit products are added to the pointer. -/
def pixmanSurface (r2d : Resource2d) (image : Image) (rect : Rect) : Surface :=
  let bytesPp := pixmanFormatBpp r2d.format / 8
  .pixman r2d.format rect image.stride r2d.image
    (bytesPp * rect.x % 4294967296 + rect.y * image.stride % 4294967296)

/-- A reply to a command that leaves `cmd->iolen` alone on this exit. -/
def answerKeepingIolen (gpu : GpuState) (cmd : Command) (type : RespType)
    (slot : Nat) (reads : List Access) : Reply :=
  { answer gpu cmd type slot reads with iolen := cmd.iolen }

def virtioGpuCmdSetScanout (gpu : GpuState) (cmd : Command)
    (memory : Memory) : Except Fault Reply := do
  let address ← cmd.base 0
  let req := SetScanout.load memory address
  let reads : List Access := [⟨0, SetScanout.size⟩]
  if req.scanoutId ≥ gpu.scanouts.length then
    -- As in `virtio_gpu_cmd_get_edid`, the log call takes the id for a string.
    .error .formatString
  else
    let gpu := setScanoutAt gpu req.scanoutId
      { scanoutAt gpu req.scanoutId with scanoutId := req.scanoutId }
    let found := virtioGpuFindResource2d gpu req.resourceId
    match (if req.resourceId = 0 then none else found) with
    | none =>
        let gpu ← virtioGpuUpdateScanout gpu req.scanoutId 0 req.r
        return { answerKeepingIolen gpu cmd .okNodata 1 reads with
          display := [.surfaceSet req.scanoutId none] }
    | some r2d =>
        if !rectInside req.r r2d then
          return answer { gpu with vgaEnable := false } cmd
            .errInvalidParameter 1 reads
        else
          let gpu ←
            virtioGpuUpdateScanout gpu req.scanoutId req.resourceId req.r
          let gpu ← pixmanImageRef gpu r2d.image
          let image ← derefImage gpu r2d.image
          let gpu ← pixmanImageUnref gpu r2d.image
          return { answer { gpu with vgaEnable := false } cmd
              .okNodata 1 reads with
            display := [.surfaceSet req.scanoutId
              (some (pixmanSurface r2d image req.r))] }

/-! The row loop of `TRANSFER_TO_HOST_2D`. -/

/-- The entries a row visits: `r2d->iov[0 .. r2d->iovcnt)`. -/
def backingEntries (r2d : Resource2d) : Except Fault (List IoVec) :=
  if r2d.iovcnt = 0 then
    .ok []
  else
    match r2d.iov with
    | .null => .error .nullPointer
    | .freed => .error .useAfterFree
    | .live entries =>
        if entries.length < r2d.iovcnt then
          .error .heapOverflow
        else
          .ok (entries.take r2d.iovcnt)

/-- One row: `done` of `total` bytes are already at `dst`, and `srcOffset`
bytes of the remaining entries are skipped. -/
def transferRow (memory : Memory) (bufSize dst total : Nat) :
    List IoVec → Nat → Nat → Memory → Except Fault Memory
  | [], _, _, data => .ok data
  | entry :: rest, srcOffset, done, data =>
      match entry.base with
      | none => transferRow memory bufSize dst total rest srcOffset done data
      | some base =>
          if entry.len = 0 then
            transferRow memory bufSize dst total rest srcOffset done data
          else if srcOffset < entry.len then
            let bytes := min (total - done) (entry.len - srcOffset)
            if bytes ≠ 0 ∧ bufSize < dst + done + bytes then
              .error .heapOverflow
            else
              let data := data.store (dst + done)
                (memory.read (base + srcOffset) bytes)
              if done + bytes ≥ total then
                .ok data
              else
                transferRow memory bufSize dst total rest 0 (done + bytes) data
          else
            transferRow memory bufSize dst total rest (srcOffset - entry.len)
              done data

/-- The rows `h` of the transfer, in order. -/
def transferRows (memory : Memory) (req : TransferToHost2d) (r2d : Resource2d)
    (image : Image) : List Nat → Memory → Except Fault Memory
  | [], data => .ok data
  | h :: rest, data => do
      let entries ← backingEntries r2d
      let bpp := pixmanFormatBpp image.format / 8
      let srcOffset := (req.offset + image.stride * h) % 4294967296
      let dstOffset :=
        ((req.r.y + h) * image.stride + req.r.x * bpp) % 4294967296
      let total := min req.r.width r2d.width * bpp % 4294967296
      let data ← transferRow memory image.bufSize dstOffset total entries
        srcOffset 0 data
      transferRows memory req r2d image rest data

def virtioGpuCmdTransferToHost2d (gpu : GpuState) (cmd : Command)
    (memory : Memory) : Except Fault Reply := do
  let address ← cmd.base 0
  let req := TransferToHost2d.load memory address
  let reads : List Access := [⟨0, TransferToHost2d.size⟩]
  match virtioGpuFindResource2d gpu req.resourceId with
  | none => return answerKeepingIolen gpu cmd .errInvalidResourceId 1 reads
  | some r2d =>
      if r2d.blob then
        return answerKeepingIolen gpu cmd .okNodata 1 reads
      else if !rectInside req.r r2d then
        return answer gpu cmd .errInvalidParameter 1 reads
      else
        let gpu ← pixmanImageRef gpu r2d.image
        let image ← derefImage gpu r2d.image
        let data ← transferRows memory req r2d image
          (List.range (min req.r.height r2d.height)) image.data
        let gpu :=
          { gpu with
            images := gpu.images.set (r2d.image.getD 0)
              { image with data := data } }
        let gpu ← pixmanImageUnref gpu r2d.image
        return answer gpu cmd .okNodata 1 reads

/-- The scanouts `RESOURCE_FLUSH` updates, with their positions. -/
def scanoutsToFlush (gpu : GpuState) (resourceId : Nat) (flushRect : Rect) :
    List (Nat × Scanout) :=
  ((List.range gpu.scanouts.length).map fun index =>
    (index, scanoutAt gpu index)).filter fun entry =>
      virtioGpuScanoutNeedsFlush entry.2 resourceId flushRect

def virtioGpuCmdResourceFlush (gpu : GpuState) (cmd : Command)
    (memory : Memory) : Except Fault Reply := do
  let address ← cmd.base 0
  let req := ResourceFlush.load memory address
  let reads : List Access := [⟨0, ResourceFlush.size⟩]
  let flushed := scanoutsToFlush gpu req.resourceId req.r
  match virtioGpuFindResource2d gpu req.resourceId with
  | none => return answerKeepingIolen gpu cmd .errInvalidResourceId 1 reads
  | some r2d =>
      if r2d.blob then
        let gpu ← virtioGpuDmabufRef gpu r2d.dmaInfo
        let display ← flushed.mapM fun entry => do
          let fd ← derefDmabuf gpu r2d.dmaInfo
          return DisplayCall.surfaceUpdate entry.1 (.dmabufUpdate fd)
        let gpu ← virtioGpuDmabufUnref gpu r2d.dmaInfo
        return { answerKeepingIolen gpu cmd .okNodata 1 reads with
          display := display }
      else
        let gpu ← pixmanImageRef gpu r2d.image
        let image ← derefImage gpu r2d.image
        let display := flushed.map fun entry =>
          DisplayCall.surfaceUpdate entry.1
            (pixmanSurface r2d image entry.2.scanoutRect)
        let gpu ← pixmanImageUnref gpu r2d.image
        return { answer gpu cmd .okNodata 1 reads with display := display }

def virtioGpuCmdSetModifier (gpu : GpuState) (cmd : Command)
    (memory : Memory) : Except Fault Reply := do
  let address ← cmd.base 0
  let req := SetModifier.load memory address
  let type : RespType :=
    if cmd.iovcnt < 2 then .errInvalidParameter else .okNodata
  return {
    gpu := gpu
    iolen := CtrlHdr.size
    slot := cmd.iovcnt - 1
    resp := .nodata (CtrlHdr.zero.withType type)
    reads := [⟨0, SetModifier.size⟩]
    display :=
      if cmd.iovcnt < 2 then []
      else [.setModifier req.scanoutId req.modifier] }

def fourccCode (a b c d : Char) : Nat :=
  a.toNat ||| b.toNat <<< 8 ||| c.toNat <<< 16 ||| d.toNat <<< 24

def drmFormatAbgr8888 : Nat := fourccCode 'A' 'B' '2' '4'
def drmFormatArgb8888 : Nat := fourccCode 'A' 'R' '2' '4'
def drmFormatXbgr8888 : Nat := fourccCode 'X' 'B' '2' '4'
def drmFormatXrgb8888 : Nat := fourccCode 'X' 'R' '2' '4'

def drmFourcc (format : Nat) : Nat :=
  if format = 2 then drmFormatXrgb8888
  else if format = 1 then drmFormatArgb8888
  else if format = 67 then drmFormatAbgr8888
  else if format = 134 then drmFormatXbgr8888
  else drmFormatArgb8888

def virtioGpuCmdSetScanoutBlob (gpu : GpuState) (cmd : Command)
    (memory : Memory) : Except Fault Reply := do
  let address ← cmd.base 0
  let req := SetScanoutBlob.load memory address
  let reads : List Access := [⟨0, SetScanoutBlob.size⟩]
  let last := cmd.iovcnt - 1
  let gpu := { gpu with vgaEnable := false }
  if req.scanoutId ≥ gpu.scanouts.length then
    .error .formatString
  else
    let gpu := setScanoutAt gpu req.scanoutId
      { scanoutAt gpu req.scanoutId with scanoutId := req.scanoutId }
    if req.resourceId = 0 then
      let gpu ← virtioGpuUpdateScanout gpu req.scanoutId 0 req.r
      return { answer gpu cmd .okNodata last reads with
        display := [.surfaceSet req.scanoutId none] }
    else
      match virtioGpuFindResource2d gpu req.resourceId with
      | none => return answer gpu cmd .errInvalidResourceId last reads
      | some r2d =>
          if !r2d.blob then
            let reply ← virtioGpuCmdSetScanout gpu
              { cmd with iolen := CtrlHdr.size } memory
            return { reply with reads := reads ++ reply.reads }
          else
            let gpu ←
              virtioGpuUpdateScanout gpu req.scanoutId req.resourceId req.r
            let gpu ← virtioGpuDmabufRef gpu r2d.dmaInfo
            let fd ← derefDmabuf gpu r2d.dmaInfo
            let gpu ← virtioGpuDmabufUnref gpu r2d.dmaInfo
            return { answer gpu cmd .okNodata last reads with
              display := [.surfaceSet req.scanoutId (some (.dmabuf req.r
                req.stride fd (drmFourcc req.format)
                ((req.offset + 4 * req.r.x + req.r.y * req.stride) %
                  4294967296)))] }

/-- The switch of `virtio_gpu_ctrl_bh`. -/
def ctrlDispatch (env : Env) (gpu : GpuState) (cmd : Command)
    (memory : Memory) : Except Fault Reply :=
  match CtrlCmd.ofCode cmd.hdr.type with
  | some .getEdid => virtioGpuCmdGetEdid env gpu cmd memory
  | some .getDisplayInfo => virtioGpuCmdGetDisplayInfo env gpu cmd
  | some .resourceCreate2d => virtioGpuCmdResourceCreate2d env gpu cmd memory
  | some .resourceUnref => virtioGpuCmdResourceUnref gpu cmd memory
  | some .resourceAttachBacking =>
      virtioGpuCmdResourceAttachBacking env gpu cmd memory
  | some .resourceDetachBacking =>
      virtioGpuCmdResourceDetachBacking gpu cmd memory
  | some .setScanout => virtioGpuCmdSetScanout gpu cmd memory
  | some .transferToHost2d => virtioGpuCmdTransferToHost2d gpu cmd memory
  | some .resourceFlush => virtioGpuCmdResourceFlush gpu cmd memory
  | some .resourceCreateBlob =>
      if !gpu.isBlobSupported then virtioGpuCmdUnspec gpu cmd
      else virtioGpuCmdCreateBlob env gpu cmd memory
  | some .setScanoutBlob =>
      if !gpu.isBlobSupported then virtioGpuCmdUnspec gpu cmd
      else virtioGpuCmdSetScanoutBlob gpu cmd memory
  | some .setModifier => virtioGpuCmdSetModifier gpu cmd memory
  | none => virtioGpuCmdUnspec gpu cmd

/-! The cursor queue.  Its commands have no response. -/

structure CursorReply where
  gpu : GpuState
  reads : List Access
  display : List DisplayCall

def virtioGpuCmdUpdateCursor (gpu : GpuState) (cmd : Command)
    (memory : Memory) : Except Fault CursorReply := do
  let address ← cmd.base 0
  let req := UpdateCursor.load memory address
  let reads : List Access := [⟨0, UpdateCursor.size⟩]
  if req.resourceId = 0 then
    return ⟨gpu, reads, []⟩
  else
    match virtioGpuFindResource2d gpu req.resourceId with
    | none => return ⟨gpu, reads, []⟩
    | some r2d =>
        let gpu ← pixmanImageRef gpu r2d.image
        let gpu ← pixmanImageUnref gpu r2d.image
        return ⟨gpu, reads, [.cursorDefine req.scanoutId req.x req.y req.hotX
          req.hotY r2d.width r2d.height r2d.image]⟩

def virtioGpuCmdMoveCursor (gpu : GpuState) (cmd : Command)
    (memory : Memory) : Except Fault CursorReply := do
  let address ← cmd.base 0
  let req := UpdateCursor.load memory address
  return ⟨gpu, [⟨0, UpdateCursor.size⟩],
    [.cursorMove req.scanoutId req.x req.y]⟩

/-- The switch of `virtio_gpu_cursor_bh`. -/
def cursorDispatch (gpu : GpuState) (cmd : Command) (memory : Memory) :
    Except Fault CursorReply :=
  match CursorCmd.ofCode cmd.hdr.type with
  | some .updateCursor => virtioGpuCmdUpdateCursor gpu cmd memory
  | some .moveCursor => virtioGpuCmdMoveCursor gpu cmd memory
  | none => .ok ⟨gpu, [], []⟩

end VirtioGpu.Gpu
