import VirtioGpu.Foundation.Memory

namespace VirtioGpu.Gpu

open Foundation

/-! The virtio-gpu wire format: command codes, request records as they are
copied out of guest memory, and responses as they are copied into it. -/

inductive CtrlCmd where
  | getDisplayInfo
  | resourceCreate2d
  | resourceUnref
  | setScanout
  | resourceFlush
  | transferToHost2d
  | resourceAttachBacking
  | resourceDetachBacking
  | getEdid
  | resourceCreateBlob
  | setScanoutBlob
  | setModifier
  deriving Repr, DecidableEq

namespace CtrlCmd

def code : CtrlCmd → Nat
  | getDisplayInfo => 0x0100
  | resourceCreate2d => 0x0101
  | resourceUnref => 0x0102
  | setScanout => 0x0103
  | resourceFlush => 0x0104
  | transferToHost2d => 0x0105
  | resourceAttachBacking => 0x0106
  | resourceDetachBacking => 0x0107
  | getEdid => 0x010a
  | resourceCreateBlob => 0x010c
  | setScanoutBlob => 0x010d
  | setModifier => 0x010e

/-- The case labels of the switch in `virtio_gpu_ctrl_bh`; any other type is
handled by its default branch. -/
def ofCode (type : Nat) : Option CtrlCmd :=
  [getDisplayInfo, resourceCreate2d, resourceUnref, setScanout, resourceFlush,
    transferToHost2d, resourceAttachBacking, resourceDetachBacking, getEdid,
    resourceCreateBlob, setScanoutBlob, setModifier].find?
      fun command => command.code == type

end CtrlCmd

inductive CursorCmd where
  | updateCursor
  | moveCursor
  deriving Repr, DecidableEq

def CursorCmd.ofCode (type : Nat) : Option CursorCmd :=
  if type = 0x0300 then some updateCursor
  else if type = 0x0301 then some moveCursor
  else none

inductive RespType where
  | okNodata
  | okDisplayInfo
  | okEdid
  | errUnspec
  | errOutOfMemory
  | errInvalidScanoutId
  | errInvalidResourceId
  | errInvalidParameter
  deriving Repr, DecidableEq

def RespType.code : RespType → Nat
  | okNodata => 0x1100
  | okDisplayInfo => 0x1101
  | okEdid => 0x1104
  | errUnspec => 0x1200
  | errOutOfMemory => 0x1201
  | errInvalidScanoutId => 0x1202
  | errInvalidResourceId => 0x1203
  | errInvalidParameter => 0x1205

def virtioGpuFlagFence : Nat := 1

structure CtrlHdr where
  type : Nat
  flags : Nat
  fenceId : Nat
  ctxId : Nat
  ringIdx : Nat
  deriving Repr, DecidableEq

namespace CtrlHdr

def size : Nat := 24

def load (memory : Memory) (address : Nat) : CtrlHdr where
  type := memory.load32 address
  flags := memory.load32 (address + 4)
  fenceId := memory.load64 (address + 8)
  ctxId := memory.load32 (address + 16)
  ringIdx := (memory (address + 20)).toNat

/-- The header left by `memset(&resp, 0, sizeof(resp))`. -/
def zero : CtrlHdr := ⟨0, 0, 0, 0, 0⟩

def Fenced (hdr : CtrlHdr) : Prop := hdr.flags &&& virtioGpuFlagFence ≠ 0

instance (hdr : CtrlHdr) : Decidable hdr.Fenced :=
  inferInstanceAs (Decidable (_ ≠ _))

def withType (hdr : CtrlHdr) (type : RespType) : CtrlHdr :=
  { hdr with type := type.code }

def bytes (hdr : CtrlHdr) : List UInt8 :=
  le32 hdr.type ++ le32 hdr.flags ++ le64 hdr.fenceId ++ le32 hdr.ctxId ++
    [UInt8.ofNat hdr.ringIdx, 0, 0, 0]

@[simp] theorem length_bytes (hdr : CtrlHdr) : hdr.bytes.length = size := rfl

end CtrlHdr

def virtioGpuUpdateRespFence (hdr resp : CtrlHdr) : CtrlHdr :=
  if hdr.flags &&& virtioGpuFlagFence ≠ 0 then
    { resp with
      flags := resp.flags ||| virtioGpuFlagFence
      fenceId := hdr.fenceId }
  else
    resp

structure Rect where
  x : Nat
  y : Nat
  width : Nat
  height : Nat
  deriving Repr, DecidableEq

def Rect.load (memory : Memory) (address : Nat) : Rect where
  x := memory.load32 address
  y := memory.load32 (address + 4)
  width := memory.load32 (address + 8)
  height := memory.load32 (address + 12)

/-- The rectangle of freshly zeroed memory. -/
def Rect.zero : Rect := ⟨0, 0, 0, 0⟩

/-! Request records. -/

structure GetEdid where
  scanout : Nat
  deriving Repr, DecidableEq

def GetEdid.size : Nat := 32

def GetEdid.load (memory : Memory) (address : Nat) : GetEdid where
  scanout := memory.load32 (address + 24)

structure ResourceCreate2d where
  resourceId : Nat
  format : Nat
  width : Nat
  height : Nat
  deriving Repr, DecidableEq

def ResourceCreate2d.size : Nat := 40

def ResourceCreate2d.load (memory : Memory) (address : Nat) :
    ResourceCreate2d where
  resourceId := memory.load32 (address + 24)
  format := memory.load32 (address + 28)
  width := memory.load32 (address + 32)
  height := memory.load32 (address + 36)

structure ResourceUnref where
  resourceId : Nat
  deriving Repr, DecidableEq

def ResourceUnref.size : Nat := 32

def ResourceUnref.load (memory : Memory) (address : Nat) : ResourceUnref where
  resourceId := memory.load32 (address + 24)

structure MemEntry where
  addr : Nat
  length : Nat
  deriving Repr, DecidableEq

def MemEntry.size : Nat := 16

def MemEntry.load (memory : Memory) (address : Nat) : MemEntry where
  addr := memory.load64 address
  length := memory.load32 (address + 8)

structure ResourceAttachBacking where
  resourceId : Nat
  nrEntries : Nat
  deriving Repr, DecidableEq

def ResourceAttachBacking.size : Nat := 32

def ResourceAttachBacking.load (memory : Memory) (address : Nat) :
    ResourceAttachBacking where
  resourceId := memory.load32 (address + 24)
  nrEntries := memory.load32 (address + 28)

structure ResourceDetachBacking where
  resourceId : Nat
  deriving Repr, DecidableEq

def ResourceDetachBacking.size : Nat := 32

def ResourceDetachBacking.load (memory : Memory) (address : Nat) :
    ResourceDetachBacking where
  resourceId := memory.load32 (address + 24)

structure SetScanout where
  r : Rect
  scanoutId : Nat
  resourceId : Nat
  deriving Repr, DecidableEq

def SetScanout.size : Nat := 48

def SetScanout.load (memory : Memory) (address : Nat) : SetScanout where
  r := Rect.load memory (address + 24)
  scanoutId := memory.load32 (address + 40)
  resourceId := memory.load32 (address + 44)

structure TransferToHost2d where
  r : Rect
  offset : Nat
  resourceId : Nat
  deriving Repr, DecidableEq

def TransferToHost2d.size : Nat := 56

def TransferToHost2d.load (memory : Memory) (address : Nat) :
    TransferToHost2d where
  r := Rect.load memory (address + 24)
  offset := memory.load64 (address + 40)
  resourceId := memory.load32 (address + 48)

structure ResourceFlush where
  r : Rect
  resourceId : Nat
  deriving Repr, DecidableEq

def ResourceFlush.size : Nat := 48

def ResourceFlush.load (memory : Memory) (address : Nat) : ResourceFlush where
  r := Rect.load memory (address + 24)
  resourceId := memory.load32 (address + 40)

/-- The request of both cursor commands. -/
structure UpdateCursor where
  scanoutId : Nat
  x : Nat
  y : Nat
  resourceId : Nat
  hotX : Nat
  hotY : Nat
  deriving Repr, DecidableEq

def UpdateCursor.size : Nat := 56

def UpdateCursor.load (memory : Memory) (address : Nat) : UpdateCursor where
  scanoutId := memory.load32 (address + 24)
  x := memory.load32 (address + 28)
  y := memory.load32 (address + 32)
  resourceId := memory.load32 (address + 40)
  hotX := memory.load32 (address + 44)
  hotY := memory.load32 (address + 48)

def virtioGpuBlobMemGuest : Nat := 1
def virtioGpuBlobFlagUseShareable : Nat := 2
def cursorBlobSize : Nat := 16 * 1024

structure ResourceCreateBlob where
  resourceId : Nat
  blobMem : Nat
  blobFlags : Nat
  nrEntries : Nat
  size : Nat
  deriving Repr, DecidableEq

def ResourceCreateBlob.length : Nat := 56

def ResourceCreateBlob.load (memory : Memory) (address : Nat) :
    ResourceCreateBlob where
  resourceId := memory.load32 (address + 24)
  blobMem := memory.load32 (address + 28)
  blobFlags := memory.load32 (address + 32)
  nrEntries := memory.load32 (address + 36)
  size := memory.load64 (address + 48)

/-- `width`, `height` and the planes after the first are never read. -/
structure SetScanoutBlob where
  r : Rect
  scanoutId : Nat
  resourceId : Nat
  format : Nat
  stride : Nat
  offset : Nat
  deriving Repr, DecidableEq

def SetScanoutBlob.size : Nat := 96

def SetScanoutBlob.load (memory : Memory) (address : Nat) :
    SetScanoutBlob where
  r := Rect.load memory (address + 24)
  scanoutId := memory.load32 (address + 40)
  resourceId := memory.load32 (address + 44)
  format := memory.load32 (address + 56)
  stride := memory.load32 (address + 64)
  offset := memory.load32 (address + 80)

structure SetModifier where
  modifier : Nat
  scanoutId : Nat
  deriving Repr, DecidableEq

def SetModifier.size : Nat := 40

def SetModifier.load (memory : Memory) (address : Nat) : SetModifier where
  modifier := memory.load64 (address + 24)
  scanoutId := memory.load32 (address + 32)

/-! Responses. -/

def virtioGpuMaxScanouts : Nat := 16
def virtioGpuEdidSize : Nat := 256

structure DisplayOne where
  r : Rect
  enabled : Nat
  deriving Repr, DecidableEq

def DisplayOne.bytes (mode : DisplayOne) : List UInt8 :=
  le32 mode.r.x ++ le32 mode.r.y ++ le32 mode.r.width ++ le32 mode.r.height ++
    le32 mode.enabled ++ le32 0

@[simp] theorem DisplayOne.length_bytes (mode : DisplayOne) :
    mode.bytes.length = 24 := rfl

/-- What follows the header in a response: `edid` is a function of the
position in the 1024-byte array, `displayInfo` of the position in `pmodes`. -/
inductive RespBody where
  | nodata
  | edid (size : Nat) (data : Nat → UInt8)
  | displayInfo (pmodes : Nat → DisplayOne)

namespace RespBody

def length : RespBody → Nat
  | nodata => 0
  | edid _ _ => 1032
  | displayInfo _ => 384

def bytes : RespBody → List UInt8
  | nodata => []
  | edid size data => le32 size ++ le32 0 ++ (List.range 1024).map data
  | displayInfo pmodes =>
      (List.range virtioGpuMaxScanouts).flatMap fun index =>
        (pmodes index).bytes

@[simp] theorem length_bytes (body : RespBody) :
    body.bytes.length = body.length := by
  cases body with
  | nodata => rfl
  | edid size data => simp [bytes, length]
  | displayInfo pmodes =>
      simp [bytes, length, virtioGpuMaxScanouts, List.length_flatMap]

end RespBody

structure Resp where
  hdr : CtrlHdr
  body : RespBody

namespace Resp

/-- `sizeof(resp)` of the handler's response variable. -/
def size (resp : Resp) : Nat := CtrlHdr.size + resp.body.length

def bytes (resp : Resp) : List UInt8 := resp.hdr.bytes ++ resp.body.bytes

@[simp] theorem length_bytes (resp : Resp) :
    resp.bytes.length = resp.size := by
  simp [bytes, size]

def nodata (hdr : CtrlHdr) : Resp := ⟨hdr, .nodata⟩

end Resp

end VirtioGpu.Gpu
