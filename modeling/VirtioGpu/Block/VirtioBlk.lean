import VirtioGpu.Block.Queue
import VirtioGpu.Block.Transfer
import VirtioGpu.Virtio.Chain
import Mathlib.Algebra.GroupWithZero.Nat

namespace VirtioGpu.Block

open Foundation
open Virtio

/-! The device in front of a context: one chain of its queue is one request,
whose descriptors are a header, the data and a status byte. -/

def virtioBlkRingsz : Nat := 64

def devBsize : Nat := 512

def virtioBlkSOk : UInt8 := 0
def virtioBlkSIoerr : UInt8 := 1
def virtioBlkSUnsupp : UInt8 := 2

def eperm : Int := 1
def enosys : Int := 38

inductive VbhOp where
  | read
  | write
  | flush
  | flushOut
  | ident
  | discard
  deriving Repr, DecidableEq

/-- The cases of the switch over `type`. -/
def VbhOp.ofType (type : Nat) : Option VbhOp :=
  if type = 0 then some .read
  else if type = 1 then some .write
  else if type = 4 then some .flush
  else if type = 5 then some .flushOut
  else if type = 8 then some .ident
  else if type = 11 then some .discard
  else none

structure VirtioBlkHdr where
  type : Nat
  ioprio : Nat
  sector : Nat
  deriving Repr, DecidableEq

namespace VirtioBlkHdr

def size : Nat := 16

def load (memory : Memory) (address : Nat) : VirtioBlkHdr where
  type := memory.load32 address
  ioprio := memory.load32 (address + 4)
  sector := memory.load64 (address + 8)

def bytes (hdr : VirtioBlkHdr) : List UInt8 :=
  le32 hdr.type ++ le32 hdr.ioprio ++ le64 hdr.sector

/-- `type` without the barrier flag. -/
def op (hdr : VirtioBlkHdr) : Nat := hdr.type &&& 0x7fffffff

end VirtioBlkHdr

/-- `ident` has its terminating zero. -/
structure VirtioBlk where
  capacity : Nat
  dummyBctxt : Bool
  isRo : Bool
  ident : List UInt8

structure VirtioBlkIoreq where
  iov : List IoVec
  offset : Int64
  resid : Nat
  status : Nat

def VirtioBlkIoreq.zero : VirtioBlkIoreq := ⟨[], 0, 0, 0⟩

/-- The request as `blockif_request` gets it; its address is told by the index
of the `ioreq`. -/
def VirtioBlkIoreq.req (io : VirtioBlkIoreq) (idx : Nat) : QueuedReq where
  address := idx
  offset := io.offset
  iovLens := io.iov.map fun iov => UInt64.ofNat iov.len

/-- The local variables of `virtio_blk_proc` behind `vq_getchain`. -/
structure BlkLocals where
  idx : Nat
  n : Nat
  iov : Nat → IoVec
  flags : Nat → Nat

namespace BlkLocals

/-- The host address of a buffer. -/
def base (locals : BlkLocals) (index : Nat) : Nat :=
  ((locals.iov index).base).getD 0

def len (locals : BlkLocals) (index : Nat) : Nat := (locals.iov index).len

/-- The device may write the buffer. -/
def writable (locals : BlkLocals) (index : Nat) : Bool :=
  decide (locals.flags index &&& vringDescFWrite ≠ 0)

/-- The indices of the data buffers. -/
def data (locals : BlkLocals) : List Nat :=
  (List.range (locals.n - 2)).map fun index => index + 1

def vbh (locals : BlkLocals) (memory : Memory) : VirtioBlkHdr :=
  VirtioBlkHdr.load memory (locals.base 0)

def iolen (locals : BlkLocals) : Nat := (locals.data.map locals.len).sum

end BlkLocals

/-- How `virtio_blk_proc` goes on with a chain. -/
inductive BlkVerdict where
  | abort
  | done (err : Int)
  | ident
  | check (op : Blockop)
  | submit (op : Blockop)
  deriving Repr, DecidableEq

/-- What the header and the two ends of the chain leave in the `ioreq`. -/
def virtioBlkFill (io : VirtioBlkIoreq) (memory : Memory)
    (locals : BlkLocals) : VirtioBlkIoreq :=
  { io with
    iov := locals.data.map locals.iov
    offset := Int64.ofNat ((locals.vbh memory).sector * devBsize)
    status := locals.base (locals.n - 1) }

def virtioBlkSwitch : Option VbhOp → BlkVerdict
  | some .read => .check .read
  | some .write => .check .write
  | some .discard => .submit .discard
  | some .flush | some .flushOut => .submit .flush
  | some .ident => .ident
  | none => .done eopnotsupp

/-- `virtio_blk_proc` up to its switch. -/
def virtioBlkParse (blk : VirtioBlk) (io : VirtioBlkIoreq) (memory : Memory)
    (locals : BlkLocals) : VirtioBlkIoreq × BlkVerdict :=
  if locals.writable 0 then (io, .abort)
  else if locals.len 0 ≠ VirtioBlkHdr.size then (io, .abort)
  else
    let io := virtioBlkFill io memory locals
    let last := locals.n - 1
    if locals.len last ≠ 1 ∨ locals.writable last = false then (io, .abort)
    else
      let type := VbhOp.ofType (locals.vbh memory).op
      let writeop := decide (type = some .write ∨ type = some .discard)
      if blk.dummyBctxt then (io, .done eperm)
      else if writeop && blk.isRo then (io, .done erofs)
      else if locals.data.any fun index =>
          !locals.writable index != writeop then
        (io, .done einval)
      else
        ({ io with resid := locals.iolen }, virtioBlkSwitch type)

/-- The test in the cases of a read and a write; the sector is read again, and
the sum is one of `uint64_t` values. -/
def virtioBlkCheck (blk : VirtioBlk) (memory : Memory) (locals : BlkLocals)
    (op : Blockop) : BlkVerdict :=
  if locals.iolen &&& (devBsize - 1) ≠ 0 ∨
      ((locals.vbh memory).sector + locals.iolen / devBsize) %
        18446744073709551616 > blk.capacity then
    .done einval
  else .submit op

/-- `strncpy` of `count` bytes. -/
def strncpy (source : List UInt8) (count : Nat) : List UInt8 :=
  let text := (source.takeWhile fun byte => byte ≠ 0).take count
  text ++ List.replicate (count - text.length) 0

/-- The case of `VBH_OP_IDENT`. -/
def virtioBlkIdent (blk : VirtioBlk) (memory : Memory)
    (locals : BlkLocals) : Memory :=
  let memory := memory.store (locals.base 1)
    (List.replicate (locals.len 1) 0)
  memory.store (locals.base 1)
    (strncpy blk.ident (min (locals.len 1) blk.ident.length))

/-- The errno as a status of the protocol. -/
def virtioBlkStatus (err : Int) : UInt8 :=
  if err = eopnotsupp ∨ err = enosys then virtioBlkSUnsupp
  else if err ≠ 0 then virtioBlkSIoerr
  else virtioBlkSOk

/-- The end of `virtio_blk_done`, under the mutex. -/
def virtioBlkReturn (vq : VqInfo) (memory : Memory) (negotiatedCaps idx : Nat) :
    (VqInfo × Bool) × Memory :=
  let memory := vqRelchain vq memory idx 1
  (vqEndchains vq memory negotiatedCaps (!vqHasDescs vq memory), memory)

def virtioBlkAbort (vq : VqInfo) (memory : Memory) (negotiatedCaps idx : Nat) :
    (VqInfo × Bool) × Memory :=
  if idx < vq.qsize then
    let memory := vqRelchain vq memory idx 1
    (vqEndchains vq memory negotiatedCaps false, memory)
  else
    ((vq, false), memory)

def vringUsedFNoNotify : Nat := 1

def usedFlags (vq : VqInfo) (memory : Memory) : Nat :=
  memory.load16 (vq.used.getD 0)

/-- `vq->used->flags |= VRING_USED_F_NO_NOTIFY`. -/
def setNoNotify (vq : VqInfo) (memory : Memory) : Memory :=
  memory.store (vq.used.getD 0)
    (le16 (usedFlags vq memory ||| vringUsedFNoNotify))

/-- Nothing is in polling mode. -/
def vqClearUsedRingFlags (vq : VqInfo) (memory : Memory) : Memory :=
  memory.store (vq.used.getD 0)
    (le16 (usedFlags vq memory &&& (65535 - vringUsedFNoNotify)))

end VirtioGpu.Block
