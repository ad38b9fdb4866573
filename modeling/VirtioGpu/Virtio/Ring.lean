import VirtioGpu.Virtio.Shmem

namespace VirtioGpu.Virtio

open Foundation

/-! Virtqueues: the per-queue record, the rings in guest memory and the
completion side of the queue. -/

def vqAlloc : Nat := 0x01

def virtioMsiNoVector : Nat := 0xffff

def vringDescFNext : Nat := 1
def vringDescFWrite : Nat := 2
def vringDescFIndirect : Nat := 4

def vringAvailFNoInterrupt : Nat := 1

def virtioFNotifyOnEmpty : Nat := 24
def virtioRingFIndirectDesc : Nat := 28
def virtioRingFEventIdx : Nat := 29

structure VqInfo where
  qsize : Nat
  flags : Nat
  lastAvail : Nat
  saveUsed : Nat
  msixIdx : Nat
  pfn : Nat
  desc : Option Nat
  avail : Option Nat
  used : Option Nat
  gpaDesc : Nat × Nat
  gpaAvail : Nat × Nat
  gpaUsed : Nat × Nat
  enabled : Bool
  deriving Repr, DecidableEq

/-- Subtraction of `uint16_t` values. -/
def sub16 (left right : Nat) : Nat :=
  (left + (65536 - right % 65536)) % 65536

namespace VqInfo

def availIdx (vq : VqInfo) (memory : Memory) : Nat :=
  memory.load16 (vq.avail.getD 0 + 2)

def availFlags (vq : VqInfo) (memory : Memory) : Nat :=
  memory.load16 (vq.avail.getD 0)

def availRing (vq : VqInfo) (memory : Memory) (slot : Nat) : Nat :=
  memory.load16 (vq.avail.getD 0 + 4 + 2 * slot)

def usedIdx (vq : VqInfo) (memory : Memory) : Nat :=
  memory.load16 (vq.used.getD 0 + 2)

/-- Address of the `slot`-th `vring_used_elem`. -/
def usedElem (vq : VqInfo) (slot : Nat) : Nat :=
  vq.used.getD 0 + 4 + 8 * slot

def usedEventIdx (vq : VqInfo) (memory : Memory) : Nat :=
  vq.availRing memory vq.qsize

end VqInfo

def vqRingReady (vq : VqInfo) : Bool :=
  decide (vq.flags &&& vqAlloc = vqAlloc)

def vqHasDescs (vq : VqInfo) (memory : Memory) : Bool :=
  vqRingReady vq && decide (vq.lastAvail ≠ vq.availIdx memory) &&
    !decide (sub16 (vq.availIdx memory) vq.lastAvail > vq.qsize)

/-- The slot mask `N - 1` as a `uint16_t`. -/
def slotMask (qsize : Nat) : Nat := sub16 qsize 1

def vqRelchain (vq : VqInfo) (memory : Memory) (idx iolen : Nat) : Memory :=
  let uidx := vq.usedIdx memory
  let vue := vq.usedElem (uidx &&& slotMask vq.qsize)
  let memory := memory.store vue (le32 idx)
  let memory := memory.store (vue + 4) (le32 iolen)
  memory.store (vq.used.getD 0 + 2) (le16 ((uidx + 1) % 65536))

/-- The queue afterwards, and whether an interrupt is raised. -/
def vqEndchains (vq : VqInfo) (memory : Memory) (negotiatedCaps : Nat)
    (usedAllAvail : Bool) : VqInfo × Bool :=
  match vq.used with
  | none => (vq, false)
  | some _ =>
      let oldIdx := vq.saveUsed
      let newIdx := vq.usedIdx memory
      let intr :=
        if usedAllAvail && negotiatedCaps.testBit virtioFNotifyOnEmpty then
          true
        else if negotiatedCaps.testBit virtioRingFEventIdx then
          decide (sub16 (sub16 newIdx (vq.usedEventIdx memory)) 1 <
            sub16 newIdx oldIdx)
        else
          decide (newIdx ≠ oldIdx) &&
            decide (vq.availFlags memory &&& vringAvailFNoInterrupt = 0)
      ({ vq with saveUsed := newIdx }, intr)

theorem vqEndchains_saveUsed {vq : VqInfo} {memory : Memory}
    {negotiatedCaps : Nat} {usedAllAvail : Bool} (mapped : vq.used ≠ none) :
    (vqEndchains vq memory negotiatedCaps usedAllAvail).1 =
      { vq with saveUsed := vq.usedIdx memory } := by
  unfold vqEndchains
  cases used : vq.used with
  | none => exact absurd used mapped
  | some _ => rfl

end VirtioGpu.Virtio
