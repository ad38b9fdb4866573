import VirtioGpu.Foundation.Fifo
import VirtioGpu.Virtio.Registers

namespace VirtioGpu.Virtio

open Foundation

/-! The available and the used ring of a queue, read as one queue of chain
heads. -/

/-- The two ranges have no byte in common. -/
def Apart (first firstLength second secondLength : Nat) : Prop :=
  first + firstLength ≤ second ∨ second + secondLength ≤ first

instance (first firstLength second secondLength : Nat) :
    Decidable (Apart first firstLength second secondLength) :=
  inferInstanceAs (Decidable (_ ∨ _))

namespace VqInfo

def InAvail (vq : VqInfo) (location : Nat) : Prop :=
  vq.avail.getD 0 ≤ location ∧
    location < vq.avail.getD 0 + availRingSize vq.qsize

def InUsed (vq : VqInfo) (location : Nat) : Prop :=
  vq.used.getD 0 ≤ location ∧
    location < vq.used.getD 0 + usedRingSize vq.qsize

/-- The range touches neither ring. -/
def ApartFrom (vq : VqInfo) (address length : Nat) : Prop :=
  Apart address length (vq.avail.getD 0) (availRingSize vq.qsize) ∧
    Apart address length (vq.used.getD 0) (usedRingSize vq.qsize)

instance (vq : VqInfo) (address length : Nat) :
    Decidable (vq.ApartFrom address length) :=
  inferInstanceAs (Decidable (_ ∧ _))

/-- The size is a power of two, as `struct virtio_vq_info` says, and the rings
do not overlap. -/
structure Shaped (vq : VqInfo) : Prop where
  size : ∃ exponent, exponent < 16 ∧ vq.qsize = 2 ^ exponent
  apart : Apart (vq.avail.getD 0) (availRingSize vq.qsize) (vq.used.getD 0)
    (usedRingSize vq.qsize)

end VqInfo

/-! The bytes `vq_relchain` writes. -/

theorem and_slotMask_lt {qsize : Nat} (positive : 0 < qsize)
    (sized : qsize < 65536) (index : Nat) :
    index &&& slotMask qsize < qsize := by
  have mask : slotMask qsize = qsize - 1 := by
    unfold slotMask sub16
    omega
  have bound := @Nat.and_le_right index (slotMask qsize)
  omega

theorem vqRelchain_outside {vq : VqInfo} {memory : Memory}
    {idx iolen location : Nat}
    (slot : vq.usedIdx memory &&& slotMask vq.qsize < vq.qsize)
    (outside : ¬vq.InUsed location) :
    vqRelchain vq memory idx iolen location = memory location := by
  unfold VqInfo.InUsed usedRingSize at outside
  unfold vqRelchain VqInfo.usedElem
  rw [Memory.store_outside _ (by rw [length_le16]; omega),
    Memory.store_outside _ (by rw [length_le32]; omega),
    Memory.store_outside _ (by rw [length_le32]; omega)]

theorem vqRelchain_usedIdx (vq : VqInfo) (memory : Memory)
    (idx iolen : Nat) :
    vq.usedIdx (vqRelchain vq memory idx iolen) =
      (vq.usedIdx memory + 1) % 65536 := by
  show Memory.load16 (Memory.store _ _ (le16 _)) _ = _
  rw [Memory.load16_store_le16, Nat.mod_mod]

theorem vqRelchain_stored {vq : VqInfo} {memory : Memory}
    {idx iolen slot : Nat}
    (here : vq.usedIdx memory &&& slotMask vq.qsize = slot) :
    (vqRelchain vq memory idx iolen).load32 (vq.usedElem slot) =
      idx % 4294967296 := by
  unfold vqRelchain
  dsimp only
  rw [here]
  unfold VqInfo.usedElem
  rw [Memory.load32_store_outside _ (by rw [length_le16]; omega),
    Memory.load32_store_outside _ (by omega), Memory.load32_store_le32]

theorem vqRelchain_kept {vq : VqInfo} {memory : Memory}
    {idx iolen slot : Nat}
    (elsewhere : vq.usedIdx memory &&& slotMask vq.qsize ≠ slot) :
    (vqRelchain vq memory idx iolen).load32 (vq.usedElem slot) =
      memory.load32 (vq.usedElem slot) := by
  unfold vqRelchain VqInfo.usedElem
  rw [Memory.load32_store_outside _ (by rw [length_le16]; omega),
    Memory.load32_store_outside _ (by rw [length_le32]; omega),
    Memory.load32_store_outside _ (by rw [length_le32]; omega)]

/-! Memories that agree on a ring. -/

section Congruence

variable {vq : VqInfo} {first second : Memory} {slot : Nat}

theorem availIdx_congr (agree : Memory.AgreeOn vq.InAvail first second) :
    vq.availIdx first = vq.availIdx second := by
  apply Memory.load16_congr
  intro index small
  apply agree
  unfold VqInfo.InAvail availRingSize
  omega

theorem availRing_congr (agree : Memory.AgreeOn vq.InAvail first second)
    (inside : slot < vq.qsize) :
    vq.availRing first slot = vq.availRing second slot := by
  apply Memory.load16_congr
  intro index small
  apply agree
  unfold VqInfo.InAvail availRingSize
  omega

theorem usedIdx_congr (agree : Memory.AgreeOn vq.InUsed first second) :
    vq.usedIdx first = vq.usedIdx second := by
  apply Memory.load16_congr
  intro index small
  apply agree
  unfold VqInfo.InUsed usedRingSize
  omega

theorem usedElem_congr (agree : Memory.AgreeOn vq.InUsed first second)
    (inside : slot < vq.qsize) :
    first.load32 (vq.usedElem slot) = second.load32 (vq.usedElem slot) := by
  apply Memory.load32_congr
  intro index small
  apply agree
  unfold VqInfo.usedElem VqInfo.InUsed usedRingSize
  omega

theorem VqInfo.ApartFrom.shrink {address length shorter : Nat}
    (apart : vq.ApartFrom address length) (short : shorter ≤ length) :
    vq.ApartFrom address shorter := by
  unfold VqInfo.ApartFrom Apart at apart ⊢
  omega

theorem agreeOn_store {address : Nat} {bytes : List UInt8}
    (apart : vq.ApartFrom address bytes.length) :
    Memory.AgreeOn vq.InAvail (first.store address bytes) first ∧
      Memory.AgreeOn vq.InUsed (first.store address bytes) first := by
  obtain ⟨avail, used⟩ := apart
  unfold Apart at avail used
  constructor
  · intro location inside
    unfold VqInfo.InAvail at inside
    exact Memory.store_outside _ (by omega)
  · intro location inside
    unfold VqInfo.InUsed at inside
    exact Memory.store_outside _ (by omega)

/-- What `vq_relchain` writes on another queue stays clear of the rings. -/
theorem agreeOn_relchain {other : VqInfo} {idx iolen : Nat}
    (slot : other.usedIdx first &&& slotMask other.qsize < other.qsize)
    (apart : vq.ApartFrom (other.used.getD 0) (usedRingSize other.qsize)) :
    Memory.AgreeOn vq.InAvail (vqRelchain other first idx iolen) first ∧
      Memory.AgreeOn vq.InUsed (vqRelchain other first idx iolen) first := by
  obtain ⟨avail, used⟩ := apart
  unfold Apart at avail used
  constructor
  · intro location inside
    apply vqRelchain_outside slot
    unfold VqInfo.InAvail at inside
    unfold VqInfo.InUsed
    omega
  · intro location inside
    apply vqRelchain_outside slot
    unfold VqInfo.InUsed at inside ⊢
    omega

end Congruence

/-! The masks and the index arithmetic. -/

section Shape

variable {vq : VqInfo} (shaped : vq.Shaped)

include shaped

theorem VqInfo.Shaped.qsize_pos : 0 < vq.qsize := by
  obtain ⟨exponent, _, size⟩ := shaped.size
  rw [size]
  exact Nat.two_pow_pos exponent

theorem VqInfo.Shaped.qsize_lt : vq.qsize < 65536 := by
  obtain ⟨exponent, small, size⟩ := shaped.size
  rw [size]
  exact Nat.pow_lt_pow_right (by decide) small

theorem VqInfo.Shaped.mask (position : Nat) :
    position % 65536 &&& (vq.qsize - 1) = position % vq.qsize := by
  obtain ⟨exponent, small, size⟩ := shaped.size
  rw [size]
  exact @mod_and_mask position 16 exponent (Nat.le_of_lt small)

theorem VqInfo.Shaped.slotMask : slotMask vq.qsize = vq.qsize - 1 := by
  have positive := shaped.qsize_pos
  have small := shaped.qsize_lt
  unfold Virtio.slotMask sub16
  omega

end Shape

/-- The distance of two free-running indices. -/
theorem sub16_ahead {base earlier later : Nat} (ordered : earlier ≤ later)
    (close : later < earlier + 65536) :
    sub16 ((base + later) % 65536) ((base + earlier) % 65536) =
      later - earlier := by
  unfold sub16
  omega

/-! The contents of the rings.  Positions count from the beginning of the run,
where the indices were `availBase` and `usedBase`. -/

structure RingsHold (vq : VqInfo) (availBase usedBase : Nat)
    (fifo : Fifo Nat) (memory : Memory) : Prop where
  availIdx : vq.availIdx memory =
    (availBase + fifo.published.length) % 65536
  entries : ∀ position head, fifo.released.length ≤ position →
    fifo.published[position]? = some head →
      vq.availRing memory ((availBase + position) % vq.qsize) = head
  usedIdx : vq.usedIdx memory = (usedBase + fifo.released.length) % 65536
  stored : ∀ position head, fifo.released.length ≤ position + vq.qsize →
    fifo.released[position]? = some head →
      memory.load32 (vq.usedElem ((usedBase + position) % vq.qsize)) = head

/-- What the driver may do to the rings: write the heads of new chains behind
the outstanding ones and then advance the index. -/
structure Publishes (vq : VqInfo) (availBase : Nat) (fifo : Fifo Nat)
    (heads : List Nat) (before after : Memory) : Prop where
  index : vq.availIdx after = (vq.availIdx before + heads.length) % 65536
  entries : ∀ position head, fifo.released.length ≤ position →
    (fifo.published ++ heads)[position]? = some head →
      vq.availRing after ((availBase + position) % vq.qsize) = head
  used : Memory.AgreeOn vq.InUsed after before
  room : (fifo.published ++ heads).length ≤ fifo.released.length + vq.qsize

section Contents

variable {vq : VqInfo} {availBase usedBase : Nat} {fifo : Fifo Nat}
variable {memory after : Memory} {head : Nat} (shaped : vq.Shaped)
variable (holds : RingsHold vq availBase usedBase fifo memory)

include shaped holds

theorem RingsHold.frame
    (avail : Memory.AgreeOn vq.InAvail after memory)
    (used : Memory.AgreeOn vq.InUsed after memory) :
    RingsHold vq availBase usedBase fifo after := by
  have slots : ∀ position, position % vq.qsize < vq.qsize :=
    fun position => Nat.mod_lt position shaped.qsize_pos
  refine ⟨?_, ?_, ?_, ?_⟩
  · rw [availIdx_congr avail, holds.availIdx]
  · intro position head later published
    rw [availRing_congr avail (slots _)]
    exact holds.entries position head later published
  · rw [usedIdx_congr used, holds.usedIdx]
  · intro position head recent released
    rw [usedElem_congr used (slots _)]
    exact holds.stored position head recent released

/-- A store to the flags of the used ring. -/
theorem RingsHold.storeFlags (value : Nat) :
    RingsHold vq availBase usedBase fifo
      (memory.store (vq.used.getD 0) (le16 value)) := by
  have apart := shaped.apart
  unfold Apart usedRingSize at apart
  have avail : Memory.AgreeOn vq.InAvail
      (memory.store (vq.used.getD 0) (le16 value)) memory := by
    intro location listed
    unfold VqInfo.InAvail at listed
    exact Memory.store_outside _ (by rw [length_le16]; omega)
  have slots : ∀ position, position % vq.qsize < vq.qsize :=
    fun position => Nat.mod_lt position shaped.qsize_pos
  refine ⟨?_, ?_, ?_, ?_⟩
  · rw [availIdx_congr avail, holds.availIdx]
  · intro position head later published
    rw [availRing_congr avail (slots _)]
    exact holds.entries position head later published
  · unfold VqInfo.usedIdx
    rw [Memory.load16_store_outside _ (by rw [length_le16]; omega)]
    exact holds.usedIdx
  · intro position head recent released
    unfold VqInfo.usedElem
    rw [Memory.load32_store_outside _ (by rw [length_le16]; omega)]
    exact holds.stored position head recent released

theorem RingsHold.publish {heads : List Nat}
    (publishes : Publishes vq availBase fifo heads memory after) :
    RingsHold vq availBase usedBase
      { fifo with published := fifo.published ++ heads } after := by
  have slots : ∀ position, position % vq.qsize < vq.qsize :=
    fun position => Nat.mod_lt position shaped.qsize_pos
  refine ⟨?_, publishes.entries, ?_, ?_⟩
  · rw [publishes.index, holds.availIdx, Nat.mod_add_mod, Nat.add_assoc,
      List.length_append]
  · rw [usedIdx_congr publishes.used, holds.usedIdx]
  · intro position head recent released
    rw [usedElem_congr publishes.used (slots _)]
    exact holds.stored position head recent released

theorem RingsHold.ahead_of_room
    (given : fifo.released.length ≤ fifo.consumed)
    (available : fifo.consumed ≤ fifo.published.length)
    (room : fifo.published.length ≤ fifo.released.length + vq.qsize) :
    sub16 (vq.availIdx memory) ((availBase + fifo.consumed) % 65536) =
      fifo.published.length - fifo.consumed := by
  have small := shaped.qsize_lt
  rw [holds.availIdx]
  exact sub16_ahead available (by omega)

theorem RingsHold.ahead (sound : fifo.Sound vq.qsize) :
    sub16 (vq.availIdx memory) ((availBase + fifo.consumed) % 65536) =
      fifo.published.length - fifo.consumed :=
  holds.ahead_of_room shaped sound.given sound.available sound.room

/-- The entry `vq_getchain` reads is the oldest one not yet taken. -/
theorem RingsHold.entry (sound : fifo.Sound vq.qsize)
    (next : fifo.published[fifo.consumed]? = some head) :
    vq.availRing memory
      ((availBase + fifo.consumed) % 65536 &&& (vq.qsize - 1)) = head := by
  rw [shaped.mask]
  exact holds.entries fifo.consumed head sound.given next

/-- `vq_relchain` gives a chain back in the slot the driver reads next. -/
theorem RingsHold.giveBack {iolen : Nat} (small : head < 65536) :
    RingsHold vq availBase usedBase
      { fifo with released := fifo.released ++ [head] }
      (vqRelchain vq memory head iolen) := by
  have slot : vq.usedIdx memory &&& slotMask vq.qsize =
      (usedBase + fifo.released.length) % vq.qsize := by
    rw [holds.usedIdx, shaped.slotMask, shaped.mask]
  have inside : vq.usedIdx memory &&& slotMask vq.qsize < vq.qsize := by
    rw [slot]
    exact Nat.mod_lt _ shaped.qsize_pos
  have avail : Memory.AgreeOn vq.InAvail
      (vqRelchain vq memory head iolen) memory := by
    intro location listed
    apply vqRelchain_outside inside
    have apart := shaped.apart
    unfold Apart at apart
    unfold VqInfo.InAvail at listed
    unfold VqInfo.InUsed
    omega
  refine ⟨?_, ?_, ?_, ?_⟩
  · rw [availIdx_congr avail, holds.availIdx]
  · intro position entry later published
    rw [List.length_append] at later
    rw [availRing_congr avail (Nat.mod_lt _ shaped.qsize_pos)]
    exact holds.entries position entry (by omega) published
  · rw [vqRelchain_usedIdx, holds.usedIdx, Nat.mod_add_mod,
      List.length_append, List.length_singleton, Nat.add_assoc]
  · intro position entry recent released
    rw [List.length_append, List.length_singleton] at recent
    rcases Nat.lt_trichotomy position fifo.released.length with
      earlier | now | later
    · rw [List.getElem?_append_left earlier] at released
      have other := @slot_ne usedBase position fifo.released.length vq.qsize
        earlier (by omega)
      rw [vqRelchain_kept (by rw [slot]; exact other.symm)]
      exact holds.stored position entry (by omega) released
    · subst now
      rw [List.getElem?_concat_length] at released
      cases released
      rw [vqRelchain_stored slot]
      exact Nat.mod_eq_of_lt (by omega)
    · rw [List.getElem?_eq_none (by simp; omega)] at released
      cases released

/-- The oldest chain is given back. -/
theorem RingsHold.release {iolen : Nat}
    (oldest : fifo.published[fifo.released.length]? = some head) :
    RingsHold vq availBase usedBase
      { fifo with released := fifo.released ++ [head] }
      (vqRelchain vq memory head iolen) := by
  apply holds.giveBack shaped
  rw [← holds.entries fifo.released.length head (Nat.le_refl _) oldest]
  exact memory.load16_lt _

end Contents

end VirtioGpu.Virtio
