import Mathlib.Algebra.Group.Nat.Defs
import Mathlib.Data.List.Basic
import Mathlib.Data.List.GetD

namespace VirtioGpu.Foundation

/-! Byte-addressed memory with little-endian loads and stores. -/

abbrev Memory := Nat → UInt8

namespace Memory

def load16 (memory : Memory) (address : Nat) : Nat :=
  (memory address).toNat + 256 * (memory (address + 1)).toNat

def load32 (memory : Memory) (address : Nat) : Nat :=
  memory.load16 address + 65536 * memory.load16 (address + 2)

def load64 (memory : Memory) (address : Nat) : Nat :=
  memory.load32 address + 4294967296 * memory.load32 (address + 4)

/-- The bytes of the range that starts at `address`. -/
def read (memory : Memory) (address length : Nat) : List UInt8 :=
  (List.range length).map fun index => memory (address + index)

def store (memory : Memory) (address : Nat) (bytes : List UInt8) : Memory :=
  fun location =>
    if address ≤ location ∧ location < address + bytes.length then
      bytes.getD (location - address) 0
    else
      memory location

def zero : Memory := fun _ => 0

/-- Two memories hold the same byte at every location of `region`. -/
def AgreeOn (region : Nat → Prop) (first second : Memory) : Prop :=
  ∀ location, region location → first location = second location

theorem load16_lt (memory : Memory) (address : Nat) :
    memory.load16 address < 65536 := by
  have low := (memory address).toNat_lt
  have high := (memory (address + 1)).toNat_lt
  unfold load16
  omega

@[simp] theorem length_read (memory : Memory) (address length : Nat) :
    (memory.read address length).length = length := by
  simp [read]

theorem load16_congr {first second : Memory} {address : Nat}
    (agree : ∀ index, index < 2 →
      first (address + index) = second (address + index)) :
    first.load16 address = second.load16 address := by
  have low := agree 0 (by omega)
  have high := agree 1 (by omega)
  simp only [Nat.add_zero] at low
  simp only [load16, low, high]

theorem load32_congr {first second : Memory} {address : Nat}
    (agree : ∀ index, index < 4 →
      first (address + index) = second (address + index)) :
    first.load32 address = second.load32 address := by
  have low : first.load16 address = second.load16 address :=
    load16_congr fun index bound => agree index (by omega)
  have high : first.load16 (address + 2) = second.load16 (address + 2) :=
    load16_congr fun index bound => by
      simpa only [Nat.add_assoc] using agree (2 + index) (by omega)
  simp only [load32, low, high]

theorem load64_congr {first second : Memory} {address : Nat}
    (agree : ∀ index, index < 8 →
      first (address + index) = second (address + index)) :
    first.load64 address = second.load64 address := by
  have low : first.load32 address = second.load32 address :=
    load32_congr fun index bound => agree index (by omega)
  have high : first.load32 (address + 4) = second.load32 (address + 4) :=
    load32_congr fun index bound => by
      simpa only [Nat.add_assoc] using agree (4 + index) (by omega)
  simp only [load64, low, high]

theorem store_outside (memory : Memory) {address location : Nat}
    {bytes : List UInt8}
    (outside : location < address ∨ address + bytes.length ≤ location) :
    memory.store address bytes location = memory location := by
  unfold store
  rw [if_neg (by omega)]

theorem store_inside (memory : Memory) {address index : Nat}
    {bytes : List UInt8} (bound : index < bytes.length) :
    memory.store address bytes (address + index) = bytes.getD index 0 := by
  unfold store
  rw [if_pos (by omega)]
  congr 1
  omega

theorem load16_store_outside (memory : Memory) {address location : Nat}
    {bytes : List UInt8}
    (outside : location + 2 ≤ address ∨ address + bytes.length ≤ location) :
    (memory.store address bytes).load16 location = memory.load16 location :=
  load16_congr fun _ _ => store_outside memory (by omega)

theorem load32_store_outside (memory : Memory) {address location : Nat}
    {bytes : List UInt8}
    (outside : location + 4 ≤ address ∨ address + bytes.length ≤ location) :
    (memory.store address bytes).load32 location = memory.load32 location :=
  load32_congr fun _ _ => store_outside memory (by omega)

end Memory

/-! Little-endian encodings. -/

def le16 (value : Nat) : List UInt8 :=
  [UInt8.ofNat value, UInt8.ofNat (value / 256)]

def le32 (value : Nat) : List UInt8 :=
  le16 value ++ le16 (value / 65536)

def le64 (value : Nat) : List UInt8 :=
  le32 value ++ le32 (value / 4294967296)

@[simp] theorem length_le16 (value : Nat) : (le16 value).length = 2 := rfl

@[simp] theorem length_le32 (value : Nat) : (le32 value).length = 4 := rfl

@[simp] theorem length_le64 (value : Nat) : (le64 value).length = 8 := rfl

namespace Memory

theorem load16_store_le16 (memory : Memory) (address value : Nat) :
    (memory.store address (le16 value)).load16 address = value % 65536 := by
  have low : memory.store address (le16 value) address = UInt8.ofNat value := by
    simpa [le16] using
      @store_inside memory address 0 (le16 value) (by simp)
  have high : memory.store address (le16 value) (address + 1) =
      UInt8.ofNat (value / 256) := by
    simpa [le16] using
      @store_inside memory address 1 (le16 value) (by simp)
  simp only [load16, low, high, UInt8.toNat_ofNat']
  omega

theorem store_append (memory : Memory) (address : Nat)
    (first second : List UInt8) :
    memory.store address (first ++ second) =
      (memory.store (address + first.length) second).store address first := by
  funext location
  unfold store
  rw [List.length_append]
  split
  · split
    · rw [List.getD_append _ _ _ _ (by omega)]
    · rw [if_pos (by omega), List.getD_append_right _ _ _ _ (by omega)]
      congr 1
      omega
  · rw [if_neg (by omega), if_neg (by omega)]

theorem load32_store_le32 (memory : Memory) (address value : Nat) :
    (memory.store address (le32 value)).load32 address =
      value % 4294967296 := by
  unfold le32 load32
  rw [store_append, load16_store_le16, load16_store_outside _ (by simp),
    length_le16, load16_store_le16]
  omega

end Memory

end VirtioGpu.Foundation
