import Mathlib.Data.Nat.Bitwise

namespace VirtioGpu.Foundation

/-! Bits of a byte, counted from the lowest. -/

def bit (byte : UInt8) (index : Nat) : Bool := byte.toNat.testBit index

variable (first second byte : UInt8) {index : Nat}

@[simp] theorem bit_and :
    bit (first &&& second) index = (bit first index && bit second index) := by
  simp [bit]

@[simp] theorem bit_or :
    bit (first ||| second) index = (bit first index || bit second index) := by
  simp [bit]

@[simp] theorem bit_not (inByte : index < 8) :
    bit (~~~byte) index = !bit byte index := by
  have complement : bit (~~~byte) index =
      (~~~byte.toBitVec).getLsbD index := rfl
  rw [complement, BitVec.getLsbD_not]
  simp [inByte, bit, BitVec.getLsbD]

@[simp] theorem bit_zero : bit 0 index = false := Nat.zero_testBit index

@[simp] theorem bit_ones (inByte : index < 8) : bit 0xff index = true := by
  have ones : bit 0xff index = (2 ^ 8 - 1).testBit index := rfl
  rw [ones, Nat.testBit_two_pow_sub_one]
  exact decide_eq_true inByte

/-- The bits that are shifted out come back at the top. -/
def rotateRight (count : Nat) : UInt8 :=
  UInt8.ofNat (byte.toNat >>> count ||| byte.toNat <<< (8 - count))

theorem bit_rotateRight {count : Nat} (small : count ≤ 8)
    (inByte : index < 8) :
    bit (rotateRight byte count) index = bit byte ((index + count) % 8) := by
  have kept : ∀ value, (value % 2 ^ 8).testBit index = value.testBit index :=
    fun value => by rw [Nat.testBit_mod_two_pow]; simp [inByte]
  unfold bit rotateRight
  rw [UInt8.toNat_ofNat', kept, Nat.testBit_or, Nat.testBit_shiftRight,
    Nat.testBit_shiftLeft, Nat.add_comm count]
  by_cases wraps : 8 ≤ index + count
  · have above : byte.toNat.testBit (index + count) = false :=
      Nat.testBit_lt_two_pow (Nat.lt_of_lt_of_le byte.toNat_lt
        (Nat.pow_le_pow_right (by decide) wraps))
    have back : (index + count) % 8 = index - (8 - count) := by omega
    have reached : index ≥ 8 - count := by omega
    simp [above, back, reached]
  · have straight : (index + count) % 8 = index + count := by omega
    have missed : ¬index ≥ 8 - count := by omega
    simp [straight, missed]

end VirtioGpu.Foundation
