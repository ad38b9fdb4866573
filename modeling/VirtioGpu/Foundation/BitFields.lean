import Mathlib.Data.Nat.Bitwise

namespace VirtioGpu.Foundation

/-! Bit fields of natural numbers. -/

/-- The `width` bits of `value` from bit `offset` on. -/
def bitField (value offset width : Nat) : Nat := value / 2 ^ offset % 2 ^ width

/-- A mask of consecutive bits selects a field. -/
theorem and_mask (value offset width : Nat) :
    value &&& ((2 ^ width - 1) <<< offset) =
      bitField value offset width <<< offset := by
  apply Nat.eq_of_testBit_eq
  intro bit
  unfold bitField
  rw [Nat.testBit_and, Nat.testBit_shiftLeft, Nat.testBit_shiftLeft,
    Nat.testBit_mod_two_pow, Nat.testBit_div_two_pow,
    Nat.testBit_two_pow_sub_one]
  by_cases above : offset ≤ bit
  · rw [Nat.sub_add_cancel above]
    simp [above, Bool.and_comm]
  · simp [above]

/-- A field moved down. -/
theorem and_mask_shiftRight (value : Nat) {offset width shift : Nat}
    (down : shift ≤ offset) :
    (value &&& ((2 ^ width - 1) <<< offset)) >>> shift =
      bitField value offset width * 2 ^ (offset - shift) := by
  rw [and_mask, ← Nat.sub_add_cancel down, Nat.shiftLeft_add,
    Nat.shiftLeft_shiftRight, Nat.sub_add_cancel down, Nat.shiftLeft_eq]

/-- Two fields that do not overlap are joined by adding them. -/
theorem or_joined {low offset : Nat} (high : Nat) (small : low < 2 ^ offset) :
    high * 2 ^ offset ||| low = high * 2 ^ offset + low := by
  rw [Nat.mul_comm]
  exact (Nat.two_pow_add_eq_or_of_lt small high).symm

end VirtioGpu.Foundation
