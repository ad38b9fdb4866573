import VirtioGpu.Foundation.ByteBits
import Mathlib.Data.Fin.Rev

namespace VirtioGpu.Foundation

/-! Pixels in planes.  A byte of each plane holds a bit of eight neighbouring
pixels, that of the leftmost at the top. -/

/-- Eight pixels, each with the planes it is set in. -/
abbrev Octet (κ : Type u) := Fin 8 → κ → Bool

variable {κ : Type u}

def octetOf (bytes : κ → UInt8) : Octet κ :=
  fun column plane => bit (bytes plane) (7 - column.val)

def Octet.byte (octet : Octet κ) (plane : κ) : UInt8 :=
  UInt8.ofNat (Nat.ofBits fun index : Fin 8 => octet index.rev plane)

theorem bit_ext {first second : UInt8}
    (same : ∀ index, index < 8 → bit first index = bit second index) :
    first = second := by
  have above : ∀ (byte : UInt8) index, ¬index < 8 → bit byte index = false :=
    fun byte index large => Nat.testBit_lt_two_pow
      (Nat.lt_of_lt_of_le byte.toNat_lt
        (Nat.pow_le_pow_right (by omega) (Nat.not_lt.mp large)))
  apply UInt8.toNat_inj.mp
  apply Nat.eq_of_testBit_eq
  intro index
  by_cases inByte : index < 8
  · exact same index inByte
  · exact (above first index inByte).trans (above second index inByte).symm

@[simp] theorem Octet.bit_byte (octet : Octet κ) (plane : κ) (index : Fin 8) :
    bit (octet.byte plane) index.val = octet index.rev plane := by
  have bound := @Nat.ofBits_lt_two_pow 8 fun index => octet index.rev plane
  unfold bit Octet.byte
  rw [UInt8.toNat_ofNat', Nat.mod_eq_of_lt bound]
  simp

@[simp] theorem byte_octetOf (bytes : κ → UInt8) (plane : κ) :
    (octetOf bytes).byte plane = bytes plane := by
  apply bit_ext
  intro index inByte
  have read := (octetOf bytes).bit_byte plane ⟨index, inByte⟩
  have column : 7 - (Fin.rev ⟨index, inByte⟩ : Fin 8).val = index := by
    simp [Fin.val_rev]
    omega
  rw [read, octetOf, column]

theorem octetOf_eq {octet : Octet κ} {bytes : κ → UInt8}
    (same : ∀ plane column, octet column plane =
      bit (bytes plane) (7 - column.val)) : octet = octetOf bytes := by
  funext column plane
  exact same plane column

end VirtioGpu.Foundation
