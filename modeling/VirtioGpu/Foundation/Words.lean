import VirtioGpu.Foundation.Memory

namespace VirtioGpu.Foundation

/-! Little-endian words of any width. -/

def wordOf : List UInt8 → Nat
  | [] => 0
  | byte :: rest => byte.toNat + 256 * wordOf rest

def wordBytes : Nat → Nat → List UInt8
  | 0, _ => []
  | width + 1, value => UInt8.ofNat value :: wordBytes width (value / 256)

@[simp] theorem length_wordBytes (width value : Nat) :
    (wordBytes width value).length = width := by
  induction width generalizing value with
  | zero => rfl
  | succ width induction => simp [wordBytes, induction]

theorem wordOf_lt (bytes : List UInt8) :
    wordOf bytes < 256 ^ bytes.length := by
  induction bytes with
  | nil => decide
  | cons byte rest induction =>
      have low := byte.toNat_lt
      rw [wordOf, List.length_cons, Nat.pow_succ]
      omega

theorem wordOf_wordBytes (width value : Nat) :
    wordOf (wordBytes width value) = value % 256 ^ width := by
  induction width generalizing value with
  | zero => simp [wordBytes, wordOf, Nat.mod_one]
  | succ width induction =>
      have split : value % 256 ^ (width + 1) =
          value % 256 + 256 * (value / 256 % 256 ^ width) := by
        rw [Nat.pow_succ', Nat.mod_mul]
      rw [wordBytes, wordOf, induction, split, UInt8.toNat_ofNat']

namespace Memory

variable {memory : Memory} {address location width : Nat}
  {bytes : List UInt8}

def loadWord (memory : Memory) (address width : Nat) : Nat :=
  wordOf (memory.read address width)

theorem loadWord_lt (memory : Memory) (address width : Nat) :
    memory.loadWord address width < 256 ^ width := by
  have bound := wordOf_lt (memory.read address width)
  rwa [length_read] at bound

theorem read_congr {first second : Memory}
    (agree : ∀ index, index < width →
      first (address + index) = second (address + index)) :
    first.read address width = second.read address width := by
  unfold read
  apply List.map_congr_left
  intro index member
  exact agree index (List.mem_range.mp member)

theorem read_store (memory : Memory) (address : Nat) (bytes : List UInt8) :
    (memory.store address bytes).read address bytes.length = bytes := by
  apply List.ext_getElem
  · simp
  · intro index inRead inBytes
    simp only [read, List.getElem_map, List.getElem_range]
    rw [store_inside memory inBytes, List.getD_eq_getElem _ _ inBytes]

theorem read_store_outside (memory : Memory)
    (outside : location + width ≤ address ∨
      address + bytes.length ≤ location) :
    (memory.store address bytes).read location width =
      memory.read location width :=
  read_congr fun _ _ => store_outside memory (by omega)

theorem loadWord_store (memory : Memory) (address : Nat)
    (bytes : List UInt8) :
    (memory.store address bytes).loadWord address bytes.length =
      wordOf bytes := by
  rw [loadWord, read_store]

theorem loadWord_store_wordBytes (memory : Memory)
    (address width value : Nat) :
    (memory.store address (wordBytes width value)).loadWord address width =
      value % 256 ^ width := by
  have stored := memory.loadWord_store address (wordBytes width value)
  rwa [length_wordBytes, wordOf_wordBytes] at stored

theorem loadWord_store_outside (memory : Memory)
    (outside : location + width ≤ address ∨
      address + bytes.length ≤ location) :
    (memory.store address bytes).loadWord location width =
      memory.loadWord location width := by
  rw [loadWord, read_store_outside memory outside, loadWord]

end Memory

end VirtioGpu.Foundation
