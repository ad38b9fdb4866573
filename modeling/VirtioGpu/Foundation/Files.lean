import VirtioGpu.Foundation.Stores

namespace VirtioGpu.Foundation

/-! Files as arrays of bytes, and transfers through a vector of buffers. -/

/-- What a failing call leaves in `errno`. -/
abbrev Errno := { code : Int // 0 < code }

abbrev FileBytes := List UInt8

namespace FileBytes

variable {file : FileBytes} {position index : Nat} {bytes : List UInt8}

/-- At most `count` bytes, fewer at the end of the file. -/
def readAt (file : FileBytes) (position count : Nat) : List UInt8 :=
  (file.drop position).take count

/-- A write beyond the end fills the gap with zeroes. -/
def writeAt (file : FileBytes) (position : Nat) (bytes : List UInt8) :
    FileBytes :=
  if bytes = [] then file
  else
    (file ++ List.replicate (position - file.length) 0).take position ++
      (bytes ++ file.drop (position + bytes.length))

theorem length_readAt (file : FileBytes) (position count : Nat) :
    (file.readAt position count).length =
      min count (file.length - position) := by
  rw [readAt, List.length_take, List.length_drop]

theorem length_before_write (file : FileBytes) (position : Nat) :
    ((file ++ List.replicate (position - file.length) 0).take
      position).length = position := by
  rw [List.length_take, List.length_append, List.length_replicate]
  omega

theorem readAt_writeAt (file : FileBytes) (position : Nat)
    (bytes : List UInt8) :
    (file.writeAt position bytes).readAt position bytes.length = bytes := by
  unfold readAt writeAt
  split
  · rename_i empty
    rw [empty]
    exact List.take_zero
  · rw [List.drop_left' (length_before_write file position),
      List.take_left' rfl]

theorem getElem?_writeAt_outside
    (outside : index < position ∨ position + bytes.length ≤ index)
    (inside : index < file.length) :
    (file.writeAt position bytes)[index]? = file[index]? := by
  have before := length_before_write file position
  unfold writeAt
  split
  · rfl
  · cases outside with
    | inl early =>
        rw [List.getElem?_append_left (before.symm ▸ early),
          List.getElem?_take_of_lt early, List.getElem?_append_left inside]
    | inr late =>
        rw [List.getElem?_append_right (by omega), before,
          List.getElem?_append_right (by omega), List.getElem?_drop]
        congr 1
        omega

/-- The file after a write of `bytes` at a position. -/
structure Written (file : FileBytes) (position : Nat) (bytes : List UInt8)
    (after : FileBytes) : Prop where
  inside : after.readAt position bytes.length = bytes
  outside : ∀ index, index < position ∨ position + bytes.length ≤ index →
    index < file.length → after[index]? = file[index]?

theorem written_writeAt (file : FileBytes) (position : Nat)
    (bytes : List UInt8) :
    file.Written position bytes (file.writeAt position bytes) where
  inside := readAt_writeAt file position bytes
  outside := fun _ => getElem?_writeAt_outside

theorem Written.unique {first : List UInt8}
    (same : first.length = bytes.length)
    (written : file.Written position bytes
      (file.writeAt position first)) : first = bytes := by
  have inside := written.inside
  rwa [← same, readAt_writeAt] at inside

end FileBytes

/-- Address and length of a buffer. -/
abbrev BufferSpan := Nat × Nat

namespace Memory

def vectorLength (vector : List BufferSpan) : Nat :=
  vector.foldr (fun buffer total => buffer.2 + total) 0

/-- The bytes of the buffers, one buffer after the other. -/
def gather (memory : Memory) (vector : List BufferSpan) : List UInt8 :=
  vector.flatMap fun buffer => memory.read buffer.1 buffer.2

/-- Fill the buffers, one after the other, as far as the bytes go. -/
def scatter (memory : Memory) : List BufferSpan → List UInt8 → Memory
  | [], _ => memory
  | buffer :: rest, bytes =>
      (memory.store buffer.1 (bytes.take buffer.2)).scatter rest
        (bytes.drop buffer.2)

/-- A store that leaves its own range as it was changes nothing. -/
theorem store_eq_self_iff (memory : Memory) (address : Nat)
    (bytes : List UInt8) :
    memory.store address bytes = memory ↔
      memory.read address bytes.length = bytes := by
  constructor
  · intro same
    have stored := read_store memory address bytes
    rwa [same] at stored
  · intro held
    funext location
    by_cases within : address ≤ location ∧
        location < address + bytes.length
    · obtain ⟨index, rfl⟩ := Nat.exists_eq_add_of_le within.1
      have bound : index < bytes.length := by omega
      rw [store_inside memory bound, ← held]
      simp [read, bound]
    · exact store_outside memory (by omega)

end Memory

end VirtioGpu.Foundation
