import VirtioGpu.Vga.VideoMemory

namespace VirtioGpu.Vga

open Foundation

/-! What a planar write should store, bit by bit, and when the bytes that are
stored are that. -/

inductive LogicalFunction where
  | replace
  | and
  | or
  | xor
  deriving Repr, DecidableEq

/-- The function that the data-rotate register selects. -/
def LogicalFunction.selected (rotate : UInt8) : LogicalFunction :=
  match rotate.toNat / 8 % 4 with
  | 0 => .replace
  | 1 => .and
  | 2 => .or
  | _ => .xor

def LogicalFunction.apply : LogicalFunction → Bool → Bool → Bool
  | .replace, source, _ => source
  | .and, source, latch => latch && source
  | .or, source, latch => latch || source
  | .xor, source, latch => latch ^^ source

section Rules

variable (gc : VgaGc) (val : UInt8) (plane : Fin 4) (index : Nat)

/-- A bit of the byte, rotated by the low three bits of the register. -/
def rotatedBit : Bool :=
  bit val ((index + (gc.regs .dataRotate).toNat % 8) % 8)

def effectiveMask : Bool :=
  match gc.gcModeWm.toNat with
  | 3 => bit (gc.regs .bitMask) index && rotatedBit gc val index
  | _ => bit (gc.regs .bitMask) index

def sourceBit : Bool :=
  match gc.gcModeWm.toNat with
  | 0 =>
      if planeBit (gc.regs .enableSetReset) plane then
        planeBit (gc.regs .setReset) plane
      else rotatedBit gc val index
  | 2 => planeBit val plane
  | _ => planeBit (gc.regs .setReset) plane

/-- The bit the rules of the graphics controller give a plane. -/
def plannedBit : Bool :=
  let latch := bit (gc.gcLatch plane) index
  if effectiveMask gc val index then
    (LogicalFunction.selected (gc.regs .dataRotate)).apply
      (sourceBit gc val plane index) latch
  else latch

/-! Where the code follows the rules.  The functions other than the first are
never found, and the latch is stored. -/

/-- In the first mode the first function takes set/reset where it is not
enabled too, and clears what the mask keeps. -/
def ReplaceFollows (undefinedShift : UInt8 → UInt8 → UInt8) : Prop :=
  planeBit (gc.regs .enableSetReset) plane = true ∨
    if bit (gc.regs .bitMask) index then
      let set := planeBit (gc.regs .setReset) plane
      let rotated := rotatedBit gc val index
      if gc.regs .dataRotate ≤ 8 then set = true → rotated = true
      else (bit (undefinedShift (gc.regs .dataRotate) val) index || set) =
        rotated
    else bit (gc.gcLatch plane) index = false

/-- In the third mode the mask is taken from the byte before it is rotated. -/
def MaskFollows : Prop :=
  bit (gc.regs .bitMask) index = true →
    bit val index = rotatedBit gc val index ∨
      planeBit (gc.regs .setReset) plane = bit (gc.gcLatch plane) index

def BitFollows (undefinedShift : UInt8 → UInt8 → UInt8) : Prop :=
  let latch := bit (gc.gcLatch plane) index
  let source := sourceBit gc val plane index
  match LogicalFunction.selected (gc.regs .dataRotate) with
  | .replace =>
      match gc.gcModeWm.toNat with
      | 0 => ReplaceFollows gc val plane index undefinedShift
      | 2 => True
      | _ => MaskFollows gc val plane index
  | .and => effectiveMask gc val index = true → latch = true → source = true
  | .or => effectiveMask gc val index = true → source = true → latch = true
  | .xor => effectiveMask gc val index = true → source = false

end Rules

theorem selected_toNat {gc : VgaGc}
    (decoded : gc.gcOp = gc.regs .dataRotate >>> 3 &&& 0x3) :
    gc.gcOp.toNat = (gc.regs .dataRotate).toNat / 8 % 4 := by
  have field : ∀ value : Nat, value &&& 3 = value % 4 :=
    fun value => Nat.and_two_pow_sub_one_eq_mod value 2
  rw [decoded, UInt8.toNat_and, UInt8.toNat_shiftRight]
  simp [field, Nat.shiftRight_eq_div_pow]

/-- The codes of the other functions are eight times too large. -/
theorem planeByte_of_function {undefinedShift : UInt8 → UInt8 → UInt8}
    {gc : VgaGc} (val : UInt8) (plane : Fin 4)
    (function : gc.gcOp.toNat = 1 ∨ gc.gcOp.toNat = 2 ∨ gc.gcOp.toNat = 3) :
    planeByte undefinedShift gc val plane = gc.gcLatch plane := by
  unfold planeByte writeMode0 writeMode2 writeMode3 combined
  rcases function with code | code | code <;> rw [code] <;> split <;> rfl

theorem bit_ones_of {index : Nat} (inByte : index < 8) (source : Bool) :
    bit (ones source) index = source := by
  cases source <;> simp [ones, inByte]

section Replaced

variable {undefinedShift : UInt8 → UInt8 → UInt8} {gc : VgaGc}
  {val : UInt8} {plane : Fin 4} {index : Nat}

theorem bit_combined {op c mask : UInt8} {source : Bool}
    (replaces : op.toNat = 0) (inByte : index < 8) :
    bit (combined op c mask source) index =
      if bit mask index then source else bit c index := by
  unfold combined
  rw [replaces]
  simp [bit_ones_of inByte, inByte]
  cases bit mask index <;> simp

theorem bit_writeMode0 (replaces : gc.gcOp.toNat = 0) (inByte : index < 8) :
    bit (writeMode0 undefinedShift gc val plane) index =
      if planeBit (gc.regs .enableSetReset) plane then
        if bit (gc.regs .bitMask) index then
          planeBit (gc.regs .setReset) plane
        else bit (gc.gcLatch plane) index
      else bit (gc.regs .bitMask) index &&
        (bit (rotated undefinedShift (gc.regs .dataRotate) val) index ||
          planeBit (gc.regs .setReset) plane) := by
  unfold writeMode0
  simp only [replaces]
  cases planeBit (gc.regs .enableSetReset) plane <;>
    cases planeBit (gc.regs .setReset) plane <;>
    cases mask : bit (gc.regs .bitMask) index <;> simp [mask, inByte]

theorem bit_rotated (small : gc.regs .dataRotate ≤ 8)
    (replaces : gc.gcOp.toNat = 0)
    (decoded : gc.gcOp.toNat = (gc.regs .dataRotate).toNat / 8 % 4)
    (inByte : index < 8) :
    bit (rotated undefinedShift (gc.regs .dataRotate) val) index =
      rotatedBit gc val index := by
  have bound : (gc.regs .dataRotate).toNat ≤ 8 := UInt8.le_iff_toNat_le.mp small
  have count : (gc.regs .dataRotate).toNat % 8 =
      (gc.regs .dataRotate).toNat := by omega
  unfold rotated rotatedBit
  rw [if_pos small, bit_rotateRight val bound inByte, count]

theorem bit_writeMode0_iff (replaces : gc.gcOp.toNat = 0)
    (decoded : gc.gcOp.toNat = (gc.regs .dataRotate).toNat / 8 % 4)
    (inByte : index < 8) :
    bit (writeMode0 undefinedShift gc val plane) index =
        (if bit (gc.regs .bitMask) index then
          if planeBit (gc.regs .enableSetReset) plane then
            planeBit (gc.regs .setReset) plane
          else rotatedBit gc val index
        else bit (gc.gcLatch plane) index) ↔
      ReplaceFollows gc val plane index undefinedShift := by
  rw [bit_writeMode0 replaces inByte]
  unfold ReplaceFollows
  by_cases small : gc.regs .dataRotate ≤ 8
  · rw [bit_rotated small replaces decoded inByte]
    simp only [small, if_true]
    generalize planeBit (gc.regs .enableSetReset) plane = enabled
    generalize planeBit (gc.regs .setReset) plane = set
    generalize bit (gc.regs .bitMask) index = mask
    generalize rotatedBit gc val index = rotated
    generalize bit (gc.gcLatch plane) index = latch
    revert enabled set mask rotated latch
    decide
  · have shifted : rotated undefinedShift (gc.regs .dataRotate) val =
        undefinedShift (gc.regs .dataRotate) val := if_neg small
    simp only [small, if_false, shifted]
    generalize planeBit (gc.regs .enableSetReset) plane = enabled
    generalize planeBit (gc.regs .setReset) plane = set
    generalize bit (gc.regs .bitMask) index = mask
    generalize bit (undefinedShift (gc.regs .dataRotate) val) index = result
    generalize rotatedBit gc val index = rotated
    generalize bit (gc.gcLatch plane) index = latch
    revert enabled set mask result rotated latch
    decide

theorem bit_writeMode3_iff (replaces : gc.gcOp.toNat = 0)
    (inByte : index < 8) :
    bit (writeMode3 gc val plane) index =
        (if bit (gc.regs .bitMask) index && rotatedBit gc val index then
          planeBit (gc.regs .setReset) plane
        else bit (gc.gcLatch plane) index) ↔
      MaskFollows gc val plane index := by
  unfold writeMode3 MaskFollows
  rw [bit_combined replaces inByte, bit_and]
  generalize bit (gc.regs .bitMask) index = mask
  generalize bit val index = written
  generalize planeBit (gc.regs .setReset) plane = set
  generalize rotatedBit gc val index = rotated
  generalize bit (gc.gcLatch plane) index = latch
  revert mask written set rotated latch
  decide

end Replaced

theorem apply_latch_iff (mask source latch : Bool) :
    (latch = (if mask then LogicalFunction.and.apply source latch else latch) ↔
      (mask = true → latch = true → source = true)) ∧
    (latch = (if mask then LogicalFunction.or.apply source latch else latch) ↔
      (mask = true → source = true → latch = true)) ∧
    (latch = (if mask then LogicalFunction.xor.apply source latch else latch) ↔
      (mask = true → source = false)) := by
  revert mask source latch
  decide

theorem bit_planeByte_iff (undefinedShift : UInt8 → UInt8 → UInt8)
    {gc : VgaGc} (decoded : gc.gcOp = gc.regs .dataRotate >>> 3 &&& 0x3)
    (mode : gc.gcModeWm = 0 ∨ gc.gcModeWm = 2 ∨ gc.gcModeWm = 3)
    (val : UInt8) (plane : Fin 4) {index : Nat} (inByte : index < 8) :
    bit (planeByte undefinedShift gc val plane) index =
        plannedBit gc val plane index ↔
      BitFollows gc val plane index undefinedShift := by
  have code := selected_toNat decoded
  have below : (gc.regs .dataRotate).toNat / 8 % 4 < 4 := by omega
  obtain ⟨and, or, xor⟩ := apply_latch_iff (effectiveMask gc val index)
    (sourceBit gc val plane index) (bit (gc.gcLatch plane) index)
  unfold plannedBit BitFollows LogicalFunction.selected
  by_cases replaces : gc.gcOp.toNat = 0
  · rw [← code, replaces]
    rcases mode with zero | two | three
    · simp only [planeByte, effectiveMask, sourceBit, zero]
      exact bit_writeMode0_iff replaces code inByte
    · simp only [planeByte, effectiveMask, sourceBit, two]
      simp [writeMode2, bit_combined replaces inByte, LogicalFunction.apply]
    · simp only [planeByte, effectiveMask, sourceBit, three]
      exact bit_writeMode3_iff replaces inByte
  · rw [planeByte_of_function val plane (by omega), ← code]
    have others : gc.gcOp.toNat = 1 ∨ gc.gcOp.toNat = 2 ∨
        gc.gcOp.toNat = 3 := by omega
    rcases others with one | two | three
    · rw [one]
      exact and
    · rw [two]
      exact or
    · rw [three]
      exact xor

/-! The bytes in the memory. -/

theorem planeIndex_injective {offset : Nat} {first second : Fin 4}
    (same : planeIndex offset first = planeIndex offset second) :
    first = second := by
  unfold planeIndex kb at same
  apply Fin.ext
  omega

theorem stored_of_mem {offset : Nat} {bytes : Fin 4 → UInt8}
    {planes : List (Fin 4)} {plane : Fin 4} {ram : Memory}
    (stores : plane ∈ planes ∨ ram (planeIndex offset plane) = bytes plane) :
    planes.foldl (fun ram plane => Function.update ram
      (planeIndex offset plane) (bytes plane)) ram
        (planeIndex offset plane) = bytes plane := by
  induction planes generalizing ram with
  | nil => simpa using stores
  | cons first rest induction =>
      rw [List.foldl_cons]
      apply induction
      by_cases same : planeIndex offset plane = planeIndex offset first
      · right
        rw [planeIndex_injective same, Function.update_self]
      · rw [Function.update_of_ne same]
        rcases stores with member | stored
        · rcases List.mem_cons.mp member with rfl | later
          · exact absurd rfl same
          · exact .inl later
        · exact .inr stored

/-- The bytes that a write stores in the planes of the map mask, which odd and
even addresses share in odd/even mode. -/
theorem planarWrite_follows_iff (undefinedShift : UInt8 → UInt8 → UInt8)
    {vd : VgaVdev} (reached : vgaSystem.Reached vd)
    (mode : vd.gc.gcModeWm = 0 ∨ vd.gc.gcModeWm = 2 ∨ vd.gc.gcModeWm = 3)
    {addr offset : Nat}
    (window : windowOffset vd.gc.gcMiscMm addr = some offset) (val : UInt8)
    {plane : Fin 4}
    (enabled : planeBit (vd.seq.regs .mapMask) plane = true)
    (parity : vd.gc.gcModeOe = true → plane.val % 2 = offset % 2)
    {index : Nat} (inByte : index < 8) :
    bit ((vgaMemWrHandler undefinedShift vd addr val).1.vgaRam
        (planeIndex (storedOffset vd offset) plane)) index =
          plannedBit vd.gc val plane index ↔
      BitFollows vd.gc val plane index undefinedShift := by
  have decoded := (decoded_of_reached reached).function
  unfold vgaMemWrHandler
  rw [window]
  simp only
  rw [stored_of_mem (.inl (mem_storedPlanes.mpr ⟨enabled, parity⟩))]
  exact bit_planeByte_iff undefinedShift decoded mode val plane inByte

/-- A byte written in mode 2 to the third plane, where the mask lets all its
bits through. -/
theorem planarWrite_follows_mode2 :
    let vd := [VgaEvent.out 0x3c4 2, .out 0x3c5 0x0f, .out 0x3ce 5,
      .out 0x3cf 2, .out 0x3ce 8, .out 0x3cf 0xff].foldl vgaNext
        (vgaInit none)
    bit ((vgaMemWrHandler (fun _ _ => 0) vd 0xa0000 0x04).1.vgaRam
      (planeIndex (storedOffset vd 0) 2)) 0 = plannedBit vd.gc 0x04 2 0 :=
  (planarWrite_follows_iff _ (vgaSystem_reached none _) (.inr (.inl rfl)) rfl
    _ (by decide) (by decide) (by decide)).mpr trivial

/-- A latch is lost where the mask of a cleared device keeps it. -/
theorem planarWrite_loses_latch :
    ¬ ∀ (undefinedShift : UInt8 → UInt8 → UInt8) (vd : VgaVdev),
      vgaSystem.Reached vd →
      (vd.gc.gcModeWm = 0 ∨ vd.gc.gcModeWm = 2 ∨ vd.gc.gcModeWm = 3) →
      ∀ addr offset, windowOffset vd.gc.gcMiscMm addr = some offset →
      ∀ (val : UInt8) (plane : Fin 4),
        planeBit (vd.seq.regs .mapMask) plane = true →
        (vd.gc.gcModeOe = true → plane.val % 2 = offset % 2) →
        ∀ index, index < 8 →
          bit ((vgaMemWrHandler undefinedShift vd addr val).1.vgaRam
            (planeIndex (storedOffset vd offset) plane)) index =
              plannedBit vd.gc val plane index := by
  intro follows
  have stored := follows (fun _ _ => 0) _
    (vgaSystem_reached none [.out 0x3c4 2, .out 0x3c5 0x0f,
      .memory Memory.zero fun _ => 0xff]) (.inl rfl) 0xa0000 0 rfl 0 0
    (by decide) (by decide) 0 (by decide)
  revert stored
  decide

end VirtioGpu.Vga
