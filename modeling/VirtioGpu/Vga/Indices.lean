import VirtioGpu.Vga.VideoMemory

namespace VirtioGpu.Vga

open Foundation

/-! Which indices lie in the 256 KiB of `vga_ram`. -/

def ramSize : Nat := 256 * kb

theorem planeIndex_lt_iff {offset : Nat} {plane : Fin 4}
    (within : offset < 128 * kb) :
    planeIndex offset plane < ramSize ↔
      (64 * kb ≤ offset → plane.val ≠ 3) := by
  have bound := plane.isLt
  unfold planeIndex ramSize kb at *
  omega

/-! Accesses of the memory. -/

def windowBase (mm : UInt8) : Nat :=
  match mm.toNat with
  | 0x0 | 0x1 => 0xa0000
  | 0x2 => 0xb0000
  | _ => 0xb8000

/-- The address is in the half of the extended window that lies past a
plane. -/
def PastPlane (vd : VgaVdev) (addr : Nat) : Prop :=
  vd.gc.gcMiscMm = 0 ∧ 65536 ≤ addr % 131072

theorem windowOffset_eq_none_iff {mm : UInt8} (known : mm.toNat ≤ 3)
    (addr : Nat) : windowOffset mm addr = none ↔ addr < windowBase mm := by
  unfold windowOffset windowBase
  split <;> simp_all
  omega

theorem windowOffset_spec {mm : UInt8} (known : mm.toNat ≤ 3)
    {addr offset : Nat} (window : windowOffset mm addr = some offset) :
    offset < 128 * kb ∧
      (64 * kb ≤ offset ↔ mm = 0 ∧ 65536 ≤ addr % 131072) ∧
        offset % 2 = addr % 2 := by
  have zero : mm = 0 ↔ mm.toNat = 0 := by
    rw [← UInt8.toNat_inj]
    rfl
  unfold windowOffset kb at window
  unfold kb
  split at window <;> rename_i selected <;> simp_all <;> omega

/-- A byte is read inside unless the latches are filled from past a plane, or
the register selects a plane that is not there. -/
def ReadInside (vd : VgaVdev) (addr : Nat) : Prop :=
  windowBase vd.gc.gcMiscMm ≤ addr →
    ¬PastPlane vd addr ∧
      (vd.gc.gcModeRm = 0 → vd.gc.regs .readMapSelect ≤ 3)

/-- A byte is written inside unless it goes past the last plane. -/
def WriteInside (vd : VgaVdev) (addr : Nat) : Prop :=
  windowBase vd.gc.gcMiscMm ≤ addr → PastPlane vd addr →
    ¬(bit (vd.seq.regs .mapMask) 3 = true ∧
      (vd.gc.gcModeOe = true → addr % 2 = 1))

theorem or_bit_le_iff {selected bit : Nat} (small : bit ≤ 1) :
    selected ||| bit ≤ 3 ↔ selected ≤ 3 := by
  constructor
  · exact fun both => Nat.le_trans Nat.left_le_or both
  · intro known
    have both : selected ||| bit < 2 ^ 2 :=
      Nat.or_lt_two_pow (by omega) (by omega)
    omega

theorem readSelection_spec (vd : VgaVdev) (offset : Nat) :
    ((readSelection vd offset).1 ≤ 3 ↔ vd.gc.regs .readMapSelect ≤ 3) ∧
      (readSelection vd offset).2 ≤ offset := by
  have known : vd.gc.regs .readMapSelect ≤ 3 ↔
      (vd.gc.regs .readMapSelect).toNat ≤ 3 := UInt8.le_iff_toNat_le
  unfold readSelection
  split
  · have bit : (UInt8.ofNat (offset % 2)).toNat = offset % 2 := by
      rw [UInt8.toNat_ofNat']
      omega
    refine ⟨?_, by simp⟩
    simp only [UInt8.toNat_or, bit, known]
    exact or_bit_le_iff (by omega)
  · exact ⟨known.symm, Nat.le_refl _⟩

/-- The four planes at one offset. -/
theorem planes_inside_iff (offset : Nat) :
    (∀ index ∈ allPlanes.map (planeIndex offset), index < ramSize) ↔
      offset < 64 * kb := by
  rw [List.forall_mem_map]
  unfold planeIndex ramSize kb
  constructor
  · intro inside
    have last : offset + 3 * (64 * 1024) < 256 * 1024 :=
      inside 3 (by simp [allPlanes])
    omega
  · intro first plane _
    have bound := plane.isLt
    omega

theorem vgaMemRdHandler_inside_iff {vd : VgaVdev} (decoded : vd.Decoded)
    (addr : Nat) :
    (∀ index ∈ (vgaMemRdHandler vd addr).2, index < ramSize) ↔
      ReadInside vd addr := by
  have none_iff := windowOffset_eq_none_iff decoded.window addr
  unfold vgaMemRdHandler ReadInside
  cases window : windowOffset vd.gc.gcMiscMm addr with
  | none =>
      have before := none_iff.mp window
      simp
      omega
  | some offset =>
      obtain ⟨within, past, -⟩ := windowOffset_spec decoded.window window
      obtain ⟨known, selected⟩ := readSelection_spec vd offset
      have base : windowBase vd.gc.gcMiscMm ≤ addr := by
        by_contra below
        rw [none_iff.mpr (by omega)] at window
        cases window
      have first : offset < 64 * kb ↔ ¬PastPlane vd addr := by
        unfold PastPlane
        rw [← past, Nat.not_le]
      simp only
      split
      · rename_i mode
        rw [planes_inside_iff, first]
        simp [base, mode]
      · rename_i mode
        have zero : vd.gc.gcModeRm = 0 := by simpa using mode
        rw [List.forall_mem_append, planes_inside_iff, ← first,
          List.forall_mem_singleton, ← known]
        simp only [base, zero, true_implies]
        refine and_congr_right fun inPlane => ?_
        unfold ramSize kb at *
        omega

theorem vgaMemWrHandler_inside_iff
    (undefinedShift : UInt8 → UInt8 → UInt8) {vd : VgaVdev}
    (decoded : vd.Decoded) (addr : Nat) (val : UInt8) :
    (∀ index ∈ (vgaMemWrHandler undefinedShift vd addr val).2,
        index < ramSize) ↔ WriteInside vd addr := by
  have none_iff := windowOffset_eq_none_iff decoded.window addr
  unfold vgaMemWrHandler WriteInside
  cases window : windowOffset vd.gc.gcMiscMm addr with
  | none =>
      have before := none_iff.mp window
      simp
      omega
  | some offset =>
      obtain ⟨within, past, parity⟩ :=
        windowOffset_spec decoded.window window
      have base : windowBase vd.gc.gcMiscMm ≤ addr := by
        by_contra below
        rw [none_iff.mpr (by omega)] at window
        cases window
      have stored : storedOffset vd offset < 128 * kb ∧
          (64 * kb ≤ storedOffset vd offset ↔ PastPlane vd addr) := by
        unfold PastPlane
        rw [← past]
        unfold storedOffset kb at *
        split <;> omega
      have last : (3 : Fin 4).val = 3 := rfl
      simp only [List.forall_mem_map, planeIndex_lt_iff stored.1, stored.2,
        mem_storedPlanes, base, true_implies, ← parity]
      constructor
      · rintro inside pastPlane ⟨masked, odd⟩
        exact inside 3 ⟨masked, fun oe => (odd oe).symm⟩ pastPlane last
      · rintro outside plane ⟨masked, odd⟩ pastPlane isLast
        obtain rfl : plane = 3 := Fin.ext isLast
        exact outside pastPlane ⟨masked, fun oe => (odd oe).symm⟩

/-! A handler of the memory does to the device what a memory event does. -/

theorem vgaMemRdHandler_event (vd : VgaVdev) (addr : Nat) :
    ∃ vgaRam gcLatch, (vgaMemRdHandler vd addr).1.1 =
      vgaNext vd (.memory vgaRam gcLatch) := by
  unfold vgaMemRdHandler
  split
  · exact ⟨vd.vgaRam, vd.gc.gcLatch, rfl⟩
  · simp only
    split
    · exact ⟨vd.vgaRam, _, rfl⟩
    · exact ⟨vd.vgaRam, _, rfl⟩

theorem vgaMemWrHandler_event (undefinedShift : UInt8 → UInt8 → UInt8)
    (vd : VgaVdev) (addr : Nat) (val : UInt8) :
    ∃ vgaRam gcLatch, (vgaMemWrHandler undefinedShift vd addr val).1 =
      vgaNext vd (.memory vgaRam gcLatch) := by
  unfold vgaMemWrHandler
  split
  · exact ⟨vd.vgaRam, vd.gc.gcLatch, rfl⟩
  · exact ⟨_, vd.gc.gcLatch, rfl⟩

/-- The same registers, with whatever memory and latches. -/
def SameRegisters (vd other : VgaVdev) : Prop :=
  ∃ vgaRam gcLatch, other = vgaNext vd (.memory vgaRam gcLatch)

theorem SameRegisters.refl (vd : VgaVdev) : SameRegisters vd vd :=
  ⟨vd.vgaRam, vd.gc.gcLatch, rfl⟩

theorem SameRegisters.decoded {vd other : VgaVdev}
    (same : SameRegisters vd other) (decoded : vd.Decoded) :
    other.Decoded := by
  obtain ⟨vgaRam, gcLatch, rfl⟩ := same
  exact ⟨decoded.1, decoded.2, decoded.3, decoded.4⟩

theorem vgaMemHandlerRead_inside_iff {vd : VgaVdev} (decoded : vd.Decoded)
    (addr size : Nat) (val : UInt64) :
    (∀ index ∈ (vgaMemHandlerRead vd addr size val).2, index < ramSize) ↔
      ∀ byte ∈ accessBytes size, ReadInside vd (addr + byte) := by
  refine @foldLogged_touches_iff _ _ _ _
    (fun state => SameRegisters vd state.1) _ _ (fun state byte same => ?_)
    (fun state byte same => ?_) _ (vd, val) (SameRegisters.refl vd)
  · obtain ⟨_, _, unchanged⟩ := same
    obtain ⟨vgaRam, gcLatch, read⟩ :=
      vgaMemRdHandler_event state.1 (addr + byte)
    refine ⟨vgaRam, gcLatch, ?_⟩
    rw [read, unchanged]
    rfl
  · rw [vgaMemRdHandler_inside_iff (same.decoded decoded)]
    obtain ⟨_, _, unchanged⟩ := same
    rw [unchanged]
    rfl

theorem vgaMemHandlerWrite_inside_iff
    (undefinedShift : UInt8 → UInt8 → UInt8) {vd : VgaVdev}
    (decoded : vd.Decoded) (addr size : Nat) (val : UInt64) :
    (∀ index ∈ (vgaMemHandlerWrite undefinedShift vd addr size val).2,
        index < ramSize) ↔
      ∀ byte ∈ accessBytes size, WriteInside vd (addr + byte) := by
  apply foldLogged_touches_iff (fun state byte same => ?_)
    (fun state byte same => ?_) _ (SameRegisters.refl vd)
  · obtain ⟨_, _, unchanged⟩ := same
    obtain ⟨vgaRam, gcLatch, written⟩ := vgaMemWrHandler_event
      undefinedShift state (addr + byte)
      (val >>> UInt64.ofNat (8 * byte)).toUInt8
    refine ⟨vgaRam, gcLatch, ?_⟩
    rw [written, unchanged]
    rfl
  · rw [vgaMemWrHandler_inside_iff undefinedShift (same.decoded decoded)]
    obtain ⟨_, _, unchanged⟩ := same
    rw [unchanged]
    rfl

/-! Pixels. -/

/-- The last pixel of the last row is inside; in text mode it is the cell of
that pixel, in graphics mode the byte. -/
def RenderInside (vd : VgaVdev) : Prop :=
  vgaInReset vd = false → 0 < gcWidth vd →
    if vd.gc.gcMiscGm ≠ 0 ∧ vd.atc.regs .modeControl &&& 0x01 ≠ 0 then
      (gcHeight vd - 1) * gcWidth vd / 8 + (gcWidth vd - 1) / 8 < 65536
    else
      2 * vd.crtc.crtcStartAddr.toNat +
        (gcHeight vd - 1) / 16 * gcWidth vd / vd.seq.seqCmDots * 2 +
          (gcWidth vd - 1) / vd.seq.seqCmDots * 2 < 196608

theorem vgaGetPixel_inside_iff (vd : VgaVdev) (x y : Nat) :
    (∀ index ∈ (vgaGetPixel vd x y).2, index < ramSize) ↔
      pixelOffset (gcWidth vd) x y < 65536 :=
  planes_inside_iff _

theorem fontOffset_lt {vd : VgaVdev} (decoded : vd.Decoded)
    (ch attr : UInt8) (y : Nat) : fontOffset vd ch attr y < 65536 := by
  have primary := decoded.primary
  have secondary := decoded.secondary
  have glyph := ch.toNat_lt
  simp only [fontOffset]
  split
  · split <;> omega
  · omega

theorem vgaGetTextPixel_inside_iff {vd : VgaVdev} (decoded : vd.Decoded)
    (x y : Nat) :
    (∀ index ∈ (vgaGetTextPixel vd x y).2, index < ramSize) ↔
      textOffset vd x y < 196608 := by
  have font := fontOffset_lt decoded
    (vd.vgaRam (planeIndex (textOffset vd x y) 0))
    (vd.vgaRam (planeIndex (textOffset vd x y) 1)) y
  unfold vgaGetTextPixel
  simp only
  generalize fontOffset vd _ _ y = glyph at font ⊢
  generalize textOffset vd x y = offset
  have first : (0 : Fin 4).val = 0 := rfl
  have second : (1 : Fin 4).val = 1 := rfl
  have third : (2 : Fin 4).val = 2 := rfl
  split <;> simp only [List.cons_append, List.nil_append,
    List.forall_mem_cons, planeIndex, ramSize, kb] <;> simp <;> omega

theorem pixelOffset_mono {width x y lastX lastY : Nat} (column : x ≤ lastX)
    (row : y ≤ lastY) :
    pixelOffset width x y ≤ pixelOffset width lastX lastY :=
  Nat.add_le_add (Nat.div_le_div_right (Nat.mul_le_mul_right width row))
    (Nat.div_le_div_right column)

theorem textOffset_mono (vd : VgaVdev) {x y lastX lastY : Nat}
    (column : x ≤ lastX) (row : y ≤ lastY) :
    textOffset vd x y ≤ textOffset vd lastX lastY := by
  have rows : y / 16 * gcWidth vd ≤ lastY / 16 * gcWidth vd :=
    Nat.mul_le_mul_right _ (Nat.div_le_div_right row)
  exact Nat.add_le_add
    (Nat.add_le_add_left
      (Nat.mul_le_mul_right 2 (Nat.div_le_div_right rows)) _)
    (Nat.mul_le_mul_right 2 (Nat.div_le_div_right column))

/-- A bound on every pixel of an image is one on the last. -/
theorem forall_pixels_iff {place : Nat → Nat → Nat} {bound : Nat}
    (mono : ∀ {x y lastX lastY}, x ≤ lastX → y ≤ lastY →
      place x y ≤ place lastX lastY) (width height : Nat) :
    (∀ y < height + 1, ∀ x < width, place x y < bound) ↔
      (0 < width → place (width - 1) height < bound) := by
  constructor
  · exact fun every wide =>
      every height (by omega) (width - 1) (by omega)
  · intro last y row x column
    exact Nat.lt_of_le_of_lt (mono (by omega) (by omega))
      (last (by omega))

theorem vgaRender_inside_iff {vd : VgaVdev} (decoded : vd.Decoded) :
    (∀ pixel ∈ vgaRender vd, ∀ index ∈ pixel.2, index < ramSize) ↔
      RenderInside vd := by
  have height : gcHeight vd = gcHeight vd - 1 + 1 := rfl
  unfold vgaRender RenderInside
  split
  · rename_i reset
    simp [reset]
  · rename_i reset
    simp only [List.forall_mem_flatMap, List.mem_range, List.forall_mem_map]
    split
    · simp only [vgaGetPixel_inside_iff]
      rw [height, forall_pixels_iff pixelOffset_mono]
      simp [reset, pixelOffset]
    · simp only [vgaGetTextPixel_inside_iff decoded]
      rw [height, forall_pixels_iff (textOffset_mono vd)]
      simp [reset, textOffset]

theorem vgaRam_inside_iff {vd : VgaVdev} (reached : vgaSystem.Reached vd) :
    (∀ addr size val, 0xa0000 ≤ addr → addr < 0xc0000 →
      ((∀ index ∈ (vgaMemHandlerRead vd addr size val).2, index < ramSize) ↔
        ∀ byte ∈ accessBytes size, ReadInside vd (addr + byte))) ∧
    (∀ undefinedShift addr size val, 0xa0000 ≤ addr → addr < 0xc0000 →
      ((∀ index ∈ (vgaMemHandlerWrite undefinedShift vd addr size val).2,
          index < ramSize) ↔
        ∀ byte ∈ accessBytes size, WriteInside vd (addr + byte))) ∧
    ((∀ pixel ∈ vgaRender vd, ∀ index ∈ pixel.2, index < ramSize) ↔
      RenderInside vd) := by
  have decoded := decoded_of_reached reached
  refine ⟨?_, ?_, vgaRender_inside_iff decoded⟩
  · intro addr size val _ _
    exact vgaMemHandlerRead_inside_iff decoded addr size val
  · intro undefinedShift addr size val _ _
    exact vgaMemHandlerWrite_inside_iff undefinedShift decoded addr size val

/-- The last eight bytes of the last plane, which the guest has selected, and
those one further on, in the extended window. -/
theorem vgaRam_inside_lastPlane :
    let vd := [VgaEvent.out 0x3ce 6, .out 0x3cf 1, .out 0x3ce 4,
      .out 0x3cf 3].foldl vgaNext (vgaInit none)
    (∀ index ∈ (vgaMemHandlerRead vd 0xafff8 8 0).2, index < ramSize) ∧
      ¬ ∀ index ∈ (vgaMemHandlerRead vd 0xafff9 8 0).2, index < ramSize := by
  intro vd
  have inside := (vgaRam_inside_iff (vgaSystem_reached none
    [.out 0x3ce 6, .out 0x3cf 1, .out 0x3ce 4, .out 0x3cf 3])).1
  rw [inside 0xafff8 8 0 (by decide) (by decide),
    inside 0xafff9 8 0 (by decide) (by decide)]
  unfold ReadInside PastPlane
  decide

/-- The first byte past the planes of a cleared device. -/
theorem vgaRam_read_past :
    ¬ ∀ vd, vgaSystem.Reached vd →
      (∀ addr size val, 0xa0000 ≤ addr → addr < 0xc0000 →
        ∀ index ∈ (vgaMemHandlerRead vd addr size val).2,
          index < ramSize) ∧
      (∀ undefinedShift addr size val, 0xa0000 ≤ addr → addr < 0xc0000 →
        ∀ index ∈ (vgaMemHandlerWrite undefinedShift vd addr size val).2,
          index < ramSize) ∧
      ∀ pixel ∈ vgaRender vd, ∀ index ∈ pixel.2, index < ramSize := by
  intro inside
  have read := (inside (vgaInit none) (.initial ⟨none, rfl⟩)).1
    0xb0000 1 0 (by decide) (by decide)
  revert read
  decide

end VirtioGpu.Vga
