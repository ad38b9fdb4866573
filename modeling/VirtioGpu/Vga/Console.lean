import VirtioGpu.Vga.Painting

namespace VirtioGpu.Vga

open Foundation

/-! A device in text mode.  Its window is plain memory in which a character
and its attribute lie side by side, and the font is a memory of its own. -/

structure Console where
  text : Nat → UInt8
  font : Nat → UInt8

namespace Console

def load (panel : VgaVdev) (console : Console) (addr : Nat) :
    Console × UInt64 :=
  match windowOffset panel.gc.gcMiscMm addr with
  | none => (console, 0xffffffff)
  | some offset =>
      if panel.gc.gcModeRm ≠ 0 then (console, 0xffffffff)
      else if panel.gc.gcModeOe then (console, (console.text offset).toUInt64)
      else (console, (console.font offset).toUInt64)

def store (panel : VgaVdev) (console : Console) (addr : Nat) (val : UInt8) :
    Console :=
  match windowOffset panel.gc.gcMiscMm addr with
  | none => console
  | some offset =>
      if panel.gc.gcModeOe then
        { console with text := Function.update console.text offset val }
      else { console with font := Function.update console.font offset val }

def blank : Console := ⟨fun _ => 0, fun _ => 0⟩

/-- A pixel of the character cell it lies in. -/
def pixel (panel : VgaVdev) (console : Console) (x y : Nat) : UInt32 :=
  let dots := panel.seq.seqCmDots
  let columns := (panel.crtc.regs .horizDispEnd).toNat + 1
  let cell := panel.crtc.crtcStartAddr.toNat + y / 16 * columns + x / dots
  let ch := console.text (2 * cell)
  let attr := console.text (2 * cell + 1)
  if panel.crtc.crtcCursorOn ∧ cell = panel.crtc.crtcCursorLoc.toNat ∧
      (panel.crtc.regs .cursorStart &&& 0x1f).toNat ≤ y % 16 ∧
      y % 16 ≤ (panel.crtc.regs .cursorEnd &&& 0x1f).toNat then
    textColour panel (attr &&& 0xf)
  else
    let shape := console.font (fontOffset panel ch attr y)
    let attr := shownAttr panel attr
    textColour panel
      (if bit shape (7 - min 7 (x % dots)) then attr &&& 0xf else attr >>> 4)

def picture (panel : VgaVdev) (console : Console) : List UInt32 :=
  if vgaInReset panel then []
  else
    (List.range (gcHeight panel)).flatMap fun y =>
      (List.range (gcWidth panel)).map fun x => console.pixel panel x y

/-- The text lies in two planes by turns, at even offsets, and the font in a
third. -/
structure Holds (console : Console) (vgaRam : Memory) : Prop where
  text : ∀ offset, offset < 64 * kb → console.text offset =
    vgaRam (planeIndex (offset - offset % 2) (Fin.ofNat 4 (offset % 2)))
  font : ∀ offset, offset < 64 * kb →
    console.font offset = vgaRam (planeIndex offset 2)

end Console

def consoleBytewise : Bytewise Console := ⟨Console.load, Console.store⟩

/-! The accesses a console makes. -/

/-- A byte is stored as it is written. -/
structure VgaGc.Plain (gc : VgaGc) : Prop where
  mode : gc.gcModeWm = 0
  rotate : gc.regs .dataRotate = 0
  mask : gc.regs .bitMask = 0xff
  enable : gc.regs .enableSetReset = 0
  set : gc.regs .setReset = 0

/-- Text is stored by turns in the first two planes and the font in the
third alone, inside the window. -/
def StoresText (vd : VgaVdev) (addr : Nat) : Prop :=
  vd.gc.Plain ∧
    (∀ plane : Fin 4, plane.val < 3 →
      planeBit (vd.seq.regs .mapMask) plane =
        if vd.gc.gcModeOe then decide (plane.val < 2)
        else decide (plane.val = 2)) ∧
    ∃ offset, windowOffset vd.gc.gcMiscMm addr = some offset ∧
      offset < 64 * kb

def LoadsText (vd : VgaVdev) (addr : Nat) : Prop :=
  vd.gc.regs .readMapSelect = (if vd.gc.gcModeOe then 0 else 2) ∧
    ∀ offset, windowOffset vd.gc.gcMiscMm addr = some offset →
      offset < 64 * kb

def asText : Within := ⟨LoadsText, fun vd addr _ => StoresText vd addr⟩

section Bytes

variable {undefinedShift : UInt8 → UInt8 → UInt8} {vd : VgaVdev}
  {console : Console} {addr : Nat}

theorem VgaGc.Plain.planeByte {gc : VgaGc} (plain : gc.Plain)
    (decoded : gc.gcOp = gc.regs .dataRotate >>> 3 &&& 0x3) (val : UInt8)
    (plane : Fin 4) : planeByte undefinedShift gc val plane = val := by
  have code := selected_toNat decoded
  have replaces : gc.gcOp.toNat = 0 := by
    rw [code, plain.rotate]
    rfl
  have mode : gc.gcModeWm.toNat = 0 := by
    rw [plain.mode]
    rfl
  apply bit_ext
  intro index inByte
  simp only [Vga.planeByte, mode]
  have small : gc.regs .dataRotate ≤ 8 := by
    rw [plain.rotate]
    decide
  rw [bit_writeMode0 replaces inByte,
    bit_rotated small replaces code inByte, plain.enable, plain.mask,
    plain.set]
  unfold rotatedBit planeBit
  rw [plain.rotate]
  simp [inByte, Nat.mod_eq_of_lt inByte]

/-- The plane of a character or of an attribute. -/
theorem val_text_plane (place : Nat) :
    (Fin.ofNat 4 (place % 2)).val = place % 2 := by
  simp only [Fin.val_ofNat]
  omega

theorem Console.Holds.store {val : UInt8} (decoded : vd.Decoded)
    (holds : console.Holds vd.vgaRam) (stores : StoresText vd addr) :
    (Console.store vd console addr val).Holds
      (vgaMemWrHandler undefinedShift vd addr val).1.vgaRam := by
  obtain ⟨text, font⟩ := holds
  obtain ⟨plain, planes, offset, window, inPlane⟩ := stores
  obtain ⟨after, written, stored⟩ :=
    vgaMemWrHandler_spec undefinedShift val window inPlane
  unfold Console.store
  rw [window, written]
  simp only [plain.planeByte decoded.function, mem_storedPlanes,
    storedOffset] at stored
  have textPlane := fun place => planes (Fin.ofNat 4 (place % 2))
    (by rw [val_text_plane]; omega)
  have fontPlane := planes 2 (by decide)
  simp only [val_text_plane] at textPlane
  cases turns : vd.gc.gcModeOe with
  | true =>
      simp only [turns, if_true] at textPlane fontPlane stored ⊢
      refine ⟨?_, ?_⟩
      · intro place within
        obtain ⟨takes, spares⟩ := stored (place - place % 2) (by omega)
          (Fin.ofNat 4 (place % 2))
        rw [textPlane, val_text_plane] at takes spares
        by_cases here : place = offset
        · obtain rfl := here
          simp only [Function.update_self]
          exact (takes rfl ⟨decide_eq_true (Nat.mod_lt _ (by decide)),
            fun _ => Nat.mod_mod _ _⟩).symm
        · simp only [Function.update_of_ne here]
          rw [text place within]
          refine (spares fun both => here ?_).symm
          have parity := both.2.2 trivial
          omega
      · intro place within
        rw [font place within]
        refine ((stored place within 2).2 fun both => ?_).symm
        rw [fontPlane] at both
        exact Bool.false_ne_true both.2.1
  | false =>
      simp only [turns, Bool.false_eq_true, if_false]
        at textPlane fontPlane stored ⊢
      refine ⟨?_, ?_⟩
      · intro place within
        rw [text place within]
        refine ((stored _ (by omega) _).2 fun both => ?_).symm
        rw [textPlane] at both
        have second := of_decide_eq_true both.2.1
        omega
      · intro place within
        obtain ⟨takes, spares⟩ := stored place within 2
        by_cases here : place = offset
        · obtain rfl := here
          simp only [Function.update_self]
          exact (takes rfl ⟨fontPlane, nofun⟩).symm
        · simp only [Function.update_of_ne here]
          rw [font place within]
          exact (spares fun both => here both.1).symm

theorem Console.Holds.load (holds : console.Holds vd.vgaRam)
    (loads : LoadsText vd addr) :
    (vgaMemRdHandler vd addr).1.2 = (Console.load vd console addr).2 ∧
      (Console.load vd console addr).1.Holds
        (vgaMemRdHandler vd addr).1.1.vgaRam := by
  obtain ⟨text, font⟩ := holds
  obtain ⟨selects, inPlanes⟩ := loads
  unfold Console.load vgaMemRdHandler
  cases window : windowOffset vd.gc.gcMiscMm addr with
  | none => exact ⟨rfl, text, font⟩
  | some offset =>
      have inPlane := inPlanes offset window
      simp only
      split
      · exact ⟨rfl, text, font⟩
      · cases turns : vd.gc.gcModeOe with
        | true =>
            rw [turns, if_pos rfl] at selects
            have known : offset % 2 ≤ 3 := by omega
            have selected : readSelection vd offset =
                (offset % 2, offset - offset % 2) := by
              unfold readSelection
              rw [if_pos turns, selects]
              simp
              omega
            refine ⟨?_, text, font⟩
            simp only [if_true]
            rw [selected, text offset inPlane, ← planeIndex_ofNat known]
        | false =>
            rw [turns, if_neg Bool.false_ne_true] at selects
            have selected : readSelection vd offset = (2, offset) := by
              unfold readSelection
              rw [if_neg (by simp [turns]), selects]
              rfl
            refine ⟨?_, text, font⟩
            rw [selected, if_neg Bool.false_ne_true, font offset inPlane]
            rfl

theorem StoresText.after {other : Nat} {byte : UInt8}
    (stores : StoresText vd addr) :
    StoresText (vgaMemWrHandler undefinedShift vd other byte).1 addr := by
  unfold vgaMemWrHandler
  split
  · exact stores
  · exact stores

end Bytes

theorem console_faithful (undefinedShift : UInt8 → UInt8 → UInt8) :
    consoleBytewise.Faithful undefinedShift asText
      fun console vgaRam _ => console.Holds vgaRam where
  unseen := fun _ _ _ => ⟨rfl, rfl⟩
  load := fun holds loads => holds.load loads
  store := fun decoded holds stores => holds.store decoded stores
  loadsAfter := by
    intro vd addr other loads
    obtain ⟨vgaRam, gcLatch, same⟩ := vgaMemRdHandler_event vd other
    rw [same]
    exact loads
  storesAfter := fun stores => stores.after

theorem Console.blank_holds : Console.blank.Holds Memory.zero :=
  ⟨fun _ _ => rfl, fun _ _ => rfl⟩

/-! What is shown. -/

/-- The device shows characters, all of them from one plane. -/
def VgaVdev.ShowsText (vd : VgaVdev) : Prop :=
  ¬vd.Graphics ∧ (vgaInReset vd = false → 0 < gcWidth vd →
    textOffset vd (gcWidth vd - 1) (gcHeight vd - 1) < 64 * kb)

theorem textOffset_eq {vd : VgaVdev} {x : Nat} (within : x < gcWidth vd)
    (y : Nat) : textOffset vd x y = 2 * (vd.crtc.crtcStartAddr.toNat +
      y / 16 * ((vd.crtc.regs .horizDispEnd).toNat + 1) +
        x / vd.seq.seqCmDots) := by
  have dots : 0 < vd.seq.seqCmDots := by
    apply Nat.pos_of_ne_zero
    intro dotless
    unfold gcWidth at within
    rw [dotless] at within
    omega
  have rows : y / 16 * gcWidth vd / vd.seq.seqCmDots =
      y / 16 * ((vd.crtc.regs .horizDispEnd).toNat + 1) := by
    unfold gcWidth
    rw [← Nat.mul_assoc, Nat.mul_div_cancel _ dots]
  unfold textOffset
  simp only [rows]
  omega

theorem Console.Holds.cell {console : Console} {vgaRam : Memory}
    (holds : console.Holds vgaRam) {cell : Nat}
    (inPlane : 2 * cell < 64 * kb) :
    vgaRam (planeIndex (2 * cell) 0) = console.text (2 * cell) ∧
      vgaRam (planeIndex (2 * cell) 1) = console.text (2 * cell + 1) := by
  have odd : 2 * cell + 1 < 64 * kb := by
    unfold kb at *
    omega
  have even : 2 * cell % 2 = 0 := by omega
  have one : (2 * cell + 1) % 2 = 1 := by omega
  rw [holds.text _ inPlane, holds.text _ odd, even, one]
  exact ⟨rfl, rfl⟩

theorem Console.Holds.pixel {vd : VgaVdev} {console : Console}
    (decoded : vd.Decoded) (holds : console.Holds vd.vgaRam) {x y : Nat}
    (within : x < gcWidth vd) (inPlane : textOffset vd x y < 64 * kb) :
    (vgaGetTextPixel vd x y).1 = console.pixel vd x y := by
  have place := textOffset_eq within y
  unfold vgaGetTextPixel Console.pixel
  simp only
  generalize vd.crtc.crtcStartAddr.toNat +
    y / 16 * ((vd.crtc.regs .horizDispEnd).toNat + 1) +
      x / vd.seq.seqCmDots = cell at place ⊢
  rw [place] at inPlane ⊢
  obtain ⟨ch, attr⟩ := holds.cell inPlane
  rw [ch, attr]
  have shape := holds.font _ (fontOffset_lt decoded
    (console.text (2 * cell)) (console.text (2 * cell + 1)) y)
  have cursor : 2 * cell = vd.crtc.crtcCursorLoc.toNat * 2 ↔
      cell = vd.crtc.crtcCursorLoc.toNat := by omega
  simp only [cursor]
  split
  · rfl
  · rw [shape]
    rfl

theorem Console.Holds.picture {vd : VgaVdev} {console : Console}
    (decoded : vd.Decoded) (holds : console.Holds vd.vgaRam)
    (shows : vd.ShowsText) :
    (vgaRender vd).map Prod.fst = console.picture vd := by
  obtain ⟨characters, inPlane⟩ := shows
  have mode : ¬(vd.gc.gcMiscGm ≠ 0 ∧
      vd.atc.regs .modeControl &&& 0x01 ≠ 0) := characters
  unfold vgaRender Console.picture
  split
  · rfl
  · rename_i running
    rw [List.map_flatMap]
    apply List.flatMap_congr
    intro y row
    rw [List.map_map]
    apply List.map_congr_left
    intro x column
    have narrow := List.mem_range.mp column
    have low := List.mem_range.mp row
    have last := inPlane (by simpa using running) (by omega)
    exact holds.pixel decoded narrow (Nat.lt_of_le_of_lt
      (textOffset_mono vd (by omega) (by omega)) last)

theorem SameRegisters.console {panel vd : VgaVdev}
    (same : SameRegisters panel vd) (console : Console) :
    console.picture vd = console.picture panel := by
  obtain ⟨vgaRam, gcLatch, rfl⟩ := same
  rfl

/-- In a run that stores text and fonts, the window reads as the memory it
looks like, and the screen shows the characters in it. -/
theorem vga_types (undefinedShift : UInt8 → UInt8 → UInt8)
    (gcImage : Option Bool) {acts : List VgaAct}
    (allowed : AllowedRun (vgaAct undefinedShift) asText.Allows
      (vgaInit gcImage) acts) :
    let device := runInputs (vgaAct undefinedShift) (vgaInit gcImage) acts
    let console := runInputs consoleBytewise.act
      ⟨vgaInit gcImage, Console.blank⟩ acts
    device.2 = console.2 ∧ (device.1.ShowsText →
      (vgaRender device.1).map Prod.fst =
        console.1.contents.picture console.1.panel) := by
  have starts : @Shadow.Follows Console
      (fun console vgaRam _ => console.Holds vgaRam) (vgaInit gcImage)
      ⟨vgaInit gcImage, Console.blank⟩ :=
    ⟨.refl _, .initial gcImage, Console.blank_holds⟩
  have run := (console_faithful undefinedShift).run starts allowed
  refine ⟨run.answer, ?_⟩
  intro shows
  rw [run.alike.holds.picture run.alike.decoded shows]
  exact run.alike.registers.console _

/-- The first row of a letter, stored as a font, and the letter in the first
cell of a screen of eight pixels. -/
def typedLetter : List VgaAct :=
  [.out 0x3c4 0, .out 0x3c5 3, .out 0x3c4 1, .out 0x3c5 1, .out 0x3d4 0x17,
    .out 0x3d5 0x80, .out 0x3ce 8, .out 0x3cf 0xff, .out 0x3c0 7,
    .out 0x3c0 7, .out 0x3c4 2, .out 0x3c5 4, .store 0xa0820 1 0x99,
    .out 0x3c5 3, .out 0x3ce 5, .out 0x3cf 0x10, .out 0x3ce 6,
    .out 0x3cf 0x0c, .store 0xb8000 2 0x0741, .load 0xb8000 2 0]

theorem vga_types_letter :
    let device := runInputs (vgaAct fun _ _ => 0) (vgaInit none) typedLetter
    device.2.getLast? = some 0x0741 ∧
      (vgaRender device.1).map Prod.fst =
        [0xa8a8a8, 0, 0, 0xa8a8a8, 0xa8a8a8, 0, 0, 0xa8a8a8] := by
  have allowed : AllowedRun (vgaAct fun _ _ => 0) asText.Allows
      (vgaInit none) typedLetter := by
    unfold typedLetter
    iterate 12 refine ⟨trivial, ?_⟩
    refine ⟨?_, ?_⟩
    · intro byte member
      obtain rfl := List.mem_singleton.mp member
      exact ⟨⟨rfl, rfl, rfl, rfl, rfl⟩, by decide, 2080, rfl, by decide⟩
    · iterate 5 refine ⟨trivial, ?_⟩
      refine ⟨?_, ?_, trivial⟩
      · intro byte member
        have place : byte = 0 ∨ byte = 1 := by
          simpa [accessBytes, List.range_succ] using member
        refine ⟨⟨rfl, rfl, rfl, rfl, rfl⟩, by decide, byte, ?_⟩
        rcases place with rfl | rfl <;> exact ⟨rfl, by decide⟩
      · intro byte member
        have place : byte = 0 ∨ byte = 1 := by
          simpa [accessBytes, List.range_succ] using member
        refine ⟨by decide, ?_⟩
        intro offset window
        rcases place with rfl | rfl <;> cases window <;> decide
  have types := vga_types (fun _ _ => 0) none allowed
  refine ⟨?_, ?_⟩
  · rw [types.1]
    decide
  · rw [types.2 ⟨by unfold VgaVdev.Graphics; decide, by decide⟩]
    decide

end VirtioGpu.Vga
