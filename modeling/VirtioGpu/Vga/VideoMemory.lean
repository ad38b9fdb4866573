import VirtioGpu.Foundation.ByteBits
import VirtioGpu.Foundation.Logged
import VirtioGpu.Foundation.Transition
import VirtioGpu.Vga.Registers
import Mathlib.Data.List.Basic

namespace VirtioGpu.Vga

open Foundation

/-! The handlers of the video memory and the reading of its pixels.  Beside
its results each definition returns the indices it applies to `vga_ram`, in
the order of the source. -/

def kb : Nat := 1024

/-- The place of an address in the window the miscellaneous register selects,
unless the address lies before the window. -/
def windowOffset (mm : UInt8) (addr : Nat) : Option Nat :=
  match mm.toNat with
  | 0x0 =>
      if 0xa0000 ≤ addr then some ((addr - 0xa0000) % (128 * kb)) else none
  | 0x1 =>
      if 0xa0000 ≤ addr then some ((addr - 0xa0000) % (64 * kb)) else none
  | 0x2 =>
      if 0xb0000 ≤ addr then some ((addr - 0xb0000) % (32 * kb)) else none
  | 0x3 =>
      if 0xb8000 ≤ addr then some ((addr - 0xb8000) % (32 * kb)) else none
  | _ => some addr

def planeIndex (offset : Nat) (plane : Fin 4) : Nat :=
  offset + plane.val * (64 * kb)

def allPlanes : List (Fin 4) := [0, 1, 2, 3]

/-- `map_sel` and the offset after the odd/even bit was moved from one to the
other. -/
def readSelection (vd : VgaVdev) (offset : Nat) : Nat × Nat :=
  let mapSel := vd.gc.regs .readMapSelect
  if vd.gc.gcModeOe then
    ((mapSel ||| UInt8.ofNat (offset % 2)).toNat, offset - offset % 2)
  else
    (mapSel.toNat, offset)

def vgaMemRdHandler (vd : VgaVdev) (addr : Nat) :
    (VgaVdev × UInt64) × List Nat :=
  match windowOffset vd.gc.gcMiscMm addr with
  | none => ((vd, 0xffffffff), [])
  | some offset =>
      let latched := { vd with
        gc.gcLatch := fun plane => vd.vgaRam (planeIndex offset plane) }
      let filled := allPlanes.map (planeIndex offset)
      if vd.gc.gcModeRm ≠ 0 then ((latched, 0xffffffff), filled)
      else
        let selection := readSelection vd offset
        let index := selection.2 + selection.1 * (64 * kb)
        ((latched, (vd.vgaRam index).toUInt64), filled ++ [index])

section Writes

/-! A shift by more than the width of an `int`, or by a negative count, has
no result that the language fixes. -/
variable (undefinedShift : UInt8 → UInt8 → UInt8)

def rotated (rotate val : UInt8) : UInt8 :=
  if rotate ≤ 8 then rotateRight val rotate.toNat
  else undefinedShift rotate val

def planeBit (byte : UInt8) (plane : Fin 4) : Bool :=
  bit byte plane.val

def ones (bit : Bool) : UInt8 := if bit then 0xff else 0x00

/-- The byte of a plane in write mode 0. -/
def writeMode0 (gc : VgaGc) (val : UInt8) (plane : Fin 4) : UInt8 :=
  let mask := gc.regs .bitMask
  let val := rotated undefinedShift (gc.regs .dataRotate) val
  let set := planeBit (gc.regs .setReset) plane
  let enabled := planeBit (gc.regs .enableSetReset) plane
  let c := gc.gcLatch plane
  match gc.gcOp.toNat with
  | 0x00 =>
      (if enabled then c &&& ~~~mask else val &&& mask) |||
        if set then mask else 0x00
  | 0x08 =>
      let m := if set then 0xff else ~~~mask
      if enabled then c &&& m else val &&& m
  | 0x10 =>
      let m := if set then mask else 0x00
      if enabled then c ||| m else val ||| m
  | 0x18 =>
      let m := if set then mask else 0x00
      if enabled then c ^^^ m else val ^^^ m
  | _ => c

/-- What write modes 2 and 3 share. -/
def combined (op c mask : UInt8) (source : Bool) : UInt8 :=
  match op.toNat with
  | 0x00 => (c &&& ~~~mask) ||| (ones source &&& mask)
  | 0x08 => c &&& (ones source ||| ~~~mask)
  | 0x10 => c ||| (ones source &&& mask)
  | 0x18 => c ^^^ (ones source &&& mask)
  | _ => c

def writeMode2 (gc : VgaGc) (val : UInt8) (plane : Fin 4) : UInt8 :=
  combined gc.gcOp (gc.gcLatch plane) (gc.regs .bitMask) (planeBit val plane)

/-- The byte is rotated after the mask was taken, and not used again. -/
def writeMode3 (gc : VgaGc) (val : UInt8) (plane : Fin 4) : UInt8 :=
  combined gc.gcOp (gc.gcLatch plane) (gc.regs .bitMask &&& val)
    (planeBit (gc.regs .setReset) plane)

def planeByte (gc : VgaGc) (val : UInt8) (plane : Fin 4) : UInt8 :=
  match gc.gcModeWm.toNat with
  | 0 => writeMode0 undefinedShift gc val plane
  | 2 => writeMode2 gc val plane
  | 3 => writeMode3 gc val plane
  | _ => gc.gcLatch plane

/-- The planes that a write at an offset stores to. -/
def storedPlanes (vd : VgaVdev) (offset : Nat) : List (Fin 4) :=
  (if vd.gc.gcModeOe then if offset % 2 = 1 then [1, 3] else [0, 2]
    else allPlanes).filter (planeBit (vd.seq.regs .mapMask))

def storedOffset (vd : VgaVdev) (offset : Nat) : Nat :=
  if vd.gc.gcModeOe then offset - offset % 2 else offset

def vgaMemWrHandler (vd : VgaVdev) (addr : Nat) (val : UInt8) :
    VgaVdev × List Nat :=
  match windowOffset vd.gc.gcMiscMm addr with
  -- Nothing is stored; the log call, whose arguments stand inside its format,
  -- is left out.
  | none => (vd, [])
  | some offset =>
      let index := planeIndex (storedOffset vd offset)
      let planes := storedPlanes vd offset
      ({ vd with
          vgaRam := planes.foldl (fun ram plane => Function.update ram
            (index plane) (planeByte undefinedShift vd.gc val plane))
              vd.vgaRam },
        planes.map index)

/-- The bytes of an access, lowest first. -/
def accessBytes (size : Nat) : List Nat :=
  if size = 1 ∨ size = 2 ∨ size = 4 ∨ size = 8 then List.range size else []

/-- `vga_mem_handler` for a write. -/
def vgaMemHandlerWrite (vd : VgaVdev) (addr size : Nat) (val : UInt64) :
    VgaVdev × List Nat :=
  foldLogged (fun state byte =>
    vgaMemWrHandler undefinedShift state (addr + byte)
      (val >>> UInt64.ofNat (8 * byte)).toUInt8) vd (accessBytes size)

end Writes

/-- `vga_mem_handler` for a read. -/
def vgaMemHandlerRead (vd : VgaVdev) (addr size : Nat) (val : UInt64) :
    (VgaVdev × UInt64) × List Nat :=
  foldLogged (fun state byte =>
    let next := vgaMemRdHandler state.1 (addr + byte)
    ((next.1.1,
      (if byte = 0 then 0 else state.2) |||
        next.1.2 <<< UInt64.ofNat (8 * byte)), next.2))
    (vd, val) (accessBytes size)

theorem mem_storedPlanes {vd : VgaVdev} {offset : Nat} {plane : Fin 4} :
    plane ∈ storedPlanes vd offset ↔
      planeBit (vd.seq.regs .mapMask) plane = true ∧
        (vd.gc.gcModeOe = true → plane.val % 2 = offset % 2) := by
  unfold storedPlanes
  rw [List.mem_filter, and_comm]
  refine and_congr_right fun masked => ?_
  clear masked
  have parity := Nat.mod_two_eq_zero_or_one offset
  generalize offset % 2 = odd at parity
  revert plane
  rcases parity with rfl | rfl <;> cases vd.gc.gcModeOe <;> decide

/-! Pixels. -/

def vgaInReset (vd : VgaVdev) : Bool :=
  vd.seq.regs .clockingMode &&& 0x20 != 0 ||
    vd.seq.regs .reset &&& 0x1 == 0 ||
      vd.seq.regs .reset &&& 0x2 == 0 ||
        vd.crtc.regs .modeControl &&& 0x80 == 0

def gcWidth (vd : VgaVdev) : Nat :=
  ((vd.crtc.regs .horizDispEnd).toNat + 1) * vd.seq.seqCmDots

def gcHeight (vd : VgaVdev) : Nat :=
  let overflow := vd.crtc.regs .overflow
  ((vd.crtc.regs .vertDispEnd).toNat |||
    ((overflow &&& 0x02) >>> 1).toNat <<< 8 |||
      ((overflow &&& 0x40) >>> 6).toNat <<< 9) + 1

def pixelOffset (width x y : Nat) : Nat := y * width / 8 + x / 8

def vgaGetPixel (vd : VgaVdev) (x y : Nat) : UInt32 × List Nat :=
  let offset := pixelOffset (gcWidth vd) x y
  let bit := 7 - x % 8
  let plane := fun plane : Fin 4 =>
    (vd.vgaRam (planeIndex offset plane)).toNat.testBit bit
  let data := (plane 0).toNat + (plane 1).toNat * 2 + (plane 2).toNat * 4 +
    (plane 3).toNat * 8
  let entry : Fin 16 := Fin.ofNat 16
    (data &&& (vd.atc.regs .colorPlaneEnable).toNat)
  let colour := vd.atc.regs (.palette entry)
  let idx :=
    if vd.atc.regs .modeControl &&& 0x80 ≠ 0 then
      colour &&& 0x0f ||| vd.atc.atcColorSelect45
    else colour
  (vd.dac.dacPaletteRgb (idx ||| vd.atc.atcColorSelect67),
    allPlanes.map (planeIndex offset))

def textOffset (vd : VgaVdev) (x y : Nat) : Nat :=
  let dots := vd.seq.seqCmDots
  2 * vd.crtc.crtcStartAddr.toNat + y / 16 * gcWidth vd / dots * 2 +
    x / dots * 2

def fontOffset (vd : VgaVdev) (ch attr : UInt8) (y : Nat) : Nat :=
  let glyph := ch.toNat * 32 + y % 16
  if vd.seq.regs .memoryMode &&& 0x02 ≠ 0 ∧
      vd.seq.seqCmapPriOff ≠ vd.seq.seqCmapSecOff then
    if attr &&& 0x8 ≠ 0 then vd.seq.seqCmapPriOff + glyph
    else vd.seq.seqCmapSecOff + glyph
  else glyph

/-- The attribute without the bit that selects between two fonts. -/
def shownAttr (vd : VgaVdev) (attr : UInt8) : UInt8 :=
  if vd.seq.regs .memoryMode &&& 0x02 ≠ 0 ∧
      vd.seq.seqCmapPriOff ≠ vd.seq.seqCmapSecOff then attr &&& ~~~0x8
  else attr

/-- One of the sixteen colours of text. -/
def textColour (vd : VgaVdev) (entry : UInt8) : UInt32 :=
  vd.dac.dacPaletteRgb (vd.atc.regs (.palette (Fin.ofNat 16 entry.toNat)))

def vgaGetTextPixel (vd : VgaVdev) (x y : Nat) : UInt32 × List Nat :=
  let dots := vd.seq.seqCmDots
  let offset := textOffset vd x y
  let bit := 7 - min 7 (x % dots)
  let ch := vd.vgaRam (planeIndex offset 0)
  let attr := vd.vgaRam (planeIndex offset 1)
  let touched := [planeIndex offset 0, planeIndex offset 1]
  if vd.crtc.crtcCursorOn ∧ offset = vd.crtc.crtcCursorLoc.toNat * 2 ∧
      (vd.crtc.regs .cursorStart &&& 0x1f).toNat ≤ y % 16 ∧
      y % 16 ≤ (vd.crtc.regs .cursorEnd &&& 0x1f).toNat then
    (textColour vd (attr &&& 0xf), touched)
  else
    let index := planeIndex (fontOffset vd ch attr y) 2
    let attr := shownAttr vd attr
    (textColour vd
        (if (vd.vgaRam index).toNat.testBit bit then attr &&& 0xf
          else attr >>> 4),
      touched ++ [index])

/-- The pixels of the image row by row, each with the indices it was read
from.  A device in reset shows a cleared image. -/
def vgaRender (vd : VgaVdev) : List (UInt32 × List Nat) :=
  if vgaInReset vd then []
  else
    (List.range (gcHeight vd)).flatMap fun y =>
      (List.range (gcWidth vd)).map fun x =>
        if vd.gc.gcMiscGm ≠ 0 ∧ vd.atc.regs .modeControl &&& 0x01 ≠ 0 then
          vgaGetPixel vd x y
        else vgaGetTextPixel vd x y

/-! Runs of the device. -/

/-- What happens to a device: a port is written or read, or an access of the
video memory leaves other bytes and other latches. -/
inductive VgaEvent where
  | out (port : Nat) (val : UInt8)
  | input (port : Nat) (val : UInt8)
  | memory (vgaRam : Memory) (gcLatch : Fin 4 → UInt8)

def vgaNext (vd : VgaVdev) : VgaEvent → VgaVdev
  | .out port val => (vgaPortOutHandler vd port val).1
  | .input port val => (vgaPortInHandler vd port val).1
  | .memory vgaRam gcLatch =>
      { vd with vgaRam := vgaRam, gc.gcLatch := gcLatch }

def vgaSystem : TransitionSystem VgaVdev VgaEvent where
  initial := fun vd => ∃ gcImage, vd = vgaInit gcImage
  step := fun before event after => after = vgaNext before event

theorem vgaSystem_reached (gcImage : Option Bool) (events : List VgaEvent) :
    vgaSystem.Reached (events.foldl vgaNext (vgaInit gcImage)) := by
  have start : vgaSystem.Reached (vgaInit gcImage) := .initial ⟨gcImage, rfl⟩
  generalize vgaInit gcImage = vd at start
  induction events generalizing vd with
  | nil => exact start
  | cons event rest induction => exact induction _ (.step start trivial rfl)

/-- The decoded fields are those of the registers. -/
structure VgaVdev.Decoded (vd : VgaVdev) : Prop where
  window : vd.gc.gcMiscMm.toNat ≤ 3
  function : vd.gc.gcOp = vd.gc.regs .dataRotate >>> 3 &&& 0x3
  primary : vd.seq.seqCmapPriOff ≤ 57344
  secondary : vd.seq.seqCmapSecOff ≤ 57344

theorem toNat_and_le (byte mask : UInt8) :
    (byte &&& mask).toNat ≤ mask.toNat := by
  rw [UInt8.toNat_and]
  exact Nat.and_le_right

theorem priOffOf_le (val : UInt8) : priOffOf val ≤ 57344 := by
  have low := toNat_and_le val 0x0c
  have high := toNat_and_le val 0x20
  simp [priOffOf, UInt8.toNat_shiftRight, Nat.shiftRight_eq_div_pow] at *
  omega

theorem secOffOf_le (val : UInt8) : secOffOf val ≤ 57344 := by
  have low := toNat_and_le val 0x03
  have high := toNat_and_le val 0x10
  simp [secOffOf, UInt8.toNat_shiftRight, Nat.shiftRight_eq_div_pow] at *
  omega

theorem VgaVdev.Decoded.initial (gcImage : Option Bool) :
    (vgaInit gcImage).Decoded := by
  constructor <;> simp [vgaInit]

theorem VgaVdev.Decoded.writeSeq {vd : VgaVdev} (decoded : vd.Decoded)
    (reg : SeqReg) (val : UInt8) :
    { vd with seq := vd.seq.write reg val }.Decoded := by
  obtain ⟨window, function, primary, secondary⟩ := decoded
  cases reg with
  | charMapSelect =>
      exact ⟨window, function, priOffOf_le val, secOffOf_le val⟩
  | reset | clockingMode | mapMask | memoryMode =>
      exact ⟨window, function, primary, secondary⟩

theorem VgaVdev.Decoded.writeGc {vd : VgaVdev} (decoded : vd.Decoded)
    (reg : GcReg) (val : UInt8) : (vd.writeGc reg val).Decoded := by
  obtain ⟨window, function, primary, secondary⟩ := decoded
  cases reg with
  | dataRotate =>
      refine ⟨window, ?_, primary, secondary⟩
      simp [VgaVdev.writeGc, VgaGc.write]
  | miscellaneous =>
      refine ⟨?_, function, primary, secondary⟩
      have bits := toNat_and_le val 0x0c
      simp [VgaVdev.writeGc, VgaGc.write, UInt8.toNat_shiftRight,
        Nat.shiftRight_eq_div_pow] at *
      omega
  | setReset | enableSetReset | colorCompare | readMapSelect | mode
  | colorDontCare | bitMask => exact ⟨window, function, primary, secondary⟩

theorem VgaVdev.Decoded.out {vd : VgaVdev} (decoded : vd.Decoded)
    (port : Nat) (val : UInt8) : (vgaPortOutHandler vd port val).1.Decoded := by
  unfold vgaPortOutHandler
  cases VgaPort.ofPort port with
  | none => exact decoded
  | some label =>
      cases label with
      | seqData =>
          cases SeqReg.ofIndex vd.seq.seqIndex with
          | none => exact decoded
          | some reg => exact decoded.writeSeq reg val
      | gcData =>
          cases GcReg.ofIndex vd.gc.gcIndex with
          | none => exact decoded
          | some reg => exact decoded.writeGc reg val
      | crtcData =>
          cases CrtcReg.ofIndex vd.crtc.crtcIndex with
          | none => exact decoded
          | some reg => exact ⟨decoded.1, decoded.2, decoded.3, decoded.4⟩
      | _ => exact ⟨decoded.1, decoded.2, decoded.3, decoded.4⟩

theorem VgaVdev.Decoded.input {vd : VgaVdev} (decoded : vd.Decoded)
    (port : Nat) (val : UInt8) : (vgaPortInHandler vd port val).1.Decoded := by
  unfold vgaPortInHandler
  cases VgaPort.ofPort port with
  | none => exact decoded
  | some label =>
      cases label <;> exact ⟨decoded.1, decoded.2, decoded.3, decoded.4⟩

theorem decoded_of_reached {vd : VgaVdev} (reached : vgaSystem.Reached vd) :
    vd.Decoded := by
  apply reached.invariant VgaVdev.Decoded
  · rintro _ ⟨gcImage, rfl⟩
    exact .initial gcImage
  · rintro before event _ decoded rfl
    cases event with
    | out port val => exact decoded.out port val
    | input port val => exact decoded.input port val
    | memory vgaRam gcLatch =>
        exact ⟨decoded.1, decoded.2, decoded.3, decoded.4⟩

end VirtioGpu.Vga
