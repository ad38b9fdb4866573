import VirtioGpu.Foundation.Planes
import VirtioGpu.Vga.Planar
import VirtioGpu.Vga.Shadow

namespace VirtioGpu.Vga

open Foundation

/-! A device that keeps its memory by pixels and not by planes.  A byte that
is read or written is eight neighbouring pixels. -/

/-- The planes a pixel is set in. -/
abbrev Colour := Fin 4 → Bool

/-- The palette entry of a pixel, which the disabled planes do not choose. -/
def shownEntry (enabled : UInt8) (pixel : Colour) : Fin 16 :=
  ⟨Nat.ofBits fun plane => pixel plane && planeBit enabled plane,
    Nat.ofBits_lt_two_pow _⟩

theorem ofBits_planes (pixel : Colour) : Nat.ofBits pixel =
    (pixel 0).toNat + (pixel 1).toNat * 2 + (pixel 2).toNat * 4 +
      (pixel 3).toNat * 8 := by
  simp only [Nat.ofBits_succ, Nat.ofBits_zero]
  show 2 * (2 * (2 * (2 * 0 + (pixel 3).toNat) + (pixel 2).toNat) +
    (pixel 1).toNat) + (pixel 0).toNat = _
  omega

theorem shownEntry_eq (enabled : UInt8) (pixel : Colour) :
    shownEntry enabled pixel = Fin.ofNat 16
      (((pixel 0).toNat + (pixel 1).toNat * 2 + (pixel 2).toNat * 4 +
        (pixel 3).toNat * 8) &&& enabled.toNat) := by
  rw [← ofBits_planes]
  have small : Nat.ofBits pixel &&& enabled.toNat < 16 :=
    Nat.lt_of_le_of_lt Nat.and_le_left (Nat.ofBits_lt_two_pow pixel)
  apply Fin.ext
  rw [Fin.val_ofNat, Nat.mod_eq_of_lt small]
  apply Nat.eq_of_testBit_eq
  intro index
  unfold shownEntry
  by_cases inside : index < 4
  · simp [inside, planeBit, bit]
  · simp [Nat.not_lt.mp inside]

/-- What the attribute controller and the palette make of a pixel. -/
def shade (vd : VgaVdev) (pixel : Colour) : UInt32 :=
  let entry := shownEntry (vd.atc.regs .colorPlaneEnable) pixel
  let colour := vd.atc.regs (.palette entry)
  let idx :=
    if vd.atc.regs .modeControl &&& 0x80 ≠ 0 then
      colour &&& 0x0f ||| vd.atc.atcColorSelect45
    else colour
  vd.dac.dacPaletteRgb (idx ||| vd.atc.atcColorSelect67)

/-- What the rules of the graphics controller make of a latched pixel. -/
def painted (gc : VgaGc) (val : UInt8) (column : Fin 8) (latched : Colour) :
    Colour := fun plane =>
  let index := 7 - column.val
  let ruled :=
    if effectiveMask gc val index then
      (LogicalFunction.selected (gc.regs .dataRotate)).apply
        (sourceBit gc val plane index) (latched plane)
    else latched plane
  match gc.gcModeWm.toNat with
  | 0 | 2 | 3 => ruled
  | _ => latched plane

/-- The pixels, eight by eight, and the eight that were read last. -/
structure Canvas where
  pixels : Nat → Octet (Fin 4)
  latch : Octet (Fin 4)

namespace Canvas

/-- A byte read: the pixels are latched. -/
def load (panel : VgaVdev) (canvas : Canvas) (addr : Nat) :
    Canvas × UInt64 :=
  match windowOffset panel.gc.gcMiscMm addr with
  | none => (canvas, 0xffffffff)
  | some offset =>
      let latched := { canvas with latch := canvas.pixels offset }
      if panel.gc.gcModeRm ≠ 0 then (latched, 0xffffffff)
      else
        let selection := readSelection panel offset
        let bytes := allPlanes.map (canvas.pixels selection.2).byte
        (latched, (bytes.getD selection.1 0).toUInt64)

/-- A byte written: eight pixels are painted in the planes that take it. -/
def store (panel : VgaVdev) (canvas : Canvas) (addr : Nat) (val : UInt8) :
    Canvas :=
  match windowOffset panel.gc.gcMiscMm addr with
  | none => canvas
  | some offset =>
      let place := storedOffset panel offset
      { canvas with
        pixels := Function.update canvas.pixels place fun column plane =>
          if plane ∈ storedPlanes panel offset then
            painted panel.gc val column (canvas.latch column) plane
          else canvas.pixels place column plane }

def blank : Canvas := ⟨fun _ _ _ => false, fun _ _ => false⟩

/-- The pixels of the screen row by row.  Where the width is a multiple of
eight they lie one after another on the canvas. -/
def picture (panel : VgaVdev) (canvas : Canvas) : List UInt32 :=
  if vgaInReset panel then []
  else
    let width := gcWidth panel
    (List.range (gcHeight panel)).flatMap fun y =>
      (List.range width).map fun x =>
        shade panel
          (canvas.pixels (pixelOffset width x y) (Fin.ofNat 8 x))

end Canvas

def canvasBytewise : Bytewise Canvas := ⟨Canvas.load, Canvas.store⟩

end VirtioGpu.Vga
