import VirtioGpu.Foundation.Memory
import Mathlib.Logic.Function.Basic

namespace VirtioGpu.Vga

open Foundation

/-! The registers of the VGA and the handlers of its ports.  An `int` of the
source that only ever holds an index or an offset is a `Nat`. -/

/-! Sequencer. -/

inductive SeqReg where
  | reset
  | clockingMode
  | mapMask
  | charMapSelect
  | memoryMode
  deriving Repr, DecidableEq

def SeqReg.ofIndex : Nat → Option SeqReg
  | 0 => some .reset
  | 1 => some .clockingMode
  | 2 => some .mapMask
  | 3 => some .charMapSelect
  | 4 => some .memoryMode
  | _ => none

@[ext] structure VgaSeq where
  seqIndex : Nat
  regs : SeqReg → UInt8
  seqCmDots : Nat
  seqCmapPriOff : Nat
  seqCmapSecOff : Nat

def dotsOf (val : UInt8) : Nat := if val &&& 0x01 ≠ 0 then 8 else 9

def priOffOf (val : UInt8) : Nat :=
  (((val &&& 0x0c) >>> 2).toNat * 2 + ((val &&& 0x20) >>> 5).toNat) * 8 * 1024

def secOffOf (val : UInt8) : Nat :=
  ((val &&& 0x03).toNat * 2 + ((val &&& 0x10) >>> 4).toNat) * 8 * 1024

def VgaSeq.write (seq : VgaSeq) (reg : SeqReg) (val : UInt8) : VgaSeq :=
  let seq := { seq with regs := Function.update seq.regs reg val }
  match reg with
  | .clockingMode => { seq with seqCmDots := dotsOf val }
  | .charMapSelect =>
      { seq with
        seqCmapPriOff := priOffOf val
        seqCmapSecOff := secOffOf val }
  | .reset | .mapMask | .memoryMode => seq

/-! CRT controller. -/

inductive CrtcReg where
  | horizTotal
  | horizDispEnd
  | startHorizBlank
  | endHorizBlank
  | startHorizRetrace
  | endHorizRetrace
  | vertTotal
  | overflow
  | presetRowScan
  | maxScanLine
  | cursorStart
  | cursorEnd
  | startAddrHigh
  | startAddrLow
  | cursorLocHigh
  | cursorLocLow
  | vertRetraceStart
  | vertRetraceEnd
  | vertDispEnd
  | offset
  | underlineLoc
  | startVertBlank
  | endVertBlank
  | modeControl
  | lineCompare
  deriving Repr, DecidableEq

def CrtcReg.ofIndex : Nat → Option CrtcReg
  | 0 => some .horizTotal
  | 1 => some .horizDispEnd
  | 2 => some .startHorizBlank
  | 3 => some .endHorizBlank
  | 4 => some .startHorizRetrace
  | 5 => some .endHorizRetrace
  | 6 => some .vertTotal
  | 7 => some .overflow
  | 8 => some .presetRowScan
  | 9 => some .maxScanLine
  | 10 => some .cursorStart
  | 11 => some .cursorEnd
  | 12 => some .startAddrHigh
  | 13 => some .startAddrLow
  | 14 => some .cursorLocHigh
  | 15 => some .cursorLocLow
  | 16 => some .vertRetraceStart
  | 17 => some .vertRetraceEnd
  | 18 => some .vertDispEnd
  | 19 => some .offset
  | 20 => some .underlineLoc
  | 21 => some .startVertBlank
  | 22 => some .endVertBlank
  | 23 => some .modeControl
  | 24 => some .lineCompare
  | _ => none

@[ext] structure VgaCrtc where
  crtcIndex : Nat
  regs : CrtcReg → UInt8
  crtcCursorOn : Bool
  crtcStartAddr : UInt16
  crtcCursorLoc : UInt16

def withHigh (word : UInt16) (val : UInt8) : UInt16 :=
  word &&& (0x00ff : UInt16) ||| val.toUInt16 <<< (8 : UInt16)

def withLow (word : UInt16) (val : UInt8) : UInt16 :=
  word &&& 0xff00 ||| val.toUInt16 &&& 0xff

def VgaCrtc.write (crtc : VgaCrtc) (reg : CrtcReg) (val : UInt8) : VgaCrtc :=
  let crtc := { crtc with regs := Function.update crtc.regs reg val }
  match reg with
  | .cursorStart => { crtc with crtcCursorOn := val &&& 0x20 == 0 }
  | .startAddrHigh =>
      { crtc with crtcStartAddr := withHigh crtc.crtcStartAddr val }
  | .startAddrLow =>
      { crtc with crtcStartAddr := withLow crtc.crtcStartAddr val }
  | .cursorLocHigh =>
      { crtc with crtcCursorLoc := withHigh crtc.crtcCursorLoc val }
  | .cursorLocLow =>
      { crtc with crtcCursorLoc := withLow crtc.crtcCursorLoc val }
  | _ => crtc

/-! Graphics controller. -/

inductive GcReg where
  | setReset
  | enableSetReset
  | colorCompare
  | dataRotate
  | readMapSelect
  | mode
  | miscellaneous
  | colorDontCare
  | bitMask
  deriving Repr, DecidableEq

def GcReg.ofIndex : Nat → Option GcReg
  | 0 => some .setReset
  | 1 => some .enableSetReset
  | 2 => some .colorCompare
  | 3 => some .dataRotate
  | 4 => some .readMapSelect
  | 5 => some .mode
  | 6 => some .miscellaneous
  | 7 => some .colorDontCare
  | 8 => some .bitMask
  | _ => none

/-- The latches are numbered like the planes. -/
@[ext] structure VgaGc where
  gcIndex : Nat
  regs : GcReg → UInt8
  gcOp : UInt8
  gcModeC4 : Bool
  gcModeOe : Bool
  gcModeRm : UInt8
  gcModeWm : UInt8
  gcMiscGm : UInt8
  gcMiscMm : UInt8
  gcLatch : Fin 4 → UInt8

def VgaGc.write (gc : VgaGc) (reg : GcReg) (val : UInt8) : VgaGc :=
  let gc := { gc with regs := Function.update gc.regs reg val }
  match reg with
  | .dataRotate => { gc with gcOp := val >>> 3 &&& 0x3 }
  | .mode =>
      { gc with
        gcModeC4 := val &&& 0x04 != 0
        gcModeOe := val &&& 0x10 != 0
        gcModeRm := val >>> 3 &&& 0x1
        gcModeWm := val &&& 0x3 }
  | .miscellaneous =>
      { gc with
        gcMiscGm := val &&& 0x01
        gcMiscMm := (val &&& 0x0c) >>> 2 }
  | .setReset | .enableSetReset | .colorCompare | .readMapSelect
  | .colorDontCare | .bitMask => gc

/-! Attribute controller. -/

inductive AtcReg where
  | palette (entry : Fin 16)
  | modeControl
  | overscanColor
  | colorPlaneEnable
  | horizPixelPanning
  | colorSelect
  deriving Repr, DecidableEq

def AtcReg.ofIndex (index : Nat) : Option AtcReg :=
  if entry : index < 16 then some (.palette ⟨index, entry⟩)
  else
    match index with
    | 16 => some .modeControl
    | 17 => some .overscanColor
    | 18 => some .colorPlaneEnable
    | 19 => some .horizPixelPanning
    | 20 => some .colorSelect
    | _ => none

structure VgaAtc where
  atcFlipflop : Nat
  atcIndex : Nat
  regs : AtcReg → UInt8
  atcColorSelect45 : UInt8
  atcColorSelect67 : UInt8

/-- What a register keeps of a byte. -/
def AtcReg.kept : AtcReg → UInt8 → UInt8
  | .palette _, val => val &&& 0x3f
  | _, val => val

def VgaAtc.write (atc : VgaAtc) (reg : AtcReg) (val : UInt8) : VgaAtc :=
  let atc := { atc with regs := Function.update atc.regs reg (reg.kept val) }
  match reg with
  | .colorSelect =>
      { atc with
        atcColorSelect45 := (val &&& 0x03) <<< 4
        atcColorSelect67 := ((val &&& 0x0c) >>> 2) <<< 6 }
  | .palette _ | .modeControl | .overscanColor | .colorPlaneEnable
  | .horizPixelPanning => atc

/-- The attribute port, index and data by turns. -/
def VgaAtc.writePort (atc : VgaAtc) (val : UInt8) : VgaAtc :=
  if atc.atcFlipflop = 0 then
    if atc.atcIndex &&& 0x20 ≠ 0 then atc
    else
      { atc with
        atcIndex := (val &&& 0x1f).toNat
        atcFlipflop := atc.atcFlipflop ^^^ 1 }
  else
    let written :=
      match AtcReg.ofIndex atc.atcIndex with
      | some reg => atc.write reg val
      | none => atc
    { written with atcFlipflop := atc.atcFlipflop ^^^ 1 }

/-! DAC. -/

/-- A subindex is counted from 0 to 2 and starts again. -/
@[ext] structure VgaDac where
  dacRdIndex : UInt8
  dacRdSubindex : Fin 3
  dacWrIndex : UInt8
  dacWrSubindex : Fin 3
  dacPalette : Nat → UInt8
  dacPaletteRgb : UInt8 → UInt32

def paletteEntry (index : UInt8) (subindex : Fin 3) : Nat :=
  3 * index.toNat + subindex.val

/-- Six bits of colour on eight. -/
def widened (entry : UInt8) : UInt32 :=
  entry.toUInt32 <<< 2 ||| (entry.toUInt32 &&& 0x1) <<< 1 |||
    entry.toUInt32 &&& 0x1

def VgaDac.red (dac : VgaDac) (index : UInt8) : UInt8 :=
  dac.dacPalette (paletteEntry index 0)

def VgaDac.rgb (dac : VgaDac) (index : UInt8) : UInt32 :=
  widened (dac.dacPalette (paletteEntry index 0)) <<< 16 |||
    widened (dac.dacPalette (paletteEntry index 1)) <<< 8 |||
      widened (dac.dacPalette (paletteEntry index 2))

def VgaDac.readData (dac : VgaDac) : VgaDac :=
  if dac.dacRdSubindex = 2 then
    { dac with dacRdIndex := dac.dacRdIndex + 1, dacRdSubindex := 0 }
  else
    { dac with dacRdSubindex := dac.dacRdSubindex + 1 }

def VgaDac.writeData (dac : VgaDac) (val : UInt8) : VgaDac :=
  let dac := { dac with
    dacPalette := Function.update dac.dacPalette
      (paletteEntry dac.dacWrIndex dac.dacWrSubindex) val }
  if dac.dacWrSubindex = 2 then
    { dac with
      dacPaletteRgb := Function.update dac.dacPaletteRgb dac.dacWrIndex
        (dac.rgb dac.dacWrIndex)
      dacWrIndex := dac.dacWrIndex + 1
      dacWrSubindex := 0 }
  else
    { dac with dacWrSubindex := dac.dacWrSubindex + 1 }

/-! The whole device. -/

/-- `vgamode` is the flag of `gc_image`, when there is an image. -/
@[ext] structure VgaVdev where
  vgaMisc : UInt8
  vgaSts1 : UInt8
  seq : VgaSeq
  crtc : VgaCrtc
  gc : VgaGc
  atc : VgaAtc
  dac : VgaDac
  vgaRam : Memory
  vgamode : Option Bool

/-- The first colours of the palette, three bytes each. -/
def initialPalette : List UInt8 :=
  [0x00, 0x00, 0x00, 0x00, 0x00, 0x2a, 0x00, 0x2a, 0x00, 0x00, 0x2a, 0x2a,
   0x2a, 0x00, 0x00, 0x2a, 0x00, 0x2a, 0x2a, 0x2a, 0x00, 0x2a, 0x2a, 0x2a,
   0x00, 0x00, 0x15, 0x00, 0x00, 0x3f, 0x00, 0x2a, 0x15, 0x00, 0x2a, 0x3f,
   0x2a, 0x00, 0x15, 0x2a, 0x00, 0x3f, 0x2a, 0x2a, 0x15, 0x2a, 0x2a, 0x3f]

/-- A device that has its memory, with everything else cleared but the first
colours. -/
def vgaInit (gcImage : Option Bool) : VgaVdev where
  vgaMisc := 0
  vgaSts1 := 0
  seq := ⟨0, fun _ => 0, 0, 0, 0⟩
  crtc := ⟨0, fun _ => 0, false, 0, 0⟩
  gc := ⟨0, fun _ => 0, 0, false, false, 0, 0, 0, 0, fun _ => 0⟩
  atc := ⟨0, 0, fun _ => 0, 0, 0⟩
  dac :=
    let dac : VgaDac :=
      ⟨0, 0, 0, 0, fun entry => initialPalette.getD entry 0, fun _ => 0⟩
    { dac with
      dacPaletteRgb := fun index => if index < 16 then dac.rgb index else 0 }
  vgaRam := Memory.zero
  vgamode := gcImage

/-- The case labels of the two port switches. -/
inductive VgaPort where
  | crtcIdx
  | crtcData
  | atcIdx
  | atcData
  | seqIdx
  | seqData
  | dacMask
  | dacIdxRd
  | dacIdxWr
  | dacData
  | gcIdx
  | gcData
  | genMiscOutput
  | genInputSts0
  | genInputSts1
  | genFeatureCtrl
  | port3c3
  deriving Repr, DecidableEq

def VgaPort.ofPort : Nat → Option VgaPort
  | 0x3b4 | 0x3d4 => some .crtcIdx
  | 0x3b5 | 0x3d5 => some .crtcData
  | 0x3c0 => some .atcIdx
  | 0x3c1 => some .atcData
  | 0x3c4 => some .seqIdx
  | 0x3c5 => some .seqData
  | 0x3c6 => some .dacMask
  | 0x3c7 => some .dacIdxRd
  | 0x3c8 => some .dacIdxWr
  | 0x3c9 => some .dacData
  | 0x3ce => some .gcIdx
  | 0x3cf => some .gcData
  | 0x3cc => some .genMiscOutput
  | 0x3c2 => some .genInputSts0
  | 0x3ba | 0x3da => some .genInputSts1
  | 0x3ca => some .genFeatureCtrl
  | 0x3c3 => some .port3c3
  | _ => none

/-- The byte `*val` after `vga_port_in_handler`, which leaves it alone at one
port, and the device. -/
def vgaPortInHandler (vd : VgaVdev) (port : Nat) (val : UInt8) :
    VgaVdev × UInt8 :=
  match VgaPort.ofPort port with
  | some .crtcIdx => (vd, UInt8.ofNat vd.crtc.crtcIndex)
  | some .crtcData =>
      (vd, ((CrtcReg.ofIndex vd.crtc.crtcIndex).map vd.crtc.regs).getD 0xff)
  | some .atcIdx => (vd, UInt8.ofNat vd.atc.atcIndex)
  | some .atcData =>
      (vd, ((AtcReg.ofIndex vd.atc.atcIndex).map vd.atc.regs).getD 0xff)
  | some .seqIdx => (vd, UInt8.ofNat vd.seq.seqIndex)
  | some .seqData =>
      (vd, ((SeqReg.ofIndex vd.seq.seqIndex).map vd.seq.regs).getD 0xff)
  | some .dacData =>
      ({ vd with dac := vd.dac.readData },
        vd.dac.dacPalette
          (paletteEntry vd.dac.dacRdIndex vd.dac.dacRdSubindex))
  | some .gcIdx => (vd, UInt8.ofNat vd.gc.gcIndex)
  | some .gcData =>
      (vd, ((GcReg.ofIndex vd.gc.gcIndex).map vd.gc.regs).getD 0xff)
  | some .genMiscOutput => (vd, vd.vgaMisc)
  | some .genInputSts0 => (vd, val)
  | some .genInputSts1 =>
      ({ vd with
          atc := { vd.atc with atcFlipflop := 0 }
          vgaSts1 := 0x08 ||| 0x01 },
        0x08 ||| 0x01)
  | some .genFeatureCtrl => (vd, 0)
  | some .port3c3 => (vd, 0)
  | some .dacMask | some .dacIdxRd | some .dacIdxWr | none => (vd, 0xff)

/-- A write to the graphics mode register also shows in the image. -/
def VgaVdev.writeGc (vd : VgaVdev) (reg : GcReg) (val : UInt8) : VgaVdev :=
  { vd with
    gc := vd.gc.write reg val
    vgamode := if reg = .mode then vd.vgamode.map fun _ => true
      else vd.vgamode }

/-- The device after `vga_port_out_handler`, and what it returns. -/
def vgaPortOutHandler (vd : VgaVdev) (port : Nat) (val : UInt8) :
    VgaVdev × Int :=
  match VgaPort.ofPort port with
  | some .crtcIdx => ({ vd with crtc.crtcIndex := val.toNat }, 0)
  | some .crtcData =>
      match CrtcReg.ofIndex vd.crtc.crtcIndex with
      | some reg => ({ vd with crtc := vd.crtc.write reg val }, 0)
      | none => (vd, 0)
  | some .atcIdx => ({ vd with atc := vd.atc.writePort val }, 0)
  | some .seqIdx => ({ vd with seq.seqIndex := (val &&& 0x1f).toNat }, 0)
  | some .seqData =>
      match SeqReg.ofIndex vd.seq.seqIndex with
      | some reg => ({ vd with seq := vd.seq.write reg val }, 0)
      | none => (vd, 0)
  | some .dacIdxRd =>
      ({ vd with dac := { vd.dac with
        dacRdIndex := val, dacRdSubindex := 0 } }, 0)
  | some .dacIdxWr =>
      ({ vd with dac := { vd.dac with
        dacWrIndex := val, dacWrSubindex := 0 } }, 0)
  | some .dacData => ({ vd with dac := vd.dac.writeData val }, 0)
  | some .gcIdx => ({ vd with gc.gcIndex := val.toNat }, 0)
  | some .gcData =>
      match GcReg.ofIndex vd.gc.gcIndex with
      | some reg => (vd.writeGc reg val, 0)
      | none => (vd, 0)
  | some .genInputSts0 => ({ vd with vgaMisc := val }, 0)
  | some .atcData | some .dacMask | some .genInputSts1 => (vd, 0)
  | some .genMiscOutput | some .genFeatureCtrl | some .port3c3 | none =>
      (vd, -1)

end VirtioGpu.Vga
