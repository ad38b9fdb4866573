import VirtioGpu.Foundation.BitFields
import VirtioGpu.Vga.Registers

namespace VirtioGpu.Vga

open Foundation

/-! The two ways to the registers, through the I/O ports and through the
window of the BAR. -/

/-- `vga_port_handler` for an `out`. -/
def vgaPortHandlerOut (vd : VgaVdev) (port bytes : Nat) (eax : UInt32) :
    VgaVdev × Int :=
  match bytes with
  | 1 => vgaPortOutHandler vd port eax.toUInt8
  | 2 =>
      let low := vgaPortOutHandler vd port eax.toUInt8
      vgaPortOutHandler low.1 (port + 1) (eax >>> 8).toUInt8
  | _ => (vd, -1)

/-- `vga_port_handler` for an `in`.  Its `val` is not set before the first
port is read. -/
def vgaPortHandlerIn (vd : VgaVdev) (port bytes : Nat) (eax : UInt32)
    (garbage : UInt8) : VgaVdev × UInt32 × Int :=
  match bytes with
  | 1 =>
      let low := vgaPortInHandler vd port garbage
      (low.1, eax &&& 0xffffff00 ||| low.2.toUInt32, 0)
  | 2 =>
      let low := vgaPortInHandler vd port garbage
      let high := vgaPortInHandler low.1 (port + 1) low.2
      (high.1,
        eax &&& 0xffff0000 ||| low.2.toUInt32 |||
          high.2.toUInt32 <<< (8 : UInt32), 0)
  | _ => (vd, eax, -1)

/-- What both sizes of `vga_ioport_write` end with. -/
def ioportWriteBoth (vd : VgaVdev) (port : Nat) (value : UInt64) : VgaVdev :=
  let low := (vgaPortOutHandler vd port value.toUInt8).1
  (vgaPortOutHandler low (port + 1) (value >>> 8).toUInt8).1

/-- The port is the offset alone, cut to an `int`, and the first case has no
`break`. -/
def vgaIoportWrite (vd : VgaVdev) (offset size : Nat) (value : UInt64) :
    VgaVdev :=
  let port := offset % 4294967296
  match size with
  | 1 => ioportWriteBoth (vgaPortOutHandler vd port value.toUInt8).1 port value
  | 2 => ioportWriteBoth vd port value
  | _ => vd

/-- What both sizes of `vga_ioport_read` end with. -/
def ioportReadBoth (vd : VgaVdev) (port : Nat) (value : UInt64)
    (val : UInt8) : VgaVdev × UInt64 :=
  let low := vgaPortInHandler vd port val
  let high := vgaPortInHandler low.1 (port + 1) low.2
  (high.1,
    value ||| low.2.toUInt64 ||| high.2.toUInt64 <<< (8 : UInt64))

def vgaIoportRead (vd : VgaVdev) (offset size : Nat) (garbage : UInt8) :
    VgaVdev × UInt64 :=
  let port := offset % 4294967296
  match size with
  | 1 =>
      let first := vgaPortInHandler vd port garbage
      ioportReadBoth first.1 port first.2.toUInt64 first.2
  | 2 => ioportReadBoth vd port 0 garbage
  | _ => (vd, 0)

/-! An access and what it does on each way. -/

/-- An access of the window.  A read is given what `eax` and the two `val` of
the handlers hold before it. -/
inductive VgaTransfer where
  | write (value : UInt64)
  | read (eax : UInt32) (portGarbage ioportGarbage : UInt8)
  deriving Repr, DecidableEq

structure VgaAccess where
  offset : Nat
  size : Nat
  transfer : VgaTransfer
  inWindow : offset < 0x20
  sized : size = 1 ∨ size = 2

/-- The value a read of `size` bytes leaves. -/
def lowBytes (size value : Nat) : Nat :=
  if size = 1 then value % 256 else value % 65536

/-- The device after an access through its port, and the value read. -/
def VgaAccess.byPort (access : VgaAccess) (vd : VgaVdev) :
    VgaVdev × Option Nat :=
  match access.transfer with
  | .write value =>
      ((vgaPortHandlerOut vd (0x3c0 + access.offset) access.size
        value.toUInt32).1, none)
  | .read eax garbage _ =>
      let answer :=
        vgaPortHandlerIn vd (0x3c0 + access.offset) access.size eax garbage
      (answer.1, some (lowBytes access.size answer.2.1.toNat))

/-- The device after an access through the BAR, and the value read. -/
def VgaAccess.byBar (access : VgaAccess) (vd : VgaVdev) :
    VgaVdev × Option Nat :=
  match access.transfer with
  | .write value =>
      (vgaIoportWrite vd access.offset access.size value, none)
  | .read _ _ garbage =>
      let answer := vgaIoportRead vd access.offset access.size garbage
      (answer.1, some (lowBytes access.size answer.2.toNat))

/-- The devices and the values of a sequence of accesses. -/
def accessTrace (way : VgaAccess → VgaVdev → VgaVdev × Option Nat) :
    List VgaAccess → VgaVdev → List (VgaVdev × Option Nat)
  | [], _ => []
  | access :: rest, vd =>
      way access vd :: accessTrace way rest (way access vd).1

/-! The BAR never reaches a register. -/

theorem ofPort_offset : ∀ offset, offset < 0x21 →
    VgaPort.ofPort offset = none := by
  decide

theorem vgaPortOutHandler_unhandled {vd : VgaVdev} {port : Nat} {val : UInt8}
    (unhandled : VgaPort.ofPort port = none) :
    vgaPortOutHandler vd port val = (vd, -1) := by
  unfold vgaPortOutHandler
  rw [unhandled]

theorem vgaPortInHandler_unhandled {vd : VgaVdev} {port : Nat} {val : UInt8}
    (unhandled : VgaPort.ofPort port = none) :
    vgaPortInHandler vd port val = (vd, 0xff) := by
  unfold vgaPortInHandler
  rw [unhandled]

/-- No offset of the window is a port, and none is cut. -/
theorem ioportOffset_unhandled {offset : Nat} (inWindow : offset < 0x20) :
    VgaPort.ofPort offset = none ∧ VgaPort.ofPort (offset + 1) = none ∧
      offset % 4294967296 = offset :=
  ⟨ofPort_offset offset (by omega), ofPort_offset (offset + 1) (by omega),
    by omega⟩

theorem vgaIoportWrite_unmoved (vd : VgaVdev) {offset : Nat} (size : Nat)
    (value : UInt64) (inWindow : offset < 0x20) :
    vgaIoportWrite vd offset size value = vd := by
  obtain ⟨here, next, cut⟩ := ioportOffset_unhandled inWindow
  unfold vgaIoportWrite
  rw [cut]
  split <;> simp only [ioportWriteBoth, vgaPortOutHandler_unhandled here,
    vgaPortOutHandler_unhandled next]

theorem vgaIoportRead_ones (vd : VgaVdev) {offset size : Nat}
    (garbage : UInt8) (inWindow : offset < 0x20)
    (sized : size = 1 ∨ size = 2) :
    vgaIoportRead vd offset size garbage = (vd, 0xffff) := by
  obtain ⟨here, next, cut⟩ := ioportOffset_unhandled inWindow
  unfold vgaIoportRead
  rw [cut]
  rcases sized with rfl | rfl <;>
    simp only [ioportReadBoth, vgaPortInHandler_unhandled here,
      vgaPortInHandler_unhandled next] <;> rfl

theorem VgaAccess.byBar_fst (access : VgaAccess) (vd : VgaVdev) :
    (access.byBar vd).1 = vd := by
  unfold VgaAccess.byBar
  split
  · exact vgaIoportWrite_unmoved vd _ _ access.inWindow
  · simp only [vgaIoportRead_ones vd _ access.inWindow access.sized]

/-! When a byte written to a port changes nothing: the register the port
stands for holds it already. -/

def VgaSeq.Holds (seq : VgaSeq) (reg : SeqReg) (val : UInt8) : Prop :=
  seq.regs reg = val ∧
    match reg with
    | .clockingMode => seq.seqCmDots = dotsOf val
    | .charMapSelect =>
        seq.seqCmapPriOff = priOffOf val ∧ seq.seqCmapSecOff = secOffOf val
    | .reset | .mapMask | .memoryMode => True

def VgaCrtc.Holds (crtc : VgaCrtc) (reg : CrtcReg) (val : UInt8) : Prop :=
  crtc.regs reg = val ∧
    match reg with
    | .cursorStart => crtc.crtcCursorOn = (val &&& 0x20 == 0)
    | .startAddrHigh => crtc.crtcStartAddr = withHigh crtc.crtcStartAddr val
    | .startAddrLow => crtc.crtcStartAddr = withLow crtc.crtcStartAddr val
    | .cursorLocHigh => crtc.crtcCursorLoc = withHigh crtc.crtcCursorLoc val
    | .cursorLocLow => crtc.crtcCursorLoc = withLow crtc.crtcCursorLoc val
    | _ => True

def VgaGc.Holds (gc : VgaGc) (reg : GcReg) (val : UInt8) : Prop :=
  gc.regs reg = val ∧
    match reg with
    | .dataRotate => gc.gcOp = val >>> 3 &&& 0x3
    | .mode =>
        gc.gcModeC4 = (val &&& 0x04 != 0) ∧
          gc.gcModeOe = (val &&& 0x10 != 0) ∧
            gc.gcModeRm = val >>> 3 &&& 0x1 ∧ gc.gcModeWm = val &&& 0x3
    | .miscellaneous =>
        gc.gcMiscGm = val &&& 0x01 ∧ gc.gcMiscMm = (val &&& 0x0c) >>> 2
    | .setReset | .enableSetReset | .colorCompare | .readMapSelect
    | .colorDontCare | .bitMask => True

/-- An attribute write turns the flip-flop, whatever it writes, and a data
write to the DAC counts the subindex on. -/
def VgaVdev.Holds (vd : VgaVdev) (port : Nat) (val : UInt8) : Prop :=
  match VgaPort.ofPort port with
  | some .crtcIdx => vd.crtc.crtcIndex = val.toNat
  | some .crtcData =>
      ∀ reg, CrtcReg.ofIndex vd.crtc.crtcIndex = some reg →
        vd.crtc.Holds reg val
  | some .atcIdx => vd.atc.atcFlipflop = 0 ∧ vd.atc.atcIndex &&& 0x20 ≠ 0
  | some .seqIdx => vd.seq.seqIndex = (val &&& 0x1f).toNat
  | some .seqData =>
      ∀ reg, SeqReg.ofIndex vd.seq.seqIndex = some reg →
        vd.seq.Holds reg val
  | some .dacIdxRd => vd.dac.dacRdIndex = val ∧ vd.dac.dacRdSubindex.val = 0
  | some .dacIdxWr => vd.dac.dacWrIndex = val ∧ vd.dac.dacWrSubindex.val = 0
  | some .dacData => False
  | some .gcIdx => vd.gc.gcIndex = val.toNat
  | some .gcData =>
      ∀ reg, GcReg.ofIndex vd.gc.gcIndex = some reg →
        vd.gc.Holds reg val ∧ (reg = .mode → vd.vgamode ≠ some false)
  | some .genInputSts0 => vd.vgaMisc = val
  | some .atcData | some .dacMask | some .genInputSts1
  | some .genMiscOutput | some .genFeatureCtrl | some .port3c3 | none => True

theorem VgaSeq.write_eq_iff {seq : VgaSeq} {reg : SeqReg} {val : UInt8} :
    seq.write reg val = seq ↔ seq.Holds reg val := by
  cases seq
  cases reg <;>
    simp [VgaSeq.write, VgaSeq.Holds, eq_comm]

theorem VgaCrtc.write_eq_iff {crtc : VgaCrtc} {reg : CrtcReg} {val : UInt8} :
    crtc.write reg val = crtc ↔ crtc.Holds reg val := by
  cases crtc
  cases reg <;>
    simp [VgaCrtc.write, VgaCrtc.Holds, eq_comm]

theorem VgaGc.write_eq_iff {gc : VgaGc} {reg : GcReg} {val : UInt8} :
    gc.write reg val = gc ↔ gc.Holds reg val := by
  cases gc
  cases reg <;>
    simp [VgaGc.write, VgaGc.Holds, eq_comm]

theorem flipflop_turns (flipflop : Nat) : flipflop ^^^ 1 ≠ flipflop := by
  intro same
  have zero : flipflop ^^^ 1 ^^^ flipflop = 0 := by rw [same, Nat.xor_self]
  rw [Nat.xor_comm, ← Nat.xor_assoc, Nat.xor_self, Nat.zero_xor] at zero
  cases zero

theorem VgaAtc.writePort_eq_iff {atc : VgaAtc} {val : UInt8} :
    atc.writePort val = atc ↔
      atc.atcFlipflop = 0 ∧ atc.atcIndex &&& 0x20 ≠ 0 := by
  constructor
  · intro same
    have turned := congrArg VgaAtc.atcFlipflop same
    unfold VgaAtc.writePort at turned
    split at turned
    · rename_i clear
      split at turned
      · rename_i invalid
        exact ⟨clear, invalid⟩
      · exact absurd turned (flipflop_turns _)
    · exact absurd turned (flipflop_turns _)
  · rintro ⟨clear, invalid⟩
    unfold VgaAtc.writePort
    rw [if_pos clear, if_pos invalid]

theorem VgaDac.writeData_wrSubindex (dac : VgaDac) (val : UInt8) :
    (dac.writeData val).dacWrSubindex = dac.dacWrSubindex + 1 := by
  simp only [VgaDac.writeData]
  split
  · rename_i last
    rw [last]
    rfl
  · rfl

theorem VgaDac.readData_rdSubindex (dac : VgaDac) :
    dac.readData.dacRdSubindex = dac.dacRdSubindex + 1 := by
  unfold VgaDac.readData
  split
  · rename_i last
    rw [last]
    rfl
  · rfl

theorem subindex_counts : ∀ subindex : Fin 3, subindex + 1 ≠ subindex := by
  decide

theorem VgaDac.writeData_ne (dac : VgaDac) (val : UInt8) :
    dac.writeData val ≠ dac := by
  intro same
  have counted := dac.writeData_wrSubindex val
  rw [same] at counted
  exact subindex_counts _ counted.symm

theorem VgaDac.readData_ne (dac : VgaDac) : dac.readData ≠ dac := by
  intro same
  have counted := dac.readData_rdSubindex
  rw [same] at counted
  exact subindex_counts _ counted.symm

theorem VgaVdev.writeGc_eq_iff {vd : VgaVdev} {reg : GcReg} {val : UInt8} :
    vd.writeGc reg val = vd ↔
      vd.gc.Holds reg val ∧ (reg = .mode → vd.vgamode ≠ some false) := by
  rw [← VgaGc.write_eq_iff]
  cases vd with
  | mk misc sts1 seq crtc gc atc dac ram vgamode =>
      rcases vgamode with - | - | - <;> simp [VgaVdev.writeGc]

theorem vgaPortOutHandler_eq_iff {vd : VgaVdev} {port : Nat} {val : UInt8} :
    (vgaPortOutHandler vd port val).1 = vd ↔ vd.Holds port val := by
  unfold vgaPortOutHandler VgaVdev.Holds
  cases VgaPort.ofPort port with
  | none => simp
  | some label =>
      cases label with
      | crtcData =>
          cases CrtcReg.ofIndex vd.crtc.crtcIndex <;>
            simp [VgaVdev.ext_iff, VgaCrtc.write_eq_iff]
      | atcIdx => simp [VgaVdev.ext_iff, VgaAtc.writePort_eq_iff]
      | seqData =>
          cases SeqReg.ofIndex vd.seq.seqIndex <;>
            simp [VgaVdev.ext_iff, VgaSeq.write_eq_iff]
      | dacData => simp [VgaVdev.ext_iff, VgaDac.writeData_ne]
      | gcData =>
          cases GcReg.ofIndex vd.gc.gcIndex <;>
            simp [VgaVdev.writeGc_eq_iff]
      | crtcIdx | seqIdx | dacIdxRd | dacIdxWr | gcIdx | genInputSts0 =>
          simp [VgaVdev.ext_iff, VgaCrtc.ext_iff, VgaSeq.ext_iff,
            VgaDac.ext_iff, VgaGc.ext_iff, Fin.val_eq_zero_iff, eq_comm]
      | atcData | dacMask | genInputSts1 | genMiscOutput | genFeatureCtrl
      | port3c3 => simp

/-! Two ports in a row. -/

/-- Ports whose bytes go nowhere. -/
def VgaPort.ignores : Option VgaPort → Bool
  | some .atcData | some .dacMask | some .genInputSts1
  | some .genMiscOutput | some .genFeatureCtrl | some .port3c3 | none => true
  | _ => false

theorem vgaPortOutHandler_ignored {vd : VgaVdev} {port : Nat} {val : UInt8}
    (ignored : VgaPort.ignores (VgaPort.ofPort port) = true) :
    (vgaPortOutHandler vd port val).1 = vd := by
  unfold vgaPortOutHandler
  split <;> simp_all [VgaPort.ignores]

/-- Where neither of two neighbours ignores its byte, they are an index and
its data or the two indices of the DAC. -/
theorem ofPort_neighbours : ∀ offset, offset < 0x20 →
    VgaPort.ignores (VgaPort.ofPort (0x3c0 + offset)) = true ∨
    VgaPort.ignores (VgaPort.ofPort (0x3c0 + offset + 1)) = true ∨
    (VgaPort.ofPort (0x3c0 + offset), VgaPort.ofPort (0x3c0 + offset + 1)) ∈
      [(some VgaPort.crtcIdx, some VgaPort.crtcData),
        (some VgaPort.seqIdx, some VgaPort.seqData),
        (some VgaPort.dacIdxRd, some VgaPort.dacIdxWr),
        (some VgaPort.dacIdxWr, some VgaPort.dacData),
        (some VgaPort.gcIdx, some VgaPort.gcData)] := by
  decide

/-- Only a byte of colour can hide that the index before it was changed: it
counts the subindex from 0 to 1. -/
def VgaVdev.HoldsPair (vd : VgaVdev) (port : Nat) (low high : UInt8) : Prop :=
  if VgaPort.ofPort port = some .dacIdxWr then
    vd.dac.dacWrIndex = low ∧ vd.dac.dacWrSubindex.val = 1 ∧
      vd.dac.red low = high
  else
    vd.Holds port low ∧ vd.Holds (port + 1) high

theorem VgaSeq.write_index (seq : VgaSeq) (reg : SeqReg) (val : UInt8) :
    (seq.write reg val).seqIndex = seq.seqIndex := by
  cases reg <;> rfl

theorem VgaCrtc.write_index (crtc : VgaCrtc) (reg : CrtcReg) (val : UInt8) :
    (crtc.write reg val).crtcIndex = crtc.crtcIndex := by
  cases reg <;> rfl

theorem VgaGc.write_index (gc : VgaGc) (reg : GcReg) (val : UInt8) :
    (gc.write reg val).gcIndex = gc.gcIndex := by
  cases reg <;> rfl

theorem VgaVdev.index_remains {vd : VgaVdev} {port : Nat} {low high : UInt8}
    (pair : (VgaPort.ofPort port, VgaPort.ofPort (port + 1)) ∈
      [(some VgaPort.crtcIdx, some VgaPort.crtcData),
        (some VgaPort.seqIdx, some VgaPort.seqData),
        (some VgaPort.dacIdxRd, some VgaPort.dacIdxWr),
        (some VgaPort.gcIdx, some VgaPort.gcData)])
    (unmoved : (vgaPortOutHandler (vgaPortOutHandler vd port low).1
      (port + 1) high).1 = vd) :
    (vgaPortOutHandler vd port low).1 = vd := by
  simp only [List.mem_cons, List.not_mem_nil, or_false, Prod.mk.injEq] at pair
  rw [vgaPortOutHandler_eq_iff]
  rcases pair with ⟨here, next⟩ | ⟨here, next⟩ | ⟨here, next⟩ | ⟨here, next⟩
  · have index := congrArg (·.crtc.crtcIndex) unmoved
    simp only [vgaPortOutHandler, here, next] at index
    simp only [VgaVdev.Holds, here]
    split at index
    · rw [VgaCrtc.write_index] at index
      exact index.symm
    · exact index.symm
  · have index := congrArg (·.seq.seqIndex) unmoved
    simp only [vgaPortOutHandler, here, next] at index
    simp only [VgaVdev.Holds, here]
    split at index
    · rw [VgaSeq.write_index] at index
      exact index.symm
    · exact index.symm
  · have index := congrArg (·.dac.dacRdIndex) unmoved
    have subindex := congrArg (·.dac.dacRdSubindex) unmoved
    simp only [vgaPortOutHandler, here, next] at index subindex
    simp only [VgaVdev.Holds, here]
    exact ⟨index.symm, congrArg Fin.val subindex.symm⟩
  · have index := congrArg (·.gc.gcIndex) unmoved
    simp only [vgaPortOutHandler, here, next] at index
    simp only [VgaVdev.Holds, here]
    split at index
    · simp only [VgaVdev.writeGc, VgaGc.write_index] at index
      exact index.symm
    · exact index.symm

theorem colour_undoes_iff {vd : VgaVdev} {port : Nat} {low high : UInt8}
    (here : VgaPort.ofPort port = some .dacIdxWr)
    (next : VgaPort.ofPort (port + 1) = some .dacData) :
    (vgaPortOutHandler (vgaPortOutHandler vd port low).1
        (port + 1) high).1 = vd ↔ vd.HoldsPair port low high := by
  have counted : (0 : Fin 3) ≠ 2 := by decide
  simp only [vgaPortOutHandler, here, next, VgaVdev.HoldsPair, if_true,
    VgaDac.writeData, if_neg counted]
  constructor
  · intro unmoved
    have dac := congrArg VgaVdev.dac unmoved
    have index := congrArg VgaDac.dacWrIndex dac
    have subindex := congrArg VgaDac.dacWrSubindex dac
    have colour := congrFun (congrArg VgaDac.dacPalette dac)
      (paletteEntry low 0)
    exact ⟨index.symm, congrArg Fin.val subindex.symm,
      colour.symm.trans (Function.update_self _ _ _)⟩
  · rintro ⟨rfl, counts, rfl⟩
    have subindex : vd.dac.dacWrSubindex = 1 := Fin.ext counts
    simp [VgaVdev.ext_iff, VgaDac.ext_iff, VgaDac.red, subindex]

/-- Two neighbouring ports that are written leave the device alone. -/
theorem vgaPortOutHandler_pair_eq_iff {vd : VgaVdev} {offset : Nat}
    {low high : UInt8} (inWindow : offset < 0x20) :
    (vgaPortOutHandler (vgaPortOutHandler vd (0x3c0 + offset) low).1
        (0x3c0 + offset + 1) high).1 = vd ↔
      vd.HoldsPair (0x3c0 + offset) low high := by
  by_cases colour : VgaPort.ofPort (0x3c0 + offset) = some .dacIdxWr
  · have next : VgaPort.ofPort (0x3c0 + offset + 1) = some .dacData := by
      revert offset
      decide
    exact colour_undoes_iff colour next
  · unfold VgaVdev.HoldsPair
    rw [if_neg colour]
    have remains : (vgaPortOutHandler (vgaPortOutHandler vd
        (0x3c0 + offset) low).1 (0x3c0 + offset + 1) high).1 = vd →
        (vgaPortOutHandler vd (0x3c0 + offset) low).1 = vd := by
      intro unmoved
      rcases ofPort_neighbours offset inWindow with ignored | ignored | pair
      · exact vgaPortOutHandler_ignored ignored
      · rwa [vgaPortOutHandler_ignored ignored] at unmoved
      · apply VgaVdev.index_remains _ unmoved
        simpa [colour] using pair
    constructor
    · intro unmoved
      have first := remains unmoved
      rw [first] at unmoved
      exact ⟨vgaPortOutHandler_eq_iff.mp first,
        vgaPortOutHandler_eq_iff.mp unmoved⟩
    · rintro ⟨first, second⟩
      rw [vgaPortOutHandler_eq_iff.mpr first]
      exact vgaPortOutHandler_eq_iff.mpr second

/-! When a port reads as ones and leaves the device alone.  `val` is what the
byte of the handler holds before. -/

def VgaVdev.ReadsOnes (vd : VgaVdev) (port : Nat) (val : UInt8) : Prop :=
  match VgaPort.ofPort port with
  | some .crtcIdx => UInt8.ofNat vd.crtc.crtcIndex = 0xff
  | some .crtcData =>
      ∀ reg, CrtcReg.ofIndex vd.crtc.crtcIndex = some reg →
        vd.crtc.regs reg = 0xff
  | some .atcIdx => UInt8.ofNat vd.atc.atcIndex = 0xff
  | some .atcData =>
      ∀ reg, AtcReg.ofIndex vd.atc.atcIndex = some reg →
        vd.atc.regs reg = 0xff
  | some .seqIdx => UInt8.ofNat vd.seq.seqIndex = 0xff
  | some .seqData =>
      ∀ reg, SeqReg.ofIndex vd.seq.seqIndex = some reg →
        vd.seq.regs reg = 0xff
  | some .gcIdx => UInt8.ofNat vd.gc.gcIndex = 0xff
  | some .gcData =>
      ∀ reg, GcReg.ofIndex vd.gc.gcIndex = some reg →
        vd.gc.regs reg = 0xff
  | some .genMiscOutput => vd.vgaMisc = 0xff
  | some .genInputSts0 => val = 0xff
  | some .dacData | some .genInputSts1 | some .genFeatureCtrl
  | some .port3c3 => False
  | some .dacMask | some .dacIdxRd | some .dacIdxWr | none => True

theorem status1_ne : (0x08 ||| 0x01 : UInt8) ≠ 0xff := by decide

theorem getD_map_ones {Reg : Type u} (regs : Reg → UInt8)
    (reg : Option Reg) :
    (reg.map regs).getD 0xff = 0xff ↔ ∀ named, reg = some named →
      regs named = 0xff := by
  cases reg <;> simp

theorem vgaPortInHandler_eq_iff {vd : VgaVdev} {port : Nat} {val : UInt8} :
    vgaPortInHandler vd port val = (vd, 0xff) ↔ vd.ReadsOnes port val := by
  unfold vgaPortInHandler VgaVdev.ReadsOnes
  cases VgaPort.ofPort port with
  | none => simp
  | some label =>
      cases label with
      | dacData => simp [VgaVdev.ext_iff, VgaDac.readData_ne]
      | genInputSts1 => simp [status1_ne]
      | genFeatureCtrl | port3c3 => simp
      | crtcData | atcData | seqData | gcData =>
          simp only [Prod.mk.injEq, true_and, getD_map_ones]
      | crtcIdx | atcIdx | seqIdx | dacMask | dacIdxRd | dacIdxWr | gcIdx
      | genMiscOutput | genInputSts0 => simp

theorem vgaPortInHandler_unmoved {vd : VgaVdev} {port : Nat} {val : UInt8}
    (ones : (vgaPortInHandler vd port val).2 = 0xff)
    (notColour : VgaPort.ofPort port ≠ some .dacData) :
    vgaPortInHandler vd port val = (vd, 0xff) := by
  rw [← ones]
  unfold vgaPortInHandler at ones ⊢
  cases read : VgaPort.ofPort port with
  | none => rfl
  | some label =>
      rw [read] at ones notColour
      cases label with
      | dacData => exact absurd rfl notColour
      | genInputSts1 => exact absurd ones status1_ne
      | _ => rfl

/-- Two neighbouring ports that are read are ones and leave the device
alone. -/
theorem vgaPortInHandler_pair_eq_iff {vd : VgaVdev} {offset : Nat}
    {val : UInt8} (inWindow : offset < 0x20) :
    ((vgaPortInHandler vd (0x3c0 + offset) val).2 = 0xff ∧
      vgaPortInHandler (vgaPortInHandler vd (0x3c0 + offset) val).1
        (0x3c0 + offset + 1)
        (vgaPortInHandler vd (0x3c0 + offset) val).2 = (vd, 0xff)) ↔
      vd.ReadsOnes (0x3c0 + offset) val ∧
        vd.ReadsOnes (0x3c0 + offset + 1) 0xff := by
  rw [← vgaPortInHandler_eq_iff, ← vgaPortInHandler_eq_iff]
  constructor
  · rintro ⟨first, second⟩
    by_cases colour : VgaPort.ofPort (0x3c0 + offset) = some .dacData
    · have next : VgaPort.ofPort (0x3c0 + offset + 1) =
          some .genFeatureCtrl := by
        clear first second
        revert offset
        decide
      simp [vgaPortInHandler, next] at second
    · have here := vgaPortInHandler_unmoved first colour
      rw [here] at second
      exact ⟨here, second⟩
  · rintro ⟨first, second⟩
    rw [first]
    exact ⟨rfl, second⟩

/-! The value that is read, out of `eax`. -/

theorem eax_low (eax : UInt32) (low : UInt8) :
    (eax &&& 0xffffff00 ||| low.toUInt32).toNat % 256 = low.toNat := by
  have cleared : (eax.toNat &&& 0xffffff00) % 2 ^ 8 = 0 := by
    rw [Nat.and_mod_two_pow]
    simp
  rw [UInt32.toNat_or, UInt32.toNat_and, UInt8.toNat_toUInt32,
    show (256 : Nat) = 2 ^ 8 from rfl, Nat.or_mod_two_pow]
  simp only [UInt32.reduceToNat]
  rw [cleared, Nat.zero_or, Nat.mod_eq_of_lt low.toNat_lt]

theorem eax_both (eax : UInt32) (low high : UInt8) :
    (eax &&& 0xffff0000 ||| low.toUInt32 |||
        high.toUInt32 <<< (8 : UInt32)).toNat % 65536 =
      high.toNat * 256 + low.toNat := by
  have lowSmall := low.toNat_lt
  have highSmall := high.toNat_lt
  have cleared : (eax.toNat &&& 0xffff0000) % 2 ^ 16 = 0 := by
    rw [Nat.and_mod_two_pow]
    simp
  have shifted : (high.toUInt32 <<< (8 : UInt32)).toNat =
      high.toNat * 2 ^ 8 := by
    rw [UInt32.toNat_shiftLeft]
    simp [Nat.shiftLeft_eq]
    omega
  rw [UInt32.toNat_or, UInt32.toNat_or, UInt32.toNat_and,
    UInt8.toNat_toUInt32, shifted, Nat.or_assoc, Nat.or_comm low.toNat,
    or_joined high.toNat lowSmall, show (65536 : Nat) = 2 ^ 16 from rfl,
    Nat.or_mod_two_pow]
  simp only [UInt32.reduceToNat]
  rw [cleared, Nat.zero_or]
  omega

theorem ones_iff (byte : UInt8) : byte.toNat = 255 ↔ byte = 0xff :=
  UInt8.toNat_inj (b := 0xff)

/-! The condition under which both ways do the same. -/

/-- The port would change nothing and read as ones. -/
def VgaAccess.Meets (access : VgaAccess) (vd : VgaVdev) : Prop :=
  let port := 0x3c0 + access.offset
  match access.transfer with
  | .write value =>
      let eax := value.toUInt32
      if access.size = 1 then vd.Holds port eax.toUInt8
      else vd.HoldsPair port eax.toUInt8 (eax >>> 8).toUInt8
  | .read _ garbage _ =>
      if access.size = 1 then vd.ReadsOnes port garbage
      else vd.ReadsOnes port garbage ∧ vd.ReadsOnes (port + 1) 0xff

theorem vgaPortHandlerOut_eq_iff {vd : VgaVdev} {offset size : Nat}
    {eax : UInt32} (inWindow : offset < 0x20)
    (sized : size = 1 ∨ size = 2) :
    (vgaPortHandlerOut vd (0x3c0 + offset) size eax).1 = vd ↔
      if size = 1 then vd.Holds (0x3c0 + offset) eax.toUInt8
      else vd.HoldsPair (0x3c0 + offset) eax.toUInt8 (eax >>> 8).toUInt8 := by
  rcases sized with rfl | rfl
  · exact vgaPortOutHandler_eq_iff
  · exact vgaPortOutHandler_pair_eq_iff inWindow

theorem vgaPortHandlerIn_ones_iff {vd : VgaVdev} {offset size : Nat}
    {eax : UInt32} {garbage : UInt8} (inWindow : offset < 0x20)
    (sized : size = 1 ∨ size = 2) :
    ((vgaPortHandlerIn vd (0x3c0 + offset) size eax garbage).1 = vd ∧
      lowBytes size
        (vgaPortHandlerIn vd (0x3c0 + offset) size eax garbage).2.1.toNat =
          lowBytes size 0xffff) ↔
      if size = 1 then vd.ReadsOnes (0x3c0 + offset) garbage
      else vd.ReadsOnes (0x3c0 + offset) garbage ∧
        vd.ReadsOnes (0x3c0 + offset + 1) 0xff := by
  rcases sized with rfl | rfl
  · rw [if_pos rfl, ← vgaPortInHandler_eq_iff, Prod.ext_iff]
    simp only [vgaPortHandlerIn, lowBytes, if_true, eax_low]
    exact and_congr_right fun _ => ones_iff _
  · rw [if_neg (by decide), ← vgaPortInHandler_pair_eq_iff inWindow,
      Prod.ext_iff]
    simp only [vgaPortHandlerIn, lowBytes, if_neg (show ¬2 = 1 by decide),
      eax_both]
    generalize vgaPortInHandler vd (0x3c0 + offset) garbage = low
    generalize vgaPortInHandler low.1 (0x3c0 + offset + 1) low.2 = high
    have lowSmall := low.2.toNat_lt
    have highSmall := high.2.toNat_lt
    have split : high.2.toNat * 256 + low.2.toNat = 0xffff % 65536 ↔
        low.2.toNat = 255 ∧ high.2.toNat = 255 := by omega
    rw [split, ones_iff, ones_iff]
    tauto

theorem VgaAccess.agrees_iff (access : VgaAccess) (vd : VgaVdev) :
    access.byPort vd = access.byBar vd ↔ access.Meets vd := by
  have inWindow := access.inWindow
  have sized := access.sized
  cases transfer : access.transfer with
  | write value =>
      simp only [VgaAccess.byPort, VgaAccess.byBar, VgaAccess.Meets, transfer,
        vgaIoportWrite_unmoved vd _ _ inWindow, Prod.mk.injEq, and_true]
      exact vgaPortHandlerOut_eq_iff inWindow sized
  | read eax garbage ioportGarbage =>
      simp only [VgaAccess.byPort, VgaAccess.byBar, VgaAccess.Meets, transfer,
        vgaIoportRead_ones vd _ inWindow sized, Prod.mk.injEq,
        Option.some.injEq]
      exact vgaPortHandlerIn_ones_iff inWindow sized

theorem accessTrace_agrees_iff (accesses : List VgaAccess) (vd : VgaVdev) :
    accessTrace VgaAccess.byPort accesses vd =
        accessTrace VgaAccess.byBar accesses vd ↔
      ∀ access ∈ accesses, access.Meets vd := by
  induction accesses with
  | nil => simp [accessTrace]
  | cons access rest induction =>
      rw [accessTrace, accessTrace, List.cons.injEq, List.forall_mem_cons,
        ← induction, ← access.agrees_iff vd]
      refine and_congr_right fun same => ?_
      rw [same, access.byBar_fst]

/-- The window and the ports agree on an access, and on a sequence of
accesses, where the ports would change nothing and read as ones. -/
theorem vgaIoport_agrees_iff (vd : VgaVdev) :
    (∀ access : VgaAccess,
      access.byPort vd = access.byBar vd ↔ access.Meets vd) ∧
    ∀ accesses : List VgaAccess,
      accessTrace VgaAccess.byPort accesses vd =
          accessTrace VgaAccess.byBar accesses vd ↔
        ∀ access ∈ accesses, access.Meets vd :=
  ⟨fun access => access.agrees_iff vd,
    fun accesses => accessTrace_agrees_iff accesses vd⟩

/-- The miscellaneous register, written through the BAR. -/
theorem vgaIoport_misses_misc :
    ¬ ∀ (vd : VgaVdev) (access : VgaAccess),
      access.byPort vd = access.byBar vd := by
  intro agrees
  have same := agrees (vgaInit none)
    ⟨2, 1, .write 0x67, by decide, .inl rfl⟩
  have misc := congrArg (fun after => after.1.vgaMisc) same
  exact absurd misc (by decide)

end VirtioGpu.Vga
