import VirtioGpu.Backend.Header
import VirtioGpu.Gpu.RenderThread
import VirtioGpu.Vga.Ports

namespace VirtioGpu.Backend

open Foundation
open Virtio
open Gpu

/-! BAR 2: its blocks of registers and the accesses to them. -/

inductive BarBlock where
  | edid
  | ioport
  | vbe
  | common
  | isr
  | device
  | notify
  deriving Repr, DecidableEq

def BarBlock.start : BarBlock → Nat
  | .edid => 0
  | .ioport => 0x400
  | .vbe => 0x500
  | .common => 0x1000
  | .isr => 0x1800
  | .device => 0x2000
  | .notify => 0x3000

def BarBlock.size : BarBlock → Nat
  | .edid => 256
  | .ioport => 0x3e0 - 0x3c0
  | .vbe => virtioGpuVgaVbeSize
  | .common => 0x800
  | .isr => 0x800
  | .device => 0x1000
  | .notify => 0x1000

def BarBlock.Holds (block : BarBlock) (offset : Nat) : Prop :=
  block.start ≤ offset ∧ offset < block.start + block.size

/-- An access starts in the block and ends behind it. -/
def BarBlock.Crossed (block : BarBlock) (offset size : Nat) : Prop :=
  block.Holds offset ∧ block.start + block.size < offset + size

/-- The bytes that are reached through a pointer an offset was added to.
`value` is the `uint32_t` behind the device configuration. -/
inductive BarCell where
  | edid (index : Nat)
  | vberegs (index : Nat)
  | config (index : Nat)
  | value (index : Nat)
  deriving Repr, DecidableEq

def BarBlock.Owns : BarBlock → BarCell → Prop
  | .edid, .edid index => index < 256
  | .vbe, .vberegs index => index < virtioGpuVgaVbeSize
  | .device, .config index => index < gpuConfigSize
  | .device, .value index => index < 4
  | _, _ => False

def barCells (cell : Nat → BarCell) (offset size : Nat) : List BarCell :=
  (List.range size).map fun index => cell (offset + index)

/-- `notified` are the queues handed to their handlers; the flag of
`gc_image` is one for both parts of the VGA. -/
structure BarState where
  device : Device
  render : RenderState
  vga : VirtioGpu.Vga.VgaVdev
  edid : Memory
  notified : List Queue
  sameMode : vga.vgamode = some render.vga.vgamode

def BarState.setRender (state : BarState) (render : RenderState) :
    BarState :=
  { state with
    render := render
    vga := { state.vga with vgamode := some render.vga.vgamode }
    sameMode := rfl }

def BarState.setVga (state : BarState) (vga : VirtioGpu.Vga.VgaVdev) :
    BarState :=
  let vgamode := vga.vgamode.getD state.render.vga.vgamode
  { state with
    render := { state.render with
      vga := { state.render.vga with vgamode := vgamode } }
    vga := { vga with vgamode := some vgamode }
    sameMode := rfl }

/-- At the end of `virtio_gpu_init`. -/
def BarState.initial (vmctx : Vmctx) (isBlobSupported : Bool)
    (scanoutNum : Nat) (vberegs edid : Memory) : BarState where
  device := virtioGpuInit vmctx isBlobSupported scanoutNum
  render := RenderState.initial vberegs
  vga := Vga.vgaInit (some false)
  edid := edid
  notified := []
  sameMode := rfl

theorem BarState.setRender_self (state : BarState) :
    state.setRender state.render = state := by
  obtain ⟨device, render, vga, edid, notified, same⟩ := state
  simp [setRender, ← same]

theorem BarState.setVga_self (state : BarState) :
    state.setVga state.vga = state := by
  have mode : state.vga.vgamode.getD state.render.vga.vgamode =
      state.render.vga.vgamode := by
    rw [state.sameMode, Option.getD_some]
  unfold setVga
  simp only [mode]
  exact state.setRender_self

/-! Reads. -/

def virtioGpuEdidRead (edid : Memory) (offset size : Nat) :
    Nat × List BarCell :=
  if size = 1 ∨ size = 2 ∨ size = 4 ∨ size = 8 then
    (edid.loadWord offset size, barCells .edid offset size)
  else (0, [])

def vgaVbeRead (vberegs : Memory) (offset size : Nat) : Nat × List BarCell :=
  if size = 1 ∨ size = 2 then
    (vberegs.loadWord offset size, barCells .vberegs offset size)
  else (0, [])

def virtioIsrCfgRead (base : VirtioBase) : VirtioBase × Nat :=
  ({ base with isr := 0 }, base.isr)

/-- As many bytes as asked for are copied to four. -/
def virtioDeviceCfgRead (cfg : GpuConfig) (offset size : Nat) :
    Nat × List BarCell :=
  if offset + size > gpuConfigSize then (badRead size, [])
  else
    (wordOf ((cfg.bytes.drop offset).take (min size 4)),
      barCells .config offset size ++ barCells .value 0 size)

/-- The tests of `virtio_gpu_read`, the first of which takes one offset too
many. -/
def routedRead (offset : Nat) : Option BarBlock :=
  if offset ≤ 256 then some .edid
  else if 0x400 ≤ offset ∧ offset < 0x400 + (0x3e0 - 0x3c0) then some .ioport
  else if 0x500 ≤ offset ∧ offset < 0x500 + 0xb * 2 then some .vbe
  else if 0x1000 ≤ offset ∧ offset < 0x1000 + 0x800 then some .common
  else if 0x1800 ≤ offset ∧ offset < 0x1800 + 0x800 then some .isr
  else if 0x2000 ≤ offset ∧ offset < 0x2000 + 0x1000 then some .device
  else none

structure BarRead where
  state : BarState
  value : Nat
  touched : List BarCell

/-- `garbage` is what the byte of the I/O ports holds at the start. -/
def virtioGpuBarRead (state : BarState) (offset size : Nat)
    (garbage : UInt8) : BarRead :=
  match routedRead offset with
  | some .edid =>
      let read := virtioGpuEdidRead state.edid offset size
      ⟨state, read.1, read.2⟩
  | some .ioport =>
      let read :=
        Vga.vgaIoportRead state.vga (offset - 0x400) size garbage
      ⟨state.setVga read.1, read.2.toNat, []⟩
  | some .vbe =>
      let read := vgaVbeRead state.render.vga.vberegs (offset - 0x500) size
      ⟨state, read.1, read.2⟩
  | some .common =>
      ⟨state, virtioCommonCfgRead state.device.base state.device.queues
        (offset - 0x1000) size, []⟩
  | some .isr =>
      let read := virtioIsrCfgRead state.device.base
      ⟨{ state with device := { state.device with base := read.1 } },
        read.2, []⟩
  | some .device =>
      let read := virtioDeviceCfgRead state.device.cfg (offset - 0x2000) size
      ⟨state, read.1, read.2⟩
  | some .notify | none => ⟨state, badRead size, []⟩

/-! Writes. -/

/-- The registers themselves, and those the cases behind the store look at or
set. -/
def vgaVbeWriteCells (offset size : Nat) : List BarCell :=
  if size = 1 ∨ size = 2 then
    barCells .vberegs offset size ++
      (if offset = vbeDispiIndexEnable then
        barCells .vberegs vberegsEnable 2 ++
          barCells .vberegs vberegsVirtWidth 2 ++
            barCells .vberegs vberegsXOffset 2 ++
              barCells .vberegs vberegsYOffset 2
      else []) ++ barCells .vberegs vberegsXres 2 ++
        barCells .vberegs vberegsYres 2
  else []

/-- The branch of `virtio_gpu_write` for the Bochs display. -/
def writeVbe (state : BarState) (offset size value : Nat) : BarState :=
  let written := virtioGpuWrite state.render offset size value
  let render :=
    if offset = vbeDispiIndexEnable ∧ value &&& vbeDispiEnabled ≠ 0 then
      startVgaThread written
    else written
  state.setRender render

/-- A status of zero resets the device, which starts the VGA thread too. -/
def writeCommon (state : BarState) (offset size value : Nat) :
    Except Fault BarState := do
  let written ← virtioCommonCfgWrite state.device offset size value
  let render :=
    if offset = CommonReg.status.offset ∧ size = 1 ∧ value &&& 0xff = 0 then
      startVgaThread (Gpu.virtioGpuReset state.render)
    else state.render
  return BarState.setRender { state with device := written.1 } render

def writeDevice (state : BarState) (offset size value : Nat) :
    Except Fault BarState := do
  let device ← virtioDeviceCfgWrite state.device offset size value
  return { state with device := device }

def deviceCfgWriteCells (offset size : Nat) : List BarCell :=
  if offset + size > gpuConfigSize ∨ offset ≠ eventsClearOffset then []
  else
    barCells .config offset size ++ barCells .value 0 size ++
      barCells .config 0 8

def virtioNotifyCfgWrite (state : BarState) (offset : Nat) : BarState :=
  match Queue.ofIndex (offset / 4) with
  | some queue => { state with notified := state.notified ++ [queue] }
  | none => state

def routedWrite (offset : Nat) : Option BarBlock :=
  if offset ≤ 256 then some .edid
  else if 0x400 ≤ offset ∧ offset < 0x400 + (0x3e0 - 0x3c0) then some .ioport
  else if 0x500 ≤ offset ∧ offset < 0x500 + 0xb * 2 then some .vbe
  else if 0x1000 ≤ offset ∧ offset < 0x1000 + 0x800 then some .common
  else if 0x2000 ≤ offset ∧ offset < 0x2000 + 0x1000 then some .device
  else if 0x3000 ≤ offset ∧ offset < 0x3000 + 0x1000 then some .notify
  else none

structure BarWrite where
  outcome : Except Fault BarState
  touched : List BarCell

def virtioGpuBarWrite (state : BarState) (offset size value : Nat) :
    BarWrite :=
  match routedWrite offset with
  | some .ioport =>
      let vga := Vga.vgaIoportWrite state.vga (offset - 0x400) size
        (UInt64.ofNat value)
      ⟨.ok (state.setVga vga), []⟩
  | some .vbe =>
      ⟨.ok (writeVbe state (offset - 0x500) size value),
        vgaVbeWriteCells (offset - 0x500) size⟩
  | some .common =>
      ⟨writeCommon state (offset - 0x1000) size value, []⟩
  | some .device =>
      ⟨writeDevice state (offset - 0x2000) size value,
        deviceCfgWriteCells (offset - 0x2000) size⟩
  | some .notify => ⟨.ok (virtioNotifyCfgWrite state (offset - 0x3000)), []⟩
  | some .edid | some .isr | none => ⟨.ok state, []⟩

/-! What an access may do, and when it does no more. -/

/-- Reads of the notify block and writes of the ISR block are ignored. -/
structure BarRead.Confined (read : BarRead) (state : BarState)
    (offset size : Nat) : Prop where
  routes : ∀ block : BarBlock, routedRead offset = some block ↔
    block ≠ .notify ∧ block.Holds offset
  inside : ∀ cell ∈ read.touched, ∃ block : BarBlock, block.Holds offset ∧
    block.Owns cell
  crossing : ∀ block : BarBlock, block.Crossed offset size →
    read.state = state ∧ (read.value = 0 ∨ read.value = badRead size)

structure BarWrite.Confined (write : BarWrite) (state : BarState)
    (offset size : Nat) : Prop where
  routes : ∀ block : BarBlock, routedWrite offset = some block ↔
    block ≠ .isr ∧ block.Holds offset
  inside : ∀ cell ∈ write.touched, ∃ block : BarBlock, block.Holds offset ∧
    block.Owns cell
  crossing : ∀ block : BarBlock, block.Crossed offset size →
    write.outcome = .ok state

/-- Not the offset behind the EDID, not over the ends of the EDID and of the
Bochs display, not over that of the ISR block while the ISR is set, and not
eight bytes of the configuration. -/
structure BarReadMeets (state : BarState) (offset size : Nat) : Prop where
  notBehind : offset ≠ 256
  edid : ¬BarBlock.edid.Crossed offset size
  vbe : size ≤ 2 → ¬BarBlock.vbe.Crossed offset size
  isr : BarBlock.isr.Crossed offset size → state.device.base.isr = 0
  device : size = 8 → 0x2000 ≤ offset → 0x2000 + gpuConfigSize < offset + size

structure BarWriteMeets (offset size : Nat) : Prop where
  notBehind : offset ≠ 256
  vbe : size ≤ 2 → ¬BarBlock.vbe.Crossed offset size
  device : size = 8 → offset ≠ 0x2000 + eventsClearOffset

theorem BarBlock.Holds.unique {block other : BarBlock} {offset : Nat}
    (first : block.Holds offset) (second : other.Holds offset) :
    block = other := by
  unfold BarBlock.Holds at first second
  cases block <;> cases other <;>
    simp only [BarBlock.start, BarBlock.size, virtioGpuVgaVbeSize] at * <;>
    omega

/-- A list of tests that sends the offset behind the EDID there, and every
other one to its block. -/
theorem routes_iff {routed : Nat → Option BarBlock} {ignored : BarBlock}
    (edid : routed 256 = some .edid) {offset : Nat}
    (elsewhere : offset ≠ 256 → ∀ block : BarBlock,
      routed offset = some block ↔ block ≠ ignored ∧ block.Holds offset) :
    (∀ block : BarBlock, routed offset = some block ↔
      block ≠ ignored ∧ block.Holds offset) ↔ offset ≠ 256 := by
  refine ⟨?_, elsewhere⟩
  rintro routes rfl
  have inside : 256 < 256 := ((routes .edid).mp edid).2.2
  exact absurd inside (Nat.lt_irrefl 256)

theorem routedRead_routes (offset : Nat) :
    (∀ block : BarBlock, routedRead offset = some block ↔
      block ≠ .notify ∧ block.Holds offset) ↔ offset ≠ 256 := by
  refine routes_iff rfl fun notBehind block => ?_
  unfold routedRead BarBlock.Holds
  split_ifs <;> cases block <;>
    simp [BarBlock.start, BarBlock.size, virtioGpuVgaVbeSize] <;> omega

theorem routedWrite_routes (offset : Nat) :
    (∀ block : BarBlock, routedWrite offset = some block ↔
      block ≠ .isr ∧ block.Holds offset) ↔ offset ≠ 256 := by
  refine routes_iff rfl fun notBehind block => ?_
  unfold routedWrite BarBlock.Holds
  split_ifs <;> cases block <;>
    simp [BarBlock.start, BarBlock.size, virtioGpuVgaVbeSize] <;> omega

/-! In a block, what an access does is measured by that block. -/

theorem BarBlock.Holds.owns_iff {block : BarBlock} {offset : Nat}
    (holds : block.Holds offset) {touched : List BarCell} :
    (∀ cell ∈ touched, ∃ other : BarBlock, other.Holds offset ∧
      other.Owns cell) ↔ ∀ cell ∈ touched, block.Owns cell := by
  constructor
  · intro inside cell member
    obtain ⟨other, here, owns⟩ := inside cell member
    rwa [holds.unique here]
  · exact fun inside cell member => ⟨block, holds, inside cell member⟩

theorem BarBlock.Holds.crossed_iff {block : BarBlock} {offset size : Nat}
    (holds : block.Holds offset) {harmless : Prop} :
    (∀ other : BarBlock, other.Crossed offset size → harmless) ↔
      (block.start + block.size < offset + size → harmless) := by
  constructor
  · exact fun crossing past => crossing block ⟨holds, past⟩
  · rintro crossing other ⟨here, past⟩
    rw [← holds.unique here] at past
    exact crossing past

theorem BarRead.confined_iff {after state : BarState} {value : Nat}
    {touched : List BarCell} {offset size : Nat} {block : BarBlock}
    (notBehind : offset ≠ 256) (holds : block.Holds offset) :
    (BarRead.mk after value touched).Confined state offset size ↔
      (∀ cell ∈ touched, block.Owns cell) ∧
        (block.start + block.size < offset + size →
          after = state ∧ (value = 0 ∨ value = badRead size)) := by
  constructor
  · rintro ⟨-, inside, crossing⟩
    exact ⟨holds.owns_iff.mp inside, holds.crossed_iff.mp crossing⟩
  · rintro ⟨inside, crossing⟩
    exact ⟨(routedRead_routes offset).mpr notBehind,
      holds.owns_iff.mpr inside, holds.crossed_iff.mpr crossing⟩

theorem BarWrite.confined_iff {outcome : Except Fault BarState}
    {state : BarState} {touched : List BarCell} {offset size : Nat}
    {block : BarBlock} (notBehind : offset ≠ 256)
    (holds : block.Holds offset) :
    (BarWrite.mk outcome touched).Confined state offset size ↔
      (∀ cell ∈ touched, block.Owns cell) ∧
        (block.start + block.size < offset + size →
          outcome = .ok state) := by
  constructor
  · rintro ⟨-, inside, crossing⟩
    exact ⟨holds.owns_iff.mp inside, holds.crossed_iff.mp crossing⟩
  · rintro ⟨inside, crossing⟩
    exact ⟨(routedWrite_routes offset).mpr notBehind,
      holds.owns_iff.mpr inside, holds.crossed_iff.mpr crossing⟩

theorem barCells_owned_iff {block : BarBlock} {cell : Nat → BarCell}
    {limit offset size : Nat}
    (owns : ∀ index, block.Owns (cell index) ↔ index < limit)
    (positive : 0 < size) :
    (∀ c ∈ barCells cell offset size, block.Owns c) ↔
      offset + size ≤ limit := by
  simp only [barCells, List.forall_mem_map, List.mem_range, owns]
  constructor
  · intro below
    have last := below (size - 1) (by omega)
    omega
  · intro fits index small
    omega

theorem BarReadMeets.iff {state : BarState} {offset size : Nat} :
    BarReadMeets state offset size ↔
      offset ≠ 256 ∧ ¬(offset < 256 ∧ 256 < offset + size) ∧
        (size ≤ 2 → ¬((0x500 ≤ offset ∧ offset < 0x516) ∧
          0x516 < offset + size)) ∧
        ((0x1800 ≤ offset ∧ offset < 0x2000) ∧ 0x2000 < offset + size →
          state.device.base.isr = 0) ∧
        (size = 8 → 0x2000 ≤ offset → 0x2010 < offset + size) := by
  constructor
  · rintro ⟨notBehind, edid, vbe, isr, device⟩
    simp only [BarBlock.Crossed, BarBlock.Holds, BarBlock.start,
      BarBlock.size, virtioGpuVgaVbeSize] at edid vbe isr
    exact ⟨notBehind, by omega, vbe, isr, device⟩
  · rintro ⟨notBehind, edid, vbe, isr, device⟩
    refine ⟨notBehind, ?_, vbe, isr, device⟩
    simp only [BarBlock.Crossed, BarBlock.Holds, BarBlock.start,
      BarBlock.size]
    omega

theorem BarBlock.device_owns_config (index : Nat) :
    BarBlock.device.Owns (.config index) ↔ index < gpuConfigSize :=
  Iff.rfl

theorem BarBlock.device_owns_value (index : Nat) :
    BarBlock.device.Owns (.value index) ↔ index < 4 :=
  Iff.rfl

section Blocks

variable {state : BarState} {offset size : Nat} {garbage : UInt8}

theorem edidRead_confined_iff (routed : routedRead offset = some .edid)
    (holds : BarBlock.edid.Holds offset)
    (sized : size = 1 ∨ size = 2 ∨ size = 4 ∨ size = 8) :
    (virtioGpuBarRead state offset size garbage).Confined state offset
      size ↔ BarReadMeets state offset size := by
  have below : offset < 256 := holds.2
  rw [BarRead.confined_iff (by omega) holds, BarReadMeets.iff]
  simp only [virtioGpuBarRead, routed, virtioGpuEdidRead, if_pos sized]
  rw [barCells_owned_iff (fun _ => Iff.rfl) (by omega)]
  constructor
  · rintro ⟨fits, -⟩
    omega
  · intro meets
    refine ⟨by omega, fun past => ?_⟩
    simp only [BarBlock.start, BarBlock.size] at past
    omega

theorem ioportRead_confined_iff (routed : routedRead offset = some .ioport)
    (holds : BarBlock.ioport.Holds offset)
    (sized : size = 1 ∨ size = 2 ∨ size = 4 ∨ size = 8) :
    (virtioGpuBarRead state offset size garbage).Confined state offset
      size ↔ BarReadMeets state offset size := by
  have low : 0x400 ≤ offset := holds.1
  have high : offset < 0x420 := holds.2
  rw [BarRead.confined_iff (by omega) holds, BarReadMeets.iff]
  refine iff_of_true ?_ (by omega)
  simp only [virtioGpuBarRead, routed, BarBlock.start, BarBlock.size]
  refine ⟨by simp, fun past => ?_⟩
  rcases sized with rfl | rfl | rfl | rfl
  · omega
  · rw [Vga.vgaIoportRead_ones state.vga garbage (by omega) (.inr rfl)]
    exact ⟨state.setVga_self, .inr rfl⟩
  · exact ⟨state.setVga_self, .inl rfl⟩
  · exact ⟨state.setVga_self, .inl rfl⟩

theorem vbeRead_confined_iff (routed : routedRead offset = some .vbe)
    (holds : BarBlock.vbe.Holds offset) :
    (virtioGpuBarRead state offset size garbage).Confined state offset
      size ↔ BarReadMeets state offset size := by
  have low : 0x500 ≤ offset := holds.1
  have high : offset < 0x516 := holds.2
  rw [BarRead.confined_iff (by omega) holds, BarReadMeets.iff]
  simp only [virtioGpuBarRead, routed, vgaVbeRead, BarBlock.start,
    BarBlock.size, virtioGpuVgaVbeSize]
  by_cases short : size = 1 ∨ size = 2
  · rw [if_pos short, barCells_owned_iff (fun _ => Iff.rfl) (by omega)]
    unfold virtioGpuVgaVbeSize
    constructor
    · rintro ⟨fits, -⟩
      omega
    · intro meets
      exact ⟨by omega, fun past => by omega⟩
  · rw [if_neg short]
    exact iff_of_true ⟨by simp, fun _ => ⟨trivial, .inl rfl⟩⟩ (by omega)

theorem CommonReg.offset_lt (reg : CommonReg) : reg.offset < 0x7f9 := by
  cases reg <;> decide

theorem virtioCommonCfgRead_end (base : VirtioBase)
    (queues : Queue → VqInfo) (behind : 0x7f9 ≤ offset) :
    virtioCommonCfgRead base queues offset size = badRead size := by
  unfold virtioCommonCfgRead
  cases found : virtioFindModernCr offset with
  | none => rfl
  | some cr =>
      obtain ⟨reg, same, -⟩ := virtioFindModernCr_eq_some found
      have inside := CommonReg.offset_lt reg
      omega

theorem commonRead_confined_iff (routed : routedRead offset = some .common)
    (holds : BarBlock.common.Holds offset)
    (sized : size = 1 ∨ size = 2 ∨ size = 4 ∨ size = 8) :
    (virtioGpuBarRead state offset size garbage).Confined state offset
      size ↔ BarReadMeets state offset size := by
  have low : 0x1000 ≤ offset := holds.1
  have high : offset < 0x1800 := holds.2
  rw [BarRead.confined_iff (by omega) holds, BarReadMeets.iff]
  refine iff_of_true ?_ (by omega)
  simp only [virtioGpuBarRead, routed, BarBlock.start, BarBlock.size]
  refine ⟨by simp, fun past => ⟨trivial, .inr ?_⟩⟩
  exact virtioCommonCfgRead_end _ _ (by omega)

theorem isrRead_unmoved_iff (state : BarState) :
    { state with device.base := (virtioIsrCfgRead state.device.base).1 } =
      state ↔ state.device.base.isr = 0 := by
  constructor
  · intro same
    exact (congrArg (fun after => after.device.base.isr) same).symm
  · intro clear
    unfold virtioIsrCfgRead
    rw [← clear]

theorem isrRead_confined_iff (routed : routedRead offset = some .isr)
    (holds : BarBlock.isr.Holds offset) :
    (virtioGpuBarRead state offset size garbage).Confined state offset
      size ↔ BarReadMeets state offset size := by
  have low : 0x1800 ≤ offset := holds.1
  have high : offset < 0x2000 := holds.2
  rw [BarRead.confined_iff (by omega) holds, BarReadMeets.iff]
  simp only [virtioGpuBarRead, routed, BarBlock.start, BarBlock.size,
    isrRead_unmoved_iff]
  constructor
  · rintro ⟨-, crossing⟩
    refine ⟨by omega, by omega, by omega, ?_, by omega⟩
    rintro ⟨-, past⟩
    exact (crossing (by omega)).1
  · rintro ⟨-, -, -, clear, -⟩
    refine ⟨by simp, fun past => ?_⟩
    have zero := clear ⟨⟨low, high⟩, by omega⟩
    exact ⟨zero, .inl zero⟩

theorem virtioDeviceCfgRead_exceeds (cfg : GpuConfig)
    (exceeds : gpuConfigSize < offset + size) :
    virtioDeviceCfgRead cfg offset size = (badRead size, []) :=
  if_pos exceeds

theorem virtioDeviceCfgRead_touches (cfg : GpuConfig)
    (fits : offset + size ≤ gpuConfigSize) :
    (virtioDeviceCfgRead cfg offset size).2 =
      barCells .config offset size ++ barCells .value 0 size := by
  unfold virtioDeviceCfgRead
  rw [if_neg (Nat.not_lt.mpr fits)]

theorem virtioGpuBarRead_device (routed : routedRead offset = some .device) :
    virtioGpuBarRead state offset size garbage =
      ⟨state, (virtioDeviceCfgRead state.device.cfg (offset - 0x2000) size).1,
        (virtioDeviceCfgRead state.device.cfg (offset - 0x2000) size).2⟩ := by
  unfold virtioGpuBarRead
  rw [routed]

theorem deviceRead_confined_iff (routed : routedRead offset = some .device)
    (holds : BarBlock.device.Holds offset)
    (sized : size = 1 ∨ size = 2 ∨ size = 4 ∨ size = 8) :
    (virtioGpuBarRead state offset size garbage).Confined state offset
      size ↔ BarReadMeets state offset size := by
  obtain ⟨low, high⟩ := id holds
  simp only [BarBlock.start, BarBlock.size] at low high
  have ends : BarBlock.device.start + BarBlock.device.size = 0x3000 := rfl
  rw [virtioGpuBarRead_device routed, BarRead.confined_iff (by omega) holds,
    BarReadMeets.iff, ends]
  by_cases exceeds : gpuConfigSize < offset - 0x2000 + size
  · rw [virtioDeviceCfgRead_exceeds _ exceeds]
    simp only [gpuConfigSize] at exceeds
    exact iff_of_true ⟨by simp, fun _ => ⟨rfl, .inr rfl⟩⟩ (by omega)
  · have fits := Nat.not_lt.mp exceeds
    rw [virtioDeviceCfgRead_touches _ fits, List.forall_mem_append,
      barCells_owned_iff BarBlock.device_owns_config (by omega),
      barCells_owned_iff BarBlock.device_owns_value (by omega)]
    simp only [gpuConfigSize] at fits ⊢
    constructor
    · rintro ⟨⟨-, whole⟩, -⟩
      omega
    · intro meets
      exact ⟨⟨by omega, by omega⟩, fun past => by omega⟩

theorem otherRead_confined_iff (routed : routedRead offset = none)
    (notBehind : offset ≠ 256) :
    (virtioGpuBarRead state offset size garbage).Confined state offset
      size ↔ BarReadMeets state offset size := by
  have routes := (routedRead_routes offset).mpr notBehind
  have outside : ∀ block : BarBlock, block ≠ .notify → ¬block.Holds offset :=
    fun block reads holds => by
      have found := (routes block).mpr ⟨reads, holds⟩
      rw [routed] at found
      cases found
  have ignored : virtioGpuBarRead state offset size garbage =
      ⟨state, badRead size, []⟩ := by
    unfold virtioGpuBarRead
    rw [routed]
  rw [ignored]
  refine iff_of_true ⟨routes, by simp, fun _ _ => ⟨rfl, .inr rfl⟩⟩
    ⟨notBehind, fun crossed => outside _ (by decide) crossed.1,
      fun _ crossed => outside _ (by decide) crossed.1,
      fun crossed => absurd crossed.1 (outside _ (by decide)), ?_⟩
  intro eight low
  have far : ¬offset < 0x3000 :=
    fun high => outside .device (by decide) ⟨low, high⟩
  unfold gpuConfigSize
  omega

theorem barRead_confined_iff
    (sized : size = 1 ∨ size = 2 ∨ size = 4 ∨ size = 8) :
    (virtioGpuBarRead state offset size garbage).Confined state offset
      size ↔ BarReadMeets state offset size := by
  by_cases notBehind : offset ≠ 256
  · have routes := (routedRead_routes offset).mpr notBehind
    cases routed : routedRead offset with
    | none => exact otherRead_confined_iff routed notBehind
    | some block =>
        obtain ⟨reads, holds⟩ := (routes block).mp routed
        cases block with
        | edid => exact edidRead_confined_iff routed holds sized
        | ioport => exact ioportRead_confined_iff routed holds sized
        | vbe => exact vbeRead_confined_iff routed holds
        | common => exact commonRead_confined_iff routed holds sized
        | isr => exact isrRead_confined_iff routed holds
        | device => exact deviceRead_confined_iff routed holds sized
        | notify => exact absurd rfl reads
  · exact iff_of_false
      (fun confined => notBehind ((routedRead_routes offset).mp
        confined.routes)) (fun meets => notBehind meets.notBehind)

/-! The writes, block by block. -/

theorem BarWriteMeets.iff {offset size : Nat} :
    BarWriteMeets offset size ↔
      offset ≠ 256 ∧
        (size ≤ 2 → ¬((0x500 ≤ offset ∧ offset < 0x516) ∧
          0x516 < offset + size)) ∧
        (size = 8 → offset ≠ 0x2004) := by
  constructor
  · rintro ⟨notBehind, vbe, device⟩
    simp only [BarBlock.Crossed, BarBlock.Holds, BarBlock.start,
      BarBlock.size, virtioGpuVgaVbeSize] at vbe
    exact ⟨notBehind, vbe, device⟩
  · rintro ⟨notBehind, vbe, device⟩
    exact ⟨notBehind, vbe, device⟩

theorem vgaVbeWriteCells_owned_iff {offset size : Nat}
    (short : size = 1 ∨ size = 2) :
    (∀ cell ∈ vgaVbeWriteCells offset size, BarBlock.vbe.Owns cell) ↔
      offset + size ≤ virtioGpuVgaVbeSize := by
  have owned {field : Nat} (inside : field + 2 ≤ virtioGpuVgaVbeSize) :
      ∀ cell ∈ barCells .vberegs field 2, BarBlock.vbe.Owns cell :=
    (barCells_owned_iff (fun _ => Iff.rfl) (by decide)).mpr inside
  unfold vgaVbeWriteCells
  rw [if_pos short]
  simp only [List.forall_mem_append]
  rw [barCells_owned_iff (fun _ => Iff.rfl) (by omega)]
  constructor
  · rintro ⟨⟨⟨fits, -⟩, -⟩, -⟩
    exact fits
  · intro fits
    refine ⟨⟨⟨fits, ?_⟩, owned (by decide)⟩, owned (by decide)⟩
    split_ifs
    · simp only [List.forall_mem_append]
      exact ⟨⟨⟨owned (by decide), owned (by decide)⟩, owned (by decide)⟩,
        owned (by decide)⟩
    · simp

theorem writeVbe_ignored (state : BarState) (offset value : Nat)
    (long : ¬(size = 1 ∨ size = 2))
    (elsewhere : offset ≠ vbeDispiIndexEnable) :
    writeVbe state offset size value = state := by
  have same : virtioGpuWrite state.render offset size value =
      state.render := by
    unfold virtioGpuWrite vgaVbeWrite
    simp only [if_neg long, elsewhere, false_and, if_false, Nat.add_zero]
  unfold writeVbe
  simp only [same, elsewhere, false_and, if_false]
  exact state.setRender_self

theorem writeCommon_end (state : BarState) (size value : Nat)
    (behind : 0x7f9 ≤ offset) :
    writeCommon state offset size value = .ok state := by
  have ignored : virtioCommonCfgWrite state.device offset size value =
      .ok (state.device, []) := by
    refine virtioCommonCfgWrite_ignored _ _ fun reg same _ => ?_
    have inside := CommonReg.offset_lt reg
    omega
  have status : offset ≠ CommonReg.status.offset := by
    have inside := CommonReg.offset_lt .status
    omega
  unfold writeCommon
  rw [ignored]
  simp only [status, false_and, if_false]
  exact congrArg Except.ok state.setRender_self

theorem writeDevice_exceeds (state : BarState) (value : Nat)
    (exceeds : gpuConfigSize < offset + size) :
    writeDevice state offset size value = .ok state := by
  unfold writeDevice virtioDeviceCfgWrite
  rw [if_pos exceeds]
  rfl

theorem deviceCfgWriteCells_owned_iff
    (sized : size = 1 ∨ size = 2 ∨ size = 4 ∨ size = 8) :
    (∀ cell ∈ deviceCfgWriteCells offset size, BarBlock.device.Owns cell) ↔
      ¬(size = 8 ∧ offset = eventsClearOffset) := by
  unfold deviceCfgWriteCells
  split_ifs with ignored
  · refine iff_of_true (by simp) ?_
    rintro ⟨rfl, rfl⟩
    revert ignored
    decide
  · simp only [List.forall_mem_append]
    rw [barCells_owned_iff BarBlock.device_owns_config (by omega),
      barCells_owned_iff BarBlock.device_owns_value (by omega),
      barCells_owned_iff BarBlock.device_owns_config (by omega)]
    simp only [gpuConfigSize, eventsClearOffset] at ignored ⊢
    omega

theorem virtioNotifyCfgWrite_ignored (state : BarState)
    (behind : 8 ≤ offset) : virtioNotifyCfgWrite state offset = state := by
  unfold virtioNotifyCfgWrite
  cases found : Queue.ofIndex (offset / 4) with
  | none => rfl
  | some queue =>
      have index := Queue.ofIndex_eq_some_iff.mp found
      have small : queue.index < 2 := by cases queue <;> decide
      omega

variable {value : Nat}

/-- Only the display and the configuration are reached by pointers. -/
theorem quietWrite_confined_iff {block : BarBlock}
    {outcome : Except Fault BarState} (holds : block.Holds offset)
    (notBehind : offset ≠ 256)
    (elsewhere : block ≠ .vbe ∧ block ≠ .device)
    (crossing : block.start + block.size < offset + size →
      outcome = .ok state) :
    (BarWrite.mk outcome []).Confined state offset size ↔
      BarWriteMeets offset size := by
  rw [BarWrite.confined_iff notBehind holds, BarWriteMeets.iff]
  refine iff_of_true ⟨by simp, crossing⟩ ⟨notBehind, ?_, ?_⟩
  · rintro - ⟨⟨low, high⟩, -⟩
    exact elsewhere.1 (holds.unique ⟨low, high⟩)
  · rintro - rfl
    exact elsewhere.2 (holds.unique (by unfold BarBlock.Holds; decide))

theorem ioportWrite_ends (holds : BarBlock.ioport.Holds offset) :
    state.setVga (Vga.vgaIoportWrite state.vga (offset - 0x400) size
      (UInt64.ofNat value)) = state := by
  have low : 0x400 ≤ offset := holds.1
  have high : offset < 0x420 := holds.2
  rw [Vga.vgaIoportWrite_unmoved _ _ _ (by omega)]
  exact state.setVga_self

theorem commonWrite_ends
    (past : BarBlock.common.start + BarBlock.common.size < offset + size)
    (sized : size = 1 ∨ size = 2 ∨ size = 4 ∨ size = 8) :
    writeCommon state (offset - 0x1000) size value = .ok state := by
  have ends : BarBlock.common.start + BarBlock.common.size = 0x1800 := rfl
  exact writeCommon_end state size value (by omega)

theorem notifyWrite_ends
    (past : BarBlock.notify.start + BarBlock.notify.size < offset + size)
    (sized : size = 1 ∨ size = 2 ∨ size = 4 ∨ size = 8) :
    virtioNotifyCfgWrite state (offset - 0x3000) = state := by
  have ends : BarBlock.notify.start + BarBlock.notify.size = 0x4000 := rfl
  exact virtioNotifyCfgWrite_ignored state (by omega)

theorem vbeWrite_confined_iff (routed : routedWrite offset = some .vbe)
    (holds : BarBlock.vbe.Holds offset)
    (sized : size = 1 ∨ size = 2 ∨ size = 4 ∨ size = 8) :
    (virtioGpuBarWrite state offset size value).Confined state offset
      size ↔ BarWriteMeets offset size := by
  have low : 0x500 ≤ offset := holds.1
  have high : offset < 0x516 := holds.2
  have ends : BarBlock.vbe.start + BarBlock.vbe.size = 0x516 := rfl
  simp only [virtioGpuBarWrite, routed]
  rw [BarWrite.confined_iff (by omega) holds, BarWriteMeets.iff, ends]
  by_cases short : size = 1 ∨ size = 2
  · rw [vgaVbeWriteCells_owned_iff short]
    unfold virtioGpuVgaVbeSize
    constructor
    · rintro ⟨fits, -⟩
      omega
    · intro meets
      exact ⟨by omega, fun past => by omega⟩
  · refine iff_of_true ⟨by simp [vgaVbeWriteCells, short], ?_⟩ (by omega)
    intro past
    have elsewhere : offset - 0x500 ≠ vbeDispiIndexEnable := by
      unfold vbeDispiIndexEnable
      omega
    exact congrArg Except.ok (writeVbe_ignored state _ value short elsewhere)

theorem virtioGpuBarWrite_device
    (routed : routedWrite offset = some .device) :
    virtioGpuBarWrite state offset size value =
      ⟨writeDevice state (offset - 0x2000) size value,
        deviceCfgWriteCells (offset - 0x2000) size⟩ := by
  unfold virtioGpuBarWrite
  rw [routed]

theorem deviceWrite_confined_iff (routed : routedWrite offset = some .device)
    (holds : BarBlock.device.Holds offset)
    (sized : size = 1 ∨ size = 2 ∨ size = 4 ∨ size = 8) :
    (virtioGpuBarWrite state offset size value).Confined state offset
      size ↔ BarWriteMeets offset size := by
  have ends : BarBlock.device.start + BarBlock.device.size = 0x3000 := rfl
  obtain ⟨low, high⟩ := id holds
  simp only [BarBlock.start, BarBlock.size] at low high
  rw [virtioGpuBarWrite_device routed,
    BarWrite.confined_iff (by omega) holds, BarWriteMeets.iff, ends,
    deviceCfgWriteCells_owned_iff sized]
  unfold eventsClearOffset
  constructor
  · rintro ⟨short, -⟩
    omega
  · rintro ⟨-, -, short⟩
    refine ⟨by omega, fun past => writeDevice_exceeds state value ?_⟩
    unfold gpuConfigSize
    omega

theorem otherWrite_confined_iff (routed : routedWrite offset = none)
    (notBehind : offset ≠ 256) :
    (virtioGpuBarWrite state offset size value).Confined state offset
      size ↔ BarWriteMeets offset size := by
  have routes := (routedWrite_routes offset).mpr notBehind
  have outside : ∀ block : BarBlock, block ≠ .isr → ¬block.Holds offset :=
    fun block written holds => by
      have found := (routes block).mpr ⟨written, holds⟩
      rw [routed] at found
      cases found
  have ignored : virtioGpuBarWrite state offset size value =
      ⟨.ok state, []⟩ := by
    unfold virtioGpuBarWrite
    rw [routed]
  rw [ignored]
  refine iff_of_true ⟨routes, by simp, fun _ _ => rfl⟩
    ⟨notBehind, fun _ crossed => outside _ (by decide) crossed.1, ?_⟩
  rintro - rfl
  exact outside .device (by decide) (by unfold BarBlock.Holds; decide)

theorem barWrite_confined_iff
    (sized : size = 1 ∨ size = 2 ∨ size = 4 ∨ size = 8) :
    (virtioGpuBarWrite state offset size value).Confined state offset
      size ↔ BarWriteMeets offset size := by
  by_cases notBehind : offset ≠ 256
  · have routes := (routedWrite_routes offset).mpr notBehind
    cases routed : routedWrite offset with
    | none => exact otherWrite_confined_iff routed notBehind
    | some block =>
        obtain ⟨written, holds⟩ := (routes block).mp routed
        cases block with
        | edid =>
            simp only [virtioGpuBarWrite, routed]
            exact quietWrite_confined_iff holds notBehind (by decide)
              fun _ => rfl
        | ioport =>
            simp only [virtioGpuBarWrite, routed]
            exact quietWrite_confined_iff holds notBehind (by decide)
              fun _ => congrArg Except.ok (ioportWrite_ends holds)
        | vbe => exact vbeWrite_confined_iff routed holds sized
        | common =>
            simp only [virtioGpuBarWrite, routed]
            exact quietWrite_confined_iff holds notBehind (by decide)
              fun past => commonWrite_ends past sized
        | isr => exact absurd rfl written
        | device => exact deviceWrite_confined_iff routed holds sized
        | notify =>
            simp only [virtioGpuBarWrite, routed]
            exact quietWrite_confined_iff holds notBehind (by decide)
              fun past => congrArg Except.ok (notifyWrite_ends past sized)
  · exact iff_of_false
      (fun confined => notBehind ((routedWrite_routes offset).mp
        confined.routes)) (fun meets => notBehind meets.notBehind)

end Blocks

theorem virtioGpuBar_confined_iff (state : BarState) (offset size : Nat)
    (sized : size = 1 ∨ size = 2 ∨ size = 4 ∨ size = 8) (garbage : UInt8)
    (value : Nat) :
    ((virtioGpuBarRead state offset size garbage).Confined state offset
        size ↔ BarReadMeets state offset size) ∧
      ((virtioGpuBarWrite state offset size value).Confined state offset
        size ↔ BarWriteMeets offset size) :=
  ⟨barRead_confined_iff sized, barWrite_confined_iff sized⟩

/-- The last register of the display, as a word and as a doubleword. -/
theorem virtioGpuBar_confined_display :
    let state := BarState.initial ⟨4096, 3⟩ false 1 Memory.zero Memory.zero
    (virtioGpuBarRead state 0x514 2 0).Confined state 0x514 2 ∧
      (virtioGpuBarWrite state 0x514 4 7).Confined state 0x514 4 :=
  ⟨(virtioGpuBar_confined_iff _ 0x514 2 (by decide) 0 7).1.mpr
      (BarReadMeets.iff.mpr (by decide)),
    (virtioGpuBar_confined_iff _ 0x514 4 (by decide) 0 7).2.mpr
      (BarWriteMeets.iff.mpr (by decide))⟩

/-- A byte read at 256 takes the byte behind the EDID. -/
theorem virtioGpuBar_reads_behind :
    ¬ ∀ (state : BarState) (offset size : Nat),
      size = 1 ∨ size = 2 ∨ size = 4 ∨ size = 8 →
      ∀ (garbage : UInt8) (value : Nat),
        (virtioGpuBarRead state offset size garbage).Confined state offset
            size ∧
          (virtioGpuBarWrite state offset size value).Confined state offset
            size := by
  intro confined
  let state := BarState.initial ⟨4096, 3⟩ false 1 Memory.zero Memory.zero
  have read := (confined state 256 1 (.inl rfl) 0 0).1
  obtain ⟨block, holds, owns⟩ := read.inside (.edid 256) (by decide)
  cases block with
  | edid => exact absurd holds.2 (by decide)
  | ioport | vbe | common | isr | device | notify => exact owns

end VirtioGpu.Backend
