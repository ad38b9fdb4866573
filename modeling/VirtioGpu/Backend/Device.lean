import VirtioGpu.Gpu.Display
import VirtioGpu.Virtio.Registers

namespace VirtioGpu.Backend

open Foundation
open Virtio
open Gpu

/-! The whole device: the virtio part, its two queues, the device-specific
configuration and the GPU behind them. -/

structure GpuConfig where
  eventsRead : Nat
  eventsClear : Nat
  numScanouts : Nat
  numCapsets : Nat
  deriving Repr, DecidableEq

structure Device where
  base : VirtioBase
  queues : Queue → VqInfo
  cfg : GpuConfig
  gpu : GpuState

def Device.setQueue (device : Device) (queue : Queue) (vq : VqInfo) : Device :=
  { device with queues := Function.update device.queues queue vq }

/-! Initialisation. -/

def virtioGpuRingsz : Nat := 64

def virtioGpuEventDisplay : Nat := 1

def vdpyMaxNum : Nat := 4

/-- `VIRTIO_GPU_S_HOSTCAPS` and, with blob support, the blob bit. -/
def hostCaps (isBlobSupported : Bool) : Nat :=
  1 <<< 32 ||| 1 <<< 1 ||| 1 <<< 5 |||
    (if isBlobSupported then 1 <<< 3 else 0)

/-- The device after `virtio_gpu_init`, whose last step on the virtio part is
the `virtio_reset_dev` of `virtio_intr_init`. -/
def virtioGpuInit (vmctx : Vmctx) (isBlobSupported : Bool)
    (scanoutNum : Nat) : Device where
  base := VirtioBase.reset ⟨0, hostCaps isBlobSupported, 0, 0, 0, 0, 0, 0, 0⟩
  queues := fun _ => (VqInfo.fresh virtioGpuRingsz).reset
  cfg := ⟨0, 0, scanoutNum, 0⟩
  gpu := initialGpu vmctx isBlobSupported scanoutNum

/-! Reset. -/

def virtioResetDev (device : Device) : Device :=
  { device with
    base := device.base.reset
    queues := fun queue => (device.queues queue).reset }

def virtioGpuReset (device : Device) : Except Fault Device := do
  let gpu ← resetGpu device.gpu
  return virtioResetDev { device with gpu := gpu }

/-! Configuration writes. -/

def virtioGpuSetStatus (device : Device) (status : Nat) : Device :=
  { device with base := { device.base with status := status % 256 } }

def writeStatus (device : Device) (value : Nat) : Except Fault Device :=
  let device := virtioGpuSetStatus
    { device with base := { device.base with status := value &&& 0xff } } value
  if device.base.status = 0 then virtioGpuReset device else .ok device

/-- A register write that goes to the selected queue, if there is one. -/
def writeQueue (device : Device) (write : VqInfo → VqInfo) : Device :=
  match Queue.ofIndex device.base.curq with
  | none => device
  | some queue => device.setQueue queue (write (device.queues queue))

/-- The write to `Q_ENABLE`, with the translations it makes. -/
def enableQueue (device : Device) : Device × List Translation :=
  match Queue.ofIndex device.base.curq with
  | none => (device, [])
  | some queue =>
      let enabled := virtioVqEnable device.gpu.vmctx (device.queues queue)
      (device.setQueue queue enabled.1, enabled.2)

/-- A write to a queue register leaves everything but the queues. -/
theorem writeQueue_frame (device : Device) (write : VqInfo → VqInfo) :
    (writeQueue device write).base = device.base ∧
      (writeQueue device write).gpu = device.gpu := by
  unfold writeQueue
  cases Queue.ofIndex device.base.curq with
  | none => exact ⟨rfl, rfl⟩
  | some queue => exact ⟨rfl, rfl⟩

theorem enableQueue_frame (device : Device) :
    (enableQueue device).1.base = device.base ∧
      (enableQueue device).1.gpu = device.gpu := by
  unfold enableQueue
  cases Queue.ofIndex device.base.curq with
  | none => exact ⟨rfl, rfl⟩
  | some queue => exact ⟨rfl, rfl⟩

/-- The switch of `virtio_common_cfg_write`. -/
def writeRegister (device : Device) (value : Nat) :
    CommonReg → Except Fault (Device × List Translation)
  | .dfselect =>
      .ok ({ device with base := { device.base with
        deviceFeatureSelect := value % 4294967296 } }, [])
  | .gfselect =>
      .ok ({ device with base := { device.base with
        driverFeatureSelect := value % 4294967296 } }, [])
  | .gf =>
      if device.base.status &&& virtioConfigSDriverOk ≠ 0 then
        .ok (device, [])
      else
        .ok ({ device with base := negotiate device.base value }, [])
  | .msix =>
      .ok ({ device with base := { device.base with
        msixCfgIdx := value % 65536 } }, [])
  | .status => do
      let device ← writeStatus device value
      return (device, [])
  | .qSelect =>
      .ok ({ device with base := { device.base with curq := value } }, [])
  | .qSize =>
      .ok (writeQueue device fun vq => { vq with qsize := value % 65536 }, [])
  | .qMsix =>
      .ok (writeQueue device fun vq => { vq with msixIdx := value % 65536 }, [])
  | .qEnable => .ok (enableQueue device)
  | .qDesclo =>
      .ok (writeQueue device fun vq =>
        { vq with gpaDesc := (value % 4294967296, vq.gpaDesc.2) }, [])
  | .qDeschi =>
      .ok (writeQueue device fun vq =>
        { vq with gpaDesc := (vq.gpaDesc.1, value % 4294967296) }, [])
  | .qAvaillo =>
      .ok (writeQueue device fun vq =>
        { vq with gpaAvail := (value % 4294967296, vq.gpaAvail.2) }, [])
  | .qAvailhi =>
      .ok (writeQueue device fun vq =>
        { vq with gpaAvail := (vq.gpaAvail.1, value % 4294967296) }, [])
  | .qUsedlo =>
      .ok (writeQueue device fun vq =>
        { vq with gpaUsed := (value % 4294967296, vq.gpaUsed.2) }, [])
  | .qUsedhi =>
      .ok (writeQueue device fun vq =>
        { vq with gpaUsed := (vq.gpaUsed.1, value % 4294967296) }, [])
  | .df => .ok (device, [])
  | .numq => .ok (device, [])
  | .cfggeneration => .ok (device, [])
  | .qNoff => .ok (device, [])

def virtioCommonCfgWrite (device : Device) (offset size value : Nat) :
    Except Fault (Device × List Translation) :=
  match virtioFindModernCr offset with
  | none => .ok (device, [])
  | some cr =>
      if cr.size ≠ size ∨ cr.ro then
        .ok (device, [])
      else
        match CommonReg.ofOffset offset with
        | none => .ok (device, [])
        | some reg => writeRegister device value reg

theorem virtioCommonCfgWrite_register (device : Device) (value : Nat)
    {reg : CommonReg} (writable : reg.readOnly = false) :
    virtioCommonCfgWrite device reg.offset reg.width value =
      writeRegister device value reg := by
  unfold virtioCommonCfgWrite
  rw [virtioFindModernCr_offset, CommonReg.ofOffset_offset]
  simp [writable]

/-- Every other write is ignored. -/
theorem virtioCommonCfgWrite_ignored (device : Device) {offset size : Nat}
    (value : Nat)
    (ignored : ∀ reg : CommonReg, offset = reg.offset → size = reg.width →
      reg.readOnly = true) :
    virtioCommonCfgWrite device offset size value = .ok (device, []) := by
  unfold virtioCommonCfgWrite
  cases found : virtioFindModernCr offset with
  | none => rfl
  | some cr =>
      obtain ⟨reg, same, rfl⟩ := virtioFindModernCr_eq_some found
      dsimp only
      rw [if_pos]
      rcases eq_or_ne reg.width size with sized | different
      · exact .inr (ignored reg same sized.symm)
      · exact .inl different

theorem virtioCommonCfgWrite_cases {device : Device} {offset size value : Nat}
    {written : Device × List Translation}
    (ran : virtioCommonCfgWrite device offset size value = .ok written) :
    written = (device, []) ∨
      ∃ reg : CommonReg, reg.readOnly = false ∧ offset = reg.offset ∧
        size = reg.width ∧ writeRegister device value reg = .ok written := by
  by_cases ignored : ∀ reg : CommonReg, offset = reg.offset →
      size = reg.width → reg.readOnly = true
  · rw [virtioCommonCfgWrite_ignored device value ignored] at ran
    cases ran
    exact .inl rfl
  · simp only [not_forall, Bool.not_eq_true] at ignored
    obtain ⟨reg, rfl, rfl, writable⟩ := ignored
    rw [virtioCommonCfgWrite_register device value writable] at ran
    exact .inr ⟨reg, writable, rfl, rfl, ran⟩

/-- `left & ~right`. -/
def clearBits (left right : Nat) : Nat := left ^^^ (left &&& right)

def eventsClearOffset : Nat := 4

def virtioGpuCfgwrite (device : Device) (offset size value : Nat) :
    Except Fault Device :=
  if offset = eventsClearOffset then
    if size > 4 then
      .error .stackOverread
    else
      let value := value % 4294967296
      let old := device.cfg.eventsClear
      let copied := old - old % 2 ^ (8 * size) + value % 2 ^ (8 * size)
      .ok { device with cfg := { device.cfg with
        eventsRead := clearBits device.cfg.eventsRead value
        eventsClear := clearBits copied value } }
  else
    .ok device

def gpuConfigSize : Nat := 16

def virtioDeviceCfgWrite (device : Device) (offset size value : Nat) :
    Except Fault Device :=
  if offset + size > gpuConfigSize then .ok device
  else virtioGpuCfgwrite device offset size value

/-- The branch of `virtio_config_changed` for enabled MSI-X. -/
def virtioConfigChanged (base : VirtioBase) : VirtioBase :=
  if base.status &&& virtioConfigSDriverOk = 0 then
    base
  else
    { base with
      configGeneration := (base.configGeneration + 1) % 256
      msixCfgIdx := 0 }

def trigerHotplug (device : Device) : Device :=
  { device with
    cfg := { device.cfg with eventsRead := virtioGpuEventDisplay }
    base := virtioConfigChanged device.base }

end VirtioGpu.Backend
