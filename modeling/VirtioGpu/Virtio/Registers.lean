import VirtioGpu.Virtio.Ring

namespace VirtioGpu.Virtio

open Foundation

/-! The common configuration registers and the device-independent state behind
them. -/

inductive CommonReg where
  | dfselect
  | df
  | gfselect
  | gf
  | msix
  | numq
  | status
  | cfggeneration
  | qSelect
  | qSize
  | qMsix
  | qEnable
  | qNoff
  | qDesclo
  | qDeschi
  | qAvaillo
  | qAvailhi
  | qUsedlo
  | qUsedhi
  deriving Repr, DecidableEq

namespace CommonReg

def offset : CommonReg → Nat
  | dfselect => 0
  | df => 4
  | gfselect => 8
  | gf => 12
  | msix => 16
  | numq => 18
  | status => 20
  | cfggeneration => 21
  | qSelect => 22
  | qSize => 24
  | qMsix => 26
  | qEnable => 28
  | qNoff => 30
  | qDesclo => 32
  | qDeschi => 36
  | qAvaillo => 40
  | qAvailhi => 44
  | qUsedlo => 48
  | qUsedhi => 52

def all : List CommonReg :=
  [dfselect, df, gfselect, gf, msix, numq, status, cfggeneration, qSelect,
    qSize, qMsix, qEnable, qNoff, qDesclo, qDeschi, qAvaillo, qAvailhi,
    qUsedlo, qUsedhi]

/-- The case labels of the two register switches. -/
def ofOffset (offset : Nat) : Option CommonReg :=
  all.find? fun reg => reg.offset == offset

end CommonReg

structure ConfigReg where
  offset : Nat
  size : Nat
  ro : Bool
  deriving Repr, DecidableEq

def modernConfigRegs : List ConfigReg :=
  [⟨CommonReg.dfselect.offset, 4, false⟩,
    ⟨CommonReg.df.offset, 4, true⟩,
    ⟨CommonReg.gfselect.offset, 4, false⟩,
    ⟨CommonReg.gf.offset, 4, false⟩,
    ⟨CommonReg.msix.offset, 2, false⟩,
    ⟨CommonReg.numq.offset, 2, true⟩,
    ⟨CommonReg.status.offset, 1, false⟩,
    ⟨CommonReg.cfggeneration.offset, 1, true⟩,
    ⟨CommonReg.qSelect.offset, 2, false⟩,
    ⟨CommonReg.qSize.offset, 2, false⟩,
    ⟨CommonReg.qMsix.offset, 2, false⟩,
    ⟨CommonReg.qEnable.offset, 2, false⟩,
    ⟨CommonReg.qNoff.offset, 2, true⟩,
    ⟨CommonReg.qDesclo.offset, 4, false⟩,
    ⟨CommonReg.qDeschi.offset, 4, false⟩,
    ⟨CommonReg.qAvaillo.offset, 4, false⟩,
    ⟨CommonReg.qAvailhi.offset, 4, false⟩,
    ⟨CommonReg.qUsedlo.offset, 4, false⟩,
    ⟨CommonReg.qUsedhi.offset, 4, false⟩]

/-- The loop of `virtio_find_cr`, with `u_int` bounds.  Each round halves the
range, so the length of the table bounds the rounds. -/
def virtioFindCrFrom (regs : List ConfigReg) (offset : Nat) :
    Nat → Nat → Nat → Option ConfigReg
  | 0, _, _ => none
  | rounds + 1, lo, hi =>
      if hi ≥ lo then
        let mid := ((hi + lo) % 4294967296) >>> 1
        match regs[mid]? with
        | none => none
        | some cr =>
            if cr.offset = offset then
              some cr
            else if cr.offset < offset then
              virtioFindCrFrom regs offset rounds (mid + 1) hi
            else
              virtioFindCrFrom regs offset rounds lo
                ((mid + 4294967295) % 4294967296)
      else
        none

def virtioFindCr (regs : List ConfigReg) (offset : Nat) : Option ConfigReg :=
  virtioFindCrFrom regs offset (regs.length + 1) 0 (regs.length - 1)

def virtioFindModernCr (offset : Nat) : Option ConfigReg :=
  virtioFindCr modernConfigRegs offset

/-! Looking up a register by its offset. -/

namespace CommonReg

def width : CommonReg → Nat
  | dfselect | df | gfselect | gf => 4
  | msix | numq => 2
  | status | cfggeneration => 1
  | qSelect | qSize | qMsix | qEnable | qNoff => 2
  | qDesclo | qDeschi | qAvaillo | qAvailhi | qUsedlo | qUsedhi => 4

def readOnly : CommonReg → Bool
  | df | numq | cfggeneration | qNoff => true
  | dfselect | gfselect | gf | msix | status | qSelect | qSize | qMsix
  | qEnable | qDesclo | qDeschi | qAvaillo | qAvailhi | qUsedlo
  | qUsedhi => false

theorem ofOffset_offset (reg : CommonReg) : ofOffset reg.offset = some reg := by
  cases reg <;> rfl

theorem eq_of_offset {reg other : CommonReg}
    (same : reg.offset = other.offset) : reg = other := by
  have found := ofOffset_offset reg
  rw [same, ofOffset_offset] at found
  exact (Option.some.inj found).symm

theorem apart {reg other : CommonReg} (different : reg ≠ other) :
    reg.offset + reg.width ≤ other.offset ∨
      other.offset + other.width ≤ reg.offset := by
  have listed : ∀ reg, reg ∈ all → ∀ other, other ∈ all →
      reg ≠ other → reg.offset + reg.width ≤ other.offset ∨
        other.offset + other.width ≤ reg.offset := by decide +kernel
  have all : ∀ reg : CommonReg, reg ∈ all := by
    intro reg
    cases reg <;> decide
  exact listed reg (all reg) other (all other) different

theorem end_le (reg : CommonReg) : reg.offset + reg.width ≤ 56 := by
  cases reg <;> decide

theorem width_cases (reg : CommonReg) :
    reg.width = 1 ∨ reg.width = 2 ∨ reg.width = 4 := by
  cases reg <;> decide

end CommonReg

theorem virtioFindModernCr_offset (reg : CommonReg) :
    virtioFindModernCr reg.offset =
      some ⟨reg.offset, reg.width, reg.readOnly⟩ := by
  cases reg <;> rfl

theorem virtioFindCrFrom_eq_some {regs : List ConfigReg}
    {offset rounds lo hi : Nat} {cr : ConfigReg}
    (found : virtioFindCrFrom regs offset rounds lo hi = some cr) :
    cr ∈ regs ∧ cr.offset = offset := by
  induction rounds generalizing lo hi with
  | zero => cases found
  | succ rounds induction =>
      unfold virtioFindCrFrom at found
      split at found
      · dsimp only at found
        split at found
        · cases found
        · rename_i middle here
          split at found
          · rename_i same
            cases found
            exact ⟨List.mem_of_getElem? here, same⟩
          · split at found
            · exact induction found
            · exact induction found
      · cases found

/-- The binary search finds nothing but the registers. -/
theorem virtioFindModernCr_eq_some {offset : Nat} {cr : ConfigReg}
    (found : virtioFindModernCr offset = some cr) :
    ∃ reg : CommonReg, offset = reg.offset ∧
      cr = ⟨reg.offset, reg.width, reg.readOnly⟩ := by
  obtain ⟨member, same⟩ := virtioFindCrFrom_eq_some found
  have listed : ∀ cr, cr ∈ modernConfigRegs →
      ∃ reg, reg ∈ CommonReg.all ∧
        cr = ⟨reg.offset, reg.width, reg.readOnly⟩ := by decide
  obtain ⟨reg, _, rfl⟩ := listed cr member
  exact ⟨reg, same.symm, rfl⟩

/-! The two virtqueues of the device. -/

inductive Queue where
  | control
  | cursor
  deriving Repr, DecidableEq

namespace Queue

def index : Queue → Nat
  | control => 0
  | cursor => 1

/-- The queue `curq` selects, when it is below `vops->nvq`. -/
def ofIndex (index : Nat) : Option Queue :=
  if index = 0 then some control
  else if index = 1 then some cursor
  else none

theorem ofIndex_eq_some_iff {index : Nat} {queue : Queue} :
    ofIndex index = some queue ↔ index = queue.index := by
  unfold ofIndex
  cases queue with
  | control =>
      by_cases zero : index = 0
      · simp [zero, Queue.index]
      · by_cases one : index = 1
        · simp [one, Queue.index]
        · simp [zero, one, Queue.index]
  | cursor =>
      by_cases zero : index = 0
      · simp [zero, Queue.index]
      · by_cases one : index = 1
        · simp [one, Queue.index]
        · simp [zero, one, Queue.index]

end Queue

def virtioGpuQnum : Nat := 2

/-- `curq` is an `int` in the source; the two-byte register keeps it below
`2^16`. -/
structure VirtioBase where
  negotiatedCaps : Nat
  deviceCaps : Nat
  curq : Nat
  status : Nat
  isr : Nat
  msixCfgIdx : Nat
  configGeneration : Nat
  deviceFeatureSelect : Nat
  driverFeatureSelect : Nat
  deriving Repr, DecidableEq

def virtioConfigSDriverOk : Nat := 4

/-- The queue left by `calloc` in `virtio_gpu_init`, with its size set. -/
def VqInfo.fresh (qsize : Nat) : VqInfo where
  qsize := qsize
  flags := 0
  lastAvail := 0
  saveUsed := 0
  msixIdx := 0
  pfn := 0
  desc := none
  avail := none
  used := none
  gpaDesc := (0, 0)
  gpaAvail := (0, 0)
  gpaUsed := (0, 0)
  enabled := false

/-- What `virtio_reset_dev` does to one queue; the internal pointers and the
size stay. -/
def VqInfo.reset (vq : VqInfo) : VqInfo :=
  { vq with
    flags := 0
    lastAvail := 0
    saveUsed := 0
    pfn := 0
    msixIdx := virtioMsiNoVector
    gpaDesc := (0, 0)
    gpaAvail := (0, 0)
    gpaUsed := (0, 0)
    enabled := false }

/-- What `virtio_reset_dev` does to the device-wide part. -/
def VirtioBase.reset (base : VirtioBase) : VirtioBase :=
  { base with
    negotiatedCaps := 0
    curq := 0
    isr := 0
    msixCfgIdx := virtioMsiNoVector
    deviceFeatureSelect := 0
    driverFeatureSelect := 0
    configGeneration := 0 }

/-- A 64-bit guest address from its low and high register words. -/
def gpaOf (words : Nat × Nat) : Nat := words.2 <<< 32 ||| words.1

def descTableSize (qsz : Nat) : Nat := qsz * 16

def availRingSize (qsz : Nat) : Nat := (2 + qsz + 1) * 2

def usedRingSize (qsz : Nat) : Nat := 2 * 3 + 8 * qsz

/-- The queue afterwards and the translations made on the way.  A failed
translation keeps the pointers set before it. -/
def virtioVqEnable (ctx : Vmctx) (vq : VqInfo) : VqInfo × List Translation :=
  let descCall := translate ctx (gpaOf vq.gpaDesc) (descTableSize vq.qsize)
  match descCall.host with
  | none => ({ vq with flags := 0 }, [descCall])
  | some desc =>
      let vq := { vq with desc := some desc }
      let availCall :=
        translate ctx (gpaOf vq.gpaAvail) (availRingSize vq.qsize)
      match availCall.host with
      | none => ({ vq with flags := 0 }, [descCall, availCall])
      | some avail =>
          let vq := { vq with avail := some avail }
          let usedCall :=
            translate ctx (gpaOf vq.gpaUsed) (usedRingSize vq.qsize)
          match usedCall.host with
          | none => ({ vq with flags := 0 }, [descCall, availCall, usedCall])
          | some used =>
              ({ vq with
                  used := some used
                  lastAvail := 0
                  saveUsed := 0
                  enabled := true
                  flags := vqAlloc },
                [descCall, availCall, usedCall])

/-! The outcome of `virtio_vq_enable`. -/

def VqInfo.descHost (ctx : Vmctx) (vq : VqInfo) : Option Nat :=
  (translate ctx (gpaOf vq.gpaDesc) (descTableSize vq.qsize)).host

def VqInfo.availHost (ctx : Vmctx) (vq : VqInfo) : Option Nat :=
  (translate ctx (gpaOf vq.gpaAvail) (availRingSize vq.qsize)).host

def VqInfo.usedHost (ctx : Vmctx) (vq : VqInfo) : Option Nat :=
  (translate ctx (gpaOf vq.gpaUsed) (usedRingSize vq.qsize)).host

inductive Enabling (ctx : Vmctx) (vq : VqInfo) : VqInfo → Prop
  | noDesc (desc : vq.descHost ctx = none) :
      Enabling ctx vq { vq with flags := 0 }
  | noAvail {host : Nat} (desc : vq.descHost ctx = some host)
      (avail : vq.availHost ctx = none) :
      Enabling ctx vq { vq with desc := some host, flags := 0 }
  | noUsed {descHost availHost : Nat}
      (desc : vq.descHost ctx = some descHost)
      (avail : vq.availHost ctx = some availHost)
      (used : vq.usedHost ctx = none) :
      Enabling ctx vq
        { vq with
          desc := some descHost
          avail := some availHost
          flags := 0 }
  | done {descHost availHost usedHost : Nat}
      (desc : vq.descHost ctx = some descHost)
      (avail : vq.availHost ctx = some availHost)
      (used : vq.usedHost ctx = some usedHost) :
      Enabling ctx vq
        { vq with
          desc := some descHost
          avail := some availHost
          used := some usedHost
          lastAvail := 0
          saveUsed := 0
          enabled := true
          flags := vqAlloc }

theorem virtioVqEnable_enabling (ctx : Vmctx) (vq : VqInfo) :
    Enabling ctx vq (virtioVqEnable ctx vq).1 := by
  unfold virtioVqEnable
  dsimp only
  cases desc : (translate ctx (gpaOf vq.gpaDesc)
      (descTableSize vq.qsize)).host with
  | none => exact .noDesc desc
  | some descHost =>
      dsimp only
      cases avail : (translate ctx (gpaOf vq.gpaAvail)
          (availRingSize vq.qsize)).host with
      | none => exact .noAvail desc avail
      | some availHost =>
          dsimp only
          cases used : (translate ctx (gpaOf vq.gpaUsed)
              (usedRingSize vq.qsize)).host with
          | none => exact .noUsed desc avail used
          | some usedHost => exact .done desc avail used

/-! Reading and negotiating. -/

/-- The value returned for a read that no register answers. -/
def badRead (size : Nat) : Nat :=
  if size = 1 then 0xff else if size = 2 then 0xffff else 0xffffffff

/-- Half of a 64-bit feature word, as a selector presents it. -/
def featureWord (caps select : Nat) : Nat :=
  if select = 0 then caps &&& 0xffffffff
  else if select = 1 then (caps >>> 32) &&& 0xffffffff
  else 0

def virtioCommonCfgRead (base : VirtioBase) (queues : Queue → VqInfo)
    (offset size : Nat) : Nat :=
  match virtioFindModernCr offset with
  | none => badRead size
  | some cr =>
      if cr.size ≠ size then
        badRead size
      else
        let selected (field : VqInfo → Nat) (otherwise : Nat) : Nat :=
          match Queue.ofIndex base.curq with
          | none => otherwise
          | some queue => field (queues queue)
        match CommonReg.ofOffset offset with
        | none => badRead size
        | some .dfselect => base.deviceFeatureSelect
        | some .df => featureWord base.deviceCaps base.deviceFeatureSelect
        | some .gfselect => base.driverFeatureSelect
        | some .gf => featureWord base.negotiatedCaps base.driverFeatureSelect
        | some .msix => base.msixCfgIdx
        | some .numq => virtioGpuQnum
        | some .status => base.status
        | some .cfggeneration => base.configGeneration
        | some .qSelect => base.curq
        | some .qSize => selected (fun vq => vq.qsize) 0
        | some .qMsix => selected (fun vq => vq.msixIdx) virtioMsiNoVector
        | some .qEnable =>
            selected (fun vq => if vq.enabled then 1 else 0) 0
        | some .qNoff => base.curq
        | some .qDesclo => selected (fun vq => vq.gpaDesc.1) 0
        | some .qDeschi => selected (fun vq => vq.gpaDesc.2) 0
        | some .qAvaillo => selected (fun vq => vq.gpaAvail.1) 0
        | some .qAvailhi => selected (fun vq => vq.gpaAvail.2) 0
        | some .qUsedlo => selected (fun vq => vq.gpaUsed.1) 0
        | some .qUsedhi => selected (fun vq => vq.gpaUsed.2) 0

/-- A queue register, read from its queue. -/
def queueField (vq : VqInfo) : CommonReg → Nat
  | .qSize => vq.qsize
  | .qMsix => vq.msixIdx
  | .qEnable => if vq.enabled then 1 else 0
  | .qDesclo => vq.gpaDesc.1
  | .qDeschi => vq.gpaDesc.2
  | .qAvaillo => vq.gpaAvail.1
  | .qAvailhi => vq.gpaAvail.2
  | .qUsedlo => vq.gpaUsed.1
  | .qUsedhi => vq.gpaUsed.2
  | .dfselect | .df | .gfselect | .gf | .msix | .numq | .status
  | .cfggeneration | .qSelect | .qNoff => 0

/-- A queue register, read while no queue is selected. -/
def absentField : CommonReg → Nat
  | .qMsix => virtioMsiNoVector
  | .dfselect | .df | .gfselect | .gf | .msix | .numq | .status
  | .cfggeneration | .qSelect | .qSize | .qEnable | .qNoff | .qDesclo
  | .qDeschi | .qAvaillo | .qAvailhi | .qUsedlo | .qUsedhi => 0

def selectedField (curq : Nat) (queues : Queue → VqInfo)
    (reg : CommonReg) : Nat :=
  match Queue.ofIndex curq with
  | none => absentField reg
  | some queue => queueField (queues queue) reg

def readRegister (base : VirtioBase) (queues : Queue → VqInfo)
    (reg : CommonReg) : Nat :=
  match reg with
  | .dfselect => base.deviceFeatureSelect
  | .df => featureWord base.deviceCaps base.deviceFeatureSelect
  | .gfselect => base.driverFeatureSelect
  | .gf => featureWord base.negotiatedCaps base.driverFeatureSelect
  | .msix => base.msixCfgIdx
  | .numq => virtioGpuQnum
  | .status => base.status
  | .cfggeneration => base.configGeneration
  | .qSelect => base.curq
  | .qNoff => base.curq
  | .qSize | .qMsix | .qEnable | .qDesclo | .qDeschi | .qAvaillo | .qAvailhi
  | .qUsedlo | .qUsedhi => selectedField base.curq queues reg

/-- A read of the right width reaches the register. -/
theorem virtioCommonCfgRead_register (base : VirtioBase)
    (queues : Queue → VqInfo) (reg : CommonReg) :
    virtioCommonCfgRead base queues reg.offset reg.width =
      readRegister base queues reg := by
  unfold virtioCommonCfgRead
  rw [virtioFindModernCr_offset, CommonReg.ofOffset_offset]
  simp only [ne_eq, not_true_eq_false, if_false]
  cases reg with
  | qSize | qMsix | qEnable | qDesclo | qDeschi | qAvaillo | qAvailhi
  | qUsedlo | qUsedhi =>
      simp only [readRegister, selectedField]
      cases Queue.ofIndex base.curq with
      | none => rfl
      | some queue => rfl
  | dfselect | df | gfselect | gf | msix | numq | status | cfggeneration
  | qSelect | qNoff => rfl

/-- The `apply_features` callback of the device. -/
def virtioGpuNegFeatures (base : VirtioBase) (negotiatedFeatures : Nat) :
    VirtioBase :=
  { base with negotiatedCaps := negotiatedFeatures }

/-- The write to `GF` while `DRIVER_OK` is clear. -/
def negotiate (base : VirtioBase) (value : Nat) : VirtioBase :=
  if base.driverFeatureSelect < 2 then
    let value := value % 4294967296
    let negotiatedCaps :=
      if base.driverFeatureSelect = 0 then
        base.negotiatedCaps &&& 0xffffffff00000000 |||
          (base.deviceCaps &&& value)
      else
        base.negotiatedCaps &&& 0xffffffff |||
          (value <<< 32 &&& base.deviceCaps)
    virtioGpuNegFeatures { base with negotiatedCaps := negotiatedCaps }
      negotiatedCaps
  else
    base

theorem negotiate_deviceCaps (base : VirtioBase) (value : Nat) :
    (negotiate base value).deviceCaps = base.deviceCaps := by
  unfold negotiate
  split
  · dsimp only
    split
    · rfl
    · rfl
  · rfl

end VirtioGpu.Virtio
