import VirtioGpu.Backend.Features
import VirtioGpu.Backend.QueueFile

namespace VirtioGpu.Backend

open Foundation
open Virtio
open Gpu

/-! The header as a copy of the registers. -/

/-- The fields the frontend reads back. -/
def mirroredFields : List CommonReg := .df :: .gf :: .status :: queueFields

/-- What such a field should hold: the register, and the features the backend
forces in the second half of the device features. -/
def mirrorValue (device : Device) (reg : CommonReg) : Nat :=
  let value :=
    virtioCommonCfgRead device.base device.queues reg.offset reg.width
  if reg = .df then
    value ||| forcedFeatures device.base.deviceFeatureSelect
  else
    value

/-- Every register fits into its field. -/
structure RegistersFit (device : Device) : Prop where
  curq : device.base.curq < 65536
  fields : ∀ queue reg,
    queueField (device.queues queue) reg < 256 ^ reg.width

theorem featureWord_lt (caps select : Nat) :
    featureWord caps select < 4294967296 := by
  unfold featureWord
  split
  · exact Nat.lt_succ_of_le Nat.and_le_right
  · split
    · exact Nat.lt_succ_of_le Nat.and_le_right
    · decide

theorem mirrorValue_of_ne (device : Device) {reg : CommonReg}
    (other : reg ≠ .df) :
    mirrorValue device reg = readRegister device.base device.queues reg := by
  unfold mirrorValue
  rw [if_neg other, virtioCommonCfgRead_register]

theorem mirrorValue_df (device : Device) :
    mirrorValue device .df =
      (readRegister device.base device.queues .df |||
        forcedFeatures device.base.deviceFeatureSelect) := by
  unfold mirrorValue
  rw [if_pos rfl, virtioCommonCfgRead_register]

theorem RegistersFit.queueField_lt {device : Device}
    (fits : RegistersFit device) {reg : CommonReg}
    (listed : reg ∈ queueFields) :
    readRegister device.base device.queues reg < 256 ^ reg.width := by
  rcases eq_or_ne reg .qNoff with offset | other
  · subst offset
    exact fits.curq
  · rw [readRegister_queue _ _ listed other]
    unfold selectedField
    cases Queue.ofIndex device.base.curq with
    | none => exact absentField_lt reg
    | some queue => exact fits.fields queue reg

/-- Two devices that agree on what a register shows. -/
theorem mirrorValue_congr {first second : Device} {reg : CommonReg}
    (listed : reg ∈ mirroredFields)
    (features : reg = .df →
      first.base.deviceCaps = second.base.deviceCaps ∧
        first.base.deviceFeatureSelect = second.base.deviceFeatureSelect)
    (guest : reg = .gf →
      first.base.negotiatedCaps = second.base.negotiatedCaps ∧
        first.base.driverFeatureSelect = second.base.driverFeatureSelect)
    (status : reg = .status → first.base.status = second.base.status)
    (queues : reg ∈ queueFields → first.base.curq = second.base.curq ∧
      ∀ queue, Queue.ofIndex first.base.curq = some queue →
        queueField (first.queues queue) reg =
          queueField (second.queues queue) reg) :
    mirrorValue first reg = mirrorValue second reg := by
  cases reg with
  | df =>
      obtain ⟨caps, select⟩ := features rfl
      rw [mirrorValue_df, mirrorValue_df]
      simp only [readRegister, caps, select]
  | gf =>
      obtain ⟨caps, select⟩ := guest rfl
      rw [mirrorValue_of_ne _ (by decide), mirrorValue_of_ne _ (by decide)]
      simp only [readRegister, caps, select]
  | status =>
      rw [mirrorValue_of_ne _ (by decide), mirrorValue_of_ne _ (by decide)]
      exact status rfl
  | qNoff =>
      rw [mirrorValue_of_ne _ (by decide), mirrorValue_of_ne _ (by decide)]
      exact (queues (by decide)).1
  | qSize | qMsix | qEnable | qDesclo | qDeschi | qAvaillo | qAvailhi
  | qUsedlo | qUsedhi =>
      obtain ⟨curq, same⟩ := queues (by decide)
      rw [mirrorValue_of_ne _ (by decide), mirrorValue_of_ne _ (by decide)]
      simp only [readRegister, selectedField]
      rw [← curq]
      cases selected : Queue.ofIndex first.base.curq with
      | none => rfl
      | some queue => exact same queue selected
  | dfselect | gfselect | msix | numq | cfggeneration | qSelect =>
      exact absurd listed (by decide)

/-! Writes a register accepts. -/

/-- The registers a reset clears have their cleared values already. -/
structure ResetKeeps (device : Device) : Prop where
  features : featureWord device.base.deviceCaps
        device.base.deviceFeatureSelect |||
      forcedFeatures device.base.deviceFeatureSelect =
    featureWord device.base.deviceCaps 0
  guest : featureWord device.base.negotiatedCaps
    device.base.driverFeatureSelect = 0
  curq : device.base.curq = 0
  msixIdx : (device.queues .control).msixIdx = virtioMsiNoVector
  enabled : (device.queues .control).enabled = false
  gpaDesc : (device.queues .control).gpaDesc = (0, 0)
  gpaAvail : (device.queues .control).gpaAvail = (0, 0)
  gpaUsed : (device.queues .control).gpaUsed = (0, 0)

/-- The value written is the value the register takes. -/
def AcceptsWell (device : Device) (value : Nat) : CommonReg → Prop
  | .gf =>
      if device.base.status &&& virtioConfigSDriverOk ≠ 0 then
        value = featureWord device.base.negotiatedCaps
          device.base.driverFeatureSelect
      else
        value &&& featureWord device.base.deviceCaps
          device.base.driverFeatureSelect = value
  | .status => value ≠ 0 ∨ ResetKeeps device
  | .qEnable =>
      match Queue.ofIndex device.base.curq with
      | none => value = 0
      | some queue =>
          value =
            if RingsTranslate device.gpu.vmctx (device.queues queue) ∨
              (device.queues queue).enabled = true then 1 else 0
  | .qMsix =>
      Queue.ofIndex device.base.curq = none → value = virtioMsiNoVector
  | .qSize | .qDesclo | .qDeschi | .qAvaillo | .qAvailhi | .qUsedlo
  | .qUsedhi => Queue.ofIndex device.base.curq = none → value = 0
  | .dfselect | .gfselect | .msix | .qSelect | .df | .numq | .cfggeneration
  | .qNoff => True

structure WritesWell (before after : Device) (value : Nat)
    (reg : CommonReg) : Prop where
  fits : RegistersFit after
  selects : reg = .dfselect → after.base.deviceFeatureSelect = value
  own : reg ∈ mirroredFields → mirrorValue after reg = value
  frame : ∀ other, other ∈ mirroredFields → other ≠ reg →
    other ∉ refreshedBy reg → mirrorValue after other = mirrorValue before other

/-! The half of the features that `GF` shows after it was written. -/

theorem negotiate_featureWord (base : VirtioBase) {value : Nat}
    (small : value < 4294967296) :
    featureWord (negotiate base value).negotiatedCaps
        base.driverFeatureSelect =
      value &&& featureWord base.deviceCaps base.driverFeatureSelect := by
  unfold negotiate featureWord virtioGpuNegFeatures
  rcases Nat.lt_trichotomy base.driverFeatureSelect 1 with low | one | high
  · have zero : base.driverFeatureSelect = 0 := by omega
    simp only [zero, Nat.zero_lt_two, if_true]
    apply Nat.eq_of_testBit_eq
    intro bit
    simp only [Nat.testBit_and, Nat.testBit_or, testBit_highMask,
      testBit_lowMask, Nat.mod_eq_of_lt small]
    by_cases near : bit < 32
    · simp [near, Nat.not_le.mpr near, Bool.and_comm]
    · simp [near]
  · simp only [one, Nat.one_lt_two, Nat.one_ne_zero, if_true, if_false]
    apply Nat.eq_of_testBit_eq
    intro bit
    simp only [Nat.testBit_and, Nat.testBit_or, Nat.testBit_shiftRight,
      Nat.testBit_shiftLeft, testBit_lowMask, Nat.mod_eq_of_lt small]
    have above : ¬32 + bit < 32 := by omega
    simp [above, Bool.and_assoc]
  · rw [if_neg (by omega), if_neg (by omega), if_neg (by omega),
      if_neg (by omega), Nat.and_zero]

theorem RegistersFit.with_base {device : Device} {base : VirtioBase}
    (fits : RegistersFit device) (curq : base.curq = device.base.curq) :
    RegistersFit { device with base := base } :=
  ⟨by rw [curq]; exact fits.curq, fits.fields⟩

/-- A reset queue shows what a missing one shows, except for its size. -/
theorem queueField_reset (vq : VqInfo) {reg : CommonReg}
    (other : reg ≠ .qSize) : queueField vq.reset reg = absentField reg := by
  cases reg with
  | qSize => exact absurd rfl other
  | _ => rfl

theorem RegistersFit.reset {device : Device} {gpu : GpuState}
    (fits : RegistersFit device) :
    RegistersFit (virtioResetDev { device with gpu := gpu }) :=
  ⟨(by decide : 0 < 65536), fun queue reg => by
    rcases eq_or_ne reg .qSize with size | other
    · rw [size]
      exact fits.fields queue .qSize
    · exact (queueField_reset _ other).symm ▸ absentField_lt reg⟩

theorem RegistersFit.written {before after : Device} {write : QueueWrite}
    (fits : RegistersFit before)
    (written : FieldsWritten before after write) : RegistersFit after := by
  refine ⟨by rw [written.base]; exact fits.curq, fun queue reg => ?_⟩
  by_cases spared : before.base.curq ≠ queue.index ∨ write.reg ≠ reg
  · rw [written.kept queue reg spared]
    exact fits.fields queue reg
  · simp only [not_or, ne_eq, not_not] at spared
    obtain ⟨here, rfl⟩ := spared
    rw [written.written queue here]
    split
    · rename_i enables
      rw [enables]
      split <;> decide
    · exact write.sized

theorem AcceptsWell.absent {device : Device} {value : Nat}
    {reg : CommonReg} (accepts : AcceptsWell device value reg)
    (listed : reg ∈ queueFields) (other : reg ≠ .qNoff)
    (unselected : Queue.ofIndex device.base.curq = none) :
    absentField reg = value := by
  cases reg with
  | qEnable =>
      simp only [AcceptsWell, unselected] at accepts
      exact accepts.symm
  | qMsix | qSize | qDesclo | qDeschi | qAvaillo | qAvailhi | qUsedlo
  | qUsedhi => exact (accepts unselected).symm
  | qNoff => exact absurd rfl other
  | dfselect | df | gfselect | gf | msix | numq | status | cfggeneration
  | qSelect => exact absurd listed (by decide)

/-- A queue register takes the value written to it. -/
theorem FieldsWritten.writesWell {before after : Device}
    {write : QueueWrite} (other : write.reg ≠ .qSelect)
    (fits : RegistersFit before)
    (written : FieldsWritten before after write)
    (accepts : AcceptsWell before write.value write.reg) :
    WritesWell before after write.value write.reg := by
  have queueRegs : ∀ reg, reg ∈ writableQueueRegisters → reg ≠ .qSelect →
      reg ∈ queueFields ∧ reg ≠ .qNoff ∧ reg ≠ .df ∧ reg ≠ .dfselect := by
    decide
  obtain ⟨listed, notOffset, notFeatures, notSelect⟩ :=
    queueRegs write.reg write.listed other
  refine ⟨fits.written written, fun same => absurd same notSelect, ?_, ?_⟩
  · intro _
    rw [mirrorValue_of_ne _ notFeatures,
      readRegister_queue _ _ listed notOffset, written.base]
    unfold selectedField
    cases selected : Queue.ofIndex before.base.curq with
    | none =>
        exact accepts.absent listed notOffset selected
    | some queue =>
        dsimp only
        rw [written.written queue (Queue.ofIndex_eq_some_iff.mp selected)]
        split
        · rename_i enables
          rw [enables] at accepts
          simp only [AcceptsWell, selected] at accepts
          exact accepts.symm
        · rfl
  · intro reg mirrored different _
    apply mirrorValue_congr mirrored
    · exact fun _ => by rw [written.base]; exact ⟨rfl, rfl⟩
    · exact fun _ => by rw [written.base]; exact ⟨rfl, rfl⟩
    · exact fun _ => by rw [written.base]
    · intro _
      rw [written.base]
      exact ⟨rfl, fun queue _ =>
        written.kept queue reg (.inr (Ne.symm different))⟩

theorem writeQueueRegister_writesWell {device : Device} {value : Nat}
    {reg : CommonReg} (listed : reg ∈ writableQueueRegisters)
    (other : reg ≠ .qSelect) (fits : RegistersFit device)
    (small : value < 256 ^ reg.width)
    (accepts : AcceptsWell device value reg) :
    Ensures (writeRegister device value reg) fun written =>
      WritesWell device written.1 value reg := by
  intro written wrote
  let write : QueueWrite := ⟨reg, value, listed, small⟩
  have fields : FieldsWritten device written.1 write :=
    @writeRegister_queueWrite device write other written wrote
  exact fields.writesWell other fits accepts

theorem negotiate_base (base : VirtioBase) (value : Nat) :
    ∃ caps, negotiate base value = { base with negotiatedCaps := caps } := by
  unfold negotiate virtioGpuNegFeatures
  split
  · exact ⟨_, rfl⟩
  · exact ⟨_, rfl⟩

/-- A write to `reg` that changes a part of `base` only. -/
structure BaseWritten (before after : VirtioBase) (reg : CommonReg) :
    Prop where
  curq : after.curq < 65536
  features : reg ≠ .dfselect →
    after.deviceFeatureSelect = before.deviceFeatureSelect
  caps : after.deviceCaps = before.deviceCaps
  guest : reg ≠ .gfselect → reg ≠ .gf →
    after.negotiatedCaps = before.negotiatedCaps ∧
      after.driverFeatureSelect = before.driverFeatureSelect
  status : reg ≠ .status → after.status = before.status
  queues : reg ≠ .qSelect → after.curq = before.curq

theorem BaseWritten.writesWell {device : Device} {base : VirtioBase}
    {value : Nat} {reg : CommonReg} (fits : RegistersFit device)
    (written : BaseWritten device.base base reg)
    (selects : reg = .dfselect → base.deviceFeatureSelect = value)
    (own : reg ∈ mirroredFields →
      mirrorValue { device with base := base } reg = value) :
    WritesWell device { device with base := base } value reg := by
  refine ⟨⟨written.curq, fits.fields⟩, selects, own, ?_⟩
  intro other mirrored different unrefreshed
  apply mirrorValue_congr mirrored
  · rintro rfl
    refine ⟨written.caps, written.features ?_⟩
    rintro rfl
    exact unrefreshed (List.mem_singleton.mpr rfl)
  · rintro rfl
    apply written.guest
    · rintro rfl
      exact unrefreshed (List.mem_singleton.mpr rfl)
    · exact Ne.symm different
  · rintro rfl
    exact written.status (Ne.symm different)
  · intro listed
    refine ⟨written.queues ?_, fun _ _ => rfl⟩
    rintro rfl
    exact unrefreshed listed

theorem writeGf_writesWell {device : Device} {value : Nat}
    (fits : RegistersFit device) (small : value < 4294967296)
    (accepts : AcceptsWell device value .gf) :
    Ensures (writeRegister device value .gf) fun written =>
      WritesWell device written.1 value .gf := by
  simp only [AcceptsWell] at accepts
  refine .ite (fun running => .ok ?_) fun clear => .ok ?_
  · rw [if_pos running] at accepts
    have kept : BaseWritten device.base device.base .gf :=
      ⟨fits.curq, fun _ => rfl, rfl, fun _ _ => ⟨rfl, rfl⟩, fun _ => rfl,
        fun _ => rfl⟩
    refine kept.writesWell fits (by nofun) fun _ => ?_
    rw [mirrorValue_of_ne _ (by decide)]
    exact accepts.symm
  · rw [if_neg clear] at accepts
    have word := negotiate_featureWord device.base small
    obtain ⟨caps, negotiated⟩ := negotiate_base device.base value
    rw [negotiated] at word
    have kept : BaseWritten device.base
        { device.base with negotiatedCaps := caps } .gf :=
      ⟨fits.curq, fun _ => rfl, rfl, fun _ same => absurd rfl same,
        fun _ => rfl, fun _ => rfl⟩
    dsimp only
    rw [negotiated]
    refine kept.writesWell fits (by nofun) fun _ => ?_
    rw [mirrorValue_of_ne _ (by decide)]
    exact word.trans accepts

theorem ResetKeeps.mirror {device : Device} {gpu : GpuState}
    (keeps : ResetKeeps device) {reg : CommonReg}
    (mirrored : reg ∈ mirroredFields) (other : reg ≠ .status) :
    mirrorValue (virtioResetDev { device with gpu := gpu }) reg =
      mirrorValue device reg := by
  cases reg with
  | df =>
      rw [mirrorValue_df, mirrorValue_df]
      exact (Nat.or_zero _).trans keeps.features.symm
  | gf =>
      rw [mirrorValue_of_ne _ (by decide), mirrorValue_of_ne _ (by decide)]
      exact (Nat.zero_and _).trans keeps.guest.symm
  | status => exact absurd rfl other
  | qNoff =>
      rw [mirrorValue_of_ne _ (by decide), mirrorValue_of_ne _ (by decide)]
      exact keeps.curq.symm
  | qSize | qMsix | qEnable | qDesclo | qDeschi | qAvaillo | qAvailhi
  | qUsedlo | qUsedhi =>
      rw [mirrorValue_of_ne _ (by decide), mirrorValue_of_ne _ (by decide),
        readRegister_queue _ _ (by decide) (by decide),
        readRegister_queue _ _ (by decide) (by decide), keeps.curq]
      simp [selectedField, queueField, virtioResetDev, VqInfo.reset,
        VirtioBase.reset, Queue.ofIndex, keeps.msixIdx, keeps.enabled,
        keeps.gpaDesc, keeps.gpaAvail, keeps.gpaUsed]
  | dfselect | gfselect | msix | numq | cfggeneration | qSelect =>
      exact absurd mirrored (by decide)

theorem writeStatus_writesWell {device : Device} {value : Nat}
    (fits : RegistersFit device) (small : value < 256)
    (accepts : AcceptsWell device value .status) :
    Ensures (writeRegister device value .status) fun written =>
      WritesWell device written.1 value .status := by
  have byte : value % 256 = value := Nat.mod_eq_of_lt small
  refine .bind fun after ran => .pure ?_
  unfold writeStatus virtioGpuSetStatus at ran
  dsimp only at ran
  rw [byte] at ran
  split at ran
  · rename_i zero
    subst zero
    obtain ⟨gpu, _, rest⟩ := bind_eq_ok ran
    cases rest
    rcases accepts with nonzero | keeps
    · exact absurd rfl nonzero
    refine ⟨⟨(by decide : 0 < 65536), ?_⟩, (by nofun), fun _ => ?_, ?_⟩
    · exact (@RegistersFit.reset device gpu fits).fields
    · rw [mirrorValue_of_ne _ (by decide)]
      rfl
    · intro other mirrored different _
      rw [← @ResetKeeps.mirror device gpu keeps other mirrored different]
      apply mirrorValue_congr mirrored
      · exact fun _ => ⟨rfl, rfl⟩
      · exact fun _ => ⟨rfl, rfl⟩
      · exact fun same => absurd same different
      · exact fun _ => ⟨rfl, fun _ _ => rfl⟩
  · cases ran
    have kept : BaseWritten device.base
        { device.base with status := value } .status :=
      ⟨fits.curq, fun _ => rfl, rfl, fun _ _ => ⟨rfl, rfl⟩,
        fun same => absurd rfl same, fun _ => rfl⟩
    refine kept.writesWell fits (by nofun) fun _ => ?_
    rw [mirrorValue_of_ne _ (by decide)]
    rfl

theorem writeRegister_writesWell {device : Device} {value : Nat}
    {reg : CommonReg} (fits : RegistersFit device)
    (small : value < 256 ^ reg.width) (writable : reg.readOnly = false)
    (accepts : AcceptsWell device value reg) :
    Ensures (writeRegister device value reg) fun written =>
      WritesWell device written.1 value reg := by
  cases reg with
  | gf => exact writeGf_writesWell fits small accepts
  | status => exact writeStatus_writesWell fits small accepts
  | dfselect =>
      have word : value % 4294967296 = value := Nat.mod_eq_of_lt small
      have kept : BaseWritten device.base { device.base with
          deviceFeatureSelect := value % 4294967296 } .dfselect :=
        ⟨fits.curq, fun same => absurd rfl same, rfl,
          fun _ _ => ⟨rfl, rfl⟩, fun _ => rfl, fun _ => rfl⟩
      exact .ok (kept.writesWell fits (fun _ => word)
        fun listed => absurd listed (by decide))
  | gfselect =>
      have kept : BaseWritten device.base { device.base with
          driverFeatureSelect := value % 4294967296 } .gfselect :=
        ⟨fits.curq, fun _ => rfl, rfl, fun same => absurd rfl same,
          fun _ => rfl, fun _ => rfl⟩
      exact .ok (kept.writesWell fits (by nofun)
        fun listed => absurd listed (by decide))
  | msix =>
      have kept : BaseWritten device.base { device.base with
          msixCfgIdx := value % 65536 } .msix :=
        ⟨fits.curq, fun _ => rfl, rfl, fun _ _ => ⟨rfl, rfl⟩, fun _ => rfl,
          fun _ => rfl⟩
      exact .ok (kept.writesWell fits (by nofun)
        fun listed => absurd listed (by decide))
  | qSelect =>
      have kept : BaseWritten device.base { device.base with
          curq := value } .qSelect :=
        ⟨small, fun _ => rfl, rfl, fun _ _ => ⟨rfl, rfl⟩, fun _ => rfl,
          fun same => absurd rfl same⟩
      exact .ok (kept.writesWell fits (by nofun)
        fun listed => absurd listed (by decide))
  | qSize | qMsix | qEnable | qDesclo | qDeschi | qAvaillo | qAvailhi
  | qUsedlo | qUsedhi =>
      exact writeQueueRegister_writesWell (by decide) (by decide) fits small
        accepts
  | df | numq | cfggeneration | qNoff => cases writable

/-! One transaction. -/

def CoherentOn (fields : CommonReg → Prop) (shared : Shared) : Prop :=
  ∀ reg, reg ∈ mirroredFields → fields reg →
    headerField shared.memory reg = mirrorValue shared.device reg

theorem forcedFeatures_lt (select : Nat) : forcedFeatures select < 2 ^ 32 := by
  unfold forcedFeatures
  split <;> decide

/-- A refreshed field shows its register. -/
theorem refreshed_coherent {device : Device} {memory : Memory}
    {written reg : CommonReg} (fits : RegistersFit device)
    (forced : written = .dfselect →
      forcedFeatures (headerField memory .dfselect) =
        forcedFeatures device.base.deviceFeatureSelect)
    (refreshed : reg ∈ refreshedBy written) :
    headerField (handleSideEffects device memory written.offset) reg =
      mirrorValue device reg := by
  cases written with
  | dfselect =>
      have features : reg = .df := List.mem_singleton.mp refreshed
      subst features
      rw [headerField_sideEffects_df, forced rfl, mirrorValue_df]
      apply Nat.mod_eq_of_lt
      exact Nat.or_lt_two_pow (featureWord_lt _ _) (forcedFeatures_lt _)
  | gfselect =>
      have guest : reg = .gf := List.mem_singleton.mp refreshed
      subst guest
      rw [headerField_sideEffects_refreshed _ _ (by decide) refreshed,
        mirrorValue_of_ne _ (by decide)]
      exact Nat.mod_eq_of_lt (featureWord_lt _ _)
  | qSelect =>
      have other : reg ≠ .df := by
        rintro rfl
        exact absurd refreshed (by decide)
      rw [headerField_sideEffects_refreshed _ _ (by decide) refreshed,
        mirrorValue_of_ne _ other]
      exact Nat.mod_eq_of_lt (fits.queueField_lt refreshed)
  | df | gf | msix | numq | status | cfggeneration | qSize | qMsix | qEnable
  | qNoff | qDesclo | qDeschi | qAvaillo | qAvailhi | qUsedlo | qUsedhi =>
      exact absurd refreshed List.not_mem_nil

theorem transact_accepted {fields : CommonReg → Prop}
    {shared after : Shared} {transaction : Transaction} {reg : CommonReg}
    (targets : transaction.Targets reg)
    (accepts : AcceptsWell shared.device (wordOf transaction.bytes) reg)
    (fits : RegistersFit shared.device)
    (coherent : CoherentOn fields shared)
    (ran : transact shared transaction = .ok after) :
    RegistersFit after.device ∧
      CoherentOn (fun other => fields other ∨ other ∈ refreshedBy reg ∨
        other = reg) after := by
  rw [transact_register targets] at ran
  obtain ⟨written, wrote, rest⟩ := bind_eq_ok ran
  cases rest
  have well := writeRegister_writesWell fits targets.word_lt targets.writable
    accepts written wrote
  refine ⟨well.fits, fun other mirrored cause => ?_⟩
  have posted := targets.posted shared.memory
  rw [headerField_clearTransaction]
  by_cases refreshed : other ∈ refreshedBy reg
  · refine refreshed_coherent well.fits ?_ refreshed
    rintro rfl
    rw [posted, well.selects rfl]
  · rw [headerField_sideEffects_kept _ _ refreshed]
    by_cases same : other = reg
    · subst same
      rw [posted, well.own mirrored]
    · rw [targets.posted_of_ne same, well.frame other mirrored same refreshed]
      rcases cause with known | refreshes | equal
      · exact coherent other mirrored known
      · exact absurd refreshes refreshed
      · exact absurd equal same

/-- A transaction that no register accepts leaves the mirrored fields it does
not refresh as they are, and the selector of the forced features right. -/
structure KeepsFields (shared : Shared) (transaction : Transaction) :
    Prop where
  kept : ∀ reg, reg ∈ mirroredFields →
    (∀ written : CommonReg,
      transaction.offset = commonConfigOffset + written.offset →
        reg ∉ refreshedBy written) →
    headerField (transaction.post shared.memory) reg =
      headerField shared.memory reg
  forced :
    transaction.offset = commonConfigOffset + CommonReg.dfselect.offset →
      (headerField (transaction.post shared.memory) .dfselect = 1 ↔
        shared.device.base.deviceFeatureSelect = 1)

theorem forcedFeatures_congr {first second : Nat}
    (same : first = 1 ↔ second = 1) :
    forcedFeatures first = forcedFeatures second := by
  unfold forcedFeatures
  by_cases one : first = 1
  · rw [if_pos one, if_pos (same.mp one)]
  · rw [if_neg one, if_neg (fun other => one (same.mpr other))]

theorem transact_kept {shared after : Shared} {transaction : Transaction}
    (postable : transaction.Postable)
    (ignored : ∀ reg, ¬transaction.Targets reg)
    (keeps : KeepsFields shared transaction)
    (fits : RegistersFit shared.device)
    (coherent : CoherentOn (fun _ => True) shared)
    (ran : transact shared transaction = .ok after) :
    RegistersFit after.device ∧ CoherentOn (fun _ => True) after := by
  obtain ⟨device, fields⟩ := transact_ignored postable ignored ran
  refine ⟨by rw [device]; exact fits, fun reg mirrored _ => ?_⟩
  rw [fields reg, device, ignoredMemory, transaction.load_writeOffset,
    Nat.mod_eq_of_lt postable.offset]
  split
  · rename_i inside
    by_cases register : ∃ written : CommonReg,
        transaction.offset = commonConfigOffset + written.offset
    · obtain ⟨written, offset⟩ := register
      rw [offset, Nat.add_sub_cancel_left]
      by_cases refreshed : reg ∈ refreshedBy written
      · refine refreshed_coherent fits ?_ refreshed
        rintro rfl
        exact forcedFeatures_congr (keeps.forced offset)
      · rw [headerField_sideEffects_kept _ _ refreshed, keeps.kept reg mirrored]
        · exact coherent reg mirrored trivial
        · intro other same
          have equal : other = written :=
            CommonReg.eq_of_offset (by omega)
          rw [equal]
          exact refreshed
    · rw [handleSideEffects_elsewhere, keeps.kept reg mirrored]
      · exact coherent reg mirrored trivial
      · exact fun written offset => absurd ⟨written, offset⟩ register
      · intro written offset
        exact register ⟨written, by omega⟩
  · rename_i outside
    rw [keeps.kept reg mirrored]
    · exact coherent reg mirrored trivial
    · intro written offset
      have last := written.end_le
      have positive := written.width_cases
      unfold commonConfigOffset configOffset at outside
      unfold commonConfigOffset at offset
      omega

/-! Runs of transactions. -/

def vosBackend : TransitionSystem Shared Transaction where
  initial := fun shared => ∃ vmctx isBlobSupported scanoutNum memory identity
    pciVdev q devices drivers firsts,
    List.Perm firsts [registerWrite .qSelect q, registerWrite .dfselect devices,
      registerWrite .gfselect drivers] ∧
    firsts.foldlM transact (vosBackendInit vmctx isBlobSupported scanoutNum
      memory identity pciVdev) = .ok shared
  step := fun before transaction after =>
    transaction.Postable ∧ transact before transaction = .ok after

structure KeepsMirror (shared : Shared) (transaction : Transaction) :
    Prop where
  accepted : ∀ reg, transaction.Targets reg →
    AcceptsWell shared.device (wordOf transaction.bytes) reg
  ignored : (∀ reg, ¬transaction.Targets reg) →
    KeepsFields shared transaction

def selectors : List CommonReg := [.qSelect, .dfselect, .gfselect]

theorem selected_coherent {firsts : List Transaction}
    (selects : ∀ transaction, transaction ∈ firsts → ∃ reg value,
      reg ∈ selectors ∧ transaction = registerWrite reg value)
    {fields : CommonReg → Prop} {shared after : Shared}
    (fits : RegistersFit shared.device) (coherent : CoherentOn fields shared)
    (ran : firsts.foldlM transact shared = .ok after) :
    RegistersFit after.device ∧
      CoherentOn (fun other => fields other ∨ ∃ reg value,
        registerWrite reg value ∈ firsts ∧ other ∈ refreshedBy reg) after := by
  induction firsts generalizing fields shared with
  | nil =>
      cases ran
      exact ⟨fits, fun reg mirrored known => coherent reg mirrored
        (known.resolve_right (by simp))⟩
  | cons first rest induction =>
      rw [List.foldlM_cons] at ran
      obtain ⟨next, here, later⟩ := bind_eq_ok ran
      obtain ⟨reg, value, listed, rfl⟩ := selects first List.mem_cons_self
      have writable : reg.readOnly = false := by
        have all : ∀ reg, reg ∈ selectors → reg.readOnly = false := by decide
        exact all reg listed
      have accepts : AcceptsWell shared.device
          (wordOf (registerWrite reg value).bytes) reg := by
        have three : reg = .qSelect ∨ reg = .dfselect ∨ reg = .gfselect := by
          simpa [selectors] using listed
        rcases three with rfl | rfl | rfl <;> trivial
      obtain ⟨fitting, known⟩ := transact_accepted
        (registerWrite_targets value writable) accepts fits coherent here
      obtain ⟨fitted, all⟩ := induction
        (fun other member => selects other (List.mem_cons_of_mem _ member))
        fitting known later
      refine ⟨fitted, fun other mirrored cause => all other mirrored ?_⟩
      rcases cause with before | ⟨register, word, member, refreshed⟩
      · exact .inl (.inl before)
      · rcases List.mem_cons.mp member with same | later
        · have register_eq : register = reg := by
            have offsets := congrArg Transaction.offset same
            exact CommonReg.eq_of_offset (Nat.add_left_cancel offsets)
          rw [register_eq] at refreshed
          exact .inl (.inr (.inl refreshed))
        · exact .inr ⟨register, word, later, refreshed⟩

theorem vosBackendInit_fits (vmctx : Vmctx) (isBlobSupported : Bool)
    (scanoutNum : Nat) (memory : Memory) (identity : Identity)
    (pciVdev : GpuConfig) :
    RegistersFit (vosBackendInit vmctx isBlobSupported scanoutNum memory
      identity pciVdev).device := by
  refine ⟨(by decide : 0 < 65536), fun queue reg => ?_⟩
  show queueField (VqInfo.fresh virtioGpuRingsz).reset reg < 256 ^ reg.width
  cases reg <;> decide

theorem vosBackendInit_status (vmctx : Vmctx) (isBlobSupported : Bool)
    (scanoutNum : Nat) (memory : Memory) (identity : Identity)
    (pciVdev : GpuConfig) :
    CoherentOn (fun reg => reg = .status) (vosBackendInit vmctx
      isBlobSupported scanoutNum memory identity pciVdev) := by
  rintro reg _ rfl
  rfl

/-- After the three selectors have been written, in any order, the whole copy is
right. -/
theorem coherent_of_initial {shared : Shared}
    (starts : vosBackend.initial shared) :
    RegistersFit shared.device ∧ CoherentOn (fun _ => True) shared := by
  obtain ⟨vmctx, isBlobSupported, scanoutNum, memory, identity, pciVdev, q,
    devices, drivers, firsts, order, ran⟩ := starts
  have member : ∀ transaction, transaction ∈ firsts ↔
      transaction ∈ [registerWrite .qSelect q,
        registerWrite .dfselect devices, registerWrite .gfselect drivers] :=
    fun _ => order.mem_iff
  obtain ⟨fits, coherent⟩ := selected_coherent
    (fun transaction listed => by
      have three := (member transaction).mp listed
      simp only [List.mem_cons, List.not_mem_nil, or_false] at three
      rcases three with rfl | rfl | rfl
      · exact ⟨.qSelect, q, by decide, rfl⟩
      · exact ⟨.dfselect, devices, by decide, rfl⟩
      · exact ⟨.gfselect, drivers, by decide, rfl⟩)
    (vosBackendInit_fits vmctx isBlobSupported scanoutNum memory identity
      pciVdev)
    (vosBackendInit_status vmctx isBlobSupported scanoutNum memory
      identity pciVdev) ran
  refine ⟨fits, fun reg mirrored _ => coherent reg mirrored ?_⟩
  rcases List.mem_cons.mp mirrored with features | mirrored
  · exact .inr ⟨.dfselect, devices, (member _).mpr (by simp), by
      simp [features, refreshedBy]⟩
  rcases List.mem_cons.mp mirrored with guest | mirrored
  · exact .inr ⟨.gfselect, drivers, (member _).mpr (by simp), by
      simp [guest, refreshedBy]⟩
  rcases List.mem_cons.mp mirrored with status | queues
  · exact .inl status
  · exact .inr ⟨.qSelect, q, (member _).mpr (by simp), queues⟩

theorem coherent_of_step {before after : Shared} {transaction : Transaction}
    (fits : RegistersFit before.device)
    (coherent : CoherentOn (fun _ => True) before)
    (keeps : KeepsMirror before transaction)
    (stepped : vosBackend.step before transaction after) :
    RegistersFit after.device ∧ CoherentOn (fun _ => True) after := by
  obtain ⟨postable, ran⟩ := stepped
  by_cases accepted : ∃ reg, transaction.Targets reg
  · obtain ⟨reg, targets⟩ := accepted
    obtain ⟨fitting, known⟩ := transact_accepted targets
      (keeps.accepted reg targets) fits coherent ran
    exact ⟨fitting, fun other mirrored _ =>
      known other mirrored (.inl trivial)⟩
  · exact transact_kept postable (not_exists.mp accepted)
      (keeps.ignored (not_exists.mp accepted)) fits coherent ran

/-- In a run whose transactions each leave the copy right, every field the
frontend reads back is the register it stands for. -/
theorem reached_mirror_coherent {shared : Shared}
    (reached : vosBackend.ReachedWhere KeepsMirror shared) :
    ∀ reg, reg ∈ mirroredFields →
      headerField shared.memory reg = mirrorValue shared.device reg := by
  have holds : RegistersFit shared.device ∧
      CoherentOn (fun _ => True) shared := by
    refine reached.invariant (fun shared => RegistersFit shared.device ∧
      CoherentOn (fun _ => True) shared) ?_ ?_
    · intro start starts
      exact coherent_of_initial starts
    · rintro before transaction after ⟨fits, coherent⟩ keeps stepped
      exact coherent_of_step fits coherent keeps stepped
  exact fun reg mirrored => holds.2 reg mirrored trivial

/-! Concrete runs. -/

instance (device : Device) : Decidable (ResetKeeps device) :=
  decidable_of_iff
    ((featureWord device.base.deviceCaps device.base.deviceFeatureSelect |||
        forcedFeatures device.base.deviceFeatureSelect =
      featureWord device.base.deviceCaps 0) ∧
      featureWord device.base.negotiatedCaps
        device.base.driverFeatureSelect = 0 ∧
      device.base.curq = 0 ∧
      (device.queues .control).msixIdx = virtioMsiNoVector ∧
      (device.queues .control).enabled = false ∧
      (device.queues .control).gpaDesc = (0, 0) ∧
      (device.queues .control).gpaAvail = (0, 0) ∧
      (device.queues .control).gpaUsed = (0, 0))
    ⟨fun all => ⟨all.1, all.2.1, all.2.2.1, all.2.2.2.1, all.2.2.2.2.1,
        all.2.2.2.2.2.1, all.2.2.2.2.2.2.1, all.2.2.2.2.2.2.2⟩,
      fun keeps => ⟨keeps.features, keeps.guest, keeps.curq, keeps.msixIdx,
        keeps.enabled, keeps.gpaDesc, keeps.gpaAvail, keeps.gpaUsed⟩⟩

instance (device : Device) (value : Nat) (reg : CommonReg) :
    Decidable (AcceptsWell device value reg) :=
  match reg with
  | .gf =>
      inferInstanceAs (Decidable (
        if device.base.status &&& virtioConfigSDriverOk ≠ 0 then
          value = featureWord device.base.negotiatedCaps
            device.base.driverFeatureSelect
        else
          value &&& featureWord device.base.deviceCaps
            device.base.driverFeatureSelect = value))
  | .status => inferInstanceAs (Decidable (_ ∨ _))
  | .qEnable =>
      match selected : Queue.ofIndex device.base.curq with
      | none => decidable_of_iff (value = 0) (by simp [AcceptsWell, selected])
      | some queue =>
          decidable_of_iff
            (value =
              if RingsTranslate device.gpu.vmctx (device.queues queue) ∨
                (device.queues queue).enabled = true then 1 else 0)
            (by simp [AcceptsWell, selected])
  | .qMsix | .qSize | .qDesclo | .qDeschi | .qAvaillo | .qAvailhi | .qUsedlo
  | .qUsedhi => inferInstanceAs (Decidable (_ → _))
  | .dfselect | .gfselect | .msix | .qSelect | .df | .numq | .cfggeneration
  | .qNoff => inferInstanceAs (Decidable True)

/-- The transaction is a write some register accepts and takes over. -/
def checkMirror (shared : Shared) (transaction : Transaction) : Bool :=
  CommonReg.all.any fun reg => decide (transaction.Targets reg) &&
    decide (AcceptsWell shared.device (wordOf transaction.bytes) reg)

theorem keepsMirror_of_check (shared : Shared) (transaction : Transaction)
    (checked : checkMirror shared transaction = true) :
    KeepsMirror shared transaction := by
  obtain ⟨reg, _, both⟩ := List.any_eq_true.mp checked
  simp only [Bool.and_eq_true, decide_eq_true_eq] at both
  obtain ⟨targets, accepts⟩ := both
  constructor
  · intro other same
    have offsets := targets.offset.symm.trans same.offset
    have equal : reg = other :=
      CommonReg.eq_of_offset (Nat.add_left_cancel offsets)
    rw [← equal]
    exact accepts
  · exact fun ignored => absurd targets (ignored reg)

instance (transaction : Transaction) : Decidable transaction.Postable :=
  decidable_of_iff
    (transaction.offset < 65536 ∧ transaction.bytes.length < 65536)
    ⟨fun both => ⟨both.1, both.2⟩,
      fun postable => ⟨postable.offset, postable.size⟩⟩

def runTransactions (allowed : Shared → Transaction → Bool)
    (shared : Shared) : List Transaction → Option Shared
  | [] => some shared
  | transaction :: rest =>
      if allowed shared transaction ∧ transaction.Postable then
        match transact shared transaction with
        | .error _ => none
        | .ok next => runTransactions allowed next rest
      else
        none

theorem reached_of_runTransactions {allowed : Shared → Transaction → Bool}
    {Allowed : Shared → Transaction → Prop}
    (permits : ∀ shared transaction, allowed shared transaction = true →
      Allowed shared transaction)
    {transactions : List Transaction} {before after : Shared}
    (reached : vosBackend.ReachedWhere Allowed before)
    (ran : runTransactions allowed before transactions = some after) :
    vosBackend.ReachedWhere Allowed after := by
  induction transactions generalizing before with
  | nil =>
      cases ran
      exact reached
  | cons transaction rest induction =>
      unfold runTransactions at ran
      split at ran
      · rename_i both
        cases wrote : transact before transaction with
        | error fault =>
            rw [wrote] at ran
            cases ran
        | ok next =>
            rw [wrote] at ran
            exact induction (.step reached (permits _ _ both.1)
              ⟨both.2, wrote⟩) ran
      · cases ran

/-- A device with blob support after the first three transactions. -/
def selectedBackend (devices drivers : Nat) : Except Fault Shared :=
  [registerWrite .qSelect 0, registerWrite .dfselect devices,
    registerWrite .gfselect drivers].foldlM transact
      (vosBackendInit ⟨4096, 3⟩ true 1 Memory.zero ⟨0, 0, 0⟩ ⟨0, 0, 0, 0⟩)

theorem exists_vosBackend {allowed : Shared → Transaction → Bool}
    {Allowed : Shared → Transaction → Prop}
    (permits : ∀ shared transaction, allowed shared transaction = true →
      Allowed shared transaction)
    {devices drivers : Nat} {transactions : List Transaction}
    {check : Shared → Bool}
    (checked : ((selectedBackend devices drivers).toOption.bind fun shared =>
      runTransactions allowed shared transactions).any check = true) :
    ∃ shared, vosBackend.ReachedWhere Allowed shared ∧
      check shared = true := by
  obtain ⟨after, ran, good⟩ := (Option.any_eq_true _ _).mp checked
  obtain ⟨start, selected, ran⟩ := Option.bind_eq_some_iff.mp ran
  refine ⟨after, ?_, good⟩
  refine reached_of_runTransactions permits (.initial ?_) ran
  refine ⟨⟨4096, 3⟩, true, 1, Memory.zero, ⟨0, 0, 0⟩, ⟨0, 0, 0, 0⟩, 0, devices,
    drivers, _, .refl _, ?_⟩
  exact ok_of_toOption selected

/-- Feature negotiation, a status and the setup of a queue. -/
theorem negotiated_mirror_coherent :
    ∃ shared, vosBackend.ReachedWhere KeepsMirror shared ∧
      headerField shared.memory .gf = 1 ∧
      headerField shared.memory .qEnable = 1 ∧
      ∀ reg, reg ∈ mirroredFields →
        headerField shared.memory reg = mirrorValue shared.device reg := by
  obtain ⟨shared, reached, checked⟩ :=
    @exists_vosBackend checkMirror KeepsMirror keepsMirror_of_check 1 1
      [registerWrite .gf 1, registerWrite .status 3,
        registerWrite .qSize 16, registerWrite .qDesclo 256,
        registerWrite .qAvaillo 1024, registerWrite .qUsedlo 2048,
        registerWrite .qEnable 1]
      (fun shared => decide (headerField shared.memory .gf = 1) &&
        decide (headerField shared.memory .qEnable = 1))
      (by decide +kernel)
  simp only [Bool.and_eq_true, decide_eq_true_eq] at checked
  exact ⟨shared, reached, checked.1, checked.2,
    reached_mirror_coherent reached⟩

/-- Guest features beyond the offered ones stay in the header, not in the
register. -/
theorem masked_features_incoherent :
    ∃ shared, vosBackend.Reached shared ∧
      headerField shared.memory .gf = 0xffffffff ∧
      mirrorValue shared.device .gf = 42 := by
  obtain ⟨shared, reached, checked⟩ :=
    @exists_vosBackend (fun _ _ => true) (fun _ _ => True)
      (fun _ _ _ => trivial) 0 0 [registerWrite .gf 0xffffffff]
      (fun shared => decide (headerField shared.memory .gf = 0xffffffff) &&
        decide (mirrorValue shared.device .gf = 42))
      (by decide +kernel)
  simp only [Bool.and_eq_true, decide_eq_true_eq] at checked
  exact ⟨shared, reached, checked.1, checked.2⟩

end VirtioGpu.Backend
