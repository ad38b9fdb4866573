import VirtioGpu.Backend.Header
import VirtioGpu.Backend.Reset

namespace VirtioGpu.Backend

open Foundation
open Virtio
open Gpu

/-! Writes to the device-specific configuration, through the header and
through `virtio_device_cfg_write`. -/

namespace Transaction

/-- The offset into the configuration. -/
def configField (transaction : Transaction) : Nat :=
  transaction.offset - configOffset

/-- The value `process_write_transaction` loads. -/
def value (transaction : Transaction) (memory : Memory) : Nat :=
  newValue (transaction.post memory) transaction.offset
    transaction.bytes.length

end Transaction

/-- The transaction does to the device what the checked path does, and nothing
to any other object; then the header shows the configuration. -/
structure AgreesWithChecked (shared : Shared) (transaction : Transaction)
    (after : Shared) (checked : Device) : Prop where
  ran : transact shared transaction = .ok after
  wrote : virtioDeviceCfgWrite shared.device transaction.configField
    transaction.bytes.length (transaction.value shared.memory) = .ok checked
  device : after.device = checked
  pciVdev : after.pciVdev = shared.pciVdev
  header : after.memory.read configOffset gpuConfigSize = checked.cfg.bytes

/-- A write to `events_clear` that has nothing to clear, neither in the device
nor in the bytes of `pci_vdev` that stand in its place. -/
structure ClearsNothing (shared : Shared) (size value : Nat) : Prop where
  short : size ≤ 4
  events : shared.device.cfg.eventsRead &&& value = 0
  pciRead : shared.pciVdev.eventsRead &&& value = 0
  pciClear : shared.pciVdev.eventsClear &&& value = 0
  pciBytes : shared.pciVdev.eventsClear % 2 ^ (8 * size) = 0

structure ConfigWriteHarmless (shared : Shared) (transaction : Transaction) :
    Prop where
  clears : transaction.configField = eventsClearOffset →
    ClearsNothing shared transaction.bytes.length
      (transaction.value shared.memory)
  header : (transaction.post shared.memory).read configOffset gpuConfigSize =
    shared.device.cfg.bytes

/-! Bits of the words written. -/

theorem testBit_clearBits (left right bit : Nat) :
    (clearBits left right).testBit bit =
      (left.testBit bit && !right.testBit bit) := by
  unfold clearBits
  rw [Nat.testBit_xor, Nat.testBit_and]
  cases left.testBit bit <;> cases right.testBit bit <;> rfl

theorem clearBits_eq_self_iff {left right : Nat} :
    clearBits left right = left ↔ left &&& right = 0 := by
  unfold clearBits
  constructor
  · intro same
    have cancelled : left ^^^ (left ^^^ (left &&& right)) = left ^^^ left := by
      rw [same]
    rwa [← Nat.xor_assoc, Nat.xor_self, Nat.zero_xor] at cancelled
  · intro disjoint
    rw [disjoint, Nat.xor_zero]

/-- The word after its low bytes were copied over. -/
def copyLow (old value width : Nat) : Nat :=
  old - old % 2 ^ width + value % 2 ^ width

theorem testBit_copyLow (old value width bit : Nat) :
    (copyLow old value width).testBit bit =
      if bit < width then value.testBit bit else old.testBit bit := by
  have split : copyLow old value width =
      2 ^ width * (old / 2 ^ width) + value % 2 ^ width := by
    have parts := Nat.div_add_mod old (2 ^ width)
    unfold copyLow
    omega
  rw [split, Nat.testBit_two_pow_mul_add _
    (Nat.mod_lt _ (Nat.two_pow_pos width))]
  split
  · rename_i low
    rw [Nat.testBit_mod_two_pow, decide_eq_true low, Bool.true_and]
  · rename_i high
    rw [Nat.testBit_div_two_pow, Nat.sub_add_cancel (by omega)]

theorem clearBits_copyLow_eq_iff {old value width : Nat} :
    clearBits (copyLow old value width) value = old ↔
      old &&& value = 0 ∧ old % 2 ^ width = 0 := by
  constructor
  · intro same
    have bits : ∀ bit, old.testBit bit =
        ((if bit < width then value.testBit bit else old.testBit bit) &&
          !value.testBit bit) := by
      intro bit
      rw [← testBit_copyLow, ← testBit_clearBits, same]
    constructor
    · apply Nat.eq_of_testBit_eq
      intro bit
      rw [Nat.testBit_and, bits bit, Nat.zero_testBit]
      cases value.testBit bit <;> simp
    · apply Nat.eq_of_testBit_eq
      intro bit
      rw [Nat.testBit_mod_two_pow, Nat.zero_testBit, bits bit]
      by_cases low : bit < width
      · simp [low]
      · simp [low]
  · rintro ⟨apart, zero⟩
    apply Nat.eq_of_testBit_eq
    intro bit
    have disjoint : (old.testBit bit && value.testBit bit) = false := by
      rw [← Nat.testBit_and, apart, Nat.zero_testBit]
    rw [testBit_clearBits, testBit_copyLow]
    by_cases low : bit < width
    · have clear : old.testBit bit = false := by
        have lowBits := congrArg (fun word => word.testBit bit) zero
        simpa [Nat.testBit_mod_two_pow, low] using lowBits
      rw [if_pos low, clear]
      cases value.testBit bit <;> rfl
    · rw [if_neg low]
      revert disjoint
      cases old.testBit bit <;> cases value.testBit bit <;> decide

theorem clearBits_copyLow_zero (value width : Nat) :
    clearBits (copyLow 0 value width) value = 0 :=
  clearBits_copyLow_eq_iff.mpr ⟨Nat.zero_and value, Nat.zero_mod _⟩

/-! The two paths. -/

theorem Transaction.value_lt (transaction : Transaction) (memory : Memory) :
    transaction.value memory < 4294967296 := by
  unfold value newValue
  split
  · rename_i width
    have bound := (transaction.post memory).loadWord_lt transaction.offset
      transaction.bytes.length
    rcases width with one | two | four
    · rw [one] at bound ⊢
      exact Nat.lt_trans bound (by decide)
    · rw [two] at bound ⊢
      exact Nat.lt_trans bound (by decide)
    · rw [four] at bound ⊢
      exact bound
  · decide

theorem transact_config {shared : Shared} {transaction : Transaction}
    (postable : transaction.Postable)
    (area : configOffset ≤ transaction.offset) :
    transact shared transaction =
      (do
        let aliased ← virtioGpuCfgwrite
          { shared.device with cfg := shared.pciVdev } transaction.configField
          transaction.bytes.length (transaction.value shared.memory)
        return { shared with
          memory := clearTransaction (transaction.post shared.memory)
          pciVdev := aliased.cfg }) := by
  have offset : transaction.offset % 65536 = transaction.offset :=
    Nat.mod_eq_of_lt postable.offset
  have size : transaction.bytes.length % 65536 = transaction.bytes.length :=
    Nat.mod_eq_of_lt postable.size
  have pending : ¬(transaction.post shared.memory).load32
      writeTransactionOffset = 0 := by
    rw [transaction.load_writeTransaction, offset]
    unfold configOffset at area
    omega
  unfold transact processWriteTransaction
  dsimp only
  rw [if_neg pending, transaction.load_writeOffset, transaction.load_writeSize,
    offset, size, if_neg (fun inside => Nat.not_lt.mpr area inside.2),
    if_pos area]
  rfl

theorem clearTransaction_config (memory : Memory) :
    (clearTransaction memory).read configOffset gpuConfigSize =
      memory.read configOffset gpuConfigSize :=
  memory.read_store_outside (.inr (by decide))

theorem virtioGpuCfgwrite_elsewhere (device : Device) {offset : Nat}
    (size value : Nat) (elsewhere : offset ≠ eventsClearOffset) :
    virtioGpuCfgwrite device offset size value = .ok device := by
  unfold virtioGpuCfgwrite
  rw [if_neg elsewhere]

theorem virtioGpuCfgwrite_clear (device : Device) {size value : Nat}
    (short : size ≤ 4) (small : value < 4294967296) :
    virtioGpuCfgwrite device eventsClearOffset size value =
      .ok { device with cfg := { device.cfg with
        eventsRead := clearBits device.cfg.eventsRead value
        eventsClear := clearBits
          (copyLow device.cfg.eventsClear value (8 * size)) value } } := by
  unfold virtioGpuCfgwrite
  rw [if_pos rfl, if_neg (by omega), Nat.mod_eq_of_lt small]
  rfl

/-- A write to `events_clear` of a device that keeps that word clear. -/
theorem virtioDeviceCfgWrite_clear {device : Device} {size value : Nat}
    (zero : device.cfg.eventsClear = 0) (short : size ≤ 4)
    (small : value < 4294967296) :
    virtioDeviceCfgWrite device eventsClearOffset size value =
      .ok { device with cfg := { device.cfg with
        eventsRead := clearBits device.cfg.eventsRead value } } := by
  have inside : ¬eventsClearOffset + size > gpuConfigSize := by
    unfold eventsClearOffset gpuConfigSize
    omega
  unfold virtioDeviceCfgWrite
  rw [if_neg inside, virtioGpuCfgwrite_clear device short small, zero,
    clearBits_copyLow_zero]
  dsimp only
  rw [zero]

theorem virtioDeviceCfgWrite_elsewhere (device : Device) {offset : Nat}
    (size value : Nat) (elsewhere : offset ≠ eventsClearOffset) :
    virtioDeviceCfgWrite device offset size value = .ok device := by
  unfold virtioDeviceCfgWrite
  rw [virtioGpuCfgwrite_elsewhere device size value elsewhere]
  split <;> rfl

section Agreement

variable {shared : Shared} {transaction : Transaction}
  (postable : transaction.Postable)
  (area : configOffset ≤ transaction.offset)
include postable area

theorem agrees_elsewhere
    (elsewhere : transaction.configField ≠ eventsClearOffset) :
    (∃ after checked, AgreesWithChecked shared transaction after checked) ↔
      (transaction.post shared.memory).read configOffset gpuConfigSize =
        shared.device.cfg.bytes := by
  have ran := @transact_config shared transaction postable area
  rw [virtioGpuCfgwrite_elsewhere _ _ _ elsewhere] at ran
  have wrote := virtioDeviceCfgWrite_elsewhere shared.device
    transaction.bytes.length (transaction.value shared.memory) elsewhere
  constructor
  · rintro ⟨after, checked, agrees⟩
    have same : after = _ := Except.ok.inj (agrees.ran.symm.trans ran)
    have kept : checked = _ := Except.ok.inj (agrees.wrote.symm.trans wrote)
    have header := agrees.header
    rw [same, kept] at header
    exact (clearTransaction_config _).symm.trans header
  · intro header
    refine ⟨_, _, ran, wrote, rfl, rfl, ?_⟩
    exact (clearTransaction_config _).trans header

theorem agrees_clear (zero : shared.device.cfg.eventsClear = 0)
    (short : transaction.bytes.length ≤ 4)
    (clear : transaction.configField = eventsClearOffset) :
    (∃ after checked, AgreesWithChecked shared transaction after checked) ↔
      ClearsNothing shared transaction.bytes.length
          (transaction.value shared.memory) ∧
        (transaction.post shared.memory).read configOffset gpuConfigSize =
          shared.device.cfg.bytes := by
  have small := transaction.value_lt shared.memory
  have ran := @transact_config shared transaction postable area
  rw [clear, virtioGpuCfgwrite_clear _ short small] at ran
  have wrote := @virtioDeviceCfgWrite_clear shared.device _
    (transaction.value shared.memory) zero short small
  constructor
  · rintro ⟨after, checked, agrees⟩
    have same : after = _ := Except.ok.inj (agrees.ran.symm.trans ran)
    have written := agrees.wrote
    rw [clear] at written
    have kept : checked = _ := Except.ok.inj (written.symm.trans wrote)
    have device := agrees.device
    have pciVdev := agrees.pciVdev
    have header := agrees.header
    rw [same] at device pciVdev header
    have events : shared.device.cfg.eventsRead =
        clearBits shared.device.cfg.eventsRead
          (transaction.value shared.memory) :=
      congrArg (fun device => device.cfg.eventsRead) (device.trans kept)
    have foreignRead := congrArg GpuConfig.eventsRead pciVdev
    have foreignClear := congrArg GpuConfig.eventsClear pciVdev
    obtain ⟨apart, bytes⟩ := clearBits_copyLow_eq_iff.mp foreignClear
    refine ⟨⟨short, clearBits_eq_self_iff.mp events.symm,
      clearBits_eq_self_iff.mp foreignRead, apart, bytes⟩, ?_⟩
    rw [← device] at header
    exact (clearTransaction_config _).symm.trans header
  · rintro ⟨clears, header⟩
    have events := clearBits_eq_self_iff.mpr clears.events
    have foreignRead := clearBits_eq_self_iff.mpr clears.pciRead
    have foreignClear :=
      clearBits_copyLow_eq_iff.mpr ⟨clears.pciClear, clears.pciBytes⟩
    rw [events] at wrote
    rw [foreignRead, foreignClear] at ran
    refine ⟨_, _, ran, by rw [clear]; exact wrote, rfl, rfl, ?_⟩
    exact (clearTransaction_config _).trans header

theorem not_agrees_long (long : ¬transaction.bytes.length ≤ 4)
    (clear : transaction.configField = eventsClearOffset) :
    ¬∃ after checked, AgreesWithChecked shared transaction after checked := by
  rintro ⟨after, checked, agrees⟩
  have ran := agrees.ran
  rw [transact_config postable area, clear, virtioGpuCfgwrite, if_pos rfl,
    if_pos (by omega)] at ran
  cases ran

end Agreement

/-- A transaction in the configuration area agrees with the checked path just
when it clears nothing and the header already shows the configuration. -/
theorem configWrite_agrees_iff {state : Traced}
    (reached : backend.Reached state) (memory : Memory) (pciVdev : GpuConfig)
    {transaction : Transaction} (postable : transaction.Postable)
    (area : configOffset ≤ transaction.offset) :
    (∃ after checked, AgreesWithChecked
        ⟨state.machine.device, memory, pciVdev⟩ transaction after checked) ↔
      ConfigWriteHarmless ⟨state.machine.device, memory, pciVdev⟩
        transaction := by
  have zero := (reached_setUp reached).eventsClear
  by_cases clear : transaction.configField = eventsClearOffset
  · by_cases short : transaction.bytes.length ≤ 4
    · rw [agrees_clear postable area zero short clear]
      exact ⟨fun both => ⟨fun _ => both.1, both.2⟩,
        fun harmless => ⟨harmless.clears clear, harmless.header⟩⟩
    · refine iff_of_false (not_agrees_long postable area short clear) ?_
      exact fun harmless => short (harmless.clears clear).short
  · rw [agrees_elsewhere postable area clear]
    exact ⟨fun header => ⟨fun same => absurd same clear, header⟩,
      fun harmless => harmless.header⟩

/-- The number of scanouts, written once more. -/
theorem repeated_scanouts_agree :
    ∃ after checked, AgreesWithChecked
      ⟨(initialMachine ⟨4096, 0⟩ false 1 Memory.zero).device,
        (vosBackendInit ⟨4096, 0⟩ false 1 Memory.zero ⟨0, 0, 0⟩
          ⟨0, 0, 0, 0⟩).memory, ⟨0, 0, 0, 0⟩⟩
      ⟨configOffset + 8, le32 1⟩ after checked := by
  have reached : backend.Reached
      ⟨initialMachine ⟨4096, 0⟩ false 1 Memory.zero, []⟩ :=
    .initial ⟨_, false, 1, _, nofun, by decide, rfl⟩
  exact (configWrite_agrees_iff reached _ ⟨0, 0, 0, 0⟩
    ⟨by decide, by decide⟩ (by decide)).mpr
      ⟨fun clear => absurd clear (by decide), by decide +kernel⟩

/-- After a hotplug, the frontend acknowledges the display event. -/
theorem acknowledged_event_stays :
    ∃ state, backend.Reached state ∧ ∃ after checked,
      transact ⟨state.machine.device, Memory.zero, ⟨0, 0, 0, 0⟩⟩
        ⟨configOffset + eventsClearOffset, le32 1⟩ = .ok after ∧
      virtioDeviceCfgWrite state.machine.device eventsClearOffset 4 1 =
        .ok checked ∧
      checked.cfg.eventsRead = 0 ∧ after.device.cfg.eventsRead = 1 ∧
      after.memory.read configOffset gpuConfigSize ≠ checked.cfg.bytes := by
  obtain ⟨state, reached, checked⟩ :=
    @exists_reached ⟨initialMachine ⟨4096, 0⟩ false 1 Memory.zero, []⟩
      [.hotplug]
      (fun state =>
        (transact ⟨state.machine.device, Memory.zero, ⟨0, 0, 0, 0⟩⟩
          ⟨configOffset + eventsClearOffset, le32 1⟩).toOption.any fun after =>
        (virtioDeviceCfgWrite state.machine.device eventsClearOffset 4
          1).toOption.any fun checked =>
        decide (checked.cfg.eventsRead = 0) &&
          decide (after.device.cfg.eventsRead = 1) &&
          decide (after.memory.read configOffset gpuConfigSize ≠
            checked.cfg.bytes))
      ⟨_, false, 1, _, nofun, by decide, rfl⟩ (by decide +kernel)
  obtain ⟨after, ran, checked⟩ := (Option.any_eq_true _ _).mp checked
  obtain ⟨device, wrote, all⟩ := (Option.any_eq_true _ _).mp checked
  simp only [Bool.and_eq_true, decide_eq_true_eq] at all
  exact ⟨state, reached, after, device, ok_of_toOption ran,
    ok_of_toOption wrote, all.1.1, all.1.2, all.2⟩

/-! Transactions as steps of the backend. -/

theorem Transaction.Targets.sizedValue {transaction : Transaction}
    {reg : CommonReg} (targets : transaction.Targets reg) :
    sizedValue reg.width (wordOf transaction.bytes) =
      wordOf transaction.bytes := by
  apply Nat.mod_eq_of_lt
  rw [Nat.pow_mul]
  exact targets.word_lt

theorem reached_guest {state : Traced} (reached : backend.Reached state)
    (memory : Memory) :
    backend.Reached
      ⟨{ state.machine with memory := memory }, state.events ++ []⟩ := by
  have stepped : backend.step state (.guest memory)
      ⟨{ state.machine with memory := memory }, state.events ++ []⟩ :=
    ⟨trivial, _, _, rfl, rfl⟩
  exact .step reached trivial stepped

/-- A transaction is a register write, or none, and a change of the shared
memory. -/
theorem transact_reached {state : Traced} (reached : backend.Reached state)
    (memory : Memory) (pciVdev : GpuConfig) {transaction : Transaction}
    (postable : transaction.Postable) {after : Shared}
    (ran : transact ⟨state.machine.device, memory, pciVdev⟩ transaction =
      .ok after) :
    ∃ next, backend.Reached next ∧ next.machine.device = after.device ∧
      next.machine.memory = after.memory := by
  by_cases accepted : ∃ reg, transaction.Targets reg
  · obtain ⟨reg, targets⟩ := accepted
    rw [transact_register targets] at ran
    obtain ⟨written, wrote, rest⟩ := bind_eq_ok ran
    cases rest
    have stepped : machineStep state.machine
        (.commonWrite reg.offset reg.width (wordOf transaction.bytes)) =
          .ok ({ state.machine with device := written.1 },
            [.mapped written.2]) := by
      simp only [machineStep, targets.sizedValue,
        virtioCommonCfgWrite_register _ _ targets.writable]
      rw [wrote]
      rfl
    have wrote : backend.step state
        (.commonWrite reg.offset reg.width (wordOf transaction.bytes)) _ :=
      ⟨trivial, _, _, stepped, rfl⟩
    exact ⟨_, reached_guest (.step reached trivial wrote) _, rfl, rfl⟩
  · obtain ⟨device, _⟩ := transact_ignored postable
      (not_exists.mp accepted) ran
    exact ⟨_, reached_guest reached after.memory, device.symm, rfl⟩

end VirtioGpu.Backend
