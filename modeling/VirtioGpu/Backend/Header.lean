import VirtioGpu.Backend.Device
import VirtioGpu.Foundation.Ensures
import VirtioGpu.Foundation.Words

namespace VirtioGpu.Backend

open Foundation
open Virtio
open Gpu

/-! The header at the start of the shared memory, through which the frontend
reaches the registers. -/

def writeTransactionOffset : Nat := 16

def writeSizeOffset : Nat := 18

def commonConfigOffset : Nat := 32

def configOffset : Nat := 88

/-- The field of `common_config` that stands for a register. -/
def headerField (memory : Memory) (reg : CommonReg) : Nat :=
  memory.loadWord (commonConfigOffset + reg.offset) reg.width

def setHeaderField (memory : Memory) (reg : CommonReg) (value : Nat) :
    Memory :=
  memory.store (commonConfigOffset + reg.offset) (wordBytes reg.width value)

/-- The device, the shared memory, and the bytes of `pci_vdev` that lie where
`struct virtio_gpu` has its configuration. -/
structure Shared where
  device : Device
  memory : Memory
  pciVdev : GpuConfig

/-! Side effects of a register write on other fields of the header. -/

def forcedFeatures (deviceFeatureSelect : Nat) : Nat :=
  if deviceFeatureSelect = 1 then 1 <<< 1 ||| 1 <<< 0 else 0

def queueFields : List CommonReg :=
  [.qSize, .qMsix, .qEnable, .qNoff, .qDesclo, .qDeschi, .qAvaillo, .qAvailhi,
    .qUsedlo, .qUsedhi]

def refreshField (device : Device) (memory : Memory) (reg : CommonReg) :
    Memory :=
  setHeaderField memory reg
    (virtioCommonCfgRead device.base device.queues reg.offset reg.width)

def handleSideEffects (device : Device) (memory : Memory) (offset : Nat) :
    Memory :=
  if offset = CommonReg.dfselect.offset then
    setHeaderField memory .df
      (virtioCommonCfgRead device.base device.queues CommonReg.df.offset 4 |||
        forcedFeatures (headerField memory .dfselect))
  else if offset = CommonReg.gfselect.offset then
    refreshField device memory .gf
  else if offset = CommonReg.qSelect.offset then
    queueFields.foldl (refreshField device) memory
  else
    memory

def newValue (memory : Memory) (writeOffset writeSize : Nat) : Nat :=
  if writeSize = 1 ∨ writeSize = 2 ∨ writeSize = 4 then
    memory.loadWord writeOffset writeSize
  else
    0xffffffff

def clearTransaction (memory : Memory) : Memory :=
  memory.store writeTransactionOffset (le32 0)

/-- The callback of the device-specific area is given the `pci_vdev`. -/
def processWriteTransaction (shared : Shared) : Except Fault Shared :=
  if shared.memory.load32 writeTransactionOffset = 0 then
    .ok shared
  else
    let writeOffset := shared.memory.load16 writeTransactionOffset
    let writeSize := shared.memory.load16 writeSizeOffset
    let value := newValue shared.memory writeOffset writeSize
    if commonConfigOffset ≤ writeOffset ∧ writeOffset < configOffset then do
      let offset := writeOffset - commonConfigOffset
      let written ← virtioCommonCfgWrite shared.device offset writeSize value
      return { shared with
        device := written.1
        memory := clearTransaction
          (handleSideEffects written.1 shared.memory offset) }
    else if configOffset ≤ writeOffset then do
      let aliased ← virtioGpuCfgwrite
        { shared.device with cfg := shared.pciVdev }
        (writeOffset - configOffset) writeSize value
      return { shared with
        memory := clearTransaction shared.memory
        pciVdev := aliased.cfg }
    else
      .ok { shared with memory := clearTransaction shared.memory }

/-! The frontend's side: it writes the value in place and posts its offset and
size. -/

structure Transaction where
  offset : Nat
  bytes : List UInt8
  deriving Repr, DecidableEq

/-- Offset and size are `uint16_t`. -/
structure Transaction.Postable (transaction : Transaction) : Prop where
  offset : transaction.offset < 65536
  size : transaction.bytes.length < 65536

def Transaction.post (transaction : Transaction) (memory : Memory) : Memory :=
  (memory.store transaction.offset transaction.bytes).store
    writeTransactionOffset
    (le16 transaction.offset ++ le16 transaction.bytes.length)

def transact (shared : Shared) (transaction : Transaction) :
    Except Fault Shared :=
  processWriteTransaction
    { shared with memory := transaction.post shared.memory }

/-- A write of the right width to a register. -/
def registerWrite (reg : CommonReg) (value : Nat) : Transaction :=
  ⟨commonConfigOffset + reg.offset, wordBytes reg.width value⟩

/-! Initialisation. -/

def GpuConfig.bytes (cfg : GpuConfig) : List UInt8 :=
  le32 cfg.eventsRead ++ le32 cfg.eventsClear ++ le32 cfg.numScanouts ++
    le32 cfg.numCapsets

/-- The identities the header shows, which no register depends on. -/
structure Identity where
  thisId : Nat
  deviceId : Nat
  vendorId : Nat

def backendFlagPresent : Nat := 1

/-- The header ends behind the device's configuration. -/
def headerSize : Nat := configOffset + gpuConfigSize

def initialHeader (identity : Identity) (cfg : GpuConfig) : List UInt8 :=
  le32 1 ++ le32 (configOffset + gpuConfigSize) ++ le32 identity.deviceId ++
    le32 identity.vendorId ++ List.replicate 12 (0 : UInt8) ++
    le32 (identity.thisId <<< 16 ||| backendFlagPresent) ++
    List.replicate 56 (0 : UInt8) ++ cfg.bytes

def vosBackendInit (vmctx : Vmctx) (isBlobSupported : Bool)
    (scanoutNum : Nat) (memory : Memory) (identity : Identity)
    (pciVdev : GpuConfig) : Shared where
  device := virtioGpuInit vmctx isBlobSupported scanoutNum
  memory := memory.store 0 (initialHeader identity
    (virtioGpuInit vmctx isBlobSupported scanoutNum).cfg)
  pciVdev := pciVdev

/-! Fields of the header under stores. -/

@[simp] theorem headerField_setHeaderField (memory : Memory)
    (reg : CommonReg) (value : Nat) :
    headerField (setHeaderField memory reg value) reg =
      value % 256 ^ reg.width :=
  memory.loadWord_store_wordBytes _ _ _

theorem headerField_setHeaderField_of_ne (memory : Memory)
    {reg other : CommonReg} (value : Nat) (different : other ≠ reg) :
    headerField (setHeaderField memory reg value) other =
      headerField memory other := by
  apply Memory.loadWord_store_outside
  have apart := CommonReg.apart different
  rw [length_wordBytes]
  omega

@[simp] theorem headerField_clearTransaction (memory : Memory)
    (reg : CommonReg) :
    headerField (clearTransaction memory) reg = headerField memory reg := by
  apply Memory.loadWord_store_outside
  rw [length_le32]
  unfold writeTransactionOffset commonConfigOffset
  omega

/-! What a posted transaction leaves in the memory. -/

namespace Transaction

variable (transaction : Transaction) (memory : Memory)

theorem post_header :
    transaction.post memory =
      ((memory.store transaction.offset transaction.bytes).store
        writeSizeOffset (le16 transaction.bytes.length)).store
          writeTransactionOffset (le16 transaction.offset) :=
  Memory.store_append _ _ _ _

theorem load_writeOffset :
    (transaction.post memory).load16 writeTransactionOffset =
      transaction.offset % 65536 := by
  rw [post_header, Memory.load16_store_le16]

theorem load_writeSize :
    (transaction.post memory).load16 writeSizeOffset =
      transaction.bytes.length % 65536 := by
  rw [post_header, Memory.load16_store_outside _ (by rw [length_le16]; decide),
    Memory.load16_store_le16]

theorem load_writeTransaction :
    (transaction.post memory).load32 writeTransactionOffset =
      transaction.offset % 65536 +
        65536 * (transaction.bytes.length % 65536) := by
  unfold Memory.load32
  rw [load_writeOffset]
  congr 2
  exact transaction.load_writeSize memory

theorem loadWord_post {address width : Nat}
    (above : writeTransactionOffset + 4 ≤ address) :
    (transaction.post memory).loadWord address width =
      (memory.store transaction.offset transaction.bytes).loadWord address
        width := by
  apply Memory.loadWord_store_outside
  rw [List.length_append, length_le16, length_le16]
  omega

end Transaction

/-! One transaction. -/

/-- The transaction is a write the register accepts. -/
structure Transaction.Targets (transaction : Transaction)
    (reg : CommonReg) : Prop where
  offset : transaction.offset = commonConfigOffset + reg.offset
  size : transaction.bytes.length = reg.width
  writable : reg.readOnly = false

instance (transaction : Transaction) (reg : CommonReg) :
    Decidable (transaction.Targets reg) :=
  decidable_of_iff
    (transaction.offset = commonConfigOffset + reg.offset ∧
      transaction.bytes.length = reg.width ∧ reg.readOnly = false)
    ⟨fun all => ⟨all.1, all.2.1, all.2.2⟩,
      fun targets => ⟨targets.offset, targets.size, targets.writable⟩⟩

theorem registerWrite_targets {reg : CommonReg} (value : Nat)
    (writable : reg.readOnly = false) :
    (registerWrite reg value).Targets reg :=
  ⟨rfl, length_wordBytes _ _, writable⟩

theorem Transaction.Targets.word_lt {transaction : Transaction}
    {reg : CommonReg} (targets : transaction.Targets reg) :
    wordOf transaction.bytes < 256 ^ reg.width := by
  rw [← targets.size]
  exact wordOf_lt _

theorem Transaction.Targets.posted {transaction : Transaction}
    {reg : CommonReg} (targets : transaction.Targets reg) (memory : Memory) :
    headerField (transaction.post memory) reg = wordOf transaction.bytes := by
  unfold headerField
  rw [transaction.loadWord_post memory (by
      unfold writeTransactionOffset commonConfigOffset
      omega), targets.offset, ← targets.size]
  exact memory.loadWord_store _ _

theorem Transaction.Targets.posted_of_ne {transaction : Transaction}
    {reg other : CommonReg} (targets : transaction.Targets reg)
    (different : other ≠ reg) (memory : Memory) :
    headerField (transaction.post memory) other =
      headerField memory other := by
  have apart := CommonReg.apart different
  unfold headerField
  rw [transaction.loadWord_post memory (by
      unfold writeTransactionOffset commonConfigOffset
      omega)]
  apply Memory.loadWord_store_outside
  rw [targets.offset, targets.size]
  omega

/-- The header holds a write that the register accepts. -/
structure Posts (memory : Memory) (reg : CommonReg) : Prop where
  offset : memory.load16 writeTransactionOffset =
    commonConfigOffset + reg.offset
  size : memory.load16 writeSizeOffset = reg.width
  writable : reg.readOnly = false

instance (memory : Memory) (reg : CommonReg) : Decidable (Posts memory reg) :=
  decidable_of_iff
    (memory.load16 writeTransactionOffset = commonConfigOffset + reg.offset ∧
      memory.load16 writeSizeOffset = reg.width ∧ reg.readOnly = false)
    ⟨fun all => ⟨all.1, all.2.1, all.2.2⟩,
      fun posts => ⟨posts.offset, posts.size, posts.writable⟩⟩

theorem processWriteTransaction_register {shared : Shared}
    {reg : CommonReg} (posts : Posts shared.memory reg) :
    processWriteTransaction shared =
      (do
        let written ← writeRegister shared.device
          (headerField shared.memory reg) reg
        return { shared with
          device := written.1
          memory := clearTransaction (handleSideEffects written.1
            shared.memory reg.offset) }) := by
  have pending : ¬shared.memory.load32 writeTransactionOffset = 0 := by
    unfold Memory.load32
    rw [posts.offset]
    unfold commonConfigOffset
    omega
  have inside : commonConfigOffset ≤ commonConfigOffset + reg.offset ∧
      commonConfigOffset + reg.offset < configOffset := by
    have last := reg.end_le
    have positive := reg.width_cases
    unfold commonConfigOffset configOffset
    omega
  have value : newValue shared.memory (commonConfigOffset + reg.offset)
      reg.width = headerField shared.memory reg := by
    unfold newValue
    rw [if_pos reg.width_cases]
    rfl
  unfold processWriteTransaction
  dsimp only
  rw [if_neg pending, posts.offset, posts.size, if_pos inside, value,
    Nat.add_sub_cancel_left, virtioCommonCfgWrite_register _ _ posts.writable]

/-- The header after a write that no register accepts, up to the cleared
transaction. -/
def ignoredMemory (device : Device) (memory : Memory) : Memory :=
  if commonConfigOffset ≤ memory.load16 writeTransactionOffset ∧
      memory.load16 writeTransactionOffset < configOffset then
    handleSideEffects device memory
      (memory.load16 writeTransactionOffset - commonConfigOffset)
  else
    memory

theorem processWriteTransaction_ignored {shared after : Shared}
    (ignored : ∀ reg, ¬Posts shared.memory reg)
    (ran : processWriteTransaction shared = .ok after) :
    after.device = shared.device ∧
      ∀ reg, headerField after.memory reg =
        headerField (ignoredMemory shared.device shared.memory) reg := by
  unfold processWriteTransaction at ran
  dsimp only at ran
  unfold ignoredMemory
  split at ran
  · rename_i idle
    cases ran
    rw [if_neg (by
      unfold Memory.load32 at idle
      unfold commonConfigOffset
      omega)]
    exact ⟨rfl, fun _ => rfl⟩
  · split at ran
    · rename_i inside
      rw [virtioCommonCfgWrite_ignored] at ran
      · cases ran
        rw [if_pos inside]
        exact ⟨rfl, fun reg => headerField_clearTransaction _ reg⟩
      · intro reg same width
        rcases Bool.eq_false_or_eq_true reg.readOnly with fixed | writable
        · exact fixed
        · exact absurd ⟨by omega, width, writable⟩ (ignored reg)
    · rename_i elsewhere
      rw [if_neg elsewhere]
      split at ran
      · obtain ⟨aliased, _, rest⟩ := bind_eq_ok ran
        cases rest
        exact ⟨rfl, fun reg => headerField_clearTransaction _ reg⟩
      · cases ran
        exact ⟨rfl, fun reg => headerField_clearTransaction _ reg⟩

theorem Transaction.Targets.posts {transaction : Transaction}
    {reg : CommonReg} (targets : transaction.Targets reg) (memory : Memory) :
    Posts (transaction.post memory) reg := by
  have last := reg.end_le
  refine ⟨?_, ?_, targets.writable⟩
  · rw [transaction.load_writeOffset, targets.offset, Nat.mod_eq_of_lt]
    unfold commonConfigOffset
    omega
  · rw [transaction.load_writeSize, targets.size, Nat.mod_eq_of_lt]
    omega

theorem Transaction.Postable.targets {transaction : Transaction}
    (postable : transaction.Postable) {memory : Memory} {reg : CommonReg}
    (posts : Posts (transaction.post memory) reg) :
    transaction.Targets reg := by
  refine ⟨?_, ?_, posts.writable⟩
  · rw [← posts.offset, transaction.load_writeOffset,
      Nat.mod_eq_of_lt postable.offset]
  · rw [← posts.size, transaction.load_writeSize,
      Nat.mod_eq_of_lt postable.size]

theorem transact_register {shared : Shared} {transaction : Transaction}
    {reg : CommonReg} (targets : transaction.Targets reg) :
    transact shared transaction =
      (do
        let written ← writeRegister shared.device
          (wordOf transaction.bytes) reg
        return { shared with
          device := written.1
          memory := clearTransaction (handleSideEffects written.1
            (transaction.post shared.memory) reg.offset) }) := by
  unfold transact
  rw [processWriteTransaction_register (targets.posts shared.memory)]
  dsimp only
  rw [targets.posted shared.memory]

theorem transact_ignored {shared after : Shared} {transaction : Transaction}
    (postable : transaction.Postable)
    (ignored : ∀ reg, ¬transaction.Targets reg)
    (ran : transact shared transaction = .ok after) :
    after.device = shared.device ∧
      ∀ reg, headerField after.memory reg =
        headerField (ignoredMemory shared.device
          (transaction.post shared.memory)) reg :=
  processWriteTransaction_ignored
    (fun reg posts => ignored reg (postable.targets posts)) ran

/-! Fields after the side effects. -/

theorem headerField_refreshField (device : Device) (memory : Memory)
    (reg other : CommonReg) :
    headerField (refreshField device memory reg) other =
      if other = reg then
        readRegister device.base device.queues other % 256 ^ other.width
      else headerField memory other := by
  unfold refreshField
  split
  · rename_i same
    subst same
    rw [headerField_setHeaderField, virtioCommonCfgRead_register]
  · rename_i different
    exact headerField_setHeaderField_of_ne memory _ different

theorem headerField_refreshFields (device : Device) (memory : Memory)
    (regs : List CommonReg) (reg : CommonReg) :
    headerField (regs.foldl (refreshField device) memory) reg =
      if reg ∈ regs then
        readRegister device.base device.queues reg % 256 ^ reg.width
      else headerField memory reg := by
  induction regs generalizing memory with
  | nil => simp
  | cons first rest induction =>
      rw [List.foldl_cons, induction, headerField_refreshField]
      by_cases later : reg ∈ rest
      · simp [later]
      · by_cases here : reg = first
        · simp [here]
        · simp [later, here]

/-- The fields that a transaction at this register refreshes. -/
def refreshedBy : CommonReg → List CommonReg
  | .dfselect => [.df]
  | .gfselect => [.gf]
  | .qSelect => queueFields
  | .df | .gf | .msix | .numq | .status | .cfggeneration | .qSize | .qMsix
  | .qEnable | .qNoff | .qDesclo | .qDeschi | .qAvaillo | .qAvailhi
  | .qUsedlo | .qUsedhi => []

theorem headerField_sideEffects_kept (device : Device) (memory : Memory)
    {written reg : CommonReg} (kept : reg ∉ refreshedBy written) :
    headerField (handleSideEffects device memory written.offset) reg =
      headerField memory reg := by
  cases written with
  | dfselect =>
      exact headerField_setHeaderField_of_ne memory _
        (by simpa [refreshedBy] using kept)
  | gfselect =>
      exact headerField_setHeaderField_of_ne memory _
        (by simpa [refreshedBy] using kept)
  | qSelect =>
      refine (headerField_refreshFields device memory queueFields reg).trans ?_
      exact if_neg kept
  | df | gf | msix | numq | status | cfggeneration | qSize | qMsix | qEnable
  | qNoff | qDesclo | qDeschi | qAvaillo | qAvailhi | qUsedlo | qUsedhi =>
      rfl

theorem headerField_sideEffects_df (device : Device) (memory : Memory) :
    headerField (handleSideEffects device memory CommonReg.dfselect.offset)
        .df =
      (readRegister device.base device.queues .df |||
        forcedFeatures (headerField memory .dfselect)) %
          256 ^ CommonReg.df.width := by
  refine (headerField_setHeaderField memory .df _).trans ?_
  rw [← virtioCommonCfgRead_register]
  rfl

theorem headerField_sideEffects_refreshed (device : Device)
    (memory : Memory) {written reg : CommonReg} (other : written ≠ .dfselect)
    (refreshed : reg ∈ refreshedBy written) :
    headerField (handleSideEffects device memory written.offset) reg =
      readRegister device.base device.queues reg % 256 ^ reg.width := by
  cases written with
  | dfselect => exact absurd rfl other
  | gfselect =>
      refine (headerField_refreshField device memory .gf reg).trans ?_
      rw [if_pos (List.mem_singleton.mp refreshed)]
  | qSelect =>
      refine (headerField_refreshFields device memory queueFields reg).trans ?_
      exact if_pos refreshed
  | df | gf | msix | numq | status | cfggeneration | qSize | qMsix | qEnable
  | qNoff | qDesclo | qDeschi | qAvaillo | qAvailhi | qUsedlo | qUsedhi =>
      exact absurd refreshed List.not_mem_nil

theorem handleSideEffects_elsewhere (device : Device) (memory : Memory)
    {offset : Nat} (elsewhere : ∀ reg : CommonReg, offset ≠ reg.offset) :
    handleSideEffects device memory offset = memory := by
  unfold handleSideEffects
  rw [if_neg (elsewhere _), if_neg (elsewhere _), if_neg (elsewhere _)]

end VirtioGpu.Backend
