import VirtioGpu.Backend.Header
import VirtioGpu.Backend.QueueEnable
import Mathlib.Data.List.Induction

namespace VirtioGpu.Backend

open Foundation
open Virtio
open Gpu

/-! The queue registers, written and read through the header. -/

def writableQueueRegisters : List CommonReg :=
  [.qSelect, .qSize, .qMsix, .qEnable, .qDesclo, .qDeschi, .qAvaillo,
    .qAvailhi, .qUsedlo, .qUsedhi]

/-- A correctly sized write to a queue register. -/
structure QueueWrite where
  reg : CommonReg
  value : Nat
  listed : reg ∈ writableQueueRegisters
  sized : value < 256 ^ reg.width

def QueueWrite.transaction (write : QueueWrite) : Transaction :=
  registerWrite write.reg write.value

/-- Runs of such writes, with their history. -/
structure QueueRun where
  shared : Shared
  history : List QueueWrite

def queueFile : TransitionSystem QueueRun QueueWrite where
  initial := fun run => ∃ vmctx isBlobSupported scanoutNum memory identity
    pciVdev, run =
      ⟨vosBackendInit vmctx isBlobSupported scanoutNum memory identity pciVdev,
        []⟩
  step := fun before write after =>
    transact before.shared write.transaction = .ok after.shared ∧
      after.history = before.history ++ [write]

/-- The rings of a queue translate whenever it is enabled. -/
def EnablesTranslate (run : QueueRun) (write : QueueWrite) : Prop :=
  write.reg = .qEnable → ∀ queue,
    Queue.ofIndex run.shared.device.base.curq = some queue →
    RingsTranslate run.shared.device.gpu.vmctx
      (run.shared.device.queues queue)

/-! What a history says about a queue number. -/

/-- The queue selected so far, and the writes made while `q` was selected. -/
def observe (q : Nat) (seen : Nat × List QueueWrite) (write : QueueWrite) :
    Nat × List QueueWrite :=
  if write.reg = .qSelect then (write.value, seen.2)
  else if seen.1 = q then (seen.1, seen.2 ++ [write])
  else seen

def seenBy (q : Nat) (history : List QueueWrite) : Nat × List QueueWrite :=
  history.foldl (observe q) (0, [])

def lastWritten (reg : CommonReg) (writes : List QueueWrite) : Option Nat :=
  writes.foldl (fun last write =>
    if write.reg = reg then some write.value else last) none

/-- The queue registers of a fresh device. -/
def initialField : CommonReg → Nat
  | .qSize => virtioGpuRingsz
  | .qMsix => virtioMsiNoVector
  | _ => 0

def fieldOf (writes : List QueueWrite) (reg : CommonReg) : Nat :=
  if reg = .qEnable then
    if (lastWritten .qEnable writes).isSome then 1 else 0
  else
    (lastWritten reg writes).getD (initialField reg)

/-- The field the frontend expects after it selects `q`. -/
def expectedField (q : Nat) (history : List QueueWrite) (reg : CommonReg) :
    Nat :=
  if reg = .qNoff then q
  else if q < virtioGpuQnum then fieldOf (seenBy q history).2 reg
  else absentField reg

theorem lastWritten_append (reg : CommonReg) (writes : List QueueWrite)
    (write : QueueWrite) :
    lastWritten reg (writes ++ [write]) =
      if write.reg = reg then some write.value else lastWritten reg writes := by
  simp [lastWritten]

theorem seenBy_append (q : Nat) (history : List QueueWrite)
    (write : QueueWrite) :
    seenBy q (history ++ [write]) = observe q (seenBy q history) write := by
  simp [seenBy]

theorem fieldOf_append_of_ne {reg : CommonReg} {write : QueueWrite}
    (writes : List QueueWrite) (other : write.reg ≠ reg) :
    fieldOf (writes ++ [write]) reg = fieldOf writes reg := by
  unfold fieldOf
  split
  · rename_i enable
    subst enable
    rw [lastWritten_append, if_neg other]
  · rw [lastWritten_append, if_neg other]

theorem fieldOf_append_self {write : QueueWrite} (writes : List QueueWrite)
    (other : write.reg ≠ .qEnable) :
    fieldOf (writes ++ [write]) write.reg = write.value := by
  unfold fieldOf
  rw [if_neg other, lastWritten_append, if_pos rfl, Option.getD_some]

theorem fieldOf_append_enable {write : QueueWrite} (writes : List QueueWrite)
    (enables : write.reg = .qEnable) :
    fieldOf (writes ++ [write]) .qEnable = 1 := by
  unfold fieldOf
  rw [if_pos rfl, lastWritten_append, if_pos enables]
  rfl

theorem fieldOf_lt (writes : List QueueWrite) (reg : CommonReg) :
    fieldOf writes reg < 256 ^ reg.width := by
  induction writes using List.reverseRecOn with
  | nil => cases reg <;> decide
  | append_singleton writes write induction =>
      by_cases same : write.reg = reg
      · subst same
        by_cases enables : write.reg = .qEnable
        · have one := fieldOf_append_enable writes enables
          rw [enables, one]
          decide
        · rw [fieldOf_append_self writes enables]
          exact write.sized
      · rw [fieldOf_append_of_ne writes same]
        exact induction

/-! One write. -/

/-- The queue fields after a write, for a write to something else than
`Q_SELECT`. -/
structure FieldsWritten (before after : Device) (write : QueueWrite) :
    Prop where
  base : after.base = before.base
  vmctx : after.gpu.vmctx = before.gpu.vmctx
  kept : ∀ queue reg, before.base.curq ≠ queue.index ∨ write.reg ≠ reg →
    queueField (after.queues queue) reg = queueField (before.queues queue) reg
  written : ∀ queue, before.base.curq = queue.index →
    queueField (after.queues queue) write.reg =
      if write.reg = .qEnable then
        if RingsTranslate before.gpu.vmctx (before.queues queue) ∨
          (before.queues queue).enabled = true then 1 else 0
      else write.value

theorem FieldsWritten.of_writeQueue {device : Device} {write : QueueWrite}
    (apply : VqInfo → VqInfo) (other : write.reg ≠ .qEnable)
    (kept : ∀ vq reg, write.reg ≠ reg →
      queueField (apply vq) reg = queueField vq reg)
    (written : ∀ vq, queueField (apply vq) write.reg = write.value) :
    FieldsWritten device (writeQueue device apply) write := by
  have frame := writeQueue_frame device apply
  refine ⟨frame.1, by rw [frame.2], ?_, ?_⟩
  · intro queue reg spared
    by_cases selected : device.base.curq = queue.index
    · rw [writeQueue_selected apply (Queue.ofIndex_eq_some_iff.mpr selected)]
      rcases spared with elsewhere | different
      · exact absurd selected elsewhere
      · exact kept _ reg different
    · rw [writeQueue_unselected apply
        (fun same => selected (Queue.ofIndex_eq_some_iff.mp same))]
  · intro queue selected
    rw [writeQueue_selected apply (Queue.ofIndex_eq_some_iff.mpr selected),
      if_neg other]
    exact written _

theorem virtioVqEnable_field (ctx : Vmctx) (vq : VqInfo) :
    queueField (virtioVqEnable ctx vq).1 .qEnable =
      if RingsTranslate ctx vq ∨ vq.enabled = true then 1 else 0 := by
  have enabling := virtioVqEnable_enabling ctx vq
  generalize (virtioVqEnable ctx vq).1 = after at enabling
  unfold RingsTranslate queueField
  cases enabling with
  | noDesc desc => simp [desc]
  | noAvail desc avail => simp [avail]
  | noUsed desc avail used => simp [used]
  | done desc avail used => simp [desc, avail, used]

theorem virtioVqEnable_field_of_ne (ctx : Vmctx) (vq : VqInfo)
    {reg : CommonReg} (other : reg ≠ .qEnable) :
    queueField (virtioVqEnable ctx vq).1 reg = queueField vq reg := by
  have enabling := virtioVqEnable_enabling ctx vq
  generalize (virtioVqEnable ctx vq).1 = after at enabling
  cases enabling with
  | noDesc _ | noAvail _ _ | noUsed _ _ _ => cases reg <;> rfl
  | done _ _ _ =>
      cases reg with
      | qEnable => exact absurd rfl other
      | _ => rfl

theorem FieldsWritten.of_enableQueue {device : Device} {write : QueueWrite}
    (enables : write.reg = .qEnable) :
    FieldsWritten device (enableQueue device).1 write := by
  have frame := enableQueue_frame device
  refine ⟨frame.1, by rw [frame.2], ?_, ?_⟩
  · intro queue reg spared
    by_cases selected : Queue.ofIndex device.base.curq = some queue
    · rw [enableQueue_selected selected]
      rcases spared with elsewhere | different
      · exact absurd (Queue.ofIndex_eq_some_iff.mp selected) elsewhere
      · rw [enables] at different
        exact virtioVqEnable_field_of_ne _ _ (Ne.symm different)
    · rw [enableQueue_unselected selected]
  · intro queue here
    have selected := Queue.ofIndex_eq_some_iff.mpr here
    rw [if_pos enables, enables, enableQueue_selected selected]
    exact virtioVqEnable_field _ _

theorem QueueWrite.writable (write : QueueWrite) :
    write.reg.readOnly = false := by
  have all : ∀ reg, reg ∈ writableQueueRegisters →
      reg.readOnly = false := by decide
  exact all write.reg write.listed

theorem QueueWrite.word (write : QueueWrite) :
    wordOf write.transaction.bytes = write.value := by
  show wordOf (wordBytes write.reg.width write.value) = write.value
  rw [wordOf_wordBytes, Nat.mod_eq_of_lt write.sized]

theorem writeRegister_queueWrite {device : Device} {write : QueueWrite}
    (other : write.reg ≠ .qSelect) :
    Ensures (writeRegister device write.value write.reg) fun written =>
      FieldsWritten device written.1 write := by
  obtain ⟨reg, value, listed, sized⟩ := write
  cases reg with
  | qEnable => exact .ok (.of_enableQueue rfl)
  | qSize | qMsix =>
      have small : value % 65536 = value := Nat.mod_eq_of_lt sized
      refine .ok ?_
      dsimp only
      apply FieldsWritten.of_writeQueue
      · nofun
      · intro vq reg different
        cases reg <;> first | rfl | exact absurd rfl different
      · exact fun vq => small
  | qDesclo | qDeschi | qAvaillo | qAvailhi | qUsedlo | qUsedhi =>
      have small : value % 4294967296 = value := Nat.mod_eq_of_lt sized
      refine .ok ?_
      dsimp only
      apply FieldsWritten.of_writeQueue
      · nofun
      · intro vq reg different
        cases reg <;> first | rfl | exact absurd rfl different
      · exact fun vq => small
  | qSelect => exact absurd rfl other
  | dfselect | df | gfselect | gf | msix | numq | status | cfggeneration
  | qNoff => exact absurd listed (by decide)

/-- No write to a queue register fails. -/
theorem transact_queueWrite (shared : Shared) (write : QueueWrite) :
    ∃ after, transact shared write.transaction = .ok after := by
  have targets : write.transaction.Targets write.reg :=
    registerWrite_targets write.value write.writable
  rw [transact_register targets, write.word]
  obtain ⟨reg, value, listed, sized⟩ := write
  cases reg with
  | qSelect | qSize | qMsix | qEnable | qDesclo | qDeschi | qAvaillo
  | qAvailhi | qUsedlo | qUsedhi => exact ⟨_, rfl⟩
  | dfselect | df | gfselect | gf | msix | numq | status | cfggeneration
  | qNoff => exact absurd listed (by decide)

theorem transact_queueWrite_device {shared after : Shared}
    {write : QueueWrite}
    (ran : transact shared write.transaction = .ok after) :
    ∃ calls, writeRegister shared.device write.value write.reg =
      .ok (after.device, calls) := by
  have targets : write.transaction.Targets write.reg :=
    registerWrite_targets write.value write.writable
  rw [transact_register targets, write.word] at ran
  obtain ⟨written, wrote, rest⟩ := bind_eq_ok ran
  cases rest
  exact ⟨written.2, wrote⟩

/-! Runs. -/

structure FileHolds (run : QueueRun) : Prop where
  selected : ∀ q, run.shared.device.base.curq = (seenBy q run.history).1
  fields : ∀ queue reg,
    queueField (run.shared.device.queues queue) reg =
      fieldOf (seenBy queue.index run.history).2 reg

theorem FileHolds.select {before after : QueueRun} {write : QueueWrite}
    (holds : FileHolds before) (selects : write.reg = .qSelect)
    (stepped : queueFile.step before write after) : FileHolds after := by
  obtain ⟨ran, history⟩ := stepped
  obtain ⟨calls, wrote⟩ := transact_queueWrite_device ran
  rw [selects] at wrote
  have device : after.shared.device = { before.shared.device with
      base := { before.shared.device.base with curq := write.value } } := by
    exact (congrArg Prod.fst (Except.ok.inj wrote)).symm
  have seen : ∀ q, seenBy q after.history =
      (write.value, (seenBy q before.history).2) := by
    intro q
    rw [history, seenBy_append, observe, if_pos selects]
  constructor
  · intro q
    rw [device, seen]
  · intro queue reg
    rw [device, seen]
    exact holds.fields queue reg

theorem FileHolds.write {before after : QueueRun} {write : QueueWrite}
    (holds : FileHolds before) (other : write.reg ≠ .qSelect)
    (translates : EnablesTranslate before write)
    (stepped : queueFile.step before write after) : FileHolds after := by
  obtain ⟨ran, history⟩ := stepped
  obtain ⟨calls, wrote⟩ := transact_queueWrite_device ran
  have written := writeRegister_queueWrite other _ wrote
  constructor
  · intro q
    rw [history, seenBy_append, observe, if_neg other, written.base,
      holds.selected q]
    split <;> rfl
  · intro queue reg
    rw [history, seenBy_append, observe, if_neg other]
    by_cases here : before.shared.device.base.curq = queue.index
    · rw [if_pos ((holds.selected queue.index).symm.trans here)]
      by_cases same : write.reg = reg
      · subst same
        rw [written.written queue here]
        split
        · rename_i enables
          have ready := translates enables queue
            (Queue.ofIndex_eq_some_iff.mpr here)
          rw [if_pos (.inl ready), enables]
          exact (fieldOf_append_enable _ enables).symm
        · rename_i plain
          exact (fieldOf_append_self _ plain).symm
      · rw [written.kept queue reg (.inr same), holds.fields queue reg]
        exact (fieldOf_append_of_ne _ same).symm
    · rw [if_neg (fun same => here ((holds.selected queue.index).trans same)),
        written.kept queue reg (.inl here)]
      exact holds.fields queue reg

theorem reached_fileHolds {run : QueueRun}
    (reached : queueFile.ReachedWhere EnablesTranslate run) :
    FileHolds run := by
  refine reached.invariant FileHolds ?_ ?_
  · rintro run ⟨vmctx, isBlobSupported, scanoutNum, memory, identity, pciVdev,
      rfl⟩
    refine ⟨fun q => rfl, fun queue reg => ?_⟩
    cases reg <;> rfl
  · intro before write after holds translates stepped
    by_cases selects : write.reg = .qSelect
    · exact holds.select selects stepped
    · exact holds.write selects translates stepped

theorem absentField_lt (reg : CommonReg) :
    absentField reg < 256 ^ reg.width := by
  cases reg <;> decide

/-- What `Q_SELECT` reads from the queues. -/
theorem readRegister_queue (base : VirtioBase) (queues : Queue → VqInfo)
    {reg : CommonReg} (listed : reg ∈ queueFields) (other : reg ≠ .qNoff) :
    readRegister base queues reg = selectedField base.curq queues reg := by
  cases reg with
  | qNoff => exact absurd rfl other
  | qSize | qMsix | qEnable | qDesclo | qDeschi | qAvaillo | qAvailhi
  | qUsedlo | qUsedhi => rfl
  | dfselect | df | gfselect | gf | msix | numq | status | cfggeneration
  | qSelect => exact absurd listed (by decide)

theorem FileHolds.reads {run : QueueRun} (holds : FileHolds run)
    {q : Nat} {base : VirtioBase} (selected : base.curq = q)
    {reg : CommonReg} (listed : reg ∈ queueFields) :
    readRegister base run.shared.device.queues reg =
      expectedField q run.history reg := by
  subst selected
  unfold expectedField
  split
  · rename_i offset
    subst offset
    rfl
  · rename_i other
    rw [readRegister_queue _ _ listed other]
    unfold selectedField
    cases found : Queue.ofIndex base.curq with
    | none =>
        have far : ¬base.curq < virtioGpuQnum := by
          unfold Queue.ofIndex at found
          unfold virtioGpuQnum
          split at found
          · cases found
          · split at found
            · cases found
            · omega
        rw [if_neg far]
    | some queue =>
        have index := Queue.ofIndex_eq_some_iff.mp found
        have near : base.curq < virtioGpuQnum := by
          rw [index]
          cases queue <;> decide
        rw [if_pos near, index]
        exact holds.fields queue reg

theorem expectedField_lt {q : Nat} (small : q < 65536)
    (history : List QueueWrite) {reg : CommonReg} :
    expectedField q history reg < 256 ^ reg.width := by
  unfold expectedField
  split
  · rename_i offset
    subst offset
    exact small
  · split
    · exact fieldOf_lt _ reg
    · exact absentField_lt reg

/-- After any run of queue register writes, selecting a queue shows the values
last written to it. -/
theorem queueFile_readBack {run : QueueRun}
    (reached : queueFile.ReachedWhere EnablesTranslate run) :
    (∀ write : QueueWrite, ∃ after,
      transact run.shared write.transaction = .ok after) ∧
    ∀ q, q < 65536 → ∃ after,
      transact run.shared (registerWrite .qSelect q) = .ok after ∧
        ∀ reg, reg ∈ queueFields →
          headerField after.memory reg = expectedField q run.history reg := by
  have holds := reached_fileHolds reached
  refine ⟨transact_queueWrite run.shared, fun q small => ?_⟩
  have targets : (registerWrite .qSelect q).Targets .qSelect :=
    registerWrite_targets q rfl
  have word : wordOf (registerWrite .qSelect q).bytes = q := by
    show wordOf (wordBytes 2 q) = q
    rw [wordOf_wordBytes]
    exact Nat.mod_eq_of_lt small
  refine ⟨_, by rw [transact_register targets, word]; rfl, ?_⟩
  intro reg listed
  have refreshed : reg ∈ refreshedBy .qSelect := listed
  rw [headerField_clearTransaction,
    headerField_sideEffects_refreshed _ _ (by decide) refreshed]
  have read := @FileHolds.reads run holds q
    { run.shared.device.base with curq := q } rfl reg listed
  refine (congrArg (· % 256 ^ reg.width) read).trans ?_
  exact Nat.mod_eq_of_lt (expectedField_lt small run.history)

/-! A concrete run. -/

instance (run : QueueRun) (write : QueueWrite) :
    Decidable (EnablesTranslate run write) :=
  decidable_of_iff
    (write.reg = .qEnable → ∀ queue, queue ∈ [Queue.control, .cursor] →
      Queue.ofIndex run.shared.device.base.curq = some queue →
      RingsTranslate run.shared.device.gpu.vmctx
        (run.shared.device.queues queue))
    ⟨fun all enables queue => all enables queue (by cases queue <;> simp),
      fun translates enables queue _ => translates enables queue⟩

def runQueueWrites (run : QueueRun) : List QueueWrite → Option QueueRun
  | [] => some run
  | write :: rest =>
      if EnablesTranslate run write then
        match transact run.shared write.transaction with
        | .error _ => none
        | .ok shared => runQueueWrites ⟨shared, run.history ++ [write]⟩ rest
      else
        none

theorem reached_of_runQueueWrites {before after : QueueRun}
    {writes : List QueueWrite}
    (reached : queueFile.ReachedWhere EnablesTranslate before)
    (ran : runQueueWrites before writes = some after) :
    queueFile.ReachedWhere EnablesTranslate after := by
  induction writes generalizing before with
  | nil =>
      cases ran
      exact reached
  | cons write rest induction =>
      unfold runQueueWrites at ran
      split at ran
      · rename_i translates
        cases wrote : transact before.shared write.transaction with
        | error fault =>
            rw [wrote] at ran
            cases ran
        | ok shared =>
            rw [wrote] at ran
            exact induction (.step reached translates ⟨wrote, rfl⟩) ran
      · cases ran

/-- The cursor queue is set up and enabled, then others are selected. -/
def cursorWrites : List QueueWrite :=
  [⟨.qSelect, 1, by decide, by decide⟩, ⟨.qSize, 32, by decide, by decide⟩,
    ⟨.qDesclo, 256, by decide, by decide⟩,
    ⟨.qAvaillo, 1024, by decide, by decide⟩,
    ⟨.qUsedlo, 2048, by decide, by decide⟩,
    ⟨.qEnable, 1, by decide, by decide⟩,
    ⟨.qSelect, 5, by decide, by decide⟩, ⟨.qSize, 7, by decide, by decide⟩,
    ⟨.qSelect, 0, by decide, by decide⟩, ⟨.qMsix, 3, by decide, by decide⟩]

theorem cursor_readBack :
    ∃ run, queueFile.ReachedWhere EnablesTranslate run ∧
      ∃ after,
        transact run.shared (registerWrite .qSelect 1) = .ok after ∧
          headerField after.memory .qSize = 32 ∧
          headerField after.memory .qMsix = virtioMsiNoVector ∧
          headerField after.memory .qEnable = 1 ∧
          headerField after.memory .qUsedlo = 2048 := by
  obtain ⟨run, ran, history⟩ :=
    (Option.any_eq_true _ _).mp
      (show (runQueueWrites
          ⟨vosBackendInit ⟨4096, 0⟩ false 1 Memory.zero ⟨0, 0, 0⟩
            ⟨0, 0, 0, 0⟩, []⟩ cursorWrites).any
            (fun run => decide (run.history.length = 10) &&
              decide (expectedField 1 run.history .qSize = 32) &&
              decide (expectedField 1 run.history .qMsix =
                virtioMsiNoVector) &&
              decide (expectedField 1 run.history .qEnable = 1) &&
              decide (expectedField 1 run.history .qUsedlo = 2048)) = true
        by decide +kernel)
  simp only [Bool.and_eq_true, decide_eq_true_eq] at history
  obtain ⟨⟨⟨⟨_, size⟩, msix⟩, enable⟩, used⟩ := history
  have reached := reached_of_runQueueWrites
    (.initial ⟨⟨4096, 0⟩, false, 1, Memory.zero, ⟨0, 0, 0⟩, ⟨0, 0, 0, 0⟩, rfl⟩)
    ran
  obtain ⟨after, selected, fields⟩ :=
    (queueFile_readBack reached).2 1 (by decide)
  exact ⟨run, reached, after, selected,
    (fields .qSize (by decide)).trans size,
    (fields .qMsix (by decide)).trans msix,
    (fields .qEnable (by decide)).trans enable,
    (fields .qUsedlo (by decide)).trans used⟩

end VirtioGpu.Backend
