import VirtioGpu.Backend.Device
import VirtioGpu.Foundation.Ensures
import VirtioGpu.Foundation.Transition

namespace VirtioGpu.Backend

open Foundation
open Virtio
open Gpu

/-! `virtio_gpu_ctrl_bh` and `virtio_gpu_cursor_bh`, run by the display thread
one section at a time, so that the driver can act in between. -/

def virtioGpuMaxsegs : Nat := 256

/-- The stack of a bottom half that survives from one chain to the next. -/
structure Locals where
  iov : Nat → IoVec
  flags : Nat → Nat
  iolen : Nat

/-- Where the display thread stands. -/
inductive Task where
  | idle
  | testing (queue : Queue) (locals : Locals)
  | fetching (queue : Queue) (locals : Locals)
  | serving (queue : Queue) (locals : Locals) (idx n : Nat)
  | releasing (queue : Queue) (locals : Locals) (idx : Nat)
  | ending (queue : Queue)

structure Machine where
  device : Device
  memory : Memory
  task : Task

/-! What the sections of a bottom half did, kept for the statements about
runs. -/

structure Fetch where
  queue : Queue
  vq : VqInfo
  walk : WalkContext
  deviceCaps : Nat
  result : ChainResult

structure Service where
  env : Env
  gpu : GpuState
  memory : Memory
  cmd : Command
  flags : Nat → Nat
  reply : Reply

inductive Event where
  | mapped (calls : List Translation)
  | fetched (fetch : Fetch)
  | served (service : Service)
  | servedCursor (gpu : GpuState) (memory : Memory) (cmd : Command)
      (reply : CursorReply)
  | released (queue : Queue) (idx iolen : Nat)
  | ended (queue : Queue) (interrupt : Bool)

/-! The sections. -/

def Queue.keepsFlags : Queue → Bool
  | .control => true
  | .cursor => false

def fetchWalk (machine : Machine) (queue : Queue) : WalkContext where
  ctx := machine.device.gpu.vmctx
  memory := machine.memory
  nIov := virtioGpuMaxsegs
  keepFlags := Queue.keepsFlags queue

def fetchOf (machine : Machine) (queue : Queue) (locals : Locals) : Fetch where
  queue := queue
  vq := machine.device.queues queue
  walk := fetchWalk machine queue
  deviceCaps := machine.device.base.deviceCaps
  result := vqGetchain (fetchWalk machine queue) machine.device.base.deviceCaps
    (machine.device.queues queue) 0 locals.iov locals.flags

/-- A result of at most zero returns from the bottom half. -/
def fetchChain (machine : Machine) (queue : Queue) (locals : Locals) :
    Machine × List Event :=
  let fetch := fetchOf machine queue locals
  let result := fetch.result
  let device := machine.device.setQueue queue result.vq
  let task :=
    if result.ret ≤ 0 then
      .idle
    else
      .serving queue
        { locals with iov := result.chain.iov, flags := result.chain.flags }
        result.idx result.ret.toNat
  ({ machine with device := device, task := task }, [.fetched fetch])

def loadCommand (memory : Memory) (locals : Locals) (n : Nat) :
    Except Fault Command :=
  match (locals.iov 0).base with
  | none => .error .nullPointer
  | some address =>
      .ok
        { hdr := CtrlHdr.load memory address
          iov := locals.iov
          iovcnt := n
          iolen := locals.iolen }

def writeResponse (memory : Memory) (cmd : Command) (reply : Reply) :
    Except Fault Memory := do
  let address ← cmd.base reply.slot
  return memory.store address reply.resp.bytes

def serveControl (env : Env) (machine : Machine) (locals : Locals)
    (idx n : Nat) : Except Fault (Machine × List Event) := do
  let gpu := machine.device.gpu
  let cmd ← loadCommand machine.memory locals n
  let reply ← ctrlDispatch env gpu cmd machine.memory
  let memory ← writeResponse machine.memory cmd reply
  return (
    { device := { machine.device with gpu := reply.gpu }
      memory := memory
      task := .releasing .control { locals with iolen := reply.iolen } idx },
    [.served ⟨env, gpu, machine.memory, cmd, locals.flags, reply⟩])

def serveCursor (machine : Machine) (locals : Locals) (idx n : Nat) :
    Except Fault (Machine × List Event) := do
  let gpu := machine.device.gpu
  let cmd ← loadCommand machine.memory locals n
  let reply ← cursorDispatch gpu cmd machine.memory
  return (
    { machine with
      device := { machine.device with gpu := reply.gpu }
      task := .releasing .cursor locals idx },
    [.servedCursor gpu machine.memory cmd reply])

def releaseChain (machine : Machine) (queue : Queue) (locals : Locals)
    (idx : Nat) : Machine × List Event :=
  ({ machine with
      memory := vqRelchain (machine.device.queues queue) machine.memory idx
        locals.iolen
      task := .testing queue locals },
    [.released queue idx locals.iolen])

def endChains (machine : Machine) (queue : Queue) : Machine × List Event :=
  let ended := vqEndchains (machine.device.queues queue) machine.memory
    machine.device.base.negotiatedCaps true
  ({ machine with
      device := machine.device.setQueue queue ended.1
      task := .idle },
    [.ended queue ended.2])

/-- The next section of the running bottom half. -/
def bhStep (env : Env) (machine : Machine) :
    Except Fault (Machine × List Event) :=
  match machine.task with
  | .idle => .ok (machine, [])
  | .testing queue locals =>
      if vqHasDescs (machine.device.queues queue) machine.memory then
        .ok ({ machine with task := .fetching queue locals }, [])
      else
        .ok ({ machine with task := .ending queue }, [])
  | .fetching queue locals => .ok (fetchChain machine queue locals)
  | .serving .control locals idx n => serveControl env machine locals idx n
  | .serving .cursor locals idx n => serveCursor machine locals idx n
  | .releasing queue locals idx => .ok (releaseChain machine queue locals idx)
  | .ending queue => .ok (endChains machine queue)

/-- The display thread enters a bottom half; the arrays hold what the stack
held before. -/
def startBh (machine : Machine) (queue : Queue) (iov : Nat → IoVec)
    (flags : Nat → Nat) : Machine :=
  match machine.task with
  | .idle => { machine with task := .testing queue ⟨iov, flags, 0⟩ }
  | _ => machine

/-! The whole backend: the driver writes guest memory and registers, the
display is plugged in, and the display thread runs. -/

inductive Label where
  | guest (memory : Memory)
  | commonWrite (offset size value : Nat)
  | deviceWrite (offset size value : Nat)
  | hotplug
  | start (queue : Queue) (iov : Nat → IoVec) (flags : Nat → Nat)
  | run (env : Env)

/-- The value of a register write has the width of the access. -/
def sizedValue (size value : Nat) : Nat := value % 2 ^ (8 * size)

def machineStep (machine : Machine) :
    Label → Except Fault (Machine × List Event)
  | .guest memory => .ok ({ machine with memory := memory }, [])
  | .commonWrite offset size value => do
      let written ← virtioCommonCfgWrite machine.device offset size
        (sizedValue size value)
      return ({ machine with device := written.1 }, [.mapped written.2])
  | .deviceWrite offset size value => do
      let device ← virtioDeviceCfgWrite machine.device offset size
        (sizedValue size value)
      return ({ machine with device := device }, [])
  | .hotplug =>
      .ok ({ machine with device := trigerHotplug machine.device }, [])
  | .start queue iov flags => .ok (startBh machine queue iov flags, [])
  | .run env => bhStep env machine

/-- The allocator and the kernel keep their promises while a section runs. -/
def Label.Sound (machine : Machine) : Label → Prop
  | .run env => env.Fresh machine.device.gpu
  | _ => True

/-- A machine with the events of its run so far. -/
structure Traced where
  machine : Machine
  events : List Event

def initialMachine (vmctx : Vmctx) (isBlobSupported : Bool) (scanoutNum : Nat)
    (memory : Memory) : Machine where
  device := virtioGpuInit vmctx isBlobSupported scanoutNum
  memory := memory
  task := .idle

def backend : TransitionSystem Traced Label where
  initial := fun state => ∃ vmctx isBlobSupported scanoutNum memory,
    (isBlobSupported = true → vmAllowDmabuf vmctx = true) ∧
      scanoutNum ≤ vdpyMaxNum ∧
      state =
        ⟨initialMachine vmctx isBlobSupported scanoutNum memory, []⟩
  step := fun before label after => label.Sound before.machine ∧
    ∃ machine events, machineStep before.machine label = .ok (machine, events) ∧
      after = ⟨machine, before.events ++ events⟩

/-! Running a list of labels. -/

/-- The register writes by which a driver sets up a queue below 4 GiB. -/
def setUpQueue (queue : Queue) (qsize desc avail used : Nat) : List Label :=
  [.commonWrite CommonReg.qSelect.offset 2 queue.index,
    .commonWrite CommonReg.qSize.offset 2 qsize,
    .commonWrite CommonReg.qDesclo.offset 4 desc,
    .commonWrite CommonReg.qAvaillo.offset 4 avail,
    .commonWrite CommonReg.qUsedlo.offset 4 used,
    .commonWrite CommonReg.qEnable.offset 2 1]

/-- A call of a bottom half from a cleared stack, for `sections` sections. -/
def callBh (env : Env) (queue : Queue) (sections : Nat) : List Label :=
  .start queue (fun _ => ⟨none, 0⟩) (fun _ => 0) ::
    List.replicate sections (.run env)

instance (machine : Machine) (label : Label) :
    Decidable (label.Sound machine) :=
  match label with
  | .run env => inferInstanceAs (Decidable (env.Fresh machine.device.gpu))
  | .guest _ | .commonWrite _ _ _ | .deviceWrite _ _ _ | .hotplug
  | .start _ _ _ => inferInstanceAs (Decidable True)

/-- `none` when a label is not possible where it stands. -/
def runLabels (state : Traced) : List Label → Option Traced
  | [] => some state
  | label :: rest =>
      if label.Sound state.machine then
        match machineStep state.machine label with
        | .error _ => none
        | .ok (machine, events) =>
            runLabels ⟨machine, state.events ++ events⟩ rest
      else
        none

theorem reached_of_runLabels {labels : List Label} {before after : Traced}
    (reached : backend.Reached before)
    (ran : runLabels before labels = some after) : backend.Reached after := by
  induction labels generalizing before with
  | nil =>
      cases ran
      exact reached
  | cons label rest induction =>
      unfold runLabels at ran
      split at ran
      · cases stepped : machineStep before.machine label with
        | error fault =>
            rw [stepped] at ran
            cases ran
        | ok result =>
            rw [stepped] at ran
            have sound : label.Sound before.machine := ‹_›
            exact induction
              (.step reached trivial ⟨sound, _, _, stepped, rfl⟩) ran
      · cases ran

/-- A run that ends in a state with a decidable property reaches one. -/
theorem exists_reached {before : Traced} {labels : List Label}
    {check : Traced → Bool} (starts : backend.initial before)
    (checked : (runLabels before labels).any check = true) :
    ∃ state, backend.Reached state ∧ check state = true := by
  cases ran : runLabels before labels with
  | none =>
      rw [ran] at checked
      cases checked
  | some after =>
      rw [ran] at checked
      exact ⟨after, reached_of_runLabels (.initial starts) ran, checked⟩

/-! Running a list of allowed labels. -/

/-- `runLabels`, stopping at a label that is not allowed. -/
def runWhere (allowed : Traced → Label → Bool) (state : Traced) :
    List Label → Option Traced
  | [] => some state
  | label :: rest =>
      if allowed state label then
        (runLabels state [label]).bind fun next => runWhere allowed next rest
      else
        none

theorem runLabels_singleton {before after : Traced} {label : Label}
    (ran : runLabels before [label] = some after) :
    backend.step before label after := by
  unfold runLabels at ran
  split at ran
  · cases stepped : machineStep before.machine label with
    | error fault =>
        rw [stepped] at ran
        cases ran
    | ok result =>
        rw [stepped] at ran
        cases ran
        exact ⟨‹_›, _, _, stepped, rfl⟩
  · cases ran

theorem reachedWhere_of_runWhere {allowed : Traced → Label → Bool}
    {Allowed : Traced → Label → Prop} {labels : List Label}
    {before after : Traced}
    (permits : ∀ state label, allowed state label = true →
      Allowed state label)
    (reached : backend.ReachedWhere Allowed before)
    (ran : runWhere allowed before labels = some after) :
    backend.ReachedWhere Allowed after := by
  induction labels generalizing before with
  | nil =>
      cases ran
      exact reached
  | cons label rest induction =>
      unfold runWhere at ran
      split at ran
      · obtain ⟨next, first, ran⟩ := Option.bind_eq_some_iff.mp ran
        have permitted : allowed before label = true := ‹_›
        exact induction (.step reached (permits before label permitted)
          (runLabels_singleton first)) ran
      · cases ran

theorem exists_reachedWhere {allowed : Traced → Label → Bool}
    {Allowed : Traced → Label → Prop} {labels : List Label}
    {before : Traced} {check : Traced → Bool}
    (permits : ∀ state label, allowed state label = true →
      Allowed state label)
    (starts : backend.initial before)
    (checked : (runWhere allowed before labels).any check = true) :
    ∃ state, backend.ReachedWhere Allowed state ∧ check state = true := by
  cases ran : runWhere allowed before labels with
  | none =>
      rw [ran] at checked
      cases checked
  | some after =>
      rw [ran] at checked
      exact ⟨after, reachedWhere_of_runWhere permits (.initial starts) ran,
        checked⟩

end VirtioGpu.Backend
