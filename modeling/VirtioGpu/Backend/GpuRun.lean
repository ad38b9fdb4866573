import VirtioGpu.Backend.Service
import VirtioGpu.Gpu.Holders

namespace VirtioGpu.Backend

open Foundation
open Virtio
open Gpu

/-! The GPU behind the queues along a run of the backend: control commands
change it, resets clear it, and nothing else touches it. -/

/-- The control command the next section of the bottom half serves. -/
def Machine.nextCommand (machine : Machine) : Option Command :=
  match machine.task with
  | .serving .control locals _ n =>
      match loadCommand machine.memory locals n with
      | .error _ => none
      | .ok cmd => some cmd
  | .idle | .testing _ _ | .fetching _ _ | .serving .cursor _ _ _
  | .releasing _ _ _ | .ending _ => none

/-- Every control command served along the run meets `Allowed` in the state
it is served in. -/
def commandsMeet
    (Allowed : Env → GpuState → Command → Memory → Prop) :
    Traced → Label → Prop :=
  fun state label => ∀ env cmd, label = .run env →
    state.machine.nextCommand = some cmd →
      Allowed env state.machine.device.gpu cmd state.machine.memory

inductive GpuStep (before : Machine) (label : Label) (after : GpuState) : Prop
  | kept (same : after = before.device.gpu)
  | command {env : Env} {cmd : Command} (runs : label = .run env)
      (next : before.nextCommand = some cmd)
      (changed : Change env cmd before.memory cmd.address before.device.gpu
        after)
  | reset (cleared : resetGpu before.device.gpu = .ok after)

theorem GpuStep.sameSetup {before : Machine} {label : Label}
    {after : GpuState} (stepped : GpuStep before label after) :
    SameSetup before.device.gpu after := by
  cases stepped with
  | kept same =>
      rw [same]
      exact .refl _
  | command _ _ changed => exact changed.sameSetup
  | reset cleared => exact resetGpu_sameSetup cleared

theorem loadCommand_base {memory : Memory} {locals : Locals} {n : Nat}
    {cmd : Command} (loaded : loadCommand memory locals n = .ok cmd) :
    cmd.base 0 = .ok cmd.address := by
  obtain ⟨address, found, rfl⟩ := loadCommand_eq_ok loaded
  simp only [Command.base, Command.address, found, Option.getD_some]

theorem Section.gpuStep {env : Env} {before after : Machine}
    {events : List Event} (ran : Section env before after events) :
    GpuStep before (.run env) after.device.gpu := by
  cases ran with
  | idle task => exact .kept rfl
  | more task ready => exact .kept rfl
  | done task drained => exact .kept rfl
  | rejected task bad => exact .kept rfl
  | accepted task good => exact .kept rfl
  | served task serves written =>
      refine .command rfl ?_
        (ctrlDispatch_changes _ _ _ _ (loadCommand_base serves.loads) _
          serves.handled).gpu
      simp only [Machine.nextCommand, task, serves.loads]
  | servedCursor task handled =>
      exact .kept (cursorDispatch_gpu _ _ _ _ handled)
  | released task => exact .kept rfl
  | ended task => exact .kept rfl

theorem writeStatus_gpu (device : Device) (value : Nat) :
    Ensures (writeStatus device value) fun after =>
      after.gpu = device.gpu ∨ resetGpu device.gpu = .ok after.gpu := by
  refine .ite (fun _ => ?_) fun _ => .ok (.inl rfl)
  refine .bind fun gpu cleared => .pure (.inr ?_)
  exact cleared

theorem writeStatus_kept (device : Device) {value : Nat}
    (nonzero : value % 256 ≠ 0) :
    Ensures (writeStatus device value) fun after =>
      after.gpu = device.gpu :=
  .ite (fun zero => absurd zero nonzero) fun _ => .ok rfl

/-- Only the status register reaches the device behind the registers. -/
theorem writeRegister_kept (device : Device) (value : Nat) {reg : CommonReg}
    (other : reg ≠ .status) :
    Ensures (writeRegister device value reg) fun written =>
      written.1.gpu = device.gpu := by
  cases reg with
  | status => exact absurd rfl other
  | gf => exact .ite (fun _ => .ok rfl) fun _ => .ok rfl
  | qEnable => exact .ok (enableQueue_frame device).2
  | qSize | qMsix | qDesclo | qDeschi | qAvaillo | qAvailhi | qUsedlo
  | qUsedhi => exact .ok (writeQueue_frame device _).2
  | dfselect | gfselect | msix | qSelect | df | numq | cfggeneration
  | qNoff => exact .ok rfl

theorem writeRegister_gpu (device : Device) (value : Nat) (reg : CommonReg) :
    Ensures (writeRegister device value reg) fun written =>
      written.1.gpu = device.gpu ∨
        resetGpu device.gpu = .ok written.1.gpu := by
  by_cases status : reg = .status
  · subst status
    exact .bind fun after ran => .pure (writeStatus_gpu device value after ran)
  · exact (writeRegister_kept device value status).mono fun _ same => .inl same

theorem virtioCommonCfgWrite_gpu (device : Device) (offset size value : Nat) :
    Ensures (virtioCommonCfgWrite device offset size value) fun written =>
      written.1.gpu = device.gpu ∨
        resetGpu device.gpu = .ok written.1.gpu := by
  intro written ran
  rcases virtioCommonCfgWrite_cases ran with rfl | ⟨reg, _, _, _, wrote⟩
  · exact .inl rfl
  · exact writeRegister_gpu device value reg written wrote

theorem virtioCommonCfgWrite_kept (device : Device) {offset size value : Nat}
    (kept : ¬(offset = CommonReg.status.offset ∧
      size = CommonReg.status.width ∧ value % 256 = 0)) :
    Ensures (virtioCommonCfgWrite device offset size value) fun written =>
      written.1.gpu = device.gpu := by
  intro written ran
  rcases virtioCommonCfgWrite_cases ran with rfl | ⟨reg, _, named, wide, wrote⟩
  · rfl
  · by_cases status : reg = .status
    · subst status
      obtain ⟨after, stored, rest⟩ := bind_eq_ok wrote
      cases rest
      exact writeStatus_kept device (fun zero => kept ⟨named, wide, zero⟩) after
        stored
    · exact writeRegister_kept device value status written wrote

theorem virtioDeviceCfgWrite_gpu (device : Device) (offset size value : Nat) :
    Ensures (virtioDeviceCfgWrite device offset size value) fun after =>
      after.gpu = device.gpu := by
  refine .ite (fun _ => .ok rfl) fun _ => ?_
  refine .ite (fun _ => ?_) fun _ => .ok rfl
  exact .ite (fun _ => .error) fun _ => .ok rfl

theorem startBh_gpu (machine : Machine) (queue : Queue) (iov : Nat → IoVec)
    (flags : Nat → Nat) :
    (startBh machine queue iov flags).device.gpu = machine.device.gpu := by
  unfold startBh
  cases machine.task with
  | idle => rfl
  | testing _ _ | fetching _ _ | serving _ _ _ _ | releasing _ _ _
  | ending _ => rfl

theorem machineStep_gpu {before after : Machine} {label : Label}
    {events : List Event}
    (stepped : machineStep before label = .ok (after, events)) :
    GpuStep before label after.device.gpu := by
  cases label with
  | guest memory =>
      cases stepped
      exact .kept rfl
  | commonWrite offset size value =>
      obtain ⟨written, ran, rest⟩ := bind_eq_ok stepped
      cases rest
      rcases virtioCommonCfgWrite_gpu _ _ _ _ written ran with same | cleared
      · exact .kept same
      · exact .reset cleared
  | deviceWrite offset size value =>
      obtain ⟨device, ran, rest⟩ := bind_eq_ok stepped
      cases rest
      exact .kept (virtioDeviceCfgWrite_gpu _ _ _ _ device ran)
  | hotplug =>
      cases stepped
      exact .kept rfl
  | start queue iov flags =>
      cases stepped
      exact .kept (startBh_gpu before queue iov flags)
  | run env => exact (bhStep_section stepped).gpuStep

/-- A section that serves a control command ends with the device its handler
leaves. -/
theorem Section.dispatched {env : Env} {before after : Machine}
    {events : List Event} {cmd : Command}
    (ran : Section env before after events)
    (next : before.nextCommand = some cmd) :
    ∃ reply, ctrlDispatch env before.device.gpu cmd before.memory =
        .ok reply ∧ after.device.gpu = reply.gpu := by
  cases ran with
  | idle task | more task _ | done task _ | rejected task _ | accepted task _
  | servedCursor task _ | released task | ended task =>
      simp only [Machine.nextCommand, task, reduceCtorEq] at next
  | @served _ _ _ service _ task serves written =>
      simp only [Machine.nextCommand, task, serves.loads] at next
      cases next
      exact ⟨service.reply, serves.handled, rfl⟩

theorem Section.unserved {env : Env} {before after : Machine}
    {events : List Event} (ran : Section env before after events)
    (next : before.nextCommand = none) :
    after.device.gpu = before.device.gpu := by
  cases ran with
  | idle task | more task _ | done task _ | rejected task _ | accepted task _
  | released task | ended task => rfl
  | servedCursor task handled => exact cursorDispatch_gpu _ _ _ _ handled
  | served task serves written =>
      simp only [Machine.nextCommand, task, serves.loads, reduceCtorEq] at next

theorem nextCommand_base {machine : Machine} {cmd : Command}
    (next : machine.nextCommand = some cmd) :
    cmd.base 0 = .ok cmd.address := by
  unfold Machine.nextCommand at next
  split at next
  · split at next
    · cases next
    · rename_i loaded
      cases next
      exact loadCommand_base loaded
  all_goals cases next

/-- What holds of a fresh device and survives allowed commands and resets
holds of the device throughout every run. -/
theorem reached_gpu_invariant (Holds : GpuState → Prop)
    {Allowed : Env → GpuState → Command → Memory → Prop}
    (starts : ∀ vmctx isBlobSupported scanoutNum, scanoutNum ≤ vdpyMaxNum →
      Holds (initialGpu vmctx isBlobSupported scanoutNum))
    (changes : ∀ env cmd memory before after, Holds before →
      env.Fresh before → Allowed env before cmd memory →
        Change env cmd memory cmd.address before after → Holds after)
    (resets : ∀ before after, Holds before → resetGpu before = .ok after →
      Holds after)
    {state : Traced} (reached : backend.ReachedWhere (commandsMeet Allowed)
      state) : Holds state.machine.device.gpu := by
  refine reached.invariant (fun state => Holds state.machine.device.gpu) ?_ ?_
  · rintro state ⟨vmctx, isBlobSupported, scanoutNum, memory, _, few, rfl⟩
    exact starts vmctx isBlobSupported scanoutNum few
  · rintro before label after holds permitted
      ⟨sound, machine, events, stepped, rfl⟩
    cases machineStep_gpu stepped with
    | kept same =>
        rw [show (Traced.mk machine _).machine = machine from rfl, same]
        exact holds
    | command runs next changed =>
        subst runs
        exact changes _ _ _ _ _ holds sound (permitted _ _ rfl next) changed
    | reset cleared => exact resets _ _ holds cleared

/-- The same, said of the dispatcher itself. -/
theorem reached_gpu_handled (Holds : GpuState → Prop)
    (starts : ∀ vmctx isBlobSupported scanoutNum,
      Holds (initialGpu vmctx isBlobSupported scanoutNum))
    (handles : ∀ env cmd memory before reply, Holds before →
      env.Fresh before → cmd.base 0 = .ok cmd.address →
        ctrlDispatch env before cmd memory = .ok reply → Holds reply.gpu)
    (resets : ∀ before after, Holds before → resetGpu before = .ok after →
      Holds after)
    {state : Traced} (reached : backend.Reached state) :
    Holds state.machine.device.gpu := by
  refine reached.invariant (fun state => Holds state.machine.device.gpu) ?_ ?_
  · rintro state ⟨vmctx, isBlobSupported, scanoutNum, memory, _, _, rfl⟩
    exact starts vmctx isBlobSupported scanoutNum
  · rintro before label after holds ⟨sound, machine, events, stepped, rfl⟩
    cases machineStep_gpu stepped with
    | kept same =>
        rw [show (Traced.mk machine _).machine = machine from rfl, same]
        exact holds
    | command runs next changed =>
        subst runs
        obtain ⟨reply, handled, same⟩ :=
          (bhStep_section stepped).dispatched next
        rw [show (Traced.mk machine _).machine = machine from rfl, same]
        exact handles _ _ _ _ reply holds sound (nextCommand_base next)
          handled
    | reset cleared => exact resets _ _ holds cleared

/-- A write of 0 to the status register. -/
def Label.Resets : Label → Prop
  | .commonWrite offset size value =>
      offset = CommonReg.status.offset ∧ size = CommonReg.status.width ∧
        sizedValue size value % 256 = 0
  | .guest _ | .deviceWrite _ _ _ | .hotplug | .start _ _ _ | .run _ => False

/-- A step that does not reset the device leaves it alone or dispatches a
command. -/
theorem machineStep_dispatched {before after : Machine} {label : Label}
    {events : List Event}
    (stepped : machineStep before label = .ok (after, events))
    (kept : ¬label.Resets) :
    after.device.gpu = before.device.gpu ∨
      ∃ env cmd reply, label = .run env ∧ before.nextCommand = some cmd ∧
        ctrlDispatch env before.device.gpu cmd before.memory = .ok reply ∧
          after.device.gpu = reply.gpu := by
  cases label with
  | guest memory =>
      cases stepped
      exact .inl rfl
  | commonWrite offset size value =>
      obtain ⟨written, ran, rest⟩ := bind_eq_ok stepped
      cases rest
      exact .inl (virtioCommonCfgWrite_kept _ kept written ran)
  | deviceWrite offset size value =>
      obtain ⟨device, ran, rest⟩ := bind_eq_ok stepped
      cases rest
      exact .inl (virtioDeviceCfgWrite_gpu _ _ _ _ device ran)
  | hotplug =>
      cases stepped
      exact .inl rfl
  | start queue iov flags =>
      cases stepped
      exact .inl (startBh_gpu before queue iov flags)
  | run env =>
      have ran := bhStep_section stepped
      cases next : before.nextCommand with
      | none => exact .inl (ran.unserved next)
      | some cmd =>
          obtain ⟨reply, handled, same⟩ := ran.dispatched next
          exact .inr ⟨env, cmd, reply, rfl, rfl, handled, same⟩

/-! Runs of requests. -/

/-- A decidable form of `commandsMeet`. -/
def checkCommands (allowed : Env → GpuState → Command → Memory → Bool)
    (state : Traced) : Label → Bool
  | .run env =>
      match state.machine.nextCommand with
      | none => true
      | some cmd =>
          allowed env state.machine.device.gpu cmd state.machine.memory
  | .guest _ | .commonWrite _ _ _ | .deviceWrite _ _ _ | .hotplug
  | .start _ _ _ => true

theorem commandsMeet_of_check
    {allowed : Env → GpuState → Command → Memory → Bool}
    {Allowed : Env → GpuState → Command → Memory → Prop}
    (permits : ∀ env gpu cmd memory, allowed env gpu cmd memory = true →
      Allowed env gpu cmd memory) (state : Traced) (label : Label)
    (checked : checkCommands allowed state label = true) :
    commandsMeet Allowed state label := by
  rintro env cmd rfl next
  unfold checkCommands at checked
  rw [next] at checked
  exact permits _ _ _ _ checked

/-- A request with the given type and fields. -/
def request (command : CtrlCmd) (fields : List UInt8) : List UInt8 :=
  (CtrlHdr.mk command.code 0 0 0 0).bytes ++ fields

def createRequest (resourceId width height : Nat) : List UInt8 :=
  request .resourceCreate2d
    (le32 resourceId ++ le32 1 ++ le32 width ++ le32 height)

def showRequest (resourceId width height : Nat) : List UInt8 :=
  request .setScanout (le32 0 ++ le32 0 ++ le32 width ++ le32 height ++
    le32 0 ++ le32 resourceId)

def transferRequest (resourceId width height : Nat) : List UInt8 :=
  request .transferToHost2d (le32 0 ++ le32 0 ++ le32 width ++ le32 height ++
    le64 0 ++ le32 resourceId ++ le32 0)

def flushRequest (resourceId width height : Nat) : List UInt8 :=
  request .resourceFlush (le32 0 ++ le32 0 ++ le32 width ++ le32 height ++
    le32 resourceId ++ le32 0)

/-- Guest memory with one chain for the `position`-th turn of a ring of two:
a request at 256 and a response descriptor at 512. -/
def requestMemory (position : Nat) (bytes : List UInt8) : Memory :=
  ((Memory.zero.store 64
    ((VringDesc.mk 256 bytes.length vringDescFNext 1).bytes ++
      (VringDesc.mk 512 24 vringDescFWrite 0).bytes)).store 128
    (le16 0 ++ le16 (position + 1))).store 256 bytes

/-- The driver publishes one request after the other, and the bottom half
serves each of them. -/
def requestLabels : Nat → List (List UInt8) → List Label
  | _, [] => []
  | position, bytes :: rest =>
      .guest (requestMemory position bytes) ::
        (callBh (Env.steady position) .control 3 ++
          List.replicate 3 (.run (Env.steady (position + 1))) ++
          requestLabels (position + 1) rest)

/-- A device with blob support and two scanouts that serves the requests. -/
def serveRequests (allowed : Env → GpuState → Command → Memory → Bool)
    (requests : List (List UInt8)) : Option Traced :=
  runWhere (checkCommands allowed)
    ⟨initialMachine ⟨65536, 5⟩ true 2 Memory.zero, []⟩
    (setUpQueue .control 2 64 128 160 ++ requestLabels 0 requests)

theorem exists_serveRequests
    {allowed : Env → GpuState → Command → Memory → Bool}
    {Allowed : Env → GpuState → Command → Memory → Prop}
    {requests : List (List UInt8)} {check : Traced → Bool}
    (permits : ∀ env gpu cmd memory, allowed env gpu cmd memory = true →
      Allowed env gpu cmd memory)
    (checked : (serveRequests allowed requests).any check = true) :
    ∃ state, backend.ReachedWhere (commandsMeet Allowed) state ∧
      check state = true := by
  refine exists_reachedWhere (commandsMeet_of_check permits) ?_ checked
  exact ⟨_, true, 2, _, fun _ => rfl, by decide, rfl⟩

end VirtioGpu.Backend
