import VirtioGpu.Backend.Doorbell

namespace VirtioGpu.Backend

open Foundation
open Virtio
open Gpu

/-! The doorbells that tell the frontend of used buffers and of a changed
configuration, with the vectors they carry. -/

inductive Source where
  | queueEvent (queue : Queue)
  | configEvent
  deriving Repr, DecidableEq

def Source.vector (device : Device) : Source → Nat
  | .queueEvent queue => (device.queues queue).msixIdx
  | .configEvent => device.base.msixCfgIdx

/-- The word `shmem_notify_peer` writes to the doorbell register, where
`peer_id` is an `int`. -/
def shmemNotifyPeer (peerId : Int) (vector : Nat) : Nat :=
  (peerId * 65536 % 4294967296).toNat ||| vector

/-- A write to the doorbell register, with the vector the driver had assigned
and the frontend that had announced itself by then. -/
structure MsixWrite where
  source : Source
  value : Nat
  assigned : Nat
  frontend : Option Nat
  deriving Repr, DecidableEq

/-- `assigned` remembers the vector last written for each source, `frontend`
the id that the frontend announced. -/
structure Signalling where
  shared : Shared
  task : Task
  peerId : Int
  assigned : Source → Nat
  frontend : Option Nat
  msixWrites : List MsixWrite

def configEventOffset : Nat := 20

def frontendFlagsOffset : Nat := 24

def frontendIdOffset : Nat := 26

def Signalling.store (state : Signalling) (address : Nat)
    (bytes : List UInt8) : Signalling :=
  { state with shared := { state.shared with
      memory := state.shared.memory.store address bytes } }

def notifyPeer (state : Signalling) (source : Source) (vector : Nat) :
    Signalling :=
  { state with msixWrites := state.msixWrites ++
      [⟨source, shmemNotifyPeer state.peerId vector, state.assigned source,
        state.frontend⟩] }

def pciGenerateMsixConfig (state : Signalling) (index : Nat) : Signalling :=
  notifyPeer ((state.store configEventOffset [1]).store configOffset [1])
    .configEvent index

/-- Called by `vq_interrupt`. -/
def pciGenerateMsix (state : Signalling) (queue : Queue) : Signalling :=
  notifyPeer (state.store queueEventOffset [1]) (.queueEvent queue)
    (state.shared.device.queues queue).msixIdx

/-- `virtio_gpu_triger_hotplug`, with the doorbell of
`virtio_config_changed`. -/
def signalHotplug (state : Signalling) : Signalling :=
  let changed := { state with shared := { state.shared with
    device := trigerHotplug state.shared.device } }
  if state.shared.device.base.status &&& virtioConfigSDriverOk = 0 then
    changed
  else
    pciGenerateMsixConfig changed changed.shared.device.base.msixCfgIdx

def assignedAfter (shared : Shared) (assigned : Source → Nat)
    (source : Source) : Nat :=
  if Posts shared.memory .status ∧ headerField shared.memory .status = 0 then
    virtioMsiNoVector
  else
    match source with
    | .configEvent =>
        if Posts shared.memory .msix then headerField shared.memory .msix
        else assigned source
    | .queueEvent queue =>
        if Posts shared.memory .qMsix ∧
            Queue.ofIndex shared.device.base.curq = some queue then
          headerField shared.memory .qMsix
        else
          assigned source

/-- The id a frontend announces in the header. -/
def announcedId (memory : Memory) : Option Nat :=
  if memory.load16 frontendFlagsOffset ≠ 0 then
    some (memory.load16 frontendIdOffset)
  else
    none

/-- `handle_requests` up to `process_queue`, which lets bottom halves start. -/
def handleRequests (state : Signalling) : Except Fault Signalling := do
  let peerId :=
    if state.peerId = -1 ∧
        state.shared.memory.load16 frontendFlagsOffset ≠ 0 then
      (state.shared.memory.load16 frontendIdOffset : Int)
    else
      state.peerId
  let shared ← processWriteTransaction state.shared
  return { state with
    shared := shared
    peerId := peerId
    assigned := assignedAfter state.shared state.assigned
    frontend := state.frontend.or (announcedId state.shared.memory) }

def interruptsOf (events : List Event) : List Queue :=
  events.filterMap fun event =>
    match event with
    | .ended queue true => some queue
    | _ => none

/-- The next section of the bottom half that the display thread runs. -/
def displaySection (env : Env) (state : Signalling) :
    Except Fault Signalling := do
  let ran ← bhStep env
    ⟨state.shared.device, state.shared.memory, state.task⟩
  return (interruptsOf ran.2).foldl pciGenerateMsix { state with
    shared := { state.shared with
      device := ran.1.device
      memory := ran.1.memory }
    task := ran.1.task }

inductive Signal where
  | guest (memory : Memory)
  | request
  | hotplug
  | start (queue : Queue) (iov : Nat → IoVec) (flags : Nat → Nat)
  | run (env : Env)

def signalStep (state : Signalling) : Signal → Except Fault Signalling
  | .guest memory =>
      .ok { state with shared := { state.shared with memory := memory } }
  | .request => handleRequests state
  | .hotplug => .ok (signalHotplug state)
  | .start queue iov flags =>
      .ok { state with task := (startBh
        ⟨state.shared.device, state.shared.memory, state.task⟩ queue iov
          flags).task }
  | .run env => displaySection env state

def signalling : TransitionSystem Signalling Signal where
  initial := fun state => ∃ vmctx isBlobSupported scanoutNum memory identity
    pciVdev, state =
      { shared := vosBackendInit vmctx isBlobSupported scanoutNum memory
          identity pciVdev
        task := .idle
        peerId := -1
        assigned := fun _ => virtioMsiNoVector
        frontend := none
        msixWrites := [] }
  step := fun before label after => signalStep before label = .ok after

/-! What a doorbell should carry. -/

/-- The vector is assigned and the frontend is known. -/
def Signalling.Notifies (state : Signalling) (source : Source) : Prop :=
  state.assigned source ≠ virtioMsiNoVector ∧ state.frontend ≠ none

structure MsixWrite.Right (msixWrite : MsixWrite) : Prop where
  vector : msixWrite.value % 65536 = msixWrite.assigned
  frontend : msixWrite.frontend = some (msixWrite.value / 65536)
  assigned : msixWrite.assigned ≠ virtioMsiNoVector

/-- Every doorbell was right, and the register of the configuration vector
reads back what the driver wrote. -/
structure Signalling.Delivered (state : Signalling) : Prop where
  writes : ∀ msixWrite, msixWrite ∈ state.msixWrites → msixWrite.Right
  readBack : virtioCommonCfgRead state.shared.device.base
    state.shared.device.queues CommonReg.msix.offset CommonReg.msix.width =
      state.assigned .configEvent

/-- The configuration changes for a running driver only while the vector it
assigned is 0 and the frontend is known; a queue completes with news only while
its vector is assigned and the frontend is known. -/
def Delivers (state : Signalling) : Signal → Prop
  | .hotplug =>
      state.shared.device.base.status &&& virtioConfigSDriverOk ≠ 0 →
        state.assigned .configEvent = 0 ∧ state.frontend ≠ none
  | .run _ => ∀ queue, state.task = .ending queue →
      ¬QuietEnd (state.shared.device.queues queue) state.shared.memory
        state.shared.device.base.negotiatedCaps →
      state.Notifies (.queueEvent queue)
  | .guest _ | .request | .start _ _ _ => True

/-! Register writes and vectors. -/

def writtenVector (device : Device) (value : Nat) (reg : CommonReg)
    (source : Source) : Nat :=
  match reg, source with
  | .status, source =>
      if value % 256 = 0 then virtioMsiNoVector else source.vector device
  | .msix, .configEvent => value % 65536
  | .qMsix, .queueEvent queue =>
      if Queue.ofIndex device.base.curq = some queue then value % 65536
      else source.vector device
  | _, source => source.vector device

theorem virtioVqEnable_msixIdx (vmctx : Vmctx) (vq : VqInfo) :
    (virtioVqEnable vmctx vq).1.msixIdx = vq.msixIdx := by
  have enabling := virtioVqEnable_enabling vmctx vq
  generalize (virtioVqEnable vmctx vq).1 = after at enabling ⊢
  cases enabling with
  | noDesc | noAvail | noUsed | done => rfl

theorem enableQueue_vector (device : Device) (source : Source) :
    source.vector (enableQueue device).1 = source.vector device := by
  cases source with
  | configEvent =>
      exact congrArg VirtioBase.msixCfgIdx (enableQueue_frame device).1
  | queueEvent queue =>
      show ((enableQueue device).1.queues queue).msixIdx = _
      by_cases selected : Queue.ofIndex device.base.curq = some queue
      · rw [enableQueue_selected selected]
        exact virtioVqEnable_msixIdx _ _
      · rw [enableQueue_unselected selected]
        rfl

theorem writeQueue_vector (device : Device) {write : VqInfo → VqInfo}
    (keeps : ∀ vq, (write vq).msixIdx = vq.msixIdx) (source : Source) :
    source.vector (writeQueue device write) = source.vector device := by
  cases source with
  | configEvent =>
      show (writeQueue device write).base.msixCfgIdx = _
      rw [(writeQueue_frame device _).1]
      rfl
  | queueEvent queue =>
      show ((writeQueue device write).queues queue).msixIdx = _
      by_cases selected : Queue.ofIndex device.base.curq = some queue
      · rw [writeQueue_selected _ selected]
        exact keeps _
      · rw [writeQueue_unselected _ selected]
        rfl

theorem negotiate_msixCfgIdx (base : VirtioBase) (value : Nat) :
    (negotiate base value).msixCfgIdx = base.msixCfgIdx := by
  unfold negotiate virtioGpuNegFeatures
  split
  · rfl
  · rfl

theorem writeStatus_vector {device after : Device} {value : Nat}
    (ran : writeStatus device value = .ok after) (source : Source) :
    source.vector after =
      if value % 256 = 0 then virtioMsiNoVector
      else source.vector device := by
  unfold writeStatus virtioGpuSetStatus at ran
  dsimp only at ran
  split at ran
  · rename_i zero
    obtain ⟨gpu, _, rest⟩ := bind_eq_ok ran
    cases rest
    rw [if_pos zero]
    cases source with
    | configEvent | queueEvent queue => rfl
  · rename_i nonzero
    cases ran
    rw [if_neg nonzero]
    cases source with
    | configEvent | queueEvent queue => rfl

theorem writeRegister_vector {device : Device} {value : Nat}
    {reg : CommonReg} (source : Source) :
    Ensures (writeRegister device value reg) fun written =>
      source.vector written.1 = writtenVector device value reg source := by
  cases reg with
  | dfselect | gfselect | qSelect | df | numq | cfggeneration | qNoff =>
      cases source with
      | configEvent | queueEvent queue => exact .ok rfl
  | gf =>
      refine .ite (fun _ => .ok rfl) fun _ => .ok ?_
      cases source with
      | configEvent => exact negotiate_msixCfgIdx device.base value
      | queueEvent queue => rfl
  | msix =>
      cases source with
      | configEvent | queueEvent queue => exact .ok rfl
  | status =>
      refine .bind fun after ran => .pure ?_
      exact writeStatus_vector ran source
  | qEnable =>
      refine .ok ((enableQueue_vector device source).trans ?_)
      cases source with
      | configEvent | queueEvent queue => rfl
  | qMsix =>
      refine .ok ?_
      cases source with
      | configEvent =>
          show (writeQueue device _).base.msixCfgIdx = _
          rw [(writeQueue_frame device _).1]
          rfl
      | queueEvent queue =>
          show ((writeQueue device _).queues queue).msixIdx =
            if Queue.ofIndex device.base.curq = some queue then value % 65536
            else (device.queues queue).msixIdx
          by_cases selected : Queue.ofIndex device.base.curq = some queue
          · rw [writeQueue_selected _ selected, if_pos selected]
          · rw [writeQueue_unselected _ selected, if_neg selected]
  | qSize | qDesclo | qDeschi | qAvaillo | qAvailhi | qUsedlo | qUsedhi =>
      refine .ok ?_
      trans source.vector device
      · apply writeQueue_vector
        intro vq
        rfl
      · cases source with
        | configEvent | queueEvent queue => rfl

theorem Posts.iff {memory : Memory} {reg : CommonReg}
    (posts : Posts memory reg) (other : CommonReg) :
    Posts memory other ↔ other = reg := by
  constructor
  · exact fun same => (posts.unique same).symm
  · rintro rfl
    exact posts

theorem assignedAfter_posts {shared : Shared} {assigned : Source → Nat}
    (recorded : ∀ source, source.vector shared.device = assigned source)
    {reg : CommonReg} (posts : Posts shared.memory reg) (source : Source) :
    assignedAfter shared assigned source =
      writtenVector shared.device (headerField shared.memory reg) reg
        source := by
  have status : headerField shared.memory .status % 256 =
      headerField shared.memory .status :=
    Nat.mod_eq_of_lt (shared.memory.loadWord_lt _ _)
  have msix : headerField shared.memory .msix % 65536 =
      headerField shared.memory .msix :=
    Nat.mod_eq_of_lt (shared.memory.loadWord_lt _ _)
  have qMsix : headerField shared.memory .qMsix % 65536 =
      headerField shared.memory .qMsix :=
    Nat.mod_eq_of_lt (shared.memory.loadWord_lt _ _)
  unfold assignedAfter
  simp only [posts.iff]
  cases reg with
  | status | msix | qMsix | dfselect | df | gfselect | gf | numq
  | cfggeneration | qSelect | qSize | qEnable | qNoff | qDesclo | qDeschi
  | qAvaillo | qAvailhi | qUsedlo | qUsedhi =>
      cases source with
      | configEvent | queueEvent queue =>
          simp [writtenVector, status, msix, qMsix, recorded]

theorem processWriteTransaction_vector {shared after : Shared}
    {assigned : Source → Nat}
    (recorded : ∀ source, source.vector shared.device = assigned source)
    (ran : processWriteTransaction shared = .ok after) (source : Source) :
    source.vector after.device = assignedAfter shared assigned source := by
  by_cases posted : ∃ reg, Posts shared.memory reg
  · obtain ⟨reg, posts⟩ := posted
    rw [processWriteTransaction_register posts] at ran
    obtain ⟨written, wrote, rest⟩ := bind_eq_ok ran
    cases rest
    exact (writeRegister_vector source written wrote).trans
      (assignedAfter_posts recorded posts source).symm
  · have ignored := not_exists.mp posted
    rw [(processWriteTransaction_ignored ignored ran).1]
    unfold assignedAfter
    simp only [ignored, false_and, if_false]
    cases source with
    | configEvent | queueEvent queue => exact recorded _

/-! Sections of a bottom half and vectors. -/

theorem Section.base {env : Env} {before after : Machine}
    {events : List Event} (ran : Section env before after events) :
    after.device.base = before.device.base := by
  cases ran with
  | idle | more | done | rejected | accepted | served | servedCursor
  | released | ended => rfl

theorem QueueStep.run_msixIdx {machine : Machine} {queue : Queue} {env : Env}
    {vq : VqInfo} (stepped : QueueStep machine queue (.run env) vq) :
    vq.msixIdx = (machine.device.queues queue).msixIdx := by
  cases stepped with
  | kept | fetched | ended => rfl

theorem Section.vector {env : Env} {before after : Machine}
    {events : List Event} (ran : Section env before after events)
    (source : Source) :
    source.vector after.device = source.vector before.device := by
  cases source with
  | configEvent => exact congrArg VirtioBase.msixCfgIdx ran.base
  | queueEvent queue => exact (ran.queueStep queue).run_msixIdx

/-- Only a completion with news interrupts. -/
theorem bhStep_interrupts {env : Env} {machine next : Machine}
    {events : List Event} (stepped : bhStep env machine = .ok (next, events)) :
    interruptsOf events = [] ∧
        (∀ queue, machine.task = .ending queue →
          QuietEnd (machine.device.queues queue) machine.memory
            machine.device.base.negotiatedCaps) ∨
      ∃ queue, machine.task = .ending queue ∧ interruptsOf events = [queue] ∧
        ¬QuietEnd (machine.device.queues queue) machine.memory
          machine.device.base.negotiatedCaps := by
  by_cases ending : ∃ queue, machine.task = .ending queue
  · obtain ⟨queue, task⟩ := ending
    unfold bhStep at stepped
    rw [task] at stepped
    cases stepped
    by_cases quiet : QuietEnd (machine.device.queues queue) machine.memory
        machine.device.base.negotiatedCaps
    · refine .inl ⟨?_, fun other same => ?_⟩
      · simp [interruptsOf, vqEndchains_quiet_iff.mpr quiet]
      · rw [task] at same
        cases same
        exact quiet
    · refine .inr ⟨queue, task, ?_, quiet⟩
      have interrupts := mt vqEndchains_quiet_iff.mp quiet
      rw [Bool.not_eq_false] at interrupts
      simp [interruptsOf, interrupts]
  · refine .inl ⟨?_, fun queue task => absurd ⟨queue, task⟩ ending⟩
    have ran := bhStep_section stepped
    cases ran with
    | idle | more | done | rejected | accepted | served | servedCursor
    | released => rfl
    | ended task => exact absurd ⟨_, task⟩ ending

/-! Runs. -/

structure VectorsRecorded (state : Signalling) : Prop where
  vectors : ∀ source,
    source.vector state.shared.device = state.assigned source
  small : ∀ source, state.assigned source < 65536
  peer : state.peerId = (state.frontend.map fun id => (id : Int)).getD (-1)
  id : ∀ id, state.frontend = some id → id < 65536

theorem shmemNotifyPeer_known {id vector : Nat} (id_lt : id < 65536)
    (vector_lt : vector < 65536) :
    shmemNotifyPeer id vector = 65536 * id + vector := by
  have shifted : ((id : Int) * 65536 % 4294967296).toNat = 2 ^ 16 * id := by
    omega
  unfold shmemNotifyPeer
  rw [shifted]
  exact (@Nat.two_pow_add_eq_or_of_lt 16 _ vector_lt id).symm

namespace VectorsRecorded

variable {state : Signalling}

/-- A doorbell is right just when it carries the assigned vector of a source
that can be told. -/
theorem right_iff (recorded : VectorsRecorded state) {source : Source}
    {vector : Nat} (vector_lt : vector < 65536) :
    (MsixWrite.mk source (shmemNotifyPeer state.peerId vector)
        (state.assigned source) state.frontend).Right ↔
      vector = state.assigned source ∧ state.Notifies source := by
  have peer := recorded.peer
  unfold Signalling.Notifies
  cases known : state.frontend with
  | none =>
      constructor
      · intro right
        cases right.frontend
      · rintro ⟨_, _, unknown⟩
        exact absurd rfl unknown
  | some id =>
      have id_lt := recorded.id id known
      rw [known] at peer
      have value : shmemNotifyPeer state.peerId vector =
          65536 * id + vector := by
        rw [peer]
        exact shmemNotifyPeer_known id_lt vector_lt
      rw [value]
      constructor
      · intro right
        have vectors := right.vector
        dsimp only at vectors
        exact ⟨by omega, right.assigned, Option.some_ne_none id⟩
      · rintro ⟨rfl, assigned, _⟩
        refine ⟨?_, ?_, assigned⟩
        · show (65536 * id + state.assigned source) % 65536 =
            state.assigned source
          have small := recorded.small source
          omega
        · show some id = some ((65536 * id + _) / 65536)
          congr 1
          omega

theorem readBack (recorded : VectorsRecorded state) :
    virtioCommonCfgRead state.shared.device.base state.shared.device.queues
        CommonReg.msix.offset CommonReg.msix.width =
      state.assigned .configEvent := by
  rw [virtioCommonCfgRead_register]
  exact recorded.vectors .configEvent

theorem kept_by_handleRequests {after : Signalling}
    (recorded : VectorsRecorded state)
    (ran : handleRequests state = .ok after) : VectorsRecorded after := by
  obtain ⟨shared, processed, rest⟩ := bind_eq_ok ran
  cases rest
  refine ⟨fun source => ?_, fun source => ?_, ?_, ?_⟩
  · exact processWriteTransaction_vector recorded.vectors processed source
  · have status := state.shared.memory.loadWord_lt
    show assignedAfter state.shared state.assigned source < 65536
    unfold assignedAfter
    split
    · decide
    · have old := recorded.small source
      cases source with
      | configEvent =>
          dsimp only
          split
          · exact state.shared.memory.loadWord_lt _ 2
          · exact old
      | queueEvent queue =>
          dsimp only
          split
          · exact state.shared.memory.loadWord_lt _ 2
          · exact old
  · have peer := recorded.peer
    have small := state.shared.memory.load16_lt frontendIdOffset
    dsimp only
    unfold announcedId
    cases known : state.frontend with
    | none =>
        rw [known] at peer
        by_cases flags : state.shared.memory.load16 frontendFlagsOffset = 0
        · simp [peer, flags]
        · simp [peer, flags]
    | some id =>
        rw [known] at peer
        simp [peer]
  · intro id known
    have fresh := state.shared.memory.load16_lt frontendIdOffset
    dsimp only at known
    rcases Option.or_eq_some_iff.mp known with old | ⟨_, new⟩
    · exact recorded.id id old
    · unfold announcedId at new
      split at new
      · cases new
        exact fresh
      · cases new

theorem kept_by_pciGenerateMsix (recorded : VectorsRecorded state)
    (queue : Queue) :
    VectorsRecorded (pciGenerateMsix state queue) :=
  ⟨recorded.vectors, recorded.small, recorded.peer, recorded.id⟩

theorem kept_by_displaySection {env : Env} {after : Signalling}
    (recorded : VectorsRecorded state)
    (ran : displaySection env state = .ok after) : VectorsRecorded after := by
  obtain ⟨⟨next, events⟩, stepped, rest⟩ := bind_eq_ok ran
  cases rest
  have vectors := (bhStep_section stepped).vector
  have moved : VectorsRecorded { state with
      shared := { state.shared with
        device := next.device
        memory := next.memory }
      task := next.task } :=
    ⟨fun source => (vectors source).trans (recorded.vectors source),
      recorded.small, recorded.peer, recorded.id⟩
  dsimp only
  rcases bhStep_interrupts stepped with ⟨nothing, _⟩ | ⟨queue, _, one, _⟩
  · rw [nothing]
    exact moved
  · rw [one]
    exact moved.kept_by_pciGenerateMsix queue

theorem kept_by_signalHotplug (recorded : VectorsRecorded state)
    (delivers : Delivers state .hotplug) :
    VectorsRecorded (signalHotplug state) := by
  have queues := fun queue => recorded.vectors (.queueEvent queue)
  have config := recorded.vectors .configEvent
  unfold signalHotplug
  dsimp only
  split
  · rename_i stopped
    refine ⟨fun source => ?_, recorded.small, recorded.peer, recorded.id⟩
    cases source with
    | queueEvent queue => exact queues queue
    | configEvent =>
        refine Eq.trans ?_ config
        show (virtioConfigChanged _).msixCfgIdx = _
        unfold virtioConfigChanged
        rw [if_pos stopped]
        rfl
  · rename_i running
    refine ⟨fun source => ?_, recorded.small, recorded.peer, recorded.id⟩
    cases source with
    | queueEvent queue => exact queues queue
    | configEvent =>
        refine Eq.trans ?_ (delivers running).1.symm
        show (virtioConfigChanged _).msixCfgIdx = _
        unfold virtioConfigChanged
        rw [if_neg running]

theorem kept_by_signalStep {label : Signal} {after : Signalling}
    (recorded : VectorsRecorded state) (delivers : Delivers state label)
    (stepped : signalStep state label = .ok after) : VectorsRecorded after := by
  cases label with
  | guest memory =>
      cases stepped
      exact ⟨recorded.vectors, recorded.small, recorded.peer, recorded.id⟩
  | request => exact recorded.kept_by_handleRequests stepped
  | hotplug =>
      cases stepped
      exact recorded.kept_by_signalHotplug delivers
  | start queue iov flags =>
      cases stepped
      exact ⟨recorded.vectors, recorded.small, recorded.peer, recorded.id⟩
  | run env => exact recorded.kept_by_displaySection stepped

end VectorsRecorded

/-! The doorbells of one step. -/

section Writes

variable {before after : Signalling}

theorem writes_of_silent {label : Signal}
    (same : after.msixWrites = before.msixWrites)
    (delivers : Delivers before label) :
    ∃ rung, after.msixWrites = before.msixWrites ++ rung ∧
      ((∀ msixWrite, msixWrite ∈ rung → msixWrite.Right) ↔
        Delivers before label) := by
  refine ⟨[], by rw [same, List.append_nil], ?_⟩
  exact iff_of_true (fun _ member => absurd member List.not_mem_nil) delivers

theorem signalHotplug_writes (recorded : VectorsRecorded before) :
    ∃ rung, (signalHotplug before).msixWrites = before.msixWrites ++ rung ∧
      ((∀ msixWrite, msixWrite ∈ rung → msixWrite.Right) ↔
        Delivers before .hotplug) := by
  by_cases stopped : before.shared.device.base.status &&&
      virtioConfigSDriverOk = 0
  · apply writes_of_silent
    · unfold signalHotplug
      rw [if_pos stopped]
    · intro running
      exact absurd stopped running
  · refine ⟨[⟨.configEvent, shmemNotifyPeer before.peerId 0,
      before.assigned .configEvent, before.frontend⟩], ?_, ?_⟩
    · unfold signalHotplug
      rw [if_neg stopped]
      dsimp only [trigerHotplug]
      unfold virtioConfigChanged
      rw [if_neg stopped]
      rfl
    · rw [List.forall_mem_singleton, recorded.right_iff (by decide)]
      constructor
      · rintro ⟨zero, notifies⟩ _
        exact ⟨zero.symm, notifies.2⟩
      · intro delivers
        obtain ⟨zero, known⟩ := delivers stopped
        refine ⟨zero.symm, ?_, known⟩
        rw [zero]
        decide

theorem displaySection_writes (recorded : VectorsRecorded before) {env : Env}
    (stepped : displaySection env before = .ok after) :
    ∃ rung, after.msixWrites = before.msixWrites ++ rung ∧
      ((∀ msixWrite, msixWrite ∈ rung → msixWrite.Right) ↔
        Delivers before (.run env)) := by
  obtain ⟨⟨next, events⟩, ran, rest⟩ := bind_eq_ok stepped
  cases rest
  rcases bhStep_interrupts ran with ⟨nothing, quiet⟩ | ⟨queue, task, one, news⟩
  · apply writes_of_silent
    · dsimp only
      rw [nothing]
      rfl
    · intro queue task news
      exact absurd (quiet queue task) news
  · have vector : (next.device.queues queue).msixIdx =
        before.assigned (.queueEvent queue) :=
      ((bhStep_section ran).vector (.queueEvent queue)).trans
        (recorded.vectors _)
    refine ⟨[⟨.queueEvent queue, shmemNotifyPeer before.peerId
      (before.assigned (.queueEvent queue)),
      before.assigned (.queueEvent queue), before.frontend⟩], ?_, ?_⟩
    · dsimp only
      rw [one]
      show _ ++ [MsixWrite.mk _ (shmemNotifyPeer _
        (next.device.queues queue).msixIdx) _ _] = _
      rw [vector]
      rfl
    · rw [List.forall_mem_singleton,
        recorded.right_iff (recorded.small _)]
      constructor
      · rintro ⟨_, notifies⟩ other same _
        have equal := task.symm.trans same
        cases equal
        exact notifies
      · intro delivers
        exact ⟨rfl, delivers queue task news⟩

theorem signalStep_writes {label : Signal} (recorded : VectorsRecorded before)
    (stepped : signalStep before label = .ok after) :
    ∃ rung, after.msixWrites = before.msixWrites ++ rung ∧
      ((∀ msixWrite, msixWrite ∈ rung → msixWrite.Right) ↔
        Delivers before label) := by
  cases label with
  | guest memory =>
      cases stepped
      exact writes_of_silent rfl trivial
  | request =>
      obtain ⟨shared, _, rest⟩ := bind_eq_ok stepped
      cases rest
      exact writes_of_silent rfl trivial
  | start queue iov flags =>
      cases stepped
      exact writes_of_silent rfl trivial
  | hotplug =>
      cases stepped
      exact signalHotplug_writes recorded
  | run env => exact displaySection_writes recorded stepped

end Writes

theorem signalling_recorded {state : Signalling}
    (starts : signalling.initial state) :
    VectorsRecorded state ∧ state.msixWrites = [] := by
  obtain ⟨vmctx, isBlobSupported, scanoutNum, memory, identity, pciVdev,
    rfl⟩ := starts
  refine ⟨⟨fun source => ?_, fun _ => (by decide : 65535 < 65536), rfl, ?_⟩,
    rfl⟩
  · cases source with
    | configEvent | queueEvent queue => rfl
  · intro id known
    cases known

/-- In a run in which the configuration changes only while vector 0 is assigned
for it, and queues complete with news only while their vector is assigned, both
after the frontend is known, every doorbell is right and the register reads
back; and just such steps keep it so. -/
theorem reached_interrupts_delivered {state : Signalling}
    (reached : signalling.ReachedWhere Delivers state) :
    state.Delivered ∧
      ∀ label after, signalling.step state label after →
        (after.Delivered ↔ Delivers state label) := by
  have holds : VectorsRecorded state ∧
      ∀ msixWrite, msixWrite ∈ state.msixWrites → msixWrite.Right := by
    refine reached.invariant (fun state => VectorsRecorded state ∧
      ∀ msixWrite, msixWrite ∈ state.msixWrites → msixWrite.Right) ?_ ?_
    · intro start starts
      obtain ⟨recorded, unwritten⟩ := signalling_recorded starts
      rw [unwritten]
      exact ⟨recorded, fun _ member => absurd member List.not_mem_nil⟩
    · rintro before label after ⟨recorded, early⟩ delivers stepped
      refine ⟨recorded.kept_by_signalStep delivers stepped, ?_⟩
      obtain ⟨rung, writes, right⟩ := signalStep_writes recorded stepped
      rw [writes]
      exact List.forall_mem_append.mpr ⟨early, right.mpr delivers⟩
  obtain ⟨recorded, early⟩ := holds
  refine ⟨⟨early, recorded.readBack⟩, fun label after stepped => ?_⟩
  obtain ⟨rung, writes, right⟩ := signalStep_writes recorded stepped
  constructor
  · intro delivered
    have all := delivered.writes
    rw [writes] at all
    exact right.mp (List.forall_mem_append.mp all).2
  · intro delivers
    refine ⟨?_, (recorded.kept_by_signalStep delivers stepped).readBack⟩
    rw [writes]
    exact List.forall_mem_append.mpr ⟨early, right.mpr delivers⟩

/-! Concrete runs. -/

instance (state : Signalling) (source : Source) :
    Decidable (state.Notifies source) :=
  inferInstanceAs (Decidable (_ ∧ _))

/-- What the two sides do, one step at a time. -/
inductive Stimulus where
  | post (transaction : Transaction)
  | write (address : Nat) (bytes : List UInt8)
  | hotplug
  | start (queue : Queue)
  | run (sections : Nat)

def checkDelivers (state : Signalling) : Bool :=
  match state.task with
  | .ending queue => decide (QuietEnd (state.shared.device.queues queue)
      state.shared.memory state.shared.device.base.negotiatedCaps) ||
        decide (state.Notifies (.queueEvent queue))
  | _ => true

def checkHotplug (state : Signalling) : Bool :=
  decide (state.shared.device.base.status &&& virtioConfigSDriverOk = 0) ||
    decide (state.assigned .configEvent = 0) && state.frontend.isSome

def displaySections (delivers : Signalling → Bool) :
    Nat → Signalling → Option Signalling
  | 0, state => some state
  | sections + 1, state =>
      if delivers state then
        (displaySection (Env.steady 0) state).toOption.bind
          (displaySections delivers sections)
      else
        none

def stimulate (delivers hotplugs : Signalling → Bool) (state : Signalling) :
    Stimulus → Option Signalling
  | .post transaction =>
      (handleRequests (state.store transaction.offset transaction.bytes |>.store
        writeTransactionOffset (le16 transaction.offset ++
          le16 transaction.bytes.length))).toOption
  | .write address bytes => some (state.store address bytes)
  | .hotplug => if hotplugs state then some (signalHotplug state) else none
  | .start queue =>
      some { state with task := (startBh
        ⟨state.shared.device, state.shared.memory, state.task⟩ queue
          (fun _ => ⟨none, 0⟩) (fun _ => 0)).task }
  | .run sections => displaySections delivers sections state

theorem delivers_of_check {state : Signalling} {env : Env}
    (checked : checkDelivers state = true) : Delivers state (.run env) := by
  intro queue task news
  unfold checkDelivers at checked
  rw [task] at checked
  dsimp only at checked
  simpa [news] using checked

theorem delivers_of_checkHotplug {state : Signalling}
    (checked : checkHotplug state = true) : Delivers state .hotplug := by
  intro running
  unfold checkHotplug at checked
  have both : state.assigned .configEvent = 0 ∧
      state.frontend.isSome = true := by
    simpa [running] using checked
  exact ⟨both.1, Option.isSome_iff_ne_none.mp both.2⟩

section Runs

variable {delivers hotplugs : Signalling → Bool}
  {Allowed : Signalling → Signal → Prop}

theorem reached_of_displaySections
    (runs : ∀ state env, delivers state = true → Allowed state (.run env))
    {sections : Nat} {before after : Signalling}
    (reached : signalling.ReachedWhere Allowed before)
    (ran : displaySections delivers sections before = some after) :
    signalling.ReachedWhere Allowed after := by
  induction sections generalizing before with
  | zero =>
      cases ran
      exact reached
  | succ sections induction =>
      unfold displaySections at ran
      split at ran
      · rename_i checked
        obtain ⟨next, here, later⟩ := Option.bind_eq_some_iff.mp ran
        exact induction (.step reached (runs before _ checked)
          (ok_of_toOption here : signalStep before (.run _) = _)) later
      · cases ran

theorem reached_of_stimulus
    (guests : ∀ state memory, Allowed state (.guest memory))
    (requests : ∀ state, Allowed state .request)
    (starts : ∀ state queue iov flags, Allowed state (.start queue iov flags))
    (plugs : ∀ state, hotplugs state = true → Allowed state .hotplug)
    (runs : ∀ state env, delivers state = true → Allowed state (.run env))
    {before after : Signalling} {action : Stimulus}
    (reached : signalling.ReachedWhere Allowed before)
    (acted : stimulate delivers hotplugs before action = some after) :
    signalling.ReachedWhere Allowed after := by
  cases action with
  | post transaction =>
      have posted : signalling.ReachedWhere Allowed
          (before.store transaction.offset transaction.bytes |>.store
            writeTransactionOffset (le16 transaction.offset ++
              le16 transaction.bytes.length)) :=
        .step reached (guests _ _) (rfl : signalStep before (.guest _) = _)
      exact .step posted (requests _)
        (ok_of_toOption acted : signalStep _ .request = _)
  | write address bytes =>
      cases acted
      exact .step reached (guests _ _)
        (rfl : signalStep before (.guest _) = _)
  | hotplug =>
      unfold stimulate at acted
      dsimp only at acted
      split at acted
      · rename_i checked
        cases acted
        exact .step reached (plugs before checked)
          (rfl : signalStep before .hotplug = _)
      · cases acted
  | start queue =>
      cases acted
      exact .step reached (starts _ _ _ _)
        (rfl : signalStep before (.start queue _ _) = _)
  | run sections => exact reached_of_displaySections runs reached acted

theorem reached_of_stimuli
    (guests : ∀ state memory, Allowed state (.guest memory))
    (requests : ∀ state, Allowed state .request)
    (starts : ∀ state queue iov flags, Allowed state (.start queue iov flags))
    (plugs : ∀ state, hotplugs state = true → Allowed state .hotplug)
    (runs : ∀ state env, delivers state = true → Allowed state (.run env))
    {before after : Signalling} {stimuli : List Stimulus}
    (reached : signalling.ReachedWhere Allowed before)
    (acted : stimuli.foldlM (stimulate delivers hotplugs) before = some after) :
    signalling.ReachedWhere Allowed after := by
  apply reached.foldlM _ acted
  intro state action next reached here
  exact reached_of_stimulus guests requests starts plugs runs reached here

end Runs

def freshSignalling : Signalling where
  shared := vosBackendInit ⟨4096, 0⟩ false 1 Memory.zero ⟨0, 0, 0⟩ ⟨0, 0, 0, 0⟩
  task := .idle
  peerId := -1
  assigned := fun _ => virtioMsiNoVector
  frontend := none
  msixWrites := []

theorem freshSignalling_initial : signalling.initial freshSignalling :=
  ⟨⟨4096, 0⟩, false, 1, Memory.zero, ⟨0, 0, 0⟩, ⟨0, 0, 0, 0⟩, rfl⟩

def announceFrontend (id : Nat) : Stimulus :=
  .write frontendFlagsOffset (le16 1 ++ le16 id)

/-- The driver sets up the control queue with a vector. -/
def setUpControl (vector : Nat) : List Stimulus :=
  [.post (registerWrite .qSelect 0), .post (registerWrite .qMsix vector),
    .post (registerWrite .qSize 2), .post (registerWrite .qDesclo 256),
    .post (registerWrite .qAvaillo 512), .post (registerWrite .qUsedlo 600),
    .post (registerWrite .qEnable 1), .post (registerWrite .status 0xf)]

/-- An unknown command is offered and served. -/
def serveUnknown : List Stimulus :=
  [.write 256 ((VringDesc.mk 1024 24 vringDescFNext 1).bytes ++
      (VringDesc.mk 1100 24 vringDescFWrite 0).bytes),
    .write 512 (le16 0 ++ le16 1), .start .control, .run 6]

/-- A used buffer with vector 3 and a changed configuration with vector 0. -/
theorem announced_interrupts_delivered :
    ∃ state, signalling.ReachedWhere Delivers state ∧
      state.msixWrites = [⟨.queueEvent .control, 0x50003, 3, some 5⟩,
        ⟨.configEvent, 0x50000, 0, some 5⟩] ∧
      state.Delivered := by
  obtain ⟨state, acted, checked⟩ := (Option.any_eq_true _ _).mp
    (show ((announceFrontend 5 :: .post (registerWrite .msix 0) ::
        (setUpControl 3 ++ serveUnknown ++ [.hotplug])).foldlM
          (stimulate checkDelivers checkHotplug) freshSignalling).any
            (fun state => decide (state.msixWrites =
              [⟨.queueEvent .control, 0x50003, 3, some 5⟩,
                ⟨.configEvent, 0x50000, 0, some 5⟩])) = true
      by decide +kernel)
  have reached : signalling.ReachedWhere Delivers state :=
    reached_of_stimuli (fun _ _ => trivial) (fun _ => trivial)
      (fun _ _ _ _ => trivial) (fun _ => delivers_of_checkHotplug)
      (fun _ _ => delivers_of_check) (.initial freshSignalling_initial) acted
  exact ⟨state, reached, of_decide_eq_true checked,
    (reached_interrupts_delivered reached).1⟩

/-- The driver assigned vector 1; the doorbell carries vector 0, and so does the
register from then on. -/
theorem hotplug_rings_vector_zero :
    ∃ state, signalling.Reached state ∧
      state.msixWrites = [⟨.configEvent, 0x50000, 1, some 5⟩] ∧
      virtioCommonCfgRead state.shared.device.base state.shared.device.queues
        CommonReg.msix.offset CommonReg.msix.width = 0 ∧
      ¬state.Delivered := by
  obtain ⟨state, acted, checked⟩ := (Option.any_eq_true _ _).mp
    (show ((announceFrontend 5 :: .post (registerWrite .msix 1) ::
        (setUpControl 3 ++ [.hotplug])).foldlM
          (stimulate (fun _ => true) fun _ => true) freshSignalling).any
            (fun state => decide (state.msixWrites =
                [⟨.configEvent, 0x50000, 1, some 5⟩]) &&
              decide (virtioCommonCfgRead state.shared.device.base
                state.shared.device.queues CommonReg.msix.offset
                  CommonReg.msix.width = 0)) = true
      by decide +kernel)
  simp only [Bool.and_eq_true, decide_eq_true_eq] at checked
  refine ⟨state, ?_, checked.1, checked.2, ?_⟩
  · exact reached_of_stimuli (fun _ _ => trivial) (fun _ => trivial)
      (fun _ _ _ _ => trivial) (fun _ _ => trivial) (fun _ _ _ => trivial)
      (.initial freshSignalling_initial) acted
  · intro delivered
    have right := delivered.writes ⟨.configEvent, 0x50000, 1, some 5⟩
      (by rw [checked.1]; exact List.mem_singleton_self _)
    exact absurd right.vector (by decide)

end VirtioGpu.Backend
