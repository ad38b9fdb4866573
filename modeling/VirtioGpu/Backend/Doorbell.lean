import VirtioGpu.Backend.Header
import VirtioGpu.Backend.QueueSize

namespace VirtioGpu.Backend

open Foundation
open Virtio
open Gpu

/-! The mevent thread, which processes transactions and kicks, beside the
display thread, which runs the submitted bottom halves. -/

/-- A bottom half, run section by section to its return. -/
inductive RunsTo : Machine → List Event → Machine → Prop
  | done {machine : Machine} (idle : machine.task = .idle) :
      RunsTo machine [] machine
  | step {machine next last : Machine} {env : Env} {events later : List Event}
      (busy : machine.task ≠ .idle) (fresh : env.Fresh machine.device.gpu)
      (stepped : bhStep env machine = .ok (next, events))
      (rest : RunsTo next later last) :
      RunsTo machine (events ++ later) last

/-- A doorbell written for a queue; `late` when the queue was reset and not
enabled since. -/
structure Doorbell where
  queue : Queue
  late : Bool
  deriving Repr, DecidableEq

/-- `requests` is the list of pending bottom halves, `awaiting` remembers the
queues that were reset and not enabled since. -/
structure Threads where
  shared : Shared
  requests : List Queue
  awaiting : Queue → Bool
  doorbells : List Doorbell

/-- `vdpy_submit_bh`: a pending bottom half is not submitted twice. -/
def vdpySubmitBh (isActive : Bool) (requests : List Queue) (queue : Queue) :
    List Queue :=
  if isActive && !requests.contains queue then requests ++ [queue]
  else requests

/-- `process_queue` goes through the queues from the last to the first. -/
def processQueue (isActive : Bool) (device : Device)
    (requests : List Queue) : List Queue :=
  [Queue.cursor, .control].foldl (fun requests queue =>
    if vqRingReady (device.queues queue) then
      vdpySubmitBh isActive requests queue
    else requests) requests

/-- The second half of `handle_requests`. -/
def handleKick (isActive : Bool) (threads : Threads) : Threads :=
  if headerField threads.shared.memory .status = 0xf then
    { threads with requests :=
        processQueue isActive threads.shared.device threads.requests }
  else
    threads

/-- Whether the posted write enables a queue. -/
def EnablesPosted (shared : Shared) (queue : Queue) : Prop :=
  Posts shared.memory .qEnable ∧
    Queue.ofIndex shared.device.base.curq = some queue ∧
    RingsTranslate shared.device.gpu.vmctx (shared.device.queues queue)

instance (shared : Shared) (queue : Queue) :
    Decidable (EnablesPosted shared queue) :=
  inferInstanceAs (Decidable (_ ∧ _ ∧ _))

def awaitingAfter (threads : Threads) (queue : Queue) : Bool :=
  if Posts threads.shared.memory .status ∧
      headerField threads.shared.memory .status = 0 then
    true
  else if EnablesPosted threads.shared queue then
    false
  else
    threads.awaiting queue

def doorbellsOf (awaiting : Queue → Bool) (events : List Event) :
    List Doorbell :=
  events.filterMap fun event =>
    match event with
    | .ended queue true => some ⟨queue, awaiting queue⟩
    | _ => none

def queueEventOffset : Nat := 21

/-- `pci_generate_msix` for every doorbell. -/
def ringDoorbells (memory : Memory) (doorbells : List Doorbell) : Memory :=
  if doorbells = [] then memory else memory.store queueEventOffset [1]

inductive Turn where
  | guest (memory : Memory)
  | transaction
  | kick (isActive : Bool)
  | run (iov : Nat → IoVec) (flags : Nat → Nat)

inductive ThreadStep (before : Threads) : Turn → Threads → Prop
  | guest (memory : Memory) :
      ThreadStep before (.guest memory)
        { before with shared := { before.shared with memory := memory } }
  | transaction {shared : Shared}
      (ran : processWriteTransaction before.shared = .ok shared) :
      ThreadStep before .transaction
        { before with shared := shared, awaiting := awaitingAfter before }
  | kick (isActive : Bool) :
      ThreadStep before (.kick isActive) (handleKick isActive before)
  | run {iov : Nat → IoVec} {flags : Nat → Nat} {queue : Queue}
      {rest : List Queue} {events : List Event} {last : Machine}
      (first : before.requests = queue :: rest)
      (ran : RunsTo (startBh ⟨before.shared.device, before.shared.memory,
        .idle⟩ queue iov flags) events last) :
      ThreadStep before (.run iov flags)
        { before with
          shared := { before.shared with
            device := last.device
            memory := ringDoorbells last.memory
              (doorbellsOf before.awaiting events) }
          requests := rest
          doorbells :=
            before.doorbells ++ doorbellsOf before.awaiting events }

def threads : TransitionSystem Threads Turn where
  initial := fun state => ∃ vmctx isBlobSupported scanoutNum memory identity
    pciVdev, state =
      ⟨vosBackendInit vmctx isBlobSupported scanoutNum memory identity pciVdev,
        [], fun _ => false, []⟩
  step := ThreadStep

/-! A bottom half on a queue that is not ready. -/

/-- `vq_endchains` finds nothing to tell the driver. -/
def QuietEnd (vq : VqInfo) (memory : Memory) (negotiatedCaps : Nat) : Prop :=
  vq.used = none ∨
    negotiatedCaps.testBit virtioFNotifyOnEmpty = false ∧
      (negotiatedCaps.testBit virtioRingFEventIdx = true →
        sub16 (vq.usedIdx memory) vq.saveUsed ≤
          sub16 (sub16 (vq.usedIdx memory) (vq.usedEventIdx memory)) 1) ∧
      (negotiatedCaps.testBit virtioRingFEventIdx = false →
        vq.usedIdx memory = vq.saveUsed ∨
          vq.availFlags memory &&& vringAvailFNoInterrupt ≠ 0)

instance (vq : VqInfo) (memory : Memory) (negotiatedCaps : Nat) :
    Decidable (QuietEnd vq memory negotiatedCaps) :=
  inferInstanceAs (Decidable (_ ∨ _ ∧ (_ → _) ∧ (_ → _)))

theorem vqEndchains_quiet_iff {vq : VqInfo} {memory : Memory}
    {negotiatedCaps : Nat} :
    (vqEndchains vq memory negotiatedCaps true).2 = false ↔
      QuietEnd vq memory negotiatedCaps := by
  unfold vqEndchains QuietEnd
  cases used : vq.used with
  | none => simp
  | some ring =>
      by_cases empty : negotiatedCaps.testBit virtioFNotifyOnEmpty
      · simp [empty]
      · by_cases eventIdx : negotiatedCaps.testBit virtioRingFEventIdx
        · simp [empty, eventIdx]
        · simp [empty, eventIdx, or_iff_not_imp_left]

theorem RunsTo.of_not_ready {machine last : Machine} {queue : Queue}
    {locals : Locals} {events : List Event}
    (ready : vqRingReady (machine.device.queues queue) = false)
    (task : machine.task = .testing queue locals)
    (ran : RunsTo machine events last) :
    events = [.ended queue (vqEndchains (machine.device.queues queue)
      machine.memory machine.device.base.negotiatedCaps true).2] := by
  have drained : vqHasDescs (machine.device.queues queue) machine.memory =
      false := by
    unfold vqHasDescs
    rw [ready]
    rfl
  cases ran with
  | done idle =>
      rw [task] at idle
      cases idle
  | step busy fresh stepped rest =>
      unfold bhStep at stepped
      rw [task] at stepped
      dsimp only at stepped
      rw [drained] at stepped
      cases stepped
      cases rest with
      | done idle => cases idle
      | step busy fresh stepped rest =>
          cases stepped
          cases rest with
          | done idle => rfl
          | step busy fresh stepped rest => exact absurd rfl busy

/-! A bottom half concerns its own queue. -/

def Task.On (queue : Queue) : Task → Prop
  | .idle => True
  | .testing current _ | .fetching current _ | .serving current _ _ _
  | .releasing current _ _ | .ending current => current = queue

theorem Section.on {env : Env} {before after : Machine}
    {events : List Event} {queue : Queue}
    (ran : Section env before after events) (on : before.task.On queue) :
    after.task.On queue ∧
      ∀ ended interrupt, .ended ended interrupt ∈ events → ended = queue := by
  cases ran with
  | idle task => exact ⟨on, by simp⟩
  | rejected task bad => exact ⟨trivial, by simp⟩
  | more task ready | done task drained =>
      rw [task] at on
      exact ⟨on, by simp⟩
  | accepted task good =>
      rw [task] at on
      exact ⟨on, by simp⟩
  | served task serves written =>
      rw [task] at on
      exact ⟨on, by simp⟩
  | servedCursor task handled =>
      rw [task] at on
      exact ⟨on, by simp⟩
  | released task =>
      rw [task] at on
      exact ⟨on, by simp⟩
  | ended task =>
      rw [task] at on
      refine ⟨trivial, fun ended interrupt member => ?_⟩
      cases List.mem_singleton.mp member
      exact on

theorem RunsTo.on {machine last : Machine} {events : List Event}
    {queue : Queue} (ran : RunsTo machine events last)
    (on : machine.task.On queue) :
    ∀ ended interrupt, .ended ended interrupt ∈ events → ended = queue := by
  induction ran with
  | done _ => simp
  | step _ _ stepped _ induction =>
      obtain ⟨next, first⟩ := (bhStep_section stepped).on on
      intro ended interrupt member
      rcases List.mem_append.mp member with here | later
      · exact first ended interrupt here
      · exact induction next ended interrupt later

theorem QueueStep.run_ready {machine : Machine} {queue : Queue} {env : Env}
    {vq : VqInfo} (stepped : QueueStep machine queue (.run env) vq) :
    vqRingReady vq = vqRingReady (machine.device.queues queue) := by
  cases stepped with
  | kept | fetched | ended => rfl

theorem RunsTo.ready {machine last : Machine} {events : List Event}
    (ran : RunsTo machine events last) (queue : Queue) :
    vqRingReady (last.device.queues queue) =
      vqRingReady (machine.device.queues queue) := by
  induction ran with
  | done _ => rfl
  | step _ _ stepped _ induction =>
      rw [induction]
      exact ((bhStep_section stepped).queueStep queue).run_ready

/-! Runs. -/

/-- A bottom half that runs on a queue that was reset has nothing to tell the
driver. -/
def StaysQuiet (state : Threads) : Turn → Prop
  | .run _ _ => ∀ queue rest, state.requests = queue :: rest →
      state.awaiting queue = true →
      QuietEnd (state.shared.device.queues queue) state.shared.memory
        state.shared.device.base.negotiatedCaps
  | .guest _ | .transaction | .kick _ => True

def Awaits (state : Threads) : Prop :=
  ∀ queue, state.awaiting queue = true →
    vqRingReady (state.shared.device.queues queue) = false

theorem Posts.unique {memory : Memory} {reg other : CommonReg}
    (posts : Posts memory reg) (same : Posts memory other) : reg = other := by
  have offsets := posts.offset.symm.trans same.offset
  exact CommonReg.eq_of_offset (Nat.add_left_cancel offsets)

theorem Awaits.written {state : Threads} (awaits : Awaits state)
    {reg : CommonReg} (posts : Posts state.shared.memory reg)
    {queue : Queue} {vq : VqInfo}
    (changed : QueueWritten state.shared.device queue
      (headerField state.shared.memory reg) reg vq)
    (still : ¬EnablesPosted state.shared queue)
    (awaiting : state.awaiting queue = true) : vqRingReady vq = false := by
  cases changed with
  | kept | addressed | resized _ => exact awaits queue awaiting
  | enabled selected =>
      rw [Bool.eq_false_iff]
      intro ready
      exact still ⟨posts, selected, virtioVqEnable_ready_iff.mp ready⟩
  | reset _ => exact not_ready rfl

theorem Awaits.transaction {state : Threads} (awaits : Awaits state)
    {shared : Shared}
    (ran : processWriteTransaction state.shared = .ok shared) :
    Awaits { state with
      shared := shared
      awaiting := awaitingAfter state } := by
  intro queue awaiting
  change awaitingAfter state queue = true at awaiting
  show vqRingReady (shared.device.queues queue) = false
  unfold awaitingAfter at awaiting
  by_cases posted : ∃ reg, Posts state.shared.memory reg
  · obtain ⟨reg, posts⟩ := posted
    rw [processWriteTransaction_register posts] at ran
    obtain ⟨written, wrote, rest⟩ := bind_eq_ok ran
    cases rest
    dsimp only
    split at awaiting
    · rename_i cleared
      have status : reg = .status := posts.unique cleared.1
      subst status
      rw [cleared.2] at wrote
      obtain ⟨after, reset, rest⟩ := bind_eq_ok wrote
      cases rest
      rw [writeStatus_zero reset]
      exact not_ready rfl
    · split at awaiting
      · cases awaiting
      · rename_i still
        exact awaits.written posts (writeRegister_queue queue written wrote)
          still awaiting
  · have ignored := not_exists.mp posted
    rw [(processWriteTransaction_ignored ignored ran).1]
    rw [if_neg (fun both => ignored _ both.1),
      if_neg (fun enables => ignored _ enables.1)] at awaiting
    exact awaits queue awaiting

theorem handleKick_shared (isActive : Bool) (state : Threads) :
    (handleKick isActive state).shared = state.shared ∧
      (handleKick isActive state).awaiting = state.awaiting ∧
      (handleKick isActive state).doorbells = state.doorbells := by
  unfold handleKick
  split
  · exact ⟨rfl, rfl, rfl⟩
  · exact ⟨rfl, rfl, rfl⟩

theorem Awaits.step {before after : Threads} {turn : Turn}
    (awaits : Awaits before) (stepped : ThreadStep before turn after) :
    Awaits after := by
  cases stepped with
  | guest memory => exact awaits
  | transaction ran => exact awaits.transaction ran
  | kick isActive =>
      obtain ⟨shared, awaiting, _⟩ := handleKick_shared isActive before
      unfold Awaits
      rw [shared, awaiting]
      exact awaits
  | run first ran =>
      intro queue awaiting
      refine (ran.ready queue).trans ?_
      rw [startBh_device]
      exact awaits queue awaiting

theorem mem_doorbellsOf {awaiting : Queue → Bool} {events : List Event}
    {doorbell : Doorbell} (rung : doorbell ∈ doorbellsOf awaiting events) :
    .ended doorbell.queue true ∈ events ∧
      doorbell.late = awaiting doorbell.queue := by
  obtain ⟨event, member, found⟩ := List.mem_filterMap.mp rung
  split at found
  · cases found
    exact ⟨member, rfl⟩
  · cases found

/-- One bottom half rings late just when it runs on a queue that was reset and
does not end quietly. -/
theorem run_doorbells {state : Threads} (awaits : Awaits state)
    {iov : Nat → IoVec} {flags : Nat → Nat} {queue : Queue}
    {rest : List Queue} {events : List Event} {last : Machine}
    (first : state.requests = queue :: rest)
    (ran : RunsTo (startBh ⟨state.shared.device, state.shared.memory, .idle⟩
      queue iov flags) events last) :
    (∀ doorbell, doorbell ∈ doorbellsOf state.awaiting events →
      doorbell.late = false) ↔ StaysQuiet state (.run iov flags) := by
  by_cases awaiting : state.awaiting queue = true
  · have only := ran.of_not_ready (awaits queue awaiting) rfl
    rw [only]
    constructor
    · intro quiet other others same _
      rw [first] at same
      cases same
      rw [← vqEndchains_quiet_iff, Bool.eq_false_iff]
      intro interrupt
      have late := quiet ⟨queue, true⟩ (by
        unfold doorbellsOf
        simp only [startBh]
        rw [interrupt]
        simp [awaiting])
      cases late
    · intro stays doorbell rung
      obtain ⟨member, _⟩ := mem_doorbellsOf rung
      have quiet := vqEndchains_quiet_iff.mpr (stays queue rest first awaiting)
      have ended := List.mem_singleton.mp member
      injection ended with _ interrupt
      exact absurd (interrupt.trans quiet) (by decide)
  · refine iff_of_true ?_ ?_
    · intro doorbell rung
      obtain ⟨member, late⟩ := mem_doorbellsOf rung
      have same := ran.on rfl _ _ member
      rw [late, same]
      exact Bool.eq_false_iff.mpr awaiting
    · intro other others same awaited
      rw [first] at same
      cases same
      exact absurd awaited awaiting

/-- In a run whose bottom halves end quietly on queues that were reset, no
doorbell is late; and just such bottom halves keep it so. -/
theorem reached_no_late_doorbell {state : Threads}
    (reached : threads.ReachedWhere StaysQuiet state) :
    (∀ doorbell, doorbell ∈ state.doorbells → doorbell.late = false) ∧
      ∀ iov flags after, threads.step state (.run iov flags) after →
        ((∀ doorbell, doorbell ∈ after.doorbells → doorbell.late = false) ↔
          StaysQuiet state (.run iov flags)) := by
  have holds : Awaits state ∧
      ∀ doorbell, doorbell ∈ state.doorbells → doorbell.late = false := by
    refine reached.invariant (fun state => Awaits state ∧
      ∀ doorbell, doorbell ∈ state.doorbells → doorbell.late = false) ?_ ?_
    · rintro state ⟨vmctx, isBlobSupported, scanoutNum, memory, identity,
        pciVdev, rfl⟩
      exact ⟨fun queue awaiting => absurd awaiting Bool.false_ne_true,
        fun doorbell member => absurd member List.not_mem_nil⟩
    · rintro before turn after ⟨awaits, early⟩ quiet stepped
      refine ⟨awaits.step stepped, ?_⟩
      cases stepped with
      | guest memory => exact early
      | transaction ran => exact early
      | kick isActive =>
          rw [(handleKick_shared isActive before).2.2]
          exact early
      | run first ran =>
          intro doorbell member
          rcases List.mem_append.mp member with before | now
          · exact early doorbell before
          · exact (run_doorbells awaits first ran).mpr quiet doorbell now
  obtain ⟨awaits, early⟩ := holds
  refine ⟨early, ?_⟩
  intro iov flags after stepped
  cases stepped with
  | run first ran =>
      rw [← run_doorbells awaits first ran]
      constructor
      · intro all doorbell now
        exact all doorbell (List.mem_append_right _ now)
      · intro now doorbell member
        rcases List.mem_append.mp member with before | later
        · exact early doorbell before
        · exact now doorbell later

/-! Concrete runs. -/

def runToIdle (env : Env) : Nat → Machine → Option (Machine × List Event)
  | 0, _ => none
  | sections + 1, machine =>
      if machine.task.isIdle then
        some (machine, [])
      else if env.Fresh machine.device.gpu then
        match bhStep env machine with
        | .error _ => none
        | .ok (next, events) =>
            (runToIdle env sections next).map fun result =>
              (result.1, events ++ result.2)
      else
        none

theorem runsTo_of_runToIdle {env : Env} {sections : Nat}
    {machine last : Machine} {events : List Event}
    (ran : runToIdle env sections machine = some (last, events)) :
    RunsTo machine events last := by
  induction sections generalizing machine events with
  | zero => cases ran
  | succ sections induction =>
      unfold runToIdle at ran
      split at ran
      · rename_i idle
        cases ran
        exact .done (Task.eq_idle idle)
      · rename_i busy
        split at ran
        · rename_i fresh
          cases stepped : bhStep env machine with
          | error fault =>
              rw [stepped] at ran
              cases ran
          | ok result =>
              rw [stepped] at ran
              obtain ⟨⟨reached, later⟩, rest, same⟩ :=
                Option.map_eq_some_iff.mp ran
              cases same
              refine .step ?_ fresh stepped (induction rest)
              intro idle
              rw [idle] at busy
              exact busy rfl
        · cases ran

/-- What the frontend does, and what the two threads do in answer. -/
inductive Action where
  | post (transaction : Transaction)
  | write (address : Nat) (bytes : List UInt8)
  | kick
  | run

def act (quiet : Threads → Bool) (state : Threads) : Action → Option Threads
  | .post transaction =>
      (processWriteTransaction { state.shared with
        memory := transaction.post state.shared.memory }).toOption.map
          fun shared => { state with
            shared := shared
            awaiting := awaitingAfter { state with
              shared := { state.shared with
                memory := transaction.post state.shared.memory } } }
  | .write address bytes =>
      some { state with shared := { state.shared with
        memory := state.shared.memory.store address bytes } }
  | .kick => some (handleKick true state)
  | .run =>
      match state.requests with
      | [] => none
      | queue :: rest =>
          if quiet state then
            (runToIdle (Env.steady 0) 16 (startBh ⟨state.shared.device,
              state.shared.memory, .idle⟩ queue (fun _ => ⟨none, 0⟩)
              (fun _ => 0))).map fun result =>
                { state with
                  shared := { state.shared with
                    device := result.1.device
                    memory := ringDoorbells result.1.memory
                      (doorbellsOf state.awaiting result.2) }
                  requests := rest
                  doorbells := state.doorbells ++
                    doorbellsOf state.awaiting result.2 }
          else
            none

theorem reached_of_act {quiet : Threads → Bool}
    {Allowed : Threads → Turn → Prop}
    (permits : ∀ state turn, (∀ iov flags, turn ≠ .run iov flags) →
      Allowed state turn)
    (runs : ∀ state iov flags, quiet state = true →
      Allowed state (.run iov flags))
    {before after : Threads} {action : Action}
    (reached : threads.ReachedWhere Allowed before)
    (acted : act quiet before action = some after) :
    threads.ReachedWhere Allowed after := by
  cases action with
  | post transaction =>
      obtain ⟨shared, ran, rfl⟩ := Option.map_eq_some_iff.mp acted
      have written : threads.ReachedWhere Allowed { before with
          shared := { before.shared with
            memory := transaction.post before.shared.memory } } :=
        .step reached (permits _ _ (by nofun)) (ThreadStep.guest _)
      exact .step written (permits _ _ (by nofun))
        (ThreadStep.transaction (ok_of_toOption ran))
  | write address bytes =>
      cases acted
      exact .step reached (permits _ _ (by nofun)) (ThreadStep.guest _)
  | kick =>
      cases acted
      exact .step reached (permits _ _ (by nofun)) (ThreadStep.kick true)
  | run =>
      unfold act at acted
      dsimp only at acted
      split at acted
      · cases acted
      · rename_i first
        split at acted
        · rename_i silent
          obtain ⟨⟨last, events⟩, ran, rfl⟩ :=
            Option.map_eq_some_iff.mp acted
          exact .step reached (runs before _ _ silent)
            (ThreadStep.run first (runsTo_of_runToIdle ran))
        · cases acted

def actAll (quiet : Threads → Bool) (state : Threads) :
    List Action → Option Threads
  | [] => some state
  | action :: rest =>
      (act quiet state action).bind fun next => actAll quiet next rest

theorem reached_of_actAll {quiet : Threads → Bool}
    {Allowed : Threads → Turn → Prop}
    (permits : ∀ state turn, (∀ iov flags, turn ≠ .run iov flags) →
      Allowed state turn)
    (runs : ∀ state iov flags, quiet state = true →
      Allowed state (.run iov flags))
    {before after : Threads} {actions : List Action}
    (reached : threads.ReachedWhere Allowed before)
    (acted : actAll quiet before actions = some after) :
    threads.ReachedWhere Allowed after := by
  induction actions generalizing before with
  | nil =>
      cases acted
      exact reached
  | cons action rest induction =>
      obtain ⟨next, first, later⟩ := Option.bind_eq_some_iff.mp acted
      exact induction (reached_of_act permits runs reached first) later

def freshThreads : Threads :=
  ⟨vosBackendInit ⟨4096, 0⟩ false 1 Memory.zero ⟨0, 0, 0⟩ ⟨0, 0, 0, 0⟩, [],
    fun _ => false, []⟩

/-- The driver enables the control queue and offers an unknown command. -/
def offerCommand : List Action :=
  [.post (registerWrite .qSelect 0), .post (registerWrite .qSize 2),
    .post (registerWrite .qDesclo 256), .post (registerWrite .qAvaillo 512),
    .post (registerWrite .qUsedlo 600), .post (registerWrite .qEnable 1),
    .post (registerWrite .status 0xf),
    .write 256 ((VringDesc.mk 1024 24 vringDescFNext 1).bytes ++
      (VringDesc.mk 1100 24 vringDescFWrite 0).bytes),
    .write 512 (le16 0 ++ le16 1)]

def checkQuiet (state : Threads) : Bool :=
  state.requests.all fun queue => !state.awaiting queue ||
    decide (QuietEnd (state.shared.device.queues queue) state.shared.memory
      state.shared.device.base.negotiatedCaps)

theorem staysQuiet_of_check (state : Threads) (iov : Nat → IoVec)
    (flags : Nat → Nat) (checked : checkQuiet state = true) :
    StaysQuiet state (.run iov flags) := by
  intro queue rest first awaiting
  have all := List.all_eq_true.mp checked queue (by rw [first]; simp)
  simpa [awaiting] using all

/-- The kick is overtaken by a reset, and the bottom half finds nothing. -/
theorem overtaken_kick_quiet :
    ∃ state, threads.ReachedWhere StaysQuiet state ∧
      state.awaiting .control = true ∧
      state.requests = [] ∧
      ∀ doorbell, doorbell ∈ state.doorbells → doorbell.late = false := by
  obtain ⟨state, acted, checked⟩ := (Option.any_eq_true _ _).mp
    (show (actAll checkQuiet freshThreads (offerCommand ++
        [.kick, .post (registerWrite .status 0), .run])).any (fun state =>
          state.awaiting .control && decide (state.requests = [])) = true
      by decide +kernel)
  simp only [Bool.and_eq_true, decide_eq_true_eq] at checked
  have reached : threads.ReachedWhere StaysQuiet state := by
    refine reached_of_actAll ?_ staysQuiet_of_check (.initial ?_) acted
    · intro state turn other
      cases turn with
      | run iov flags => exact absurd rfl (other iov flags)
      | guest _ | transaction | kick _ => trivial
    · exact ⟨⟨4096, 0⟩, false, 1, Memory.zero, ⟨0, 0, 0⟩, ⟨0, 0, 0, 0⟩, rfl⟩
  exact ⟨state, reached, checked.1, checked.2,
    (reached_no_late_doorbell reached).1⟩

/-- The queue has served a command before the reset: the late bottom half
takes the old used index for news. -/
theorem stale_bottom_half_interrupts :
    ∃ state, threads.Reached state ∧
      ∃ doorbell, doorbell ∈ state.doorbells ∧ doorbell.late = true := by
  obtain ⟨state, acted, checked⟩ := (Option.any_eq_true _ _).mp
    (show (actAll (fun _ => true) freshThreads (offerCommand ++
        [.kick, .run, .kick, .post (registerWrite .status 0),
          .run])).any (fun state =>
            decide (state.doorbells = [⟨.control, false⟩, ⟨.control, true⟩])) =
        true
      by decide +kernel)
  have rung := of_decide_eq_true checked
  refine ⟨state, ?_, ⟨.control, true⟩, by rw [rung]; simp, rfl⟩
  refine reached_of_actAll (fun _ _ _ => trivial) (fun _ _ _ _ => trivial)
    (.initial ?_) acted
  exact ⟨⟨4096, 0⟩, false, 1, Memory.zero, ⟨0, 0, 0⟩, ⟨0, 0, 0, 0⟩, rfl⟩

end VirtioGpu.Backend
