import VirtioGpu.Backend.Attendance

namespace VirtioGpu.Backend

open Foundation
open Virtio
open Gpu

/-! Left to themselves, the two threads answer everything the driver has kicked
for, and come to rest. -/

/-- The steps that neither the driver nor a spurious wake-up makes. -/
def StationLabel.byBackend : StationLabel → Bool
  | .hear | .submit | .iterate _ _ | .run _ => true
  | .publish _ _ | .kick | .wake => false

def MeventThread.effort : MeventThread → Nat
  | .polling => 0
  | .processing rest => 10 * rest.length + 1

def Runner.effort : Runner → Nat
  | .waiting => 0
  | .polling => 1
  | .signalled | .running => 2

/-- At most so many steps of the backend are left. -/
def Station.load (state : Station) : Nat :=
  22 * state.kicked.toNat + state.mevent.effort + 6 * state.requests.length +
    state.runner.effort + state.machine.task.effort +
    4 * ((state.exchange .control).waiting .control +
      (state.exchange .cursor).waiting .cursor)

/-- The backend can do nothing. -/
def Station.Still (state : Station) : Prop :=
  ∀ label : StationLabel, label.byBackend = true → state.act label = none

section Loads

variable {start : Machine} {state after : Station}

theorem hear_load (acted : state.hear = some after) :
    after.load < state.load := by
  unfold Station.hear at acted
  cases mevent : state.mevent with
  | processing rest =>
      rw [mevent] at acted
      cases acted
  | polling =>
      rw [mevent] at acted
      obtain ⟨kicked, same⟩ := Option.ite_none_right_eq_some.mp acted
      cases same
      have effort : MeventThread.effort
          (if headerField state.machine.memory .status = 0xf then
            .processing [.cursor, .control]
          else .polling) ≤ 21 := by
        split <;> simp [MeventThread.effort]
      simp only [Station.load, Station.exchange, mevent, kicked,
        MeventThread.effort, Bool.toNat_true, Bool.toNat_false] at effort ⊢
      omega

theorem length_vdpySubmitBh (requests : List Queue) (queue : Queue) :
    (vdpySubmitBh true requests queue).length ≤ requests.length + 1 := by
  unfold vdpySubmitBh
  split
  · rw [List.length_append, List.length_singleton]
  · exact Nat.le_succ _

theorem Runner.effort_signal (runner : Runner) :
    runner.signal.effort ≤ runner.effort + 2 := by
  cases runner <;> simp [Runner.signal, Runner.effort]

theorem submit_load (acted : state.submit = some after) :
    after.load < state.load := by
  unfold Station.submit at acted
  cases mevent : state.mevent with
  | polling =>
      rw [mevent] at acted
      cases acted
  | processing rest =>
      rw [mevent] at acted
      cases rest with
      | nil =>
          cases acted
          simp only [Station.load, Station.exchange, mevent,
            MeventThread.effort]
          omega
      | cons queue rest =>
          dsimp only at acted
          split at acted
          · obtain ⟨_, same⟩ := Option.ite_none_left_eq_some.mp acted
            cases same
            have listed := length_vdpySubmitBh state.requests queue
            have woken := state.runner.effort_signal
            simp only [Station.load, Station.exchange, mevent,
              MeventThread.effort, List.length_cons]
            omega
          · cases acted
            simp only [Station.load, Station.exchange, mevent,
              MeventThread.effort, List.length_cons]
            omega

theorem iterate_load {iov : Nat → IoVec} {flags : Nat → Nat}
    (acted : state.iterate iov flags = some after) :
    after.load < state.load := by
  obtain ⟨idle, awake, entered | ⟨_, round⟩⟩ :=
    Station.iterate_cases acted
  · obtain ⟨queue, rest, requests, rfl⟩ := entered
    have task := (@startBh_idle _ queue iov flags idle).1
    have runs : 1 ≤ state.runner.effort := by
      cases runner : state.runner with
      | waiting => exact absurd runner awake
      | polling | signalled | running => decide
    simp only [Station.load, Station.exchange, requests, idle, task,
      Task.effort, Runner.effort, List.length_cons, Exchange.waiting,
      Exchange.fifo] at runs ⊢
    omega
  · rcases round with ⟨polling, rfl⟩ | ⟨away, rfl⟩
    · simp only [Station.load, Station.exchange, polling, Runner.effort]
      omega
    · have runs : 2 ≤ state.runner.effort := by
        cases runner : state.runner with
        | waiting => exact absurd runner awake
        | polling => exact absurd runner away
        | signalled | running => decide
      simp only [Station.load, Station.exchange, Runner.effort] at runs ⊢
      omega

namespace Station.Attended

theorem run_load (attended : state.Attended start) {env : Env}
    (behaves : ∀ queue, InUse start queue →
      DriverBehaves queue state.machine)
    (acted : state.run env = some after) : after.load < state.load := by
  obtain ⟨machine, events, current, running, works, ran, rfl⟩ :=
    run_eq_some acted
  have used := attended.serves current works
  have lighter := ((attended.exchanges current used).nearer_of_section
    (behaves current used) works ran).lighter
  cases current with
  | control =>
      have same := @waiting_other state machine events env .cursor .control
        works nofun ran
      simp only [Station.load, Station.exchange] at lighter same ⊢
      omega
  | cursor =>
      have same := @waiting_other state machine events env .control .cursor
        works nofun ran
      simp only [Station.load, Station.exchange] at lighter same ⊢
      omega

theorem load_lt (attended : state.Attended start) {label : StationLabel}
    (own : label.byBackend = true)
    (behaves : StationBehaves start state label)
    (acted : state.act label = some after) : after.load < state.load := by
  cases label with
  | publish heads memory => cases own
  | kick => cases own
  | wake => cases own
  | hear => exact hear_load acted
  | submit => exact submit_load acted
  | iterate iov flags => exact iterate_load acted
  | run env => exact attended.run_load behaves.2 acted

/-- Where no bottom half runs, the threads stop in `epoll_wait` and in
`pthread_cond_wait` with nothing to do. -/
theorem still_idle (attended : state.Attended start) (still : state.Still)
    (idle : state.machine.task = .idle) :
    state.kicked = false ∧ state.mevent = .polling ∧ state.requests = [] := by
  have stuck := still (.iterate (fun _ => ⟨none, 0⟩) fun _ => 0) rfl
  have waiting : state.runner = .waiting := by
    unfold Station.act Station.iterate at stuck
    cases runner : state.runner <;> cases requests : state.requests <;>
      simp_all
  have unsubmitted := still .submit rfl
  have unheard := still .hear rfl
  unfold Station.act Station.submit at unsubmitted
  unfold Station.act Station.hear at unheard
  dsimp only at unsubmitted unheard
  cases mevent : state.mevent with
  | polling =>
      rw [mevent] at unheard
      refine ⟨?_, rfl, attended.asleep waiting⟩
      simpa using unheard
  | processing rest =>
      rw [mevent] at unsubmitted
      cases rest with
      | nil => cases unsubmitted
      | cons queue rest =>
          dsimp only at unsubmitted
          rw [waiting] at unsubmitted
          split at unsubmitted
          · rw [if_neg nofun] at unsubmitted
            cases unsubmitted
          · cases unsubmitted

/-- A queue that nobody is to look at has nothing left. -/
theorem settled (attended : state.Attended start) (still : state.Still)
    (idle : state.machine.task = .idle) (kicked : state.owing = false)
    {queue : Queue} (used : InUse start queue) :
    ((state.exchange queue).fifo queue).released = state.published queue ∧
      untold queue state.events = false := by
  obtain ⟨unkicked, polling, empty⟩ := attended.still_idle still idle
  have works : state.machine.task.queue? = none := by
    rw [idle]
    rfl
  constructor
  · have unwaiting : (state.exchange queue).waiting queue = 0 := by
      by_contra waits
      rcases attended.attended queue used waits with
        owing | given | polled | listed | ⟨runs, _⟩
      · rw [kicked] at owing
        cases owing
      · rw [unkicked] at given
        cases given
      · rw [polling] at polled
        cases polled
      · rw [empty] at listed
        cases listed
      · rw [works] at runs
        cases runs
    have sound := (attended.exchanges queue used).sound
    have inHand := (attended.exchanges queue used).inHand
    have held : state.machine.task.held queue = none := by
      rw [idle]
      rfl
    rw [show (state.exchange queue).machine = state.machine from rfl,
      held] at inHand
    have taken : ((state.exchange queue).fifo queue).consumed =
        ((state.exchange queue).fifo queue).released.length := inHand
    refine sound.inOrder.eq_of_length ?_
    have available := sound.available
    have all : (state.published queue).length -
        ((state.exchange queue).fifo queue).consumed = 0 := unwaiting
    have published : ((state.exchange queue).fifo queue).published =
        state.published queue := rfl
    rw [published] at available ⊢
    omega
  · rw [← Bool.not_eq_true]
    intro given
    have runs := attended.told queue used given
    rw [works] at runs
    cases runs

end Station.Attended

end Loads

/-- Each step of the backend leaves fewer of them.  When none is left, a bottom
half that has not returned is in a section that faults; otherwise, and with no
kick owed, every chain of every queue in use is given back, in order, and
`vq_endchains` has looked at it. -/
structure Station.Settles (start : Machine) (state : Station) : Prop where
  ends : ∀ (label : StationLabel) (after : Station), label.byBackend = true →
    StationBehaves start state label → state.act label = some after →
      after.load < state.load
  faults : state.Still → state.machine.task ≠ .idle →
    ∀ env, env.Fresh state.machine.device.gpu →
      ∃ fault, bhStep env state.machine = .error fault
  settled : state.Still → state.machine.task = .idle → state.owing = false →
    ∀ queue, InUse start queue →
      ((state.exchange queue).fifo queue).released = state.published queue ∧
        untold queue state.events = false

theorem station_settles {start : Machine} {state : Station}
    (reached : (station start).ReachedWhere (StationBehaves start) state) :
    state.Settles start := by
  have attended := station_attended reached
  refine ⟨fun label after own behaves acted =>
    attended.load_lt own behaves acted, ?_, fun still idle kicked queue used =>
      attended.settled still idle kicked used⟩
  intro still busy env fresh
  have works : state.machine.task.queue? ≠ none := by
    cases task : state.machine.task with
    | idle => exact absurd task busy
    | testing | fetching | serving | releasing | ending =>
        exact Option.some_ne_none _
  have stuck := still (.run env) rfl
  unfold Station.act Station.run at stuck
  dsimp only at stuck
  rw [if_pos ⟨fresh, attended.locked works, works⟩] at stuck
  cases stepped : bhStep env state.machine with
  | error fault => exact ⟨fault, rfl⟩
  | ok result =>
      rw [stepped] at stuck
      cases stuck

/-! One command, from the kick to rest. -/

/-- A request in memory, and the status of a running device. -/
def liveMemory (bytes : List UInt8) : Memory :=
  setHeaderField (requestMemory 0 bytes) .status 0xf

def checkBehaves (start machine : Machine) (queue : Queue) : Bool :=
  !vqRingReady (start.device.queues queue) ||
    decide (DriverBehaves queue machine)

def checkStation (start : Machine) (state : Station) : StationLabel → Bool
  | .publish _ _ => false
  | .hear =>
      decide (state.machine.memory.load32 writeTransactionOffset = 0) &&
        decide (headerField state.machine.memory .status = 0xf)
  | .run _ => checkResponse state.machine &&
      (checkBehaves start state.machine .control &&
        checkBehaves start state.machine .cursor)
  | .kick | .submit | .iterate _ _ | .wake => true

theorem behaves_of_check {start machine : Machine} {queue : Queue}
    (checked : checkBehaves start machine queue = true)
    (used : InUse start queue) : DriverBehaves queue machine := by
  unfold checkBehaves at checked
  rw [show vqRingReady (start.device.queues queue) = true from used] at checked
  exact of_decide_eq_true checked

theorem stationBehaves_of_check {start : Machine} {state : Station}
    {label : StationLabel} (checked : checkStation start state label = true) :
    StationBehaves start state label := by
  cases label with
  | publish heads memory => cases checked
  | hear =>
      obtain ⟨quiet, live⟩ := Bool.and_eq_true_iff.mp checked
      exact ⟨of_decide_eq_true quiet, of_decide_eq_true live⟩
  | run env =>
      obtain ⟨fits, behaves⟩ := Bool.and_eq_true_iff.mp checked
      obtain ⟨control, cursor⟩ := Bool.and_eq_true_iff.mp behaves
      refine ⟨responseFits_of_check fits, fun queue used => ?_⟩
      cases queue with
      | control => exact behaves_of_check control used
      | cursor => exact behaves_of_check cursor used
  | kick | submit | iterate | wake => trivial

def actChecked (start : Machine) (state : Station) (label : StationLabel) :
    Option Station :=
  if checkStation start state label then state.act label else none

/-- The control queue is in use, with one chain. -/
def stationOne (start : Machine) : Station where
  machine := start
  events := []
  published := fun queue =>
    match queue with
    | .control => [0]
    | .cursor => []
  kicked := false
  owing := true
  mevent := .polling
  requests := []
  runner := .polling

/-- The kick is heard, the queues are looked at, and the chain is served. -/
def servesOne : List StationLabel :=
  let iterate := .iterate (fun _ => ⟨none, 0⟩) fun _ => 0
  [iterate, .kick, .hear, .submit, .submit, .submit, iterate] ++
    List.replicate 3 (.run (Env.steady 0)) ++
    List.replicate 3 (.run (Env.steady 1)) ++ [iterate, iterate]

theorem stationOne_initial {start : Machine} {events : List Event}
    (reached : backend.Reached ⟨start, events⟩)
    (checked : opensOne start = true) :
    (station start).initial (stationOne start) := by
  have opens := opens_of_check reached checked
  have off : ¬InUse start .cursor := by
    intro used
    simp only [opensOne, Bool.and_eq_true, Bool.not_eq_true'] at checked
    have unready := checked.1.1.1.2
    rw [show vqRingReady (start.device.queues .cursor) = true from used]
      at unready
    cases unready
  refine ⟨(stationOne start).published, opens.idle, ?_, ?_, rfl⟩
  · intro queue used
    cases queue with
    | control => exact opens
    | cursor => exact absurd used off
  · intro queue unused
    cases queue with
    | control => exact absurd opens.ready unused
    | cursor => rfl

theorem reached_actChecked {start : Machine} {before after : Station}
    {label : StationLabel}
    (reached : (station start).ReachedWhere (StationBehaves start) before)
    (acted : actChecked start before label = some after) :
    (station start).ReachedWhere (StationBehaves start) after := by
  obtain ⟨permitted, acted⟩ := Option.ite_none_right_eq_some.mp acted
  exact .step reached (stationBehaves_of_check permitted) acted

def restsAfterOne (state : Station) : Bool :=
  decide (((state.exchange .control).fifo .control).released = [0]) &&
    decide (state.runner = .waiting)

theorem station_settles_create :
    ∃ (start : Machine) (state : Station),
      ((state.exchange .control).fifo .control).released = [0] ∧
        state.runner = .waiting ∧ state.Settles start := by
  obtain ⟨traced, reached, checked⟩ :=
    @exists_reached
      ⟨initialMachine ⟨65536, 5⟩ true 1
        (liveMemory (createRequest 1 64 48)), []⟩
      (setUpQueue .control 2 64 128 160)
      (fun traced => opensOne traced.machine &&
        (servesOne.foldlM (actChecked traced.machine)
          (stationOne traced.machine)).any
          restsAfterOne)
      ⟨_, true, 1, _, fun _ => rfl, by decide, rfl⟩ (by decide +kernel)
  obtain ⟨opened, ran⟩ := Bool.and_eq_true_iff.mp checked
  obtain ⟨state, ran, good⟩ := (Option.any_eq_true _ _).mp ran
  obtain ⟨released, waiting⟩ := Bool.and_eq_true_iff.mp good
  have runs := TransitionSystem.ReachedWhere.foldlM reached_actChecked
    (.initial (stationOne_initial reached opened)) ran
  exact ⟨traced.machine, state, of_decide_eq_true released,
    of_decide_eq_true waiting, station_settles runs⟩

end VirtioGpu.Backend
