import VirtioGpu.Backend.Station

namespace VirtioGpu.Backend

open Foundation
open Virtio
open Gpu

/-! Who is to serve a queue that has chains left. -/

/-- What is left of the round of a bottom half, where a chain that is still to
be taken counts for four. -/
def Task.effort : Task → Nat
  | .idle => 0
  | .fetching _ _ | .ending _ => 1
  | .testing _ _ => 2
  | .releasing _ _ _ => 3
  | .serving _ _ _ _ => 4

/-- The chains published and not yet taken. -/
def Exchange.waiting (state : Exchange) (queue : Queue) : Nat :=
  state.published.length - (state.fifo queue).consumed

def tell (queue : Queue) (given : Bool) : Event → Bool
  | .released current _ _ => given || decide (current = queue)
  | .ended current _ => given && decide (current ≠ queue)
  | .mapped _ | .fetched _ | .served _ | .servedCursor _ _ _ _ => given

/-- Whether a chain of the queue was given back since its last
`vq_endchains`. -/
def untold (queue : Queue) (events : List Event) : Bool :=
  events.foldl (tell queue) false

/-- A section takes its queue nearer to the end of the bottom half, which is
reached only when no chain is waiting. -/
structure Nearer (queue : Queue) (before after : Exchange) : Prop where
  lighter : 4 * after.waiting queue + after.machine.task.effort <
    4 * before.waiting queue + before.machine.task.effort
  stays : after.machine.task.queue? = some queue ∨
    before.machine.task = .ending queue ∧ after.machine.task = .idle ∧
      untold queue after.events = false
  leaves : after.machine.task = .ending queue → after.waiting queue = 0
  fewer : after.waiting queue ≤ before.waiting queue

section Sections

variable {queue current : Queue} {start machine : Machine}
  {before : Exchange} {events : List Event} {env : Env}

/-- A section of one bottom half says nothing of the other queue. -/
theorem Section.silent_other
    (ran : Section env before.machine machine events)
    (works : before.machine.task.queue? = some current)
    (other : current ≠ queue) :
    ∀ event, event ∈ events → event.Silent queue := by
  intro event member
  cases ran with
  | idle task | more task _ | done task _ => cases member
  | rejected task _ | accepted task _ =>
      rw [task] at works
      cases works
      cases List.mem_singleton.mp member
      exact ⟨decide_eq_false other, rfl, nofun⟩
  | served task _ _ | servedCursor task _ =>
      cases List.mem_singleton.mp member
      exact ⟨rfl, rfl, nofun⟩
  | released task =>
      rw [task] at works
      cases works
      cases List.mem_singleton.mp member
      exact ⟨rfl, if_neg other, nofun⟩
  | ended task =>
      rw [task] at works
      cases works
      cases List.mem_singleton.mp member
      exact ⟨rfl, rfl, fun _ same => other (by cases same; rfl)⟩

theorem untold_append (first second : List Event) :
    untold queue (first ++ second) =
      second.foldl (tell queue) (untold queue first) := by
  unfold untold
  exact List.foldl_append

theorem tell_silent {event : Event} (given : Bool)
    (silent : event.Silent queue) : tell queue given event = given := by
  cases event with
  | released current idx iolen =>
      have other : current ≠ queue := by
        intro same
        have gives := silent.gives
        rw [Event.gives, if_pos same] at gives
        cases gives
      simp [tell, other]
  | ended current interrupt =>
      have other : current ≠ queue := by
        intro same
        exact silent.ends interrupt (by rw [same])
      simp [tell, other]
  | mapped | fetched | served | servedCursor => rfl

theorem untold_silent (first : List Event)
    (silent : ∀ event, event ∈ events → event.Silent queue) :
    untold queue (first ++ events) = untold queue first := by
  rw [untold_append]
  generalize untold queue first = given
  induction events with
  | nil => rfl
  | cons event rest induction =>
      rw [List.foldl_cons, tell_silent given (silent event List.mem_cons_self)]
      exact induction fun event member =>
        silent event (List.mem_cons_of_mem _ member)

/-- Nothing is left of the queue that a bottom half leaves. -/
theorem Exchange.Invariant.drained (invariant : before.Invariant queue start)
    (drained : vqHasDescs (before.machine.device.queues queue)
      before.machine.memory = false) : before.waiting queue = 0 := by
  have waiting := invariant.waiting
  have sound := invariant.sound
  have layout := invariant.layout
  have room : before.published.length ≤ (before.fifo queue).released.length +
      (start.device.queues queue).qsize := sound.room
  obtain ⟨lastAvail, saveUsed, same⟩ := invariant.moved queue
  have ready : vqRingReady (before.machine.device.queues queue) = true := by
    rw [same]
    exact layout.ready
  have size : (before.machine.device.queues queue).qsize =
      (start.device.queues queue).qsize := by
    rw [same]
  unfold vqHasDescs at drained
  rw [ready, Bool.true_and, waiting, size] at drained
  have given := sound.given
  have few : ¬before.published.length - (before.fifo queue).consumed >
      (start.device.queues queue).qsize := by
    omega
  rw [decide_eq_false few, Bool.not_false, Bool.and_true] at drained
  have level := not_not.mp (of_decide_eq_false drained)
  have small := (invariant.queues queue).small
  rw [← level] at waiting
  unfold Exchange.waiting
  rw [← waiting]
  unfold sub16
  omega

/-- As many chains wait after a section that takes none. -/
theorem waiting_of_untaken
    (untaken : ∀ event, event ∈ events → event.takes queue = false) :
    Exchange.waiting ⟨machine, before.events ++ events, before.published⟩
      queue = before.waiting queue := by
  have takes : events.countP (Event.takes queue) = 0 := by
    rw [List.countP_eq_zero]
    intro event member
    rw [untaken event member]
    exact Bool.false_ne_true
  simp only [Exchange.waiting, Exchange.fifo, List.countP_append, takes,
    Nat.add_zero]

/-- A section that takes no chain and goes on with the round. -/
theorem nearer_of_untaken
    (untaken : ∀ event, event ∈ events → event.takes queue = false)
    (shorter : machine.task.effort < before.machine.task.effort)
    (stays : machine.task.queue? = some queue)
    (goesOn : machine.task ≠ .ending queue) :
    Nearer queue before
      ⟨machine, before.events ++ events, before.published⟩ := by
  have same := @waiting_of_untaken queue machine before events untaken
  refine ⟨?_, .inl stays, fun leaves => absurd leaves goesOn,
    Nat.le_of_eq same⟩
  rw [same]
  exact Nat.add_lt_add_left shorter _

/-- The queue is left when no chain waits. -/
theorem Exchange.Invariant.nearer_of_drained {locals : Locals}
    (invariant : before.Invariant queue start)
    (task : before.machine.task = .testing queue locals)
    (drained : vqHasDescs (before.machine.device.queues queue)
      before.machine.memory = false) :
    Nearer queue before
      ⟨{ before.machine with task := .ending queue }, before.events ++ [],
        before.published⟩ := by
  have same := @waiting_of_untaken queue
    { before.machine with task := .ending queue } before [] (by simp)
  refine ⟨?_, .inl rfl, fun _ => ?_, Nat.le_of_eq same⟩
  · rw [same, task]
    simp only [Task.effort]
    omega
  · rw [same]
    exact invariant.drained drained

/-- A chain that is taken waits no more. -/
theorem Exchange.Invariant.nearer_of_accepted {locals taken : Locals}
    {device : Device} {idx n : Nat}
    (invariant : before.Invariant queue start)
    (task : before.machine.task = .fetching queue locals) :
    Nearer queue before
      ⟨⟨device, before.machine.memory, .serving queue taken idx n⟩,
        before.events ++ [.fetched (fetchOf before.machine queue locals)],
        before.published⟩ := by
  have more := invariant.more locals task
  have one : Exchange.waiting
      ⟨⟨device, before.machine.memory, .serving queue taken idx n⟩,
        before.events ++ [.fetched (fetchOf before.machine queue locals)],
        before.published⟩ queue + 1 = before.waiting queue := by
    simp only [Exchange.waiting, Exchange.fifo, List.countP_append,
      List.countP_singleton, Event.takes, fetchOf, decide_true, if_true]
      at more ⊢
    omega
  refine ⟨?_, .inl rfl, (fun leaves => by cases leaves),
    Nat.le_of_succ_le (Nat.le_of_eq one)⟩
  rw [← one, task]
  simp only [Task.effort]
  omega

/-- Once the driver has been told, nothing is untold. -/
theorem nearer_of_ended {interrupt : Bool}
    (task : before.machine.task = .ending queue) :
    Nearer queue before
      ⟨(endChains before.machine queue).1,
        before.events ++ [.ended queue interrupt], before.published⟩ := by
  have same := @waiting_of_untaken queue (endChains before.machine queue).1
    before [.ended queue interrupt] (by simp [Event.takes])
  refine ⟨?_, .inr ⟨task, rfl, ?_⟩, (fun leaves => by cases leaves),
    Nat.le_of_eq same⟩
  · rw [same, task]
    simp only [Task.effort, endChains]
    omega
  · rw [untold_append]
    simp [tell]

/-- A section of the bottom half of the queue. -/
theorem Exchange.Invariant.nearer_of_section
    (invariant : before.Invariant queue start)
    (behaves : DriverBehaves queue before.machine)
    (works : before.machine.task.queue? = some queue)
    (ran : Section env before.machine machine events) :
    Nearer queue before
      ⟨machine, before.events ++ events, before.published⟩ := by
  cases ran with
  | idle task =>
      rw [task] at works
      cases works
  | more task ready =>
      rw [task] at works
      cases works
      refine nearer_of_untaken (by simp) ?_ rfl
        (fun ending => by cases ending)
      rw [task]
      exact Nat.lt_add_one _
  | done task drained =>
      rw [task] at works
      cases works
      exact invariant.nearer_of_drained task drained
  | rejected task bad =>
      rw [task] at works
      cases works
      unfold DriverBehaves at behaves
      rw [task] at behaves
      have positive := (invariant.fetch task (behaves rfl)).2.2
      omega
  | accepted task good =>
      rw [task] at works
      cases works
      exact invariant.nearer_of_accepted task
  | served task _ _ | servedCursor task _ | released task =>
      rw [task] at works
      cases works
      refine nearer_of_untaken (by simp [Event.takes]) ?_ rfl
        (fun ending => by cases ending)
      rw [task]
      exact Nat.lt_add_one _
  | ended task =>
      rw [task] at works
      cases works
      exact nearer_of_ended task

end Sections

/-! The whole station. -/

/-- Somebody has still to hear of the queue, to submit or to enter its bottom
half, or the bottom half is going to look once more. -/
def Station.Awaits (state : Station) (queue : Queue) : Prop :=
  state.owing = true ∨ state.kicked = true ∨ queue ∈ state.mevent.rest ∨
    queue ∈ state.requests ∨
    state.machine.task.queue? = some queue ∧
      state.machine.task ≠ .ending queue

structure Station.Attended (start : Machine) (state : Station) : Prop where
  exchanges : ∀ queue, InUse start queue →
    (state.exchange queue).Invariant queue start
  moved : ∀ queue, Moved (start.device.queues queue)
    (state.machine.device.queues queue)
  serves : ∀ queue, state.machine.task.queue? = some queue →
    InUse start queue
  listed : ∀ queue, queue ∈ state.requests → InUse start queue
  locked : state.machine.task.queue? ≠ none → state.runner = .running
  asleep : state.runner = .waiting → state.requests = []
  attended : ∀ queue, InUse start queue →
    (state.exchange queue).waiting queue ≠ 0 → state.Awaits queue
  told : ∀ queue, InUse start queue → untold queue state.events = true →
    state.machine.task.queue? = some queue
  unused : ∀ queue, ¬InUse start queue → state.published queue = []

theorem mem_vdpySubmitBh {requests : List Queue} {queue other : Queue} :
    other ∈ vdpySubmitBh true requests queue ↔
      other = queue ∨ other ∈ requests := by
  unfold vdpySubmitBh
  rw [Bool.true_and]
  split
  · rw [List.mem_append, List.mem_singleton, Or.comm]
  · rename_i pending
    have member : queue ∈ requests := by simpa using pending
    constructor
    · exact .inr
    · rintro (rfl | listed)
      · exact member
      · exact listed

theorem startBh_idle {machine : Machine} {queue : Queue}
    {iov : Nat → IoVec} {flags : Nat → Nat} (idle : machine.task = .idle) :
    (startBh machine queue iov flags).task =
      .testing queue ⟨iov, flags, 0⟩ ∧
    (startBh machine queue iov flags).device = machine.device := by
  unfold startBh
  rw [idle]
  exact ⟨rfl, rfl⟩

namespace Station

variable {state after : Station}

theorem iterate_cases {iov : Nat → IoVec} {flags : Nat → Nat}
    (acted : state.iterate iov flags = some after) :
    state.machine.task = .idle ∧ state.runner ≠ .waiting ∧
      ((∃ queue rest, state.requests = queue :: rest ∧ after = { state with
          machine := startBh state.machine queue iov flags
          requests := rest
          runner := .running }) ∨
        state.requests = [] ∧
          ((state.runner = .polling ∧
              after = { state with runner := .waiting }) ∨
            state.runner ≠ .polling ∧
              after = { state with runner := .polling })) := by
  unfold Station.iterate at acted
  split at acted
  · cases acted
  · rename_i task requests awake
    cases acted
    exact ⟨task, awake, .inl ⟨_, _, requests, rfl⟩⟩
  · rename_i runner task requests
    cases acted
    rw [runner]
    exact ⟨task, nofun, .inr ⟨requests, .inl ⟨rfl, rfl⟩⟩⟩
  · rename_i runner task requests
    cases acted
    rw [runner]
    exact ⟨task, nofun, .inr ⟨requests, .inr ⟨nofun, rfl⟩⟩⟩
  · rename_i runner task requests
    cases acted
    rw [runner]
    exact ⟨task, nofun, .inr ⟨requests, .inr ⟨nofun, rfl⟩⟩⟩
  · cases acted

theorem run_eq_some {env : Env} (acted : state.run env = some after) :
    ∃ machine events current, state.runner = .running ∧
      state.machine.task.queue? = some current ∧
      Section env state.machine machine events ∧
      after = { state with
        machine := machine
        events := state.events ++ events } := by
  obtain ⟨⟨_, running, works⟩, acted⟩ := Option.ite_none_right_eq_some.mp acted
  obtain ⟨current, works⟩ := Option.ne_none_iff_exists'.mp works
  cases stepped : bhStep env state.machine with
  | error fault =>
      rw [stepped] at acted
      cases acted
  | ok result =>
      rw [stepped] at acted
      cases acted
      exact ⟨_, _, current, running, works, bhStep_section stepped, rfl⟩

/-- The other queue does not notice a section. -/
theorem waiting_other {machine : Machine} {events : List Event} {env : Env}
    {queue current : Queue}
    (works : state.machine.task.queue? = some current)
    (other : current ≠ queue)
    (ran : Section env state.machine machine events) :
    Exchange.waiting ⟨machine, state.events ++ events, state.published queue⟩
      queue = (state.exchange queue).waiting queue := by
  have silent : ∀ event, event ∈ events → event.Silent queue :=
    @Section.silent_other queue current machine (state.exchange queue) events
      env ran works other
  have same := @fifo_of_silent queue (state.exchange queue) machine events
    silent
  unfold Exchange.waiting
  exact congrArg (fun fifo : Fifo Nat =>
    (state.published queue).length - fifo.consumed) same

end Station

namespace Station.Attended

variable {start : Machine} {state after : Station}

theorem ready (attended : state.Attended start) (queue : Queue) :
    vqRingReady (state.machine.device.queues queue) = true ↔
      InUse start queue := by
  obtain ⟨_, _, same⟩ := attended.moved queue
  rw [same]
  rfl

theorem initial (starts : (station start).initial state) :
    state.Attended start := by
  obtain ⟨published, idle, opens, unused, rfl⟩ := starts
  refine ⟨fun queue used => (opens queue used).invariant,
    fun queue => .refl _, ?_, nofun, ?_, nofun, fun _ _ _ => .inl rfl, nofun,
    unused⟩
  · intro queue works
    dsimp only at works
    rw [idle] at works
    cases works
  · intro works
    dsimp only at works
    rw [idle] at works
    exact absurd rfl works

theorem kept_by_publish (attended : state.Attended start)
    {heads : Queue → List Nat} {memory : Memory}
    (publishes : ∀ queue, InUse start queue →
      Publishes (start.device.queues queue)
        (start.device.queues queue).lastAvail
        ((state.exchange queue).fifo queue) (heads queue)
        state.machine.memory memory)
    (unusedHeads : ∀ queue, ¬InUse start queue → heads queue = [])
    (acted : state.act (.publish heads memory) = some after) :
    after.Attended start := by
  cases acted
  refine ⟨?_, attended.moved, attended.serves, attended.listed,
    attended.locked, attended.asleep, fun _ _ _ => .inl rfl, attended.told,
    ?_⟩
  · intro queue used
    exact (attended.exchanges queue used).publish (publishes queue used)
  · intro queue unused
    dsimp only
    rw [attended.unused queue unused, unusedHeads queue unused]
    rfl

theorem kept_by_kick (attended : state.Attended start)
    (acted : state.act .kick = some after) : after.Attended start := by
  cases acted
  exact ⟨attended.exchanges, attended.moved, attended.serves,
    attended.listed, attended.locked, attended.asleep,
    fun _ _ _ => .inr (.inl rfl), attended.told, attended.unused⟩

/-- All queues are looked at. -/
theorem kept_by_hear (attended : state.Attended start)
    (live : headerField state.machine.memory .status = 0xf)
    (acted : state.act .hear = some after) : after.Attended start := by
  unfold Station.act Station.hear at acted
  dsimp only at acted
  cases mevent : state.mevent with
  | processing rest =>
      rw [mevent] at acted
      cases acted
  | polling =>
      rw [mevent, if_pos live] at acted
      obtain ⟨_, same⟩ := Option.ite_none_right_eq_some.mp acted
      cases same
      refine ⟨attended.exchanges, attended.moved, attended.serves,
        attended.listed, attended.locked, attended.asleep, ?_, attended.told,
        attended.unused⟩
      intro queue _ _
      refine .inr (.inr (.inl ?_))
      cases queue with
      | control => exact List.mem_cons_of_mem _ List.mem_cons_self
      | cursor => exact List.mem_cons_self

theorem kept_by_submit (attended : state.Attended start)
    (acted : state.act .submit = some after) : after.Attended start := by
  unfold Station.act Station.submit at acted
  dsimp only at acted
  cases mevent : state.mevent with
  | polling =>
      rw [mevent] at acted
      cases acted
  | processing rest =>
      rw [mevent] at acted
      cases rest with
      | nil =>
          cases acted
          refine ⟨attended.exchanges, attended.moved, attended.serves,
            attended.listed, attended.locked, attended.asleep, ?_,
            attended.told, attended.unused⟩
          intro queue used waits
          have awaits := attended.attended queue used waits
          unfold Station.Awaits at awaits ⊢
          rw [mevent] at awaits
          exact awaits
      | cons queue rest =>
          dsimp only at acted
          have heard : ∀ {other : Queue} {requests : List Queue},
              (other = queue → other ∈ requests) →
              (other ∈ state.requests → other ∈ requests) →
              state.Awaits other →
              state.owing = true ∨ state.kicked = true ∨ other ∈ rest ∨
                other ∈ requests ∨
                state.machine.task.queue? = some other ∧
                  state.machine.task ≠ .ending other := by
            intro other requests mine kept awaits
            unfold Station.Awaits at awaits
            rw [mevent, MeventThread.rest, List.mem_cons] at awaits
            rcases awaits with owing | kicked | (same | polled) | listed | runs
            · exact .inl owing
            · exact .inr (.inl kicked)
            · exact .inr (.inr (.inr (.inl (mine same))))
            · exact .inr (.inr (.inl polled))
            · exact .inr (.inr (.inr (.inl (kept listed))))
            · exact .inr (.inr (.inr (.inr runs)))
          by_cases ready :
              vqRingReady (state.machine.device.queues queue) = true
          · rw [if_pos ready] at acted
            obtain ⟨free, same⟩ := Option.ite_none_left_eq_some.mp acted
            cases same
            refine ⟨attended.exchanges, attended.moved, attended.serves, ?_,
              ?_, ?_, ?_, attended.told, attended.unused⟩
            · intro other listed
              rcases mem_vdpySubmitBh.mp listed with rfl | listed
              · exact (attended.ready other).mp ready
              · exact attended.listed other listed
            · intro works
              exact absurd (attended.locked works) free
            · intro sleeping
              dsimp only at sleeping
              cases runner : state.runner <;> rw [runner] at sleeping <;>
                cases sleeping
            · intro other used waits
              exact heard (fun same => mem_vdpySubmitBh.mpr (.inl same))
                (fun listed => mem_vdpySubmitBh.mpr (.inr listed))
                (attended.attended other used waits)
          · rw [if_neg ready] at acted
            cases acted
            refine ⟨attended.exchanges, attended.moved, attended.serves,
              attended.listed, attended.locked, attended.asleep, ?_,
              attended.told, attended.unused⟩
            intro other used waits
            refine heard ?_ (fun listed => listed)
              (attended.attended other used waits)
            rintro rfl
            exact absurd ((attended.ready other).mpr used) ready

theorem kept_by_iterate (attended : state.Attended start) {iov : Nat → IoVec}
    {flags : Nat → Nat}
    (acted : state.act (.iterate iov flags) = some after) :
    after.Attended start := by
  obtain ⟨idle, awake, entered | ⟨empty, round⟩⟩ := iterate_cases acted
  · obtain ⟨queue, rest, requests, rfl⟩ := entered
    obtain ⟨task, device⟩ := @startBh_idle _ queue iov flags idle
    refine ⟨?_, ?_, ?_, ?_, fun _ => rfl, nofun, ?_, ?_, attended.unused⟩
    · intro other used
      exact (attended.exchanges other used).enter queue iov flags
    · intro other
      dsimp only
      rw [device]
      exact attended.moved other
    · intro other works
      dsimp only at works
      rw [task] at works
      cases works
      apply attended.listed
      rw [requests]
      exact List.mem_cons_self
    · intro other listed
      apply attended.listed
      rw [requests]
      exact List.mem_cons_of_mem _ listed
    · intro other used waits
      have awaits := attended.attended other used waits
      unfold Station.Awaits at awaits ⊢
      rw [requests, List.mem_cons, idle] at awaits
      dsimp only
      rw [task]
      rcases awaits with owing | kicked | polled | (same | listed) | ⟨runs, _⟩
      · exact .inl owing
      · exact .inr (.inl kicked)
      · exact .inr (.inr (.inl polled))
      · subst same
        exact .inr (.inr (.inr (.inr ⟨rfl, nofun⟩)))
      · exact .inr (.inr (.inr (.inl listed)))
      · cases runs
    · intro other used given
      have works := attended.told other used given
      rw [idle] at works
      cases works
  · have works : state.machine.task.queue? = none := by
      rw [idle]
      rfl
    rcases round with ⟨_, rfl⟩ | ⟨_, rfl⟩
    · exact ⟨attended.exchanges, attended.moved, attended.serves,
        attended.listed, fun serving => absurd works serving, fun _ => empty,
        attended.attended, attended.told, attended.unused⟩
    · exact ⟨attended.exchanges, attended.moved, attended.serves,
        attended.listed, fun serving => absurd works serving, nofun,
        attended.attended, attended.told, attended.unused⟩

theorem kept_by_wake (attended : state.Attended start)
    (acted : state.act .wake = some after) : after.Attended start := by
  obtain ⟨waiting, same⟩ := Option.ite_none_right_eq_some.mp acted
  cases same
  refine ⟨attended.exchanges, attended.moved, attended.serves,
    attended.listed, ?_, nofun, attended.attended, attended.told,
    attended.unused⟩
  intro works
  have running := attended.locked works
  rw [waiting] at running
  cases running

theorem kept_by_run (attended : state.Attended start) {env : Env}
    (fits : ResponseFits state.machine)
    (behaves : ∀ queue, InUse start queue →
      DriverBehaves queue state.machine)
    (acted : state.act (.run env) = some after) : after.Attended start := by
  obtain ⟨machine, events, current, running, works, ran, rfl⟩ :=
    run_eq_some acted
  have used := attended.serves current works
  have nearer := (attended.exchanges current used).nearer_of_section
    (behaves current used) works ran
  have invariants := fun queue used =>
    (attended.exchanges queue used).kept_by_section (behaves queue used) fits
      ran
  have still : ∀ {queue}, current ≠ queue →
      state.machine.task.queue? ≠ some queue := by
    intro queue other same
    rw [works] at same
    exact other (Option.some.inj same)
  refine ⟨invariants, (invariants current used).moved, ?_, attended.listed,
    fun _ => running, ?_, ?_, ?_, attended.unused⟩
  · intro queue later
    rcases nearer.stays with stays | ⟨_, idle, _⟩
    · rw [stays] at later
      cases later
      exact used
    · dsimp only at later idle
      rw [idle] at later
      cases later
  · intro sleeping
    dsimp only at sleeping
    rw [running] at sleeping
    cases sleeping
  · intro queue inUse waits
    rcases eq_or_ne current queue with rfl | other
    · have before : (state.exchange current).waiting current ≠ 0 := by
        intro nothing
        have fewer := nearer.fewer
        rw [nothing] at fewer
        exact waits (Nat.le_zero.mp fewer)
      rcases attended.attended current inUse before with
        owing | kicked | left | listed | ⟨_, looks⟩
      · exact .inl owing
      · exact .inr (.inl kicked)
      · exact .inr (.inr (.inl left))
      · exact .inr (.inr (.inr (.inl listed)))
      · rcases nearer.stays with stays | ⟨ending, _⟩
        · exact .inr (.inr (.inr (.inr
            ⟨stays, fun leaves => waits (nearer.leaves leaves)⟩)))
        · exact absurd ending looks
    · have before : (state.exchange queue).waiting queue ≠ 0 := by
        rw [← waiting_other works other ran]
        exact waits
      rcases attended.attended queue inUse before with
        owing | kicked | left | listed | ⟨runs, _⟩
      · exact .inl owing
      · exact .inr (.inl kicked)
      · exact .inr (.inr (.inl left))
      · exact .inr (.inr (.inr (.inl listed)))
      · exact absurd runs (still other)
  · intro queue inUse given
    rcases eq_or_ne current queue with rfl | other
    · rcases nearer.stays with stays | ⟨_, _, told⟩
      · exact stays
      · dsimp only at given told
        have same : (state.exchange current).events = state.events := rfl
        rw [same, given] at told
        cases told
    · have silent : ∀ event, event ∈ events → event.Silent queue :=
        @Section.silent_other queue current machine (state.exchange queue)
          events env ran works other
      dsimp only at given
      rw [untold_silent _ silent] at given
      exact absurd (attended.told queue inUse given) (still other)

end Station.Attended

theorem station_attended {start : Machine} {state : Station}
    (reached : (station start).ReachedWhere (StationBehaves start) state) :
    state.Attended start := by
  refine reached.invariant (Station.Attended start) ?_ ?_
  · exact fun state starts => Station.Attended.initial starts
  · intro before label after attended behaves acted
    cases label with
    | publish heads memory =>
        exact attended.kept_by_publish behaves.1 behaves.2 acted
    | kick => exact attended.kept_by_kick acted
    | hear => exact attended.kept_by_hear behaves.2 acted
    | submit => exact attended.kept_by_submit acted
    | iterate iov flags => exact attended.kept_by_iterate acted
    | run env => exact attended.kept_by_run behaves.1 behaves.2 acted
    | wake => exact attended.kept_by_wake acted

end VirtioGpu.Backend
