import VirtioGpu.Backend.GpuRun
import VirtioGpu.Backend.Queues
import VirtioGpu.Virtio.Rings

namespace VirtioGpu.Backend

open Foundation
open Virtio
open Gpu

/-! A driver and the two bottom halves, seen from one queue: the heads the
driver publishes there, and the heads the backend takes and gives back. -/

structure Exchange where
  machine : Machine
  events : List Event
  published : List Nat

inductive Move where
  | publish (heads : List Nat) (memory : Memory)
  | start (queue : Queue) (iov : Nat → IoVec) (flags : Nat → Nat)
  | run (env : Env)

def Event.takes (queue : Queue) : Event → Bool
  | .fetched fetch => decide (fetch.queue = queue)
  | .mapped _ | .served _ | .servedCursor _ _ _ _ | .released _ _ _
  | .ended _ _ => false

def Event.gives (queue : Queue) : Event → Option Nat
  | .released current idx _ => if current = queue then some idx else none
  | .mapped _ | .fetched _ | .served _ | .servedCursor _ _ _ _
  | .ended _ _ => none

/-- What was published, taken and given back so far. -/
def Exchange.fifo (state : Exchange) (queue : Queue) : Fifo Nat where
  published := state.published
  consumed := state.events.countP (Event.takes queue)
  released := state.events.filterMap (Event.gives queue)

/-- The buffer does not touch the rings of the queue. -/
def bufferApart (vq : VqInfo) (iov : IoVec) : Prop :=
  match iov.base with
  | none => True
  | some base => vq.ApartFrom base iov.len

/-- `vq_getchain` does not return -1 on this queue, and the buffers of control
chains do not touch its rings. -/
def DriverBehaves (queue : Queue) (machine : Machine) : Prop :=
  match machine.task with
  | .fetching current locals => current = queue →
      (fetchOf machine queue locals).result.ret ≠ -1
  | .serving .control locals _ n => ∀ slot, slot < n →
      bufferApart (machine.device.queues queue) (locals.iov slot)
  | .idle | .testing _ _ | .serving .cursor _ _ _ | .releasing _ _ _
  | .ending _ => True

/-- The queue is in use, no bottom half runs, and what the driver has
published but the backend not yet taken stands in the available ring. -/
structure Opens (queue : Queue) (start : Machine) (state : Exchange) :
    Prop where
  reached : ∃ events, backend.Reached ⟨start, events⟩
  machine : state.machine = start
  events : state.events = []
  idle : start.task = .idle
  ready : vqRingReady (start.device.queues queue) = true
  shaped : (start.device.queues queue).Shaped
  others : ∀ other, other ≠ queue →
    vqRingReady (start.device.queues other) = true →
      (start.device.queues queue).ApartFrom
        ((start.device.queues other).used.getD 0)
        (usedRingSize (start.device.queues other).qsize)
  index : (start.device.queues queue).availIdx start.memory =
    ((start.device.queues queue).lastAvail + state.published.length) % 65536
  entries : ∀ position head, state.published[position]? = some head →
    (start.device.queues queue).availRing start.memory
      (((start.device.queues queue).lastAvail + position) %
        (start.device.queues queue).qsize) = head
  room : state.published.length ≤ (start.device.queues queue).qsize

def exchange (queue : Queue) (start : Machine) :
    TransitionSystem Exchange Move where
  initial := Opens queue start
  step := fun before move after =>
    match move with
    | .publish heads memory =>
        Publishes (start.device.queues queue)
            (start.device.queues queue).lastAvail (before.fifo queue) heads
            before.machine.memory memory ∧
          after = ⟨{ before.machine with memory := memory }, before.events,
            before.published ++ heads⟩
    | .start current iov flags =>
        after = ⟨startBh before.machine current iov flags, before.events,
          before.published⟩
    | .run env =>
        env.Fresh before.machine.device.gpu ∧
          DriverBehaves queue before.machine ∧
          ∃ machine events,
            bhStep env before.machine = .ok (machine, events) ∧
              after = ⟨machine, before.events ++ events, before.published⟩

/-- The response of the control command to be served next fits into the
descriptor it is copied to. -/
def ResponseFits (machine : Machine) : Prop :=
  ∀ cmd, machine.nextCommand = some cmd →
    let exit := exitOf machine.device.gpu cmd machine.memory cmd.address
    exit.slot < cmd.iovcnt ∧ exit.size ≤ (cmd.iov exit.slot).len

def responsesFit (state : Exchange) : Move → Prop
  | .run _ => ResponseFits state.machine
  | .publish _ _ | .start _ _ _ => True

/-! Where the bottom halves stand. -/

namespace Task

def queue? : Task → Option Queue
  | .idle => none
  | .testing queue _ | .fetching queue _ | .serving queue _ _ _
  | .releasing queue _ _ | .ending queue => some queue

/-- The queue whose chain is being fetched or is in hand. -/
def working : Task → Option Queue
  | .fetching queue _ | .serving queue _ _ _ | .releasing queue _ _ =>
      some queue
  | .idle | .testing _ _ | .ending _ => none

/-- The head taken from this queue and not yet given back. -/
def held (queue : Queue) : Task → Option Nat
  | .serving current _ idx _ | .releasing current _ idx =>
      if current = queue then some idx else none
  | .idle | .testing _ _ | .fetching _ _ | .ending _ => none

end Task

/-- Chains complete exactly once and in order: the heads given back begin the
sequence of published heads, the recent ones stand where the driver reads
them, and the indices count them. -/
structure InOrder (queue : Queue) (start : Machine) (state : Exchange) :
    Prop where
  inOrder : (state.fifo queue).released <+: state.published
  stored : ∀ position head,
    (state.fifo queue).released.length ≤
      position + (start.device.queues queue).qsize →
    (state.fifo queue).released[position]? = some head →
      state.machine.memory.load32
        ((start.device.queues queue).usedElem
          (((start.device.queues queue).usedIdx start.memory + position) %
            (start.device.queues queue).qsize)) = head
  consumed : (state.fifo queue).consumed ≤ state.published.length
  lastAvail : (state.machine.device.queues queue).lastAvail =
    ((start.device.queues queue).lastAvail +
      (state.fifo queue).consumed) % 65536
  usedIdx : (start.device.queues queue).usedIdx state.machine.memory =
    ((start.device.queues queue).usedIdx start.memory +
      (state.fifo queue).released.length) % 65536
  fetched : ∀ fetch, Event.fetched fetch ∈ state.events →
    fetch.queue = queue → 0 < fetch.result.ret
  returned : state.machine.task.queue? ≠ some queue →
    sub16 ((start.device.queues queue).usedIdx state.machine.memory)
        ((start.device.queues queue).usedIdx start.memory) =
      sub16 (state.machine.device.queues queue).lastAvail
        (start.device.queues queue).lastAvail
  saved : state.machine.task.queue? ≠ some queue →
    (∃ interrupt, Event.ended queue interrupt ∈ state.events) →
      (state.machine.device.queues queue).saveUsed =
        (start.device.queues queue).usedIdx state.machine.memory

/-! The invariant of the exchange. -/

/-- Only the indices of the queue have moved. -/
def Moved (before after : VqInfo) : Prop :=
  ∃ lastAvail saveUsed,
    after = { before with lastAvail := lastAvail, saveUsed := saveUsed }

theorem Moved.refl (vq : VqInfo) : Moved vq vq := ⟨_, _, rfl⟩

theorem Moved.trans {first second third : VqInfo}
    (earlier : Moved first second) (later : Moved second third) :
    Moved first third := by
  obtain ⟨_, _, rfl⟩ := earlier
  obtain ⟨_, _, rfl⟩ := later
  exact ⟨_, _, rfl⟩

theorem Moved.getchain (walk : WalkContext) (deviceCaps : Nat) (vq : VqInfo)
    (pidx : Nat) (iov : Nat → IoVec) (flags : Nat → Nat) :
    Moved vq (vqGetchain walk deviceCaps vq pidx iov flags).vq := by
  rcases vqGetchain_vq walk deviceCaps vq pidx iov flags with same | advanced
  · rw [same]
    exact .refl vq
  · rw [advanced]
    exact ⟨_, _, rfl⟩

theorem Moved.endchains (vq : VqInfo) (memory : Memory)
    (negotiatedCaps : Nat) :
    Moved vq (vqEndchains vq memory negotiatedCaps true).1 := by
  cases used : vq.used with
  | none =>
      simp only [vqEndchains, used]
      exact .refl vq
  | some ring =>
      rw [vqEndchains_saveUsed (by simp [used])]
      exact ⟨_, _, rfl⟩

theorem moved_setQueue {start device : Device} {queue : Queue} {vq : VqInfo}
    (moved : ∀ other, Moved (start.queues other) (device.queues other))
    (this : Moved (device.queues queue) vq) (other : Queue) :
    Moved (start.queues other) ((device.setQueue queue vq).queues other) := by
  show Moved _ (Function.update device.queues queue vq other)
  rcases eq_or_ne other queue with same | different
  · subst same
    rw [Function.update_self]
    exact (moved other).trans this
  · rw [Function.update_of_ne different]
    exact moved other

structure Layout (queue : Queue) (start : Machine) : Prop where
  ready : vqRingReady (start.device.queues queue) = true
  shaped : (start.device.queues queue).Shaped
  others : ∀ other, other ≠ queue →
    vqRingReady (start.device.queues other) = true →
      (start.device.queues queue).ApartFrom
        ((start.device.queues other).used.getD 0)
        (usedRingSize (start.device.queues other).qsize)

structure Exchange.Invariant (queue : Queue) (start : Machine)
    (state : Exchange) : Prop where
  layout : Layout queue start
  queues : QueuesSound state.machine.device
  moved : ∀ other, Moved (start.device.queues other)
    (state.machine.device.queues other)
  sound : (state.fifo queue).Sound (start.device.queues queue).qsize
  rings : RingsHold (start.device.queues queue)
    (start.device.queues queue).lastAvail
    ((start.device.queues queue).usedIdx start.memory) (state.fifo queue)
    state.machine.memory
  lastAvail : (state.machine.device.queues queue).lastAvail =
    ((start.device.queues queue).lastAvail +
      (state.fifo queue).consumed) % 65536
  inHand : (state.fifo queue).InHand (state.machine.task.held queue)
  more : ∀ locals, state.machine.task = .fetching queue locals →
    (state.fifo queue).consumed < state.published.length
  busy : ∀ current, state.machine.task.working = some current →
    vqRingReady (start.device.queues current) = true ∧
      0 < (start.device.queues current).qsize
  fetched : ∀ fetch, Event.fetched fetch ∈ state.events →
    fetch.queue = queue → 0 < fetch.result.ret
  saved : state.machine.task.queue? ≠ some queue →
    (∃ interrupt, Event.ended queue interrupt ∈ state.events) →
      (state.machine.device.queues queue).saveUsed =
        (start.device.queues queue).usedIdx state.machine.memory

/-- The event does not concern the queue. -/
structure Event.Silent (queue : Queue) (event : Event) : Prop where
  takes : event.takes queue = false
  gives : event.gives queue = none
  ends : ∀ interrupt, event ≠ .ended queue interrupt

theorem fifo_of_silent {queue : Queue} {before : Exchange}
    {machine : Machine} {events : List Event}
    (silent : ∀ event, event ∈ events → event.Silent queue) :
    Exchange.fifo ⟨machine, before.events ++ events, before.published⟩ queue =
      before.fifo queue := by
  have takes : events.countP (Event.takes queue) = 0 := by
    rw [List.countP_eq_zero]
    intro event member
    rw [(silent event member).takes]
    exact Bool.false_ne_true
  have gives : events.filterMap (Event.gives queue) = [] := by
    rw [List.filterMap_eq_nil_iff]
    exact fun event member => (silent event member).gives
  simp only [Exchange.fifo, List.countP_append, List.filterMap_append, takes,
    gives, Nat.add_zero, List.append_nil]

section Steps

variable {queue : Queue} {start : Machine} {before : Exchange}
variable (invariant : before.Invariant queue start)

include invariant

/-- A section that neither concerns the queue nor touches its rings. -/
theorem Exchange.Invariant.quiet {machine : Machine} {events : List Event}
    (queues : QueuesSound machine.device)
    (kept : machine.device.queues queue = before.machine.device.queues queue)
    (moved : ∀ other, Moved (start.device.queues other)
      (machine.device.queues other))
    (avail : Memory.AgreeOn (start.device.queues queue).InAvail
      machine.memory before.machine.memory)
    (used : Memory.AgreeOn (start.device.queues queue).InUsed
      machine.memory before.machine.memory)
    (silent : ∀ event, event ∈ events → event.Silent queue)
    (held : machine.task.held queue = before.machine.task.held queue)
    (running : before.machine.task.queue? = some queue →
      machine.task.queue? = some queue)
    (more : ∀ locals, machine.task = .fetching queue locals →
      (before.fifo queue).consumed < before.published.length)
    (busy : ∀ current, machine.task.working = some current →
      vqRingReady (start.device.queues current) = true ∧
        0 < (start.device.queues current).qsize) :
    Exchange.Invariant queue start
      ⟨machine, before.events ++ events, before.published⟩ := by
  have same := @fifo_of_silent queue before machine events silent
  refine ⟨invariant.layout, queues, moved, ?_, ?_, ?_, ?_, ?_, busy, ?_, ?_⟩
  · rw [same]
    exact invariant.sound
  · rw [same]
    exact invariant.rings.frame invariant.layout.shaped avail used
  · rw [same, kept]
    exact invariant.lastAvail
  · rw [same, held]
    exact invariant.inHand
  · rw [same]
    exact more
  · intro fetch member here
    rcases List.mem_append.mp member with earlier | now
    · exact invariant.fetched fetch earlier here
    · have takes := (silent _ now).takes
      exact absurd here (of_decide_eq_false takes)
  · rintro stopped ⟨interrupt, member⟩
    rw [kept, usedIdx_congr used]
    rcases List.mem_append.mp member with earlier | now
    · exact invariant.saved (fun runs => stopped (running runs))
        ⟨interrupt, earlier⟩
    · exact absurd rfl ((silent _ now).ends interrupt)

/-- The difference `vq_has_descs` and `vq_getchain` compute is the number of
chains not yet taken. -/
theorem Exchange.Invariant.waiting :
    sub16 ((before.machine.device.queues queue).availIdx
        before.machine.memory)
        (before.machine.device.queues queue).lastAvail =
      before.published.length - (before.fifo queue).consumed := by
  have ahead := invariant.rings.ahead invariant.layout.shaped invariant.sound
  rw [invariant.lastAvail]
  obtain ⟨_, _, same⟩ := invariant.moved queue
  rw [same]
  exact ahead

theorem Exchange.Invariant.hasDescs
    (available : vqHasDescs (before.machine.device.queues queue)
      before.machine.memory = true) :
    (before.fifo queue).consumed < before.published.length := by
  obtain ⟨_, nonzero, _⟩ :=
    vqHasDescs_available (invariant.queues queue) available
  rw [invariant.waiting] at nonzero
  omega

/-- A chain of the queue that is fetched is the oldest one not yet taken. -/
theorem Exchange.Invariant.fetch {locals : Locals}
    (task : before.machine.task = .fetching queue locals)
    (accepted : (fetchOf before.machine queue locals).result.ret ≠ -1) :
    (fetchOf before.machine queue locals).result.vq =
        { before.machine.device.queues queue with
          lastAvail := ((before.machine.device.queues queue).lastAvail + 1) %
            65536 } ∧
      before.published[(before.fifo queue).consumed]? =
        some (fetchOf before.machine queue locals).result.idx ∧
      0 < (fetchOf before.machine queue locals).result.ret := by
  have waiting := invariant.waiting
  have more := invariant.more locals task
  have given := invariant.sound.given
  have room : before.published.length ≤
      (before.fifo queue).released.length +
        (start.device.queues queue).qsize := invariant.sound.room
  obtain ⟨lastAvail, saveUsed, same⟩ := invariant.moved queue
  have size : (before.machine.device.queues queue).qsize =
      (start.device.queues queue).qsize := by rw [same]
  have nonzero : sub16 ((before.machine.device.queues queue).availIdx
      before.machine.memory)
      (before.machine.device.queues queue).lastAvail ≠ 0 := by
    rw [waiting]
    omega
  obtain ⟨vq, idx, _⟩ :=
    @vqGetchain_spec (fetchWalk before.machine queue)
      before.machine.device.base.deviceCaps 0
      (before.machine.device.queues queue) locals.iov locals.flags nonzero
      (by
        show sub16 ((before.machine.device.queues queue).availIdx
          before.machine.memory) _ ≤ _
        rw [waiting, size]
        omega)
  refine ⟨vq, ?_, vqGetchain_ret_pos nonzero accepted⟩
  show _ = some (vqGetchain _ _ _ _ _ _).idx
  rw [idx, invariant.lastAvail]
  obtain ⟨head, found⟩ : ∃ head,
      before.published[(before.fifo queue).consumed]? = some head :=
    ⟨_, List.getElem?_eq_getElem more⟩
  have entry := invariant.rings.entry invariant.layout.shaped
    invariant.sound found
  rw [found, same]
  exact congrArg some entry.symm

theorem Exchange.Invariant.consume {locals : Locals} {machine : Machine}
    (queues : QueuesSound machine.device)
    (task : before.machine.task = .fetching queue locals)
    (accepted : (fetchOf before.machine queue locals).result.ret ≠ -1)
    (device : machine.device = before.machine.device.setQueue queue
      (fetchOf before.machine queue locals).result.vq)
    (memory : machine.memory = before.machine.memory)
    (serving : ∃ locals' n, machine.task = .serving queue locals'
      (fetchOf before.machine queue locals).result.idx n) :
    Exchange.Invariant queue start
      ⟨machine, before.events ++ [.fetched (fetchOf before.machine queue
        locals)], before.published⟩ := by
  obtain ⟨vq, next, positive⟩ := invariant.fetch task accepted
  obtain ⟨locals', n, serves⟩ := serving
  have settled := invariant.inHand
  rw [task] at settled
  have settled : (before.fifo queue).consumed =
      (before.fifo queue).released.length := settled
  have more := invariant.more locals task
  have advanced : Exchange.fifo ⟨machine, before.events ++
      [.fetched (fetchOf before.machine queue locals)], before.published⟩
      queue = { before.fifo queue with
        consumed := (before.fifo queue).consumed + 1 } := by
    simp [Exchange.fifo, Event.takes, Event.gives, fetchOf]
  refine ⟨invariant.layout, queues, ?_, ?_, ?_, ?_, ?_, ?_, ?_, ?_, ?_⟩
  · rw [device]
    exact moved_setQueue invariant.moved (.getchain _ _ _ _ _ _)
  · rw [advanced]
    exact invariant.sound.step (.consume settled more)
  · rw [advanced, memory]
    exact ⟨invariant.rings.availIdx, invariant.rings.entries,
      invariant.rings.usedIdx, invariant.rings.stored⟩
  · rw [advanced, device]
    show (Function.update before.machine.device.queues queue _ queue).lastAvail
      = _
    rw [Function.update_self, vq]
    show ((before.machine.device.queues queue).lastAvail + 1) % 65536 = _
    rw [invariant.lastAvail, Nat.mod_add_mod, Nat.add_assoc]
  · rw [advanced, serves]
    show Fifo.InHand _ (if queue = queue then some _ else none)
    rw [if_pos rfl]
    refine ⟨?_, ?_⟩
    · show _ + 1 = _
      rw [settled]
    · rw [settled] at next
      exact next
  · intro other fetching
    rw [serves] at fetching
    cases fetching
  · intro current works
    rw [serves] at works
    cases works
    apply invariant.busy
    rw [task]
    rfl
  · intro fetch member here
    rcases List.mem_append.mp member with earlier | now
    · exact invariant.fetched fetch earlier here
    · cases List.mem_singleton.mp now
      exact positive
  · intro stopped
    rw [serves] at stopped
    exact absurd rfl stopped

theorem Exchange.Invariant.release {locals : Locals} {idx iolen : Nat}
    {machine : Machine}
    (task : before.machine.task = .releasing queue locals idx)
    (device : machine.device = before.machine.device)
    (memory : machine.memory = vqRelchain
      (before.machine.device.queues queue) before.machine.memory idx iolen)
    (testing : machine.task = .testing queue locals) :
    Exchange.Invariant queue start
      ⟨machine, before.events ++ [.released queue idx iolen],
        before.published⟩ := by
  have inHand := invariant.inHand
  rw [task] at inHand
  have inHand : (before.fifo queue).InHand
      (if queue = queue then some idx else none) := inHand
  rw [if_pos rfl] at inHand
  obtain ⟨owing, oldest⟩ := inHand
  have given : Exchange.fifo ⟨machine, before.events ++
      [.released queue idx iolen], before.published⟩ queue =
      { before.fifo queue with
        released := (before.fifo queue).released ++ [idx] } := by
    simp [Exchange.fifo, Event.takes, Event.gives]
  refine ⟨invariant.layout, ?_, ?_, ?_, ?_, ?_, ?_, ?_, ?_, ?_, ?_⟩
  · rw [device]
    exact invariant.queues
  · rw [device]
    exact invariant.moved
  · rw [given]
    exact invariant.sound.step (.release owing oldest)
  · rw [given, memory]
    obtain ⟨_, _, same⟩ := invariant.moved queue
    rw [same]
    exact invariant.rings.release invariant.layout.shaped oldest
  · rw [given, device]
    exact invariant.lastAvail
  · rw [given, testing]
    show _ = List.length (_ ++ [idx])
    rw [List.length_append, List.length_singleton]
    exact owing
  · intro other fetching
    rw [testing] at fetching
    cases fetching
  · intro current works
    rw [testing] at works
    cases works
  · intro fetch member here
    rcases List.mem_append.mp member with earlier | now
    · exact invariant.fetched fetch earlier here
    · cases List.mem_singleton.mp now
  · intro stopped
    rw [testing] at stopped
    exact absurd rfl stopped

theorem Exchange.Invariant.finish {machine : Machine} {interrupt : Bool}
    (queues : QueuesSound machine.device)
    (task : before.machine.task = .ending queue)
    (device : machine.device = before.machine.device.setQueue queue
      (vqEndchains (before.machine.device.queues queue) before.machine.memory
        before.machine.device.base.negotiatedCaps true).1)
    (memory : machine.memory = before.machine.memory)
    (idle : machine.task = .idle) :
    Exchange.Invariant queue start
      ⟨machine, before.events ++ [.ended queue interrupt],
        before.published⟩ := by
  have settled := invariant.inHand
  rw [task] at settled
  have same : Exchange.fifo ⟨machine, before.events ++
      [.ended queue interrupt], before.published⟩ queue =
      before.fifo queue := by
    simp [Exchange.fifo, Event.takes, Event.gives]
  have ended : machine.device.queues queue =
      { before.machine.device.queues queue with
        saveUsed := (before.machine.device.queues queue).usedIdx
          before.machine.memory } := by
    rw [device]
    show Function.update before.machine.device.queues queue _ queue = _
    rw [Function.update_self]
    apply vqEndchains_saveUsed
    apply (invariant.queues queue).mapped
    obtain ⟨_, _, same⟩ := invariant.moved queue
    rw [same]
    exact invariant.layout.ready
  refine ⟨invariant.layout, queues, ?_, ?_, ?_, ?_, ?_, ?_, ?_, ?_, ?_⟩
  · rw [device]
    exact moved_setQueue invariant.moved (.endchains _ _ _)
  · rw [same]
    exact invariant.sound
  · rw [same, memory]
    exact invariant.rings
  · rw [same, ended]
    exact invariant.lastAvail
  · rw [same, idle]
    exact settled
  · intro other fetching
    rw [idle] at fetching
    cases fetching
  · intro current works
    rw [idle] at works
    cases works
  · intro fetch member here
    rcases List.mem_append.mp member with earlier | now
    · exact invariant.fetched fetch earlier here
    · cases List.mem_singleton.mp now
  · intro _ _
    rw [ended, memory]
    obtain ⟨_, _, same⟩ := invariant.moved queue
    rw [same]
    rfl

theorem Exchange.Invariant.getchain_other {locals : Locals}
    {current : Queue} {machine : Machine} (other : current ≠ queue)
    (queues : QueuesSound machine.device)
    (task : before.machine.task = .fetching current locals)
    (device : machine.device = before.machine.device.setQueue current
      (fetchOf before.machine current locals).result.vq)
    (memory : machine.memory = before.machine.memory)
    (held : machine.task.held queue = none)
    (fetches : ∀ locals, machine.task ≠ .fetching queue locals)
    (busy : ∀ busy, machine.task.working = some busy → busy = current) :
    Exchange.Invariant queue start
      ⟨machine, before.events ++ [.fetched (fetchOf before.machine current
        locals)], before.published⟩ := by
  refine invariant.quiet queues ?_ ?_ ?_ ?_ ?_ ?_ ?_ ?_ ?_
  · rw [device]
    exact Function.update_of_ne (Ne.symm other) _ _
  · rw [device]
    exact moved_setQueue invariant.moved (.getchain _ _ _ _ _ _)
  · rw [memory]
    exact fun _ _ => rfl
  · rw [memory]
    exact fun _ _ => rfl
  · intro event member
    cases List.mem_singleton.mp member
    exact ⟨decide_eq_false other, rfl, nofun⟩
  · rw [held, task]
    rfl
  · intro runs
    rw [task] at runs
    cases runs
    exact absurd rfl other
  · intro locals fetching
    exact absurd fetching (fetches locals)
  · intro working works
    cases busy working works
    apply invariant.busy
    rw [task]
    rfl

/-- The response of a control chain that fits into its descriptor does not
reach the rings. -/
theorem Exchange.Invariant.response {env : Env} {locals : Locals}
    {idx n : Nat} {service : Service} {memory : Memory}
    (behaves : DriverBehaves queue before.machine)
    (fits : ResponseFits before.machine)
    (task : before.machine.task = .serving .control locals idx n)
    (serves : Serves env before.machine locals n service)
    (written : writeResponse before.machine.memory service.cmd
      service.reply = .ok memory) :
    Memory.AgreeOn (start.device.queues queue).InAvail memory
        before.machine.memory ∧
      Memory.AgreeOn (start.device.queues queue).InUsed memory
        before.machine.memory := by
  have next : before.machine.nextCommand = some service.cmd := by
    simp only [Machine.nextCommand, task, serves.loads]
  obtain ⟨inside, short⟩ := fits service.cmd next
  have follows := ctrlDispatch_follows _ _ _ _
    (loadCommand_base serves.loads) service.reply serves.handled
  obtain ⟨address, based, stored⟩ := bind_eq_ok written
  cases stored
  rw [← follows.slot, serves.iovcnt] at inside
  rw [← follows.slot, ← follows.size, ← Resp.length_bytes] at short
  unfold DriverBehaves at behaves
  rw [task] at behaves
  have apart := behaves service.reply.slot inside
  unfold bufferApart at apart
  rw [← serves.iov, base_eq_ok based] at apart
  obtain ⟨_, _, same⟩ := invariant.moved queue
  rw [same] at apart
  have apart : (start.device.queues queue).ApartFrom address
      (service.cmd.iov service.reply.slot).len := apart
  exact agreeOn_store (apart.shrink short)

/-- Another queue's chain is given back outside the rings of this one. -/
theorem Exchange.Invariant.release_other {locals : Locals} {current : Queue}
    {idx : Nat} (other : current ≠ queue)
    (task : before.machine.task = .releasing current locals idx) :
    Memory.AgreeOn (start.device.queues queue).InAvail
        (vqRelchain (before.machine.device.queues current)
          before.machine.memory idx locals.iolen) before.machine.memory ∧
      Memory.AgreeOn (start.device.queues queue).InUsed
        (vqRelchain (before.machine.device.queues current)
          before.machine.memory idx locals.iolen) before.machine.memory := by
  obtain ⟨ready, positive⟩ := invariant.busy current (by rw [task]; rfl)
  have sized := (invariant.queues current).sized
  obtain ⟨_, _, same⟩ := invariant.moved current
  rw [same] at sized ⊢
  dsimp only at sized
  apply agreeOn_relchain
  · exact and_slotMask_lt positive sized _
  · exact invariant.layout.others current other ready

/-! The sections of a bottom half. -/

theorem Exchange.Invariant.kept_by_found {current : Queue} {locals : Locals}
    (task : before.machine.task = .testing current locals)
    (ready : vqHasDescs (before.machine.device.queues current)
      before.machine.memory = true) :
    Exchange.Invariant queue start
      ⟨{ before.machine with task := .fetching current locals },
        before.events ++ [], before.published⟩ := by
  refine invariant.quiet invariant.queues rfl invariant.moved
    (fun _ _ => rfl) (fun _ _ => rfl) (by simp) (by rw [task]; rfl)
    (by rw [task]; exact fun runs => runs) ?_ ?_
  · intro next fetching
    cases fetching
    exact invariant.hasDescs ready
  · intro working works
    cases works
    obtain ⟨able, nonzero, few⟩ :=
      vqHasDescs_available (invariant.queues current) ready
    obtain ⟨_, _, same⟩ := invariant.moved current
    rw [same] at able few
    exact ⟨able, Nat.lt_of_lt_of_le (Nat.pos_of_ne_zero nonzero)
      (by rw [same]; exact few)⟩

/-- A driver that behaves has no chain of the queue rejected. -/
theorem Exchange.Invariant.kept_by_rejected {current : Queue}
    {locals : Locals} (behaves : DriverBehaves queue before.machine)
    (queues : QueuesSound (before.machine.device.setQueue current
      (fetchOf before.machine current locals).result.vq))
    (task : before.machine.task = .fetching current locals)
    (bad : (fetchOf before.machine current locals).result.ret ≤ 0) :
    Exchange.Invariant queue start
      ⟨{ before.machine with
          device := before.machine.device.setQueue current
            (fetchOf before.machine current locals).result.vq
          task := .idle },
        before.events ++ [.fetched (fetchOf before.machine current locals)],
        before.published⟩ := by
  rcases eq_or_ne current queue with same | other
  · subst same
    have accepted : (fetchOf before.machine current locals).result.ret ≠
        -1 := by
      unfold DriverBehaves at behaves
      rw [task] at behaves
      exact behaves rfl
    have positive := (invariant.fetch task accepted).2.2
    omega
  · exact invariant.getchain_other other queues task rfl rfl rfl nofun nofun

theorem Exchange.Invariant.kept_by_accepted {current : Queue}
    {locals taken : Locals} {n : Nat}
    (queues : QueuesSound (before.machine.device.setQueue current
      (fetchOf before.machine current locals).result.vq))
    (task : before.machine.task = .fetching current locals)
    (good : 0 < (fetchOf before.machine current locals).result.ret) :
    Exchange.Invariant queue start
      ⟨{ before.machine with
          device := before.machine.device.setQueue current
            (fetchOf before.machine current locals).result.vq
          task := .serving current taken
            (fetchOf before.machine current locals).result.idx n },
        before.events ++ [.fetched (fetchOf before.machine current locals)],
        before.published⟩ := by
  rcases eq_or_ne current queue with same | other
  · subst same
    exact invariant.consume queues task (by omega) rfl rfl ⟨_, _, rfl⟩
  · refine invariant.getchain_other other queues task rfl rfl (if_neg other)
      nofun ?_
    intro working works
    cases works
    rfl

/-- A command is served, and `memory` has its response if it gets one. -/
theorem Exchange.Invariant.kept_by_service {current : Queue}
    {locals later : Locals} {idx n : Nat} {gpu : GpuState} {memory : Memory}
    {event : Event}
    (queues : QueuesSound { before.machine.device with gpu := gpu })
    (task : before.machine.task = .serving current locals idx n)
    (agree : Memory.AgreeOn (start.device.queues queue).InAvail memory
        before.machine.memory ∧
      Memory.AgreeOn (start.device.queues queue).InUsed memory
        before.machine.memory)
    (silent : event.Silent queue) :
    Exchange.Invariant queue start
      ⟨⟨{ before.machine.device with gpu := gpu }, memory,
          .releasing current later idx⟩,
        before.events ++ [event], before.published⟩ := by
  refine invariant.quiet queues rfl invariant.moved agree.1 agree.2 ?_
    (by rw [task]; rfl) (by rw [task]; exact fun runs => runs) nofun ?_
  · intro other member
    cases List.mem_singleton.mp member
    exact silent
  · intro working works
    apply invariant.busy
    rw [task]
    exact works

theorem Exchange.Invariant.kept_by_release {current : Queue}
    {locals : Locals} {idx : Nat}
    (task : before.machine.task = .releasing current locals idx) :
    Exchange.Invariant queue start
      ⟨(releaseChain before.machine current locals idx).1,
        before.events ++ [.released current idx locals.iolen],
        before.published⟩ := by
  rcases eq_or_ne current queue with same | other
  · subst same
    exact invariant.release task rfl rfl rfl
  · have agree := invariant.release_other other task
    refine invariant.quiet invariant.queues rfl invariant.moved agree.1
      agree.2 ?_ ?_ ?_ nofun nofun
    · intro event member
      cases List.mem_singleton.mp member
      exact ⟨rfl, if_neg other, nofun⟩
    · rw [task]
      exact (if_neg other).symm
    · rw [task]
      exact fun runs => runs

theorem Exchange.Invariant.kept_by_end {current : Queue} {interrupt : Bool}
    (queues : QueuesSound (endChains before.machine current).1.device)
    (task : before.machine.task = .ending current) :
    Exchange.Invariant queue start
      ⟨(endChains before.machine current).1,
        before.events ++ [.ended current interrupt],
        before.published⟩ := by
  rcases eq_or_ne current queue with same | other
  · subst same
    exact invariant.finish queues task rfl rfl rfl
  · refine invariant.quiet queues ?_ ?_ (fun _ _ => rfl) (fun _ _ => rfl) ?_
      ?_ ?_ nofun nofun
    · exact Function.update_of_ne (Ne.symm other) _ _
    · exact moved_setQueue invariant.moved (.endchains _ _ _)
    · intro event member
      cases List.mem_singleton.mp member
      exact ⟨rfl, rfl, fun _ same => other (by cases same; rfl)⟩
    · rw [task]
      rfl
    · intro runs
      rw [task] at runs
      cases runs
      exact absurd rfl other

theorem Exchange.Invariant.kept_by_section {env : Env} {machine : Machine}
    {events : List Event} (behaves : DriverBehaves queue before.machine)
    (fits : ResponseFits before.machine)
    (ran : Section env before.machine machine events) :
    Exchange.Invariant queue start
      ⟨machine, before.events ++ events, before.published⟩ := by
  have queues := ran.queuesSound invariant.queues
  cases ran with
  | idle task =>
      exact invariant.quiet queues rfl invariant.moved (fun _ _ => rfl)
        (fun _ _ => rfl) (by simp) rfl (fun runs => runs) invariant.more
        invariant.busy
  | more task ready => exact invariant.kept_by_found task ready
  | done task drained =>
      exact invariant.quiet queues rfl invariant.moved (fun _ _ => rfl)
        (fun _ _ => rfl) (by simp) (by rw [task]; rfl)
        (by rw [task]; exact fun runs => runs) nofun nofun
  | rejected task bad =>
      exact invariant.kept_by_rejected behaves queues task bad
  | accepted task good => exact invariant.kept_by_accepted queues task good
  | served task serves written =>
      exact invariant.kept_by_service queues task
        (invariant.response behaves fits task serves written)
        ⟨rfl, rfl, nofun⟩
  | servedCursor task handled =>
      exact invariant.kept_by_service queues task
        ⟨fun _ _ => rfl, fun _ _ => rfl⟩ ⟨rfl, rfl, nofun⟩
  | released task => exact invariant.kept_by_release task
  | ended task => exact invariant.kept_by_end queues task

theorem Exchange.Invariant.publish {heads : List Nat} {memory : Memory}
    (publishes : Publishes (start.device.queues queue)
      (start.device.queues queue).lastAvail (before.fifo queue) heads
      before.machine.memory memory) :
    Exchange.Invariant queue start
      ⟨{ before.machine with memory := memory }, before.events,
        before.published ++ heads⟩ := by
  refine ⟨invariant.layout, invariant.queues, invariant.moved, ?_, ?_,
    invariant.lastAvail, invariant.inHand.publish, ?_, invariant.busy,
    invariant.fetched, ?_⟩
  · exact invariant.sound.step (.publish publishes.room)
  · exact invariant.rings.publish invariant.layout.shaped publishes
  · intro locals fetching
    have more := invariant.more locals fetching
    show _ < (before.published ++ heads).length
    rw [List.length_append]
    exact Nat.lt_add_right _ more
  · intro stopped ended
    have saved := invariant.saved stopped ended
    show _ = (start.device.queues queue).usedIdx memory
    rw [usedIdx_congr publishes.used]
    exact saved

theorem Exchange.Invariant.enter (current : Queue) (iov : Nat → IoVec)
    (flags : Nat → Nat) :
    Exchange.Invariant queue start
      ⟨startBh before.machine current iov flags, before.events,
        before.published⟩ := by
  unfold startBh
  cases task : before.machine.task with
  | idle =>
      have settled := invariant.inHand
      rw [task] at settled
      refine ⟨invariant.layout, invariant.queues, invariant.moved,
        invariant.sound, invariant.rings, invariant.lastAvail, settled, nofun,
        nofun, invariant.fetched, ?_⟩
      intro _ ended
      exact invariant.saved (by rw [task]; exact nofun) ended
  | testing _ _ | fetching _ _ | serving _ _ _ _ | releasing _ _ _
  | ending _ => exact invariant

end Steps

theorem Opens.invariant {queue : Queue} {start : Machine} {state : Exchange}
    (opens : Opens queue start state) : state.Invariant queue start := by
  obtain ⟨machine, events, published⟩ := state
  obtain ⟨⟨trace, reached⟩, rfl, rfl, idle, ready, shaped, others, index,
    entries, room⟩ := opens
  dsimp only at *
  have queues := reached_queuesSound reached
  refine ⟨⟨ready, shaped, others⟩, queues, fun _ => .refl _, ?_, ?_, ?_, ?_,
    ?_, ?_, ?_, ?_⟩
  · refine ⟨List.nil_prefix, Nat.le_refl _, Nat.zero_le _, Nat.zero_le _, ?_⟩
    exact Nat.le_add_left_of_le room
  · refine ⟨index, ?_, ?_, ?_⟩
    · exact fun position head _ found => entries position head found
    · exact (Nat.mod_eq_of_lt (Memory.load16_lt _ _)).symm
    · intro position head _ found
      cases found
  · exact (Nat.mod_eq_of_lt (queues queue).small).symm
  · dsimp only
    rw [idle]
    rfl
  · intro locals fetching
    dsimp only at fetching
    rw [idle] at fetching
    cases fetching
  · intro current works
    dsimp only at works
    rw [idle] at works
    cases works
  · intro fetch member
    cases member
  · rintro _ ⟨interrupt, member⟩
    cases member

theorem exchange_invariant {queue : Queue} {start : Machine}
    {state : Exchange}
    (reached : (exchange queue start).ReachedWhere responsesFit state) :
    state.Invariant queue start := by
  refine reached.invariant (Exchange.Invariant queue start) ?_ ?_
  · exact fun state opens => opens.invariant
  · intro before move after invariant fits stepped
    cases move with
    | publish heads memory =>
        obtain ⟨publishes, rfl⟩ := stepped
        exact invariant.publish publishes
    | start current iov flags =>
        cases stepped
        exact invariant.enter current iov flags
    | run env =>
        obtain ⟨_, behaves, machine, events, ran, rfl⟩ := stepped
        exact invariant.kept_by_section behaves fits (bhStep_section ran)

theorem sub16_advance (base count : Nat) :
    sub16 ((base + count) % 65536) base = count % 65536 := by
  unfold sub16
  omega

theorem Task.held_eq_none {task : Task} {queue : Queue}
    (stopped : task.queue? ≠ some queue) : task.held queue = none := by
  cases task with
  | idle | testing _ _ | fetching _ _ | ending _ => rfl
  | serving current _ _ _ | releasing current _ _ =>
      apply if_neg
      intro same
      exact stopped (congrArg some same)

/-- Whatever the driver and the two bottom halves do in whatever order, the
chains of the queue complete once each and in the order of publication, as
long as every response fits into its descriptor. -/
theorem exchange_inOrder {queue : Queue} {start : Machine} {state : Exchange}
    (reached : (exchange queue start).ReachedWhere responsesFit state) :
    InOrder queue start state := by
  have invariant := exchange_invariant reached
  refine ⟨invariant.sound.inOrder, invariant.rings.stored,
    invariant.sound.available, invariant.lastAvail, invariant.rings.usedIdx,
    invariant.fetched, ?_, invariant.saved⟩
  intro stopped
  have settled := invariant.inHand
  rw [Task.held_eq_none stopped] at settled
  have settled : (state.fifo queue).consumed =
      (state.fifo queue).released.length := settled
  rw [invariant.rings.usedIdx, invariant.lastAvail, settled, sub16_advance,
    sub16_advance]

/-! Running an exchange. -/

instance (vq : VqInfo) (iov : IoVec) : Decidable (bufferApart vq iov) :=
  match iov with
  | ⟨none, _⟩ => inferInstanceAs (Decidable True)
  | ⟨some base, len⟩ => inferInstanceAs (Decidable (vq.ApartFrom base len))

instance (queue : Queue) (machine : Machine) :
    Decidable (DriverBehaves queue machine) :=
  match machine with
  | ⟨device, memory, .fetching current locals⟩ =>
      inferInstanceAs (Decidable (current = queue →
        (fetchOf ⟨device, memory, .fetching current locals⟩ queue
          locals).result.ret ≠ -1))
  | ⟨device, _, .serving .control locals _ n⟩ =>
      inferInstanceAs (Decidable (∀ slot, slot < n →
        bufferApart (device.queues queue) (locals.iov slot)))
  | ⟨_, _, .idle⟩ | ⟨_, _, .testing _ _⟩ | ⟨_, _, .serving .cursor _ _ _⟩
  | ⟨_, _, .releasing _ _ _⟩ | ⟨_, _, .ending _⟩ =>
      inferInstanceAs (Decidable True)

def checkResponse (machine : Machine) : Bool :=
  match machine.nextCommand with
  | none => true
  | some cmd =>
      let exit := exitOf machine.device.gpu cmd machine.memory cmd.address
      decide (exit.slot < cmd.iovcnt) &&
        decide (exit.size ≤ (cmd.iov exit.slot).len)

theorem responseFits_of_check {machine : Machine}
    (checked : checkResponse machine = true) : ResponseFits machine := by
  intro cmd next
  unfold checkResponse at checked
  rw [next] at checked
  obtain ⟨inside, short⟩ := Bool.and_eq_true_iff.mp checked
  exact ⟨of_decide_eq_true inside, of_decide_eq_true short⟩

def runSections (fits : Machine → Bool) (queue : Queue) (env : Env) :
    Nat → Exchange → Option Exchange
  | 0, state => some state
  | sections + 1, state =>
      if env.Fresh state.machine.device.gpu ∧
          DriverBehaves queue state.machine ∧ fits state.machine then
        match bhStep env state.machine with
        | .error _ => none
        | .ok (machine, events) =>
            runSections fits queue env sections
              ⟨machine, state.events ++ events, state.published⟩
      else
        none

theorem reachedWhere_of_runSections {fits : Machine → Bool}
    {allowed : Exchange → Move → Prop} {queue : Queue} {start : Machine}
    {env : Env} {sections : Nat} {before after : Exchange}
    (permits : ∀ state, fits state.machine = true → allowed state (.run env))
    (reached : (exchange queue start).ReachedWhere allowed before)
    (ran : runSections fits queue env sections before = some after) :
    (exchange queue start).ReachedWhere allowed after := by
  induction sections generalizing before with
  | zero =>
      cases ran
      exact reached
  | succ sections induction =>
      unfold runSections at ran
      split at ran
      · rename_i good
        obtain ⟨fresh, behaves, fit⟩ := good
        cases stepped : bhStep env before.machine with
        | error fault =>
            rw [stepped] at ran
            cases ran
        | ok result =>
            rw [stepped] at ran
            exact induction (.step reached (permits before fit)
              ⟨fresh, behaves, _, _, stepped, rfl⟩) ran
      · cases ran

/-- The first exchange of a queue of two with one chain on it. -/
def opensOne (machine : Machine) : Bool :=
  let vq := machine.device.queues .control
  Task.isIdle machine.task && vqRingReady vq && decide (vq.qsize = 2) &&
    decide (Apart (vq.avail.getD 0) (availRingSize vq.qsize)
      (vq.used.getD 0) (usedRingSize vq.qsize)) &&
    !vqRingReady (machine.device.queues .cursor) &&
    decide (vq.lastAvail = 0) && decide (vq.availIdx machine.memory = 1) &&
    decide (vq.availRing machine.memory 0 = 0)

theorem opens_of_check {start : Machine} {events : List Event}
    (reached : backend.Reached ⟨start, events⟩)
    (checked : opensOne start = true) :
    Opens .control start ⟨start, [], [0]⟩ := by
  simp only [opensOne, Bool.and_eq_true, decide_eq_true_eq,
    Bool.not_eq_true'] at checked
  obtain ⟨⟨⟨⟨⟨⟨⟨idle, ready⟩, size⟩, apart⟩, off⟩, first⟩, index⟩, entry⟩ :=
    checked
  refine ⟨⟨events, reached⟩, rfl, rfl, Task.eq_idle idle, ready, ⟨⟨1, ?_⟩,
    apart⟩, ?_, ?_, ?_, ?_⟩
  · exact ⟨by decide, size⟩
  · intro other different working
    cases other with
    | control => exact absurd rfl different
    | cursor =>
        rw [off] at working
        cases working
  · rw [index, first]
    rfl
  · intro position head found
    cases position with
    | zero =>
        cases found
        rw [first, size]
        exact entry
    | succ position => cases found
  · rw [size]
    exact Nat.le_succ 1

/-- The display thread enters the control handler and runs it for some
sections. -/
def exchangeOne (fits : Machine → Bool) (start : Machine) :
    Option Exchange :=
  runSections fits .control (Env.steady 0) 6
    ⟨startBh start .control (fun _ => ⟨none, 0⟩) (fun _ => 0), [], [0]⟩

theorem exists_exchange {fits : Machine → Bool}
    {allowed : Exchange → Move → Prop} {before : Traced}
    {labels : List Label} {check : Machine → Exchange → Bool}
    (permits : ∀ state, fits state.machine = true →
      allowed state (.run (Env.steady 0)))
    (enters : ∀ state iov flags, allowed state (.start .control iov flags))
    (starts : backend.initial before)
    (checked : (runLabels before labels).any (fun state =>
      opensOne state.machine && (exchangeOne fits state.machine).any
        (check state.machine)) = true) :
    ∃ start state, (exchange .control start).ReachedWhere allowed state ∧
      check start state = true := by
  obtain ⟨ready, reached, all⟩ := exists_reached starts checked
  obtain ⟨opened, ran⟩ := Bool.and_eq_true_iff.mp all
  obtain ⟨state, ran, good⟩ := (Option.any_eq_true _ _).mp ran
  have opens := opens_of_check reached opened
  refine ⟨ready.machine, state, ?_, good⟩
  exact reachedWhere_of_runSections permits
    (.step (.initial opens) (enters _ _ _) rfl) ran

/-- One chain of an unknown command goes through the queue. -/
theorem unknown_command_inOrder :
    ∃ start state,
      (exchange .control start).ReachedWhere responsesFit state ∧
        (state.fifo .control).released = [0] ∧
        InOrder .control start state := by
  obtain ⟨start, state, reached, checked⟩ :=
    @exists_exchange checkResponse responsesFit _
      (setUpQueue .control 2 64 128 160)
      (fun _ state => decide ((state.fifo .control).released = [0]))
      (fun _ fits => responseFits_of_check fits)
      (fun _ _ _ => trivial)
      (oneCommand_initial ⟨0, 0, 0, 0, 0⟩ 24) (by decide +kernel)
  exact ⟨start, state, reached, of_decide_eq_true checked,
    exchange_inOrder reached⟩

/-- `GET_DISPLAY_INFO` with a response descriptor of 24 bytes that ends six
bytes before the used ring at 192. -/
def displayInfoMemory : Memory :=
  ((Memory.zero.store 64
    ((VringDesc.mk 256 24 vringDescFNext 1).bytes ++
      (VringDesc.mk 162 24 vringDescFWrite 0).bytes)).store 128
    (le16 0 ++ le16 1 ++ le16 0)).store 256
    (CtrlHdr.mk 0x100 0 0 0 0).bytes

/-- The 408 bytes of the response run over the used index. -/
theorem displayInfo_overwrites_used_index :
    ∃ start state, (exchange .control start).Reached state ∧
      ¬InOrder .control start state := by
  obtain ⟨start, state, reached, checked⟩ :=
    @exists_exchange (fun _ => true) (fun _ _ => True)
      ⟨initialMachine ⟨4096, 0⟩ false 1 displayInfoMemory, []⟩
      (setUpQueue .control 2 64 128 192)
      (fun start state =>
        decide ((start.device.queues .control).usedIdx
          state.machine.memory = 1025) &&
        decide ((state.fifo .control).released.length = 1) &&
        decide ((start.device.queues .control).usedIdx start.memory = 0))
      (fun _ _ => trivial) (fun _ _ _ => trivial)
      ⟨_, false, 1, _, nofun, by decide, rfl⟩ (by decide +kernel)
  simp only [Bool.and_eq_true, decide_eq_true_eq] at checked
  obtain ⟨⟨index, count⟩, first⟩ := checked
  refine ⟨start, state, reached, ?_⟩
  intro ordered
  have counted := ordered.usedIdx
  rw [index, count, first] at counted
  cases counted

end VirtioGpu.Backend
