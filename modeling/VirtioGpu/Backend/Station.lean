import VirtioGpu.Backend.Doorbell
import VirtioGpu.Backend.Exchange

namespace VirtioGpu.Backend

open Foundation
open Virtio
open Gpu

/-! The way of a kick: the mevent thread reads the eventfd and submits the
bottom halves of all queues, and the display thread runs them until no queue
has chains left. -/

/-- The mevent thread in `epoll_wait`, or with the queues `process_queue` has
still to look at. -/
inductive MeventThread where
  | polling
  | processing (rest : List Queue)
  deriving Repr, DecidableEq

def MeventThread.rest : MeventThread → List Queue
  | .polling => []
  | .processing rest => rest

/-- The display thread before it locks the mutex, in `pthread_cond_wait`
without or with a signal, or in its inner loop, where it holds the mutex. -/
inductive Runner where
  | polling
  | waiting
  | signalled
  | running
  deriving Repr, DecidableEq

def Runner.signal : Runner → Runner
  | .waiting => .signalled
  | .polling => .polling
  | .signalled => .signalled
  | .running => .running

/-- `kicked` says that the eventfd can be read, `owing` that the driver has not
kicked since it last published. -/
structure Station where
  machine : Machine
  events : List Event
  published : Queue → List Nat
  kicked : Bool
  owing : Bool
  mevent : MeventThread
  requests : List Queue
  runner : Runner

inductive StationLabel where
  | publish (heads : Queue → List Nat) (memory : Memory)
  | kick
  | hear
  | submit
  | iterate (iov : Nat → IoVec) (flags : Nat → Nat)
  | run (env : Env)
  | wake

namespace Station

def exchange (state : Station) (queue : Queue) : Exchange :=
  ⟨state.machine, state.events, state.published queue⟩

/-- `handle_requests` where no write is posted. -/
def hear (state : Station) : Option Station :=
  match state.mevent with
  | .processing _ => none
  | .polling =>
      if state.kicked then
        some { state with
          kicked := false
          mevent :=
            if headerField state.machine.memory .status = 0xf then
              .processing [.cursor, .control]
            else .polling }
      else none

/-- One round of `process_queue`; `vdpy_submit_bh` waits for the mutex. -/
def submit (state : Station) : Option Station :=
  match state.mevent with
  | .polling => none
  | .processing [] => some { state with mevent := .polling }
  | .processing (queue :: rest) =>
      if vqRingReady (state.machine.device.queues queue) then
        if state.runner = .running then none
        else some { state with
          mevent := .processing rest
          requests := vdpySubmitBh true state.requests queue
          runner := state.runner.signal }
      else some { state with mevent := .processing rest }

/-- The display thread enters the first bottom half on the list, or goes round
its outer loop. -/
def iterate (state : Station) (iov : Nat → IoVec) (flags : Nat → Nat) :
    Option Station :=
  match state.runner, state.machine.task, state.requests with
  | .waiting, _, _ => none
  | _, .idle, queue :: rest =>
      some { state with
        machine := startBh state.machine queue iov flags
        requests := rest
        runner := .running }
  | .polling, .idle, [] => some { state with runner := .waiting }
  | .signalled, .idle, [] | .running, .idle, [] =>
      some { state with runner := .polling }
  | _, _, _ => none

/-- The next section of the bottom half that runs. -/
def run (state : Station) (env : Env) : Option Station :=
  if env.Fresh state.machine.device.gpu ∧ state.runner = .running ∧
      state.machine.task.queue? ≠ none then
    match bhStep env state.machine with
    | .error _ => none
    | .ok (machine, events) =>
        some { state with machine := machine, events := state.events ++ events }
  else none

def act (state : Station) : StationLabel → Option Station
  | .publish heads memory =>
      some { state with
        machine := { state.machine with memory := memory }
        published := fun queue => state.published queue ++ heads queue
        owing := true }
  | .kick => some { state with kicked := true, owing := false }
  | .hear => state.hear
  | .submit => state.submit
  | .iterate iov flags => state.iterate iov flags
  | .run env => state.run env
  | .wake =>
      if state.runner = .waiting then some { state with runner := .signalled }
      else none

end Station

def InUse (start : Machine) (queue : Queue) : Prop :=
  vqRingReady (start.device.queues queue) = true

/-- No bottom half runs yet; the driver has still to kick for the chains that
stand in the available rings. -/
def station (start : Machine) : TransitionSystem Station StationLabel where
  initial := fun state => ∃ published, start.task = .idle ∧
    (∀ queue, InUse start queue →
      Opens queue start ⟨start, [], published queue⟩) ∧
    (∀ queue, ¬InUse start queue → published queue = []) ∧
    state = ⟨start, [], published, false, true, .polling, [], .polling⟩
  step := fun before label after => before.act label = some after

/-- The driver keeps the rules of the rings, leaves the device running and
posts no write to a register while the queues are in use. -/
def StationBehaves (start : Machine) (state : Station) :
    StationLabel → Prop
  | .publish heads memory =>
      (∀ queue, InUse start queue →
        Publishes (start.device.queues queue)
          (start.device.queues queue).lastAvail
          ((state.exchange queue).fifo queue) (heads queue)
          state.machine.memory memory) ∧
        ∀ queue, ¬InUse start queue → heads queue = []
  | .hear =>
      state.machine.memory.load32 writeTransactionOffset = 0 ∧
        headerField state.machine.memory .status = 0xf
  | .run _ => ResponseFits state.machine ∧
      ∀ queue, InUse start queue → DriverBehaves queue state.machine
  | .kick | .submit | .iterate _ _ | .wake => True

end VirtioGpu.Backend
