import VirtioGpu.Backend.Service

namespace VirtioGpu.Backend

open Foundation
open Virtio
open Gpu

/-! One call of a bottom half, from its start in a reachable device to its
return.  Guest memory may change between any two of its sections. -/

def Label.InCall : Label → Prop
  | .guest _ | .run _ => True
  | .start _ _ _ | .commonWrite _ _ _ | .deviceWrite _ _ _ | .hotplug => False

def call (queue : Queue) : TransitionSystem Traced Label where
  initial := fun state => ∃ before iov flags, backend.Reached before ∧
    before.machine.task = .idle ∧
      state = ⟨startBh before.machine queue iov flags, []⟩
  step := fun before label after => label.InCall ∧
    backend.step before label after

/-! The parts of the events a call is judged by. -/

namespace Event

def service? : Event → Option Service
  | .served service => some service
  | .mapped _ | .fetched _ | .servedCursor _ _ _ _ | .released _ _ _
  | .ended _ _ => none

def fetch? : Event → Option Fetch
  | .fetched fetch => some fetch
  | .mapped _ | .served _ | .servedCursor _ _ _ _ | .released _ _ _
  | .ended _ _ => none

/-- The head and the length given to `vq_relchain`. -/
def release? : Event → Option (Nat × Nat)
  | .released _ idx iolen => some (idx, iolen)
  | .mapped _ | .fetched _ | .served _ | .servedCursor _ _ _ _
  | .ended _ _ => none

end Event

namespace Traced

def services (state : Traced) : List Service :=
  state.events.filterMap Event.service?

def fetches (state : Traced) : List Fetch :=
  state.events.filterMap Event.fetch?

def releases (state : Traced) : List (Nat × Nat) :=
  state.events.filterMap Event.release?

end Traced

theorem Traced.services_of_append {before after : Traced} {events : List Event}
    (extended : after.events = before.events ++ events) :
    after.services = before.services ++ events.filterMap Event.service? := by
  simp only [services, extended, List.filterMap_append]

theorem Traced.fetches_of_append {before after : Traced} {events : List Event}
    (extended : after.events = before.events ++ events) :
    after.fetches = before.fetches ++ events.filterMap Event.fetch? := by
  simp only [fetches, extended, List.filterMap_append]

theorem Traced.releases_of_append {before after : Traced} {events : List Event}
    (extended : after.events = before.events ++ events) :
    after.releases = before.releases ++ events.filterMap Event.release? := by
  simp only [releases, extended, List.filterMap_append]

theorem Section.faithful_append {env : Env} {before after : Traced}
    {events : List Event} (faithful : before.Faithful)
    (ran : Section env before.machine after.machine events)
    (extended : after.events = before.events ++ events) : after.Faithful := by
  have step := ran.faithful faithful.task
  refine ⟨step.1, ?_⟩
  intro service member
  rw [extended] at member
  rcases List.mem_append.mp member with earlier | now
  · exact faithful.served service earlier
  · exact step.2 service now

theorem call_initial_task {queue : Queue} {state : Traced}
    (starts : (call queue).initial state) :
    ∃ iov flags, state.machine.task = .testing queue ⟨iov, flags, 0⟩ ∧
      state.events = [] := by
  obtain ⟨before, iov, flags, _, idle, rfl⟩ := starts
  refine ⟨iov, flags, ?_, rfl⟩
  simp only [startBh, idle]

/-- A step of a call is a section of the bottom half or a change of guest
memory. -/
theorem call_step_cases {queue : Queue} {before after : Traced} {label : Label}
    (stepped : (call queue).step before label after) :
    (∃ env events, label = .run env ∧
      Section env before.machine after.machine events ∧
        after.events = before.events ++ events) ∨
    (∃ memory, label = .guest memory ∧
      after = ⟨{ before.machine with memory := memory }, before.events⟩) := by
  obtain ⟨inCall, _, machine, events, ran, rfl⟩ := stepped
  cases label with
  | guest memory =>
      cases ran
      refine .inr ⟨memory, rfl, ?_⟩
      rw [List.append_nil]
  | run env => exact .inl ⟨env, events, rfl, bhStep_section ran, rfl⟩
  | start _ _ _ | commonWrite _ _ _ | deviceWrite _ _ _ | hotplug =>
      exact absurd inCall not_false

/-! Running a call. -/

def runCall (env : Env) (queue : Queue) (sections : Nat) (before : Traced) :
    Option Traced :=
  match before.machine.task with
  | .idle =>
      runLabels ⟨startBh before.machine queue (fun _ => ⟨none, 0⟩)
        (fun _ => 0), []⟩ (List.replicate sections (.run env))
  | .testing _ _ | .fetching _ _ | .serving _ _ _ _ | .releasing _ _ _
  | .ending _ => none

theorem call_of_runLabels {allowed : Traced → Label → Prop} {env : Env}
    {queue : Queue} {sections : Nat} {before after : Traced}
    (permits : ∀ state, allowed state (.run env))
    (reached : (call queue).ReachedWhere allowed before)
    (ran : runLabels before (List.replicate sections (.run env)) =
      some after) : (call queue).ReachedWhere allowed after := by
  induction sections generalizing before with
  | zero =>
      cases ran
      exact reached
  | succ sections induction =>
      rw [List.replicate_succ] at ran
      unfold runLabels at ran
      split at ran
      · cases stepped : machineStep before.machine (.run env) with
        | error fault =>
            rw [stepped] at ran
            cases ran
        | ok result =>
            rw [stepped] at ran
            have sound : (Label.run env).Sound before.machine := ‹_›
            have inside : (Label.run env).InCall := trivial
            exact induction
              (.step reached (permits before)
                ⟨inside, sound, _, _, stepped, rfl⟩) ran
      · cases ran

theorem exists_called {allowed : Traced → Label → Prop} {before : Traced}
    {setUp : List Label} {env : Env} {queue : Queue} {sections : Nat}
    {check : Traced → Bool} (starts : backend.initial before)
    (permits : ∀ state, allowed state (.run env))
    (checked : ((runLabels before setUp).bind
      (runCall env queue sections)).any check = true) :
    ∃ state, (call queue).ReachedWhere allowed state ∧
      check state = true := by
  cases set : runLabels before setUp with
  | none =>
      rw [set] at checked
      cases checked
  | some ready =>
      rw [set, Option.bind_some] at checked
      cases called : runCall env queue sections ready with
      | none =>
          rw [called] at checked
          cases checked
      | some state =>
          rw [called] at checked
          refine ⟨state, ?_, checked⟩
          unfold runCall at called
          cases task : ready.machine.task with
          | idle =>
              rw [task] at called
              have reached := reached_of_runLabels (.initial starts) set
              exact call_of_runLabels permits
                (.initial ⟨ready, _, _, reached, task, rfl⟩) called
          | testing _ _ | fetching _ _ | serving _ _ _ _ | releasing _ _ _
          | ending _ =>
              rw [task] at called
              cases called

theorem call_step_of_runLabels {env : Env} {queue : Queue}
    {before : Traced} {check : Traced → Bool}
    (checked : (runLabels before [.run env]).any check = true) :
    ∃ after, (call queue).step before (.run env) after ∧
      check after = true := by
  unfold runLabels at checked
  split at checked
  · cases stepped : machineStep before.machine (.run env) with
    | error fault =>
        rw [stepped] at checked
        cases checked
    | ok result =>
        rw [stepped] at checked
        have sound : (Label.run env).Sound before.machine := ‹_›
        have inside : (Label.run env).InCall := trivial
        exact ⟨_, ⟨inside, sound, _, _, stepped, rfl⟩, checked⟩
  · cases checked

end VirtioGpu.Backend
