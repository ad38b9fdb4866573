import Mathlib.Logic.Function.Iterate
import Mathlib.Logic.Relation

namespace VirtioGpu.Foundation

/-! Labelled transition systems and the states their runs reach. -/

structure TransitionSystem (State : Type u) (Label : Type v) where
  initial : State → Prop
  step : State → Label → State → Prop

namespace TransitionSystem

variable {State : Type u} {Label : Type v}

/-- States reached by runs whose every step meets `allowed`, a condition on
the state before the step and on the step's label. -/
inductive ReachedWhere (system : TransitionSystem State Label)
    (allowed : State → Label → Prop) : State → Prop
  | initial {state : State} (starts : system.initial state) :
      ReachedWhere system allowed state
  | step {before after : State} {label : Label}
      (reached : ReachedWhere system allowed before)
      (permitted : allowed before label)
      (stepped : system.step before label after) :
      ReachedWhere system allowed after

def Reached (system : TransitionSystem State Label) : State → Prop :=
  system.ReachedWhere fun _ _ => True

/-- The same steps from a given state. -/
def startingAt (system : TransitionSystem State Label) (start : State) :
    TransitionSystem State Label where
  initial := fun state => state = start
  step := system.step

theorem ReachedWhere.invariant {system : TransitionSystem State Label}
    {allowed : State → Label → Prop} (Holds : State → Prop)
    (starts : ∀ state, system.initial state → Holds state)
    (preserved : ∀ before label after, Holds before → allowed before label →
      system.step before label after → Holds after)
    {state : State} (reached : system.ReachedWhere allowed state) :
    Holds state := by
  induction reached with
  | initial start => exact starts _ start
  | step _ permitted stepped induction =>
      exact preserved _ _ _ induction permitted stepped

theorem ReachedWhere.mono {system : TransitionSystem State Label}
    {narrow wide : State → Label → Prop}
    (weaker : ∀ state label, narrow state label → wide state label)
    {state : State} (reached : system.ReachedWhere narrow state) :
    system.ReachedWhere wide state := by
  induction reached with
  | initial start => exact .initial start
  | step _ permitted stepped induction =>
      exact .step induction (weaker _ _ permitted) stepped

theorem Reached.invariant {system : TransitionSystem State Label}
    (Holds : State → Prop)
    (starts : ∀ state, system.initial state → Holds state)
    (preserved : ∀ before label after, Holds before →
      system.step before label after → Holds after)
    {state : State} (reached : system.Reached state) : Holds state :=
  ReachedWhere.invariant Holds starts
    (fun before label after holds _ stepped =>
      preserved before label after holds stepped) reached

/-- A run that is computed, each action being one or more steps. -/
theorem ReachedWhere.foldlM {system : TransitionSystem State Label}
    {allowed : State → Label → Prop} {Action : Type w}
    {act : State → Action → Option State}
    (acts : ∀ {before action after}, system.ReachedWhere allowed before →
      act before action = some after → system.ReachedWhere allowed after)
    {actions : List Action} {before after : State}
    (reached : system.ReachedWhere allowed before)
    (acted : actions.foldlM act before = some after) :
    system.ReachedWhere allowed after := by
  induction actions generalizing before with
  | nil =>
      cases acted
      exact reached
  | cons action rest induction =>
      rw [List.foldlM_cons] at acted
      obtain ⟨next, here, later⟩ := Option.bind_eq_some_iff.mp acted
      exact induction (acts reached here) later

/-- A state of a system whose steps are computed, reached by steps that were
each found to be allowed. -/
theorem exists_reachedWhere {system : TransitionSystem State Label}
    {allowed : State → Label → Prop}
    [∀ state label, Decidable (allowed state label)]
    {act : State → Label → Option State} {start : State}
    {labels : List Label} {check : State → Bool}
    (steps : ∀ {before label after}, act before label = some after →
      system.step before label after)
    (starts : system.initial start)
    (checked : (labels.foldlM (fun before label =>
      if allowed before label then act before label else none)
        start).any check = true) :
    ∃ state, system.ReachedWhere allowed state ∧ check state = true := by
  obtain ⟨state, acted, checks⟩ := (Option.any_eq_true _ _).mp checked
  refine ⟨state, ?_, checks⟩
  apply ReachedWhere.foldlM _ (.initial starts) acted
  intro before label after reached here
  split at here
  · rename_i permitted
    exact .step reached permitted (steps here)
  · cases here

/-- A state of a system whose steps are computed. -/
theorem exists_reached {system : TransitionSystem State Label}
    {act : State → Label → Option State} {start : State}
    {labels : List Label} {check : State → Bool}
    (steps : ∀ {before label after}, act before label = some after →
      system.step before label after)
    (starts : system.initial start)
    (checked : (labels.foldlM act start).any check = true) :
    ∃ state, system.Reached state ∧ check state = true := by
  obtain ⟨state, acted, checks⟩ := (Option.any_eq_true _ _).mp checked
  refine ⟨state, ?_, checks⟩
  exact ReachedWhere.foldlM (fun reached here => .step reached trivial
    (steps here)) (.initial starts) acted

end TransitionSystem

/-! Loops, one round at a time. -/

/-- Finitely many rounds lead from `start` to `finish`. -/
def Leads {State : Type u} (round : State → State) (start finish : State) :
    Prop :=
  ∃ rounds, round^[rounds] start = finish

namespace Leads

variable {State : Type u} {round : State → State}
  {start middle finish : State}

theorem refl : Leads round start start := ⟨0, rfl⟩

theorem single (stepped : round start = finish) :
    Leads round start finish := ⟨1, stepped⟩

theorem trans (first : Leads round start middle)
    (second : Leads round middle finish) : Leads round start finish := by
  obtain ⟨early, rfl⟩ := first
  obtain ⟨late, rfl⟩ := second
  exact ⟨late + early, Function.iterate_add_apply round late early start⟩

end Leads

end VirtioGpu.Foundation
