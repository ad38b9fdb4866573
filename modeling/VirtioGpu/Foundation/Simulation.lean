import VirtioGpu.Foundation.Transition

namespace VirtioGpu.Foundation

/-! Forward simulations: what one system does, another does as well, and some
of the steps are none of its business. -/

structure Simulation {State : Type u} {Label : Type v} {Spec : Type w}
    {Action : Type x} (concrete : TransitionSystem State Label)
    (allowed : State → Label → Prop)
    (abstract : TransitionSystem Spec Action)
    (Related : State → Spec → Prop) : Prop where
  starts : ∀ state, concrete.initial state →
    ∃ spec, abstract.initial spec ∧ Related state spec
  steps : ∀ before label after spec, Related before spec →
    allowed before label → concrete.step before label after →
      Related after spec ∨
        ∃ action next, abstract.step spec action next ∧ Related after next

namespace Simulation

variable {State : Type u} {Label : Type v} {Spec : Type w} {Action : Type x}
  {concrete : TransitionSystem State Label}
  {allowed : State → Label → Prop}
  {abstract : TransitionSystem Spec Action} {Related : State → Spec → Prop}

/-- Every state a run reaches is related to one the other system reaches. -/
theorem reached (simulation : Simulation concrete allowed abstract Related)
    {state : State} (reached : concrete.ReachedWhere allowed state) :
    ∃ spec, abstract.Reached spec ∧ Related state spec := by
  induction reached with
  | initial start =>
      obtain ⟨spec, begins, related⟩ := simulation.starts _ start
      exact ⟨spec, .initial begins, related⟩
  | step _ permitted stepped induction =>
      obtain ⟨spec, reached, related⟩ := induction
      rcases simulation.steps _ _ _ spec related permitted stepped with
        still | ⟨action, next, moved, follows⟩
      · exact ⟨spec, reached, still⟩
      · exact ⟨next, .step reached trivial moved, follows⟩

end Simulation

end VirtioGpu.Foundation
