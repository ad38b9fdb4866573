import Mathlib.Data.List.Basic

namespace VirtioGpu.Foundation

/-! Machines that answer each input. -/

variable {σ : Type u} {τ : Type v} {ι : Type w} {ο : Type x}

/-- The state after a list of inputs, and the answers. -/
def runInputs (act : σ → ι → σ × ο) (state : σ) : List ι → σ × List ο
  | [] => (state, [])
  | input :: rest =>
      let next := act state input
      let finished := runInputs act next.1 rest
      (finished.1, next.2 :: finished.2)

/-- Each input of the list is allowed where it comes. -/
def AllowedRun (act : σ → ι → σ × ο) (Allowed : σ → ι → Prop) (state : σ) :
    List ι → Prop
  | [] => True
  | input :: rest =>
      Allowed state input ∧ AllowedRun act Allowed (act state input).1 rest

/-- One machine answers an input as another does, and the relation between
them stays. -/
structure AnswersAlike (Alike : σ → τ → Prop) (next : σ × ο)
    (other : τ × ο) : Prop where
  answer : next.2 = other.2
  alike : Alike next.1 other.1

theorem runInputs_alike {act : σ → ι → σ × ο} {shadow : τ → ι → τ × ο}
    {Alike : σ → τ → Prop} {Allowed : σ → ι → Prop}
    (step : ∀ state other input, Alike state other → Allowed state input →
      AnswersAlike Alike (act state input) (shadow other input))
    {inputs : List ι} {state : σ} {other : τ} (alike : Alike state other)
    (allowed : AllowedRun act Allowed state inputs) :
    AnswersAlike Alike (runInputs act state inputs)
      (runInputs shadow other inputs) := by
  induction inputs generalizing state other with
  | nil => exact ⟨rfl, alike⟩
  | cons input rest induction =>
      have first := step state other input alike allowed.1
      have later := induction first.alike allowed.2
      refine ⟨?_, later.alike⟩
      simp only [runInputs]
      rw [first.answer, later.answer]

end VirtioGpu.Foundation
