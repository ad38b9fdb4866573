import VirtioGpu.Foundation.Ensures

namespace VirtioGpu.Foundation

/-! Computations that may fail and that log the keys they touch, also when
they fail. -/

abbrev Logged (κ ε α : Type u) := ExceptT ε (StateM (List κ)) α

namespace Logged

variable {κ ε α β : Type u}

def touch (key : κ) : Logged κ ε PUnit :=
  fun log => (.ok ⟨⟩, log ++ [key])

/-- The computation from an empty log. -/
def outcome (program : Logged κ ε α) : Except ε α := (program []).1

def touched (program : Logged κ ε α) : List κ := (program []).2

/-- The computation ends in `result`, and every key it touches meets
`Allowed`. -/
def Runs (Allowed : κ → Prop) (program : Logged κ ε α)
    (result : Except ε α) : Prop :=
  ∀ log, ∃ added, program log = (result, log ++ added) ∧
    ∀ key, key ∈ added → Allowed key

namespace Runs

variable {Allowed : κ → Prop}

theorem pure (value : α) :
    Runs Allowed (Pure.pure value : Logged κ ε α) (Pure.pure value) := by
  intro log
  refine ⟨[], ?_, ?_⟩
  · rw [List.append_nil]
    rfl
  · intro key member
    cases member

theorem lift (result : Except ε α) :
    Runs Allowed (MonadLift.monadLift result : Logged κ ε α) result := by
  intro log
  refine ⟨[], ?_, ?_⟩
  · rw [List.append_nil]
    rfl
  · intro key member
    cases member

theorem lift_ok {result : Except ε α} {value : α}
    (succeeds : result = .ok value) :
    Runs Allowed (MonadLift.monadLift result : Logged κ ε α) (.ok value) := by
  rw [← succeeds]
  exact lift result

theorem throw (failure : ε) :
    Runs Allowed (MonadExcept.throw failure : Logged κ ε α)
      (.error failure) := by
  intro log
  refine ⟨[], ?_, ?_⟩
  · rw [List.append_nil]
    rfl
  · intro key member
    cases member

theorem touch {key : κ} (allowed : Allowed key) :
    Runs Allowed (Logged.touch key : Logged κ ε PUnit) (.ok ⟨⟩) := by
  intro log
  refine ⟨[key], rfl, ?_⟩
  intro other member
  rw [List.mem_singleton.mp member]
  exact allowed

theorem bind {first : Logged κ ε α} {next : α → Logged κ ε β}
    {result : Except ε α} {later : α → Except ε β}
    (starts : Runs Allowed first result)
    (continues : ∀ value, result = .ok value →
      Runs Allowed (next value) (later value)) :
    Runs Allowed (first >>= next) (result >>= later) := by
  intro log
  obtain ⟨added, ran, allowed⟩ := starts log
  have step : (first >>= next) log =
      ExceptT.bindCont next (first log).1 (first log).2 := rfl
  rw [step, ran]
  cases result with
  | error failure => exact ⟨added, rfl, allowed⟩
  | ok value =>
      obtain ⟨more, finished, others⟩ :=
        continues value rfl (log ++ added)
      refine ⟨added ++ more, ?_, ?_⟩
      · rw [← List.append_assoc]
        exact finished
      · intro key member
        rcases List.mem_append.mp member with early | late
        · exact allowed key early
        · exact others key late

theorem failed {first : Logged κ ε α} {next : α → Logged κ ε β}
    {failure : ε} (fails : Runs Allowed first (.error failure)) :
    Runs Allowed (first >>= next) (.error failure) := by
  refine @bind _ _ _ _ _ first next (.error failure)
    (fun _ => .error failure) fails ?_
  intro value same
  cases same

/-- The rest of a sequence whose first part succeeds. -/
theorem after {first : Logged κ ε α} {next : α → Logged κ ε β} {value : α}
    {result : Except ε β} (starts : Runs Allowed first (.ok value))
    (continues : Runs Allowed (next value) result) :
    Runs Allowed (first >>= next) result := by
  refine @bind _ _ _ _ _ first next (.ok value) (fun _ => result) starts ?_
  intro other same
  cases same
  exact continues

theorem touch_bind {key : κ} {next : PUnit → Logged κ ε β}
    {result : Except ε β} (allowed : Allowed key)
    (continues : Runs Allowed (next ⟨⟩) result) :
    Runs Allowed (Logged.touch key >>= next) result :=
  after (touch allowed) continues

theorem ite {condition : Prop} [Decidable condition]
    {positive negative : Logged κ ε α} {whenPositive whenNegative : Except ε α}
    (whenTrue : condition → Runs Allowed positive whenPositive)
    (whenFalse : ¬condition → Runs Allowed negative whenNegative) :
    Runs Allowed (if condition then positive else negative)
      (if condition then whenPositive else whenNegative) := by
  split
  · exact whenTrue ‹_›
  · exact whenFalse ‹_›

theorem mono {Wide : κ → Prop} {program : Logged κ ε α} {result : Except ε α}
    (runs : Runs Allowed program result)
    (weaker : ∀ key, Allowed key → Wide key) : Runs Wide program result := by
  intro log
  obtain ⟨added, ran, allowed⟩ := runs log
  exact ⟨added, ran, fun key member => weaker key (allowed key member)⟩

theorem outcome_eq {program : Logged κ ε α} {result : Except ε α}
    (runs : Runs Allowed program result) : program.outcome = result := by
  obtain ⟨added, ran, _⟩ := runs []
  exact congrArg Prod.fst ran

theorem touched_eq_nil {program : Logged κ ε α} {result : Except ε α}
    (runs : Runs (fun _ => False) program result) : program.touched = [] := by
  obtain ⟨added, ran, never⟩ := runs []
  have same : program.touched = added := congrArg Prod.snd ran
  rw [same]
  exact List.eq_nil_iff_forall_not_mem.mpr never

theorem touched_allowed {program : Logged κ ε α} {result : Except ε α}
    (runs : Runs Allowed program result) :
    ∀ key, key ∈ program.touched → Allowed key := by
  obtain ⟨added, ran, allowed⟩ := runs []
  have same : program.touched = added := congrArg Prod.snd ran
  rw [same]
  exact allowed

end Runs

end Logged

/-! Steps that each return a log of their own. -/

/-- The steps of a list from a state on, and their logs one after another. -/
def foldLogged {σ : Type u} {ι : Type v} {κ : Type w}
    (act : σ → ι → σ × List κ) (state : σ) : List ι → σ × List κ
  | [] => (state, [])
  | item :: rest =>
      let next := act state item
      let finished := foldLogged act next.1 rest
      (finished.1, next.2 ++ finished.2)

/-- What an invariant and one step decide, for all the steps. -/
theorem foldLogged_touches_iff {σ : Type u} {ι : Type v} {κ : Type w}
    {act : σ → ι → σ × List κ} {Keeps : σ → Prop} {Allowed : κ → Prop}
    {Condition : ι → Prop}
    (keeps : ∀ state item, Keeps state → Keeps (act state item).1)
    (decides : ∀ state item, Keeps state →
      ((∀ key ∈ (act state item).2, Allowed key) ↔ Condition item))
    (items : List ι) {state : σ} (held : Keeps state) :
    (∀ key ∈ (foldLogged act state items).2, Allowed key) ↔
      ∀ item ∈ items, Condition item := by
  induction items generalizing state with
  | nil => simp [foldLogged]
  | cons item rest induction =>
      rw [foldLogged, List.forall_mem_append, List.forall_mem_cons,
        decides state item held, induction (keeps state item held)]

end VirtioGpu.Foundation
