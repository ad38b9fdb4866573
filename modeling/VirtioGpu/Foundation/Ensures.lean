import Mathlib.Logic.Basic

namespace VirtioGpu.Foundation

/-! Postconditions of computations that may fail.  A failed computation meets
every postcondition. -/

def Ensures (result : Except ε α) (Post : α → Prop) : Prop :=
  ∀ value, result = .ok value → Post value

/-- Both parts of a sequence that succeeded have succeeded. -/
theorem bind_eq_ok {first : Except ε α} {next : α → Except ε β} {result : β}
    (equal : (first >>= next) = .ok result) :
    ∃ value, first = .ok value ∧ next value = .ok result := by
  cases first with
  | error failure => cases equal
  | ok value => exact ⟨value, rfl, equal⟩

theorem ok_of_toOption {result : Except ε α} {value : α}
    (equal : result.toOption = some value) : result = .ok value := by
  cases result with
  | error failure => cases equal
  | ok other =>
      cases equal
      rfl

namespace Ensures

variable {ε : Type u} {α β : Type v} {Post : β → Prop}

theorem ok {value : β} (holds : Post value) :
    Ensures (Except.ok value : Except ε β) Post := by
  intro result equal
  cases equal
  exact holds

theorem pure {value : β} (holds : Post value) :
    Ensures (Pure.pure value : Except ε β) Post :=
  ok holds

theorem error {failure : ε} :
    Ensures (Except.error failure : Except ε β) Post := by
  intro _ equal
  cases equal

theorem bind {first : Except ε α} {next : α → Except ε β}
    (continues : ∀ value, first = .ok value → Ensures (next value) Post) :
    Ensures (first >>= next) Post := by
  intro result equal
  obtain ⟨value, started, finished⟩ := bind_eq_ok equal
  exact continues value started result finished

/-- The rest of a sequence whose first part is known. -/
theorem after {first : Except ε α} {next : α → Except ε β} {value : α}
    (started : first = .ok value) (continues : Ensures (next value) Post) :
    Ensures (first >>= next) Post := by
  rw [started]
  exact continues

theorem ite {condition : Prop} [Decidable condition]
    {positive negative : Except ε β}
    (whenTrue : condition → Ensures positive Post)
    (whenFalse : ¬condition → Ensures negative Post) :
    Ensures (if condition then positive else negative) Post := by
  split
  · exact whenTrue ‹_›
  · exact whenFalse ‹_›

/-- Every result of a loop is what some round returned. -/
theorem mapM {visit : α → Except ε β} (items : List α) :
    Ensures (items.mapM visit) fun results =>
      ∀ result, result ∈ results →
        ∃ item, item ∈ items ∧ visit item = .ok result := by
  induction items with
  | nil =>
      refine .pure ?_
      intro result member
      cases member
  | cons item rest inductionHypothesis =>
      rw [List.mapM_cons]
      refine .bind fun first visited => .bind fun others later => .pure ?_
      intro result member
      rcases List.mem_cons.mp member with rfl | among
      · exact ⟨item, .head rest, visited⟩
      · obtain ⟨source, listed, same⟩ :=
          inductionHypothesis others later result among
        exact ⟨source, .tail item listed, same⟩

theorem mono {result : Except ε β} {Weak : β → Prop}
    (ensured : Ensures result Post)
    (weaker : ∀ value, Post value → Weak value) : Ensures result Weak :=
  fun value equal => weaker value (ensured value equal)

end Ensures

/-! Computations that succeed. -/

def Returns (result : Except ε α) (Post : α → Prop) : Prop :=
  ∃ value, result = .ok value ∧ Post value

namespace Returns

variable {ε : Type u} {α β : Type v} {Post : β → Prop}

theorem of_eq {result : Except ε β} {value : β} (equal : result = .ok value) :
    Returns result fun _ => True :=
  ⟨value, equal, trivial⟩

theorem pure {value : β} (holds : Post value) :
    Returns (Pure.pure value : Except ε β) Post :=
  ⟨value, rfl, holds⟩

theorem bind {first : Except ε α} {next : α → Except ε β}
    {Between : α → Prop} (starts : Returns first Between)
    (continues : ∀ value, Between value → Returns (next value) Post) :
    Returns (first >>= next) Post := by
  obtain ⟨value, started, between⟩ := starts
  rw [started]
  exact continues value between

/-- The rest of a sequence whose first part is known. -/
theorem after {first : Except ε α} {next : α → Except ε β} {value : α}
    (started : first = .ok value) (continues : Returns (next value) Post) :
    Returns (first >>= next) Post := by
  rw [started]
  exact continues

theorem ite {condition : Prop} [Decidable condition]
    {positive negative : Except ε β}
    (whenTrue : condition → Returns positive Post)
    (whenFalse : ¬condition → Returns negative Post) :
    Returns (if condition then positive else negative) Post := by
  split
  · exact whenTrue ‹_›
  · exact whenFalse ‹_›

theorem of_any {result : Except ε β} {check : β → Bool}
    (checked : result.toOption.any check = true) :
    Returns result fun value => check value = true := by
  cases result with
  | error failure => cases checked
  | ok value => exact ⟨value, rfl, checked⟩

/-- What a computation ensures holds of the value it returns. -/
theorem ensuring {result : Except ε β} {Weak : β → Prop}
    (returns : Returns result Weak) (ensured : Ensures result Post) :
    Returns result Post := by
  obtain ⟨value, equal, _⟩ := returns
  exact ⟨value, equal, ensured value equal⟩

end Returns

/-! Failures a computation cannot have. -/

def Avoids (result : Except ε α) (Bad : ε → Prop) : Prop :=
  ∀ failure, result = .error failure → ¬Bad failure

namespace Avoids

variable {ε : Type u} {α β : Type v} {Bad : ε → Prop}

theorem ok {value : β} : Avoids (Except.ok value : Except ε β) Bad := by
  intro _ equal
  cases equal

theorem pure {value : β} : Avoids (Pure.pure value : Except ε β) Bad :=
  ok

theorem error {failure : ε} (harmless : ¬Bad failure) :
    Avoids (Except.error failure : Except ε β) Bad := by
  intro _ equal
  cases equal
  exact harmless

theorem bind {first : Except ε α} {next : α → Except ε β}
    (starts : Avoids first Bad)
    (continues : ∀ value, first = .ok value → Avoids (next value) Bad) :
    Avoids (first >>= next) Bad := by
  intro failure equal
  cases ran : first with
  | error earlier =>
      rw [ran] at equal
      cases equal
      exact starts failure ran
  | ok value =>
      rw [ran] at equal
      exact continues value ran failure equal

theorem ite {condition : Prop} [Decidable condition]
    {positive negative : Except ε β}
    (whenTrue : condition → Avoids positive Bad)
    (whenFalse : ¬condition → Avoids negative Bad) :
    Avoids (if condition then positive else negative) Bad := by
  split
  · exact whenTrue ‹_›
  · exact whenFalse ‹_›

theorem mapM {visit : α → Except ε β}
    (each : ∀ item, Avoids (visit item) Bad) (items : List α) :
    Avoids (items.mapM visit) Bad := by
  induction items with
  | nil => exact pure
  | cons head tail induction =>
      rw [List.mapM_cons]
      exact bind (each head) fun _ _ => bind induction fun _ _ => pure

end Avoids

/-! Two computations that run alike. -/

/-- Both fail in the same way, or both succeed with related results. -/
inductive Paired (Related : α → β → Prop) :
    Except ε α → Except ε β → Prop
  | failed (failure : ε) : Paired Related (.error failure) (.error failure)
  | done {left : α} {right : β} (related : Related left right) :
      Paired Related (.ok left) (.ok right)

namespace Paired

variable {ε : Type u} {α β γ δ : Type v} {Related : α → β → Prop}
  {Later : γ → δ → Prop}

theorem pure {left : α} {right : β} (related : Related left right) :
    Paired Related (Pure.pure left : Except ε α)
      (Pure.pure right : Except ε β) :=
  done related

theorem bind {left : Except ε α} {right : Except ε β}
    {leftNext : α → Except ε γ} {rightNext : β → Except ε δ}
    (first : Paired Related left right)
    (second : ∀ leftValue rightValue, Related leftValue rightValue →
      Paired Later (leftNext leftValue) (rightNext rightValue)) :
    Paired Later (left >>= leftNext) (right >>= rightNext) := by
  cases first with
  | failed failure => exact failed failure
  | done related => exact second _ _ related

theorem ite {condition : Prop} [Decidable condition]
    {leftTrue leftFalse : Except ε α} {rightTrue rightFalse : Except ε β}
    (whenTrue : condition → Paired Related leftTrue rightTrue)
    (whenFalse : ¬condition → Paired Related leftFalse rightFalse) :
    Paired Related (if condition then leftTrue else leftFalse)
      (if condition then rightTrue else rightFalse) := by
  split
  · exact whenTrue ‹_›
  · exact whenFalse ‹_›

/-- The rest of a sequence on the right whose first part is known. -/
theorem after {left : Except ε γ} {first : Except ε α} {value : α}
    {next : α → Except ε δ} (started : first = .ok value)
    (continues : Paired Later left (next value)) :
    Paired Later left (first >>= next) := by
  rw [started]
  exact continues

/-- A computation paired with one that succeeds succeeds. -/
theorem returns {left : α} {right : Except ε β}
    (paired : Paired Related (.ok left) right) :
    Returns right (Related left) := by
  cases paired with
  | done related => exact ⟨_, rfl, related⟩

/-- What a computation returns comes from what its partner returns. -/
theorem ensures {left : Except ε α} {right : Except ε β}
    (paired : Paired Related left right) :
    Ensures right fun value =>
      ∃ partner, left = .ok partner ∧ Related partner value := by
  cases paired with
  | failed failure => exact .error
  | done related => exact .ok ⟨_, rfl, related⟩

theorem refl (result : Except ε α) : Paired Eq result result := by
  cases result with
  | error failure => exact failed failure
  | ok value => exact done rfl

theorem mono {left : Except ε α} {right : Except ε β}
    {Weak : α → β → Prop} (paired : Paired Related left right)
    (weaker : ∀ leftValue rightValue, Related leftValue rightValue →
      Weak leftValue rightValue) : Paired Weak left right := by
  cases paired with
  | failed failure => exact failed failure
  | done related => exact done (weaker _ _ related)

/-- A partner that goes on with what it has returned. -/
theorem pass {left : Except ε α} {right : Except ε β} {next : β → δ}
    {Weak : α → δ → Prop} (paired : Paired Related left right)
    (passes : ∀ leftValue rightValue, Related leftValue rightValue →
      Weak leftValue (next rightValue)) :
    Paired Weak left
      (right >>= fun value => (Pure.pure (next value) : Except ε δ)) := by
  cases paired with
  | failed failure => exact failed failure
  | done related => exact done (passes _ _ related)

/-- Loops whose rounds agree as `first` and `second` see their results. -/
theorem mapM {Item Seen : Type v} {left : Item → Except ε α}
    {right : Item → Except ε β} {first : α → Seen} {second : β → Seen}
    (rounds : ∀ item, Paired (fun leftValue rightValue =>
      second rightValue = first leftValue) (left item) (right item))
    (items : List Item) :
    Paired (fun lefts rights => rights.map second = lefts.map first)
      (items.mapM left) (items.mapM right) := by
  induction items with
  | nil => exact done rfl
  | cons head tail induction =>
      rw [List.mapM_cons, List.mapM_cons]
      refine bind (rounds head) fun leftHead rightHead heads => ?_
      refine bind induction fun leftTail rightTail tails => ?_
      refine pure ?_
      rw [List.map_cons, List.map_cons, heads, tails]

end Paired

end VirtioGpu.Foundation
