import Mathlib.Data.List.Count
import Mathlib.Data.List.Perm.Basic
import Mathlib.Logic.Function.Basic

namespace VirtioGpu.Foundation

/-! Heaps of reference-counted cells.  A cell disappears when its last
reference is dropped; the count is compared with the list of its holders. -/

/-- A live cell has its first reference and `others` more, so its count is
never zero. -/
structure Counted (α : Type u) where
  others : Nat
  value : α
  deriving Repr

def Counted.refs (counted : Counted α) : Nat := counted.others + 1

/-- The cell without one of its references, `none` after the last one. -/
def Counted.drop : Counted α → Option (Counted α)
  | ⟨0, _⟩ => none
  | ⟨others + 1, value⟩ => some ⟨others, value⟩

abbrev RefHeap (α : Type u) := Nat → Option (Counted α)

namespace RefHeap

variable {α : Type u}

def empty : RefHeap α := fun _ => none

def refs (heap : RefHeap α) (cell : Nat) : Nat :=
  match heap cell with
  | none => 0
  | some counted => counted.refs

def alloc (heap : RefHeap α) (cell : Nat) (value : α) : RefHeap α :=
  Function.update heap cell (some ⟨0, value⟩)

/-- Take one more reference; `none` is a use after free. -/
def ref (heap : RefHeap α) (cell : Nat) : Option (RefHeap α) :=
  (heap cell).map fun counted =>
    Function.update heap cell (some ⟨counted.others + 1, counted.value⟩)

/-- Drop one reference and free the cell with the last one. -/
def unref (heap : RefHeap α) (cell : Nat) : Option (RefHeap α) :=
  (heap cell).map fun counted => Function.update heap cell counted.drop

def set (heap : RefHeap α) (cell : Nat) (value : α) : RefHeap α :=
  match heap cell with
  | none => heap
  | some counted => Function.update heap cell (some ⟨counted.others, value⟩)

theorem refs_of_some {heap : RefHeap α} {cell : Nat} {counted : Counted α}
    (found : heap cell = some counted) :
    heap.refs cell = counted.others + 1 := by
  simp only [refs, found, Counted.refs]

theorem refs_of_none {heap : RefHeap α} {cell : Nat}
    (found : heap cell = none) : heap.refs cell = 0 := by
  simp only [refs, found]

theorem refs_update_self (heap : RefHeap α) (cell : Nat)
    (content : Option (Counted α)) :
    refs (Function.update heap cell content) cell =
      (content.map Counted.refs).getD 0 := by
  cases content with
  | none => simp only [refs, Function.update_self, Option.map_none,
      Option.getD_none]
  | some counted => simp only [refs, Function.update_self, Option.map_some,
      Option.getD_some]

theorem refs_update_of_ne (heap : RefHeap α) {cell other : Nat}
    (content : Option (Counted α)) (different : other ≠ cell) :
    refs (Function.update heap cell content) other = heap.refs other := by
  simp only [refs, Function.update_of_ne different]

theorem refs_drop (counted : Counted α) :
    (counted.drop.map Counted.refs).getD 0 = counted.others := by
  rcases counted with ⟨others, value⟩
  cases others with
  | zero => rfl
  | succ others => rfl

theorem exists_ref {heap : RefHeap α} {cell : Nat} (live : heap cell ≠ none) :
    ∃ next, heap.ref cell = some next := by
  obtain ⟨counted, found⟩ := Option.ne_none_iff_exists'.mp live
  unfold RefHeap.ref
  rw [found]
  exact ⟨_, rfl⟩

theorem exists_unref {heap : RefHeap α} {cell : Nat}
    (live : heap cell ≠ none) : ∃ next, heap.unref cell = some next := by
  obtain ⟨counted, found⟩ := Option.ne_none_iff_exists'.mp live
  unfold RefHeap.unref
  rw [found]
  exact ⟨_, rfl⟩

/-- Every cell has as many references as `holders` names it. -/
def Balanced (heap : RefHeap α) (holders : List Nat) : Prop :=
  ∀ cell, heap.refs cell = holders.count cell

namespace Balanced

variable {heap next : RefHeap α} {holders : List Nat} {cell : Nat}

theorem empty : Balanced (RefHeap.empty : RefHeap α) [] := fun _ => rfl

theorem of_perm {others : List Nat} (balanced : Balanced heap holders)
    (permuted : holders.Perm others) : Balanced heap others := by
  intro cell
  rw [balanced cell, permuted.count_eq]

theorem live_iff (balanced : Balanced heap holders) :
    heap cell ≠ none ↔ cell ∈ holders := by
  rw [← List.count_pos_iff, ← balanced cell]
  cases found : heap cell with
  | none => simp [refs_of_none found]
  | some counted => simp [refs_of_some found]

/-- An update of one cell is balanced by its new count there. -/
theorem update {others : List Nat} (balanced : Balanced heap holders)
    (content : Option (Counted α))
    (here : (content.map Counted.refs).getD 0 = others.count cell)
    (elsewhere : ∀ other, other ≠ cell →
      holders.count other = others.count other) :
    Balanced (Function.update heap cell content) others := by
  intro other
  rcases eq_or_ne other cell with same | different
  · subst other
    rw [refs_update_self, here]
  · rw [refs_update_of_ne heap content different, balanced other,
      elsewhere other different]

theorem alloc (balanced : Balanced heap holders) (fresh : heap cell = none)
    (value : α) : Balanced (heap.alloc cell value) (cell :: holders) := by
  apply balanced.update
  · have unheld := balanced cell
    rw [refs_of_none fresh] at unheld
    rw [List.count_cons_self, ← unheld]
    rfl
  · intro other different
    rw [List.count_cons_of_ne (Ne.symm different)]

theorem ref (balanced : Balanced heap holders)
    (taken : heap.ref cell = some next) :
    Balanced next (cell :: holders) := by
  obtain ⟨counted, found, rfl⟩ := Option.map_eq_some_iff.mp taken
  apply balanced.update
  · have held := balanced cell
    rw [refs_of_some found] at held
    rw [List.count_cons_self, ← held]
    rfl
  · intro other different
    rw [List.count_cons_of_ne (Ne.symm different)]

theorem unref (balanced : Balanced heap (cell :: holders))
    (dropped : heap.unref cell = some next) : Balanced next holders := by
  obtain ⟨counted, found, rfl⟩ := Option.map_eq_some_iff.mp dropped
  apply balanced.update
  · have held := balanced cell
    rw [refs_of_some found, List.count_cons_self] at held
    rw [refs_drop]
    omega
  · intro other different
    rw [List.count_cons_of_ne (Ne.symm different)]

theorem set (balanced : Balanced heap holders) (value : α) :
    Balanced (heap.set cell value) holders := by
  unfold RefHeap.set
  cases found : heap cell with
  | none => exact balanced
  | some counted =>
      apply balanced.update
      · rw [← balanced cell, refs_of_some found]
        rfl
      · intro _ _
        rfl

end Balanced

theorem unref_of_ref {heap taken : RefHeap α} {cell : Nat}
    (ref : heap.ref cell = some taken) : taken.unref cell = some heap := by
  obtain ⟨counted, found, rfl⟩ := Option.map_eq_some_iff.mp ref
  simp only [RefHeap.unref, Function.update_self, Option.map_some,
    Counted.drop, Function.update_idem, Option.some.injEq]
  rw [show some (⟨counted.others, counted.value⟩ : Counted α) = heap cell from
    found.symm, Function.update_eq_self]

/-- A value written between taking and dropping a reference stays. -/
theorem unref_set_of_ref {heap taken : RefHeap α} {cell : Nat} (value : α)
    (ref : heap.ref cell = some taken) :
    (taken.set cell value).unref cell = some (heap.set cell value) := by
  obtain ⟨counted, found, rfl⟩ := Option.map_eq_some_iff.mp ref
  simp only [RefHeap.unref, RefHeap.set, found, Function.update_self,
    Option.map_some, Counted.drop, Function.update_idem]

/-! References that may be absent. -/

def refOption (heap : RefHeap α) : Option Nat → Option (RefHeap α)
  | none => some heap
  | some cell => heap.ref cell

def unrefOption (heap : RefHeap α) : Option Nat → Option (RefHeap α)
  | none => some heap
  | some cell => heap.unref cell

namespace Balanced

variable {heap next : RefHeap α} {holders : List Nat} {held : Option Nat}

theorem refOption (balanced : Balanced heap holders)
    (taken : heap.refOption held = some next) :
    Balanced next (held.toList ++ holders) := by
  cases held with
  | none =>
      cases taken
      exact balanced
  | some cell => exact balanced.ref taken

theorem unrefOption (balanced : Balanced heap (held.toList ++ holders))
    (dropped : heap.unrefOption held = some next) : Balanced next holders := by
  cases held with
  | none =>
      cases dropped
      exact balanced
  | some cell => exact balanced.unref dropped

end Balanced

/-! Heaps that agree on a set of cells. -/

def AgreeOn (Within : Nat → Prop) (left right : RefHeap α) : Prop :=
  ∀ cell, Within cell → left cell = right cell

namespace AgreeOn

variable {Within : Nat → Prop} {left right : RefHeap α} {cell : Nat}

theorem update (agree : AgreeOn Within left right) (cell : Nat)
    (content : Option (Counted α)) :
    AgreeOn Within (Function.update left cell content)
      (Function.update right cell content) := by
  intro other within
  rcases eq_or_ne other cell with rfl | different
  · rw [Function.update_self, Function.update_self]
  · rw [Function.update_of_ne different, Function.update_of_ne different]
    exact agree other within

/-- A new cell is one more cell the heaps agree on. -/
theorem alloc (agree : AgreeOn Within left right) (cell : Nat) (value : α) :
    AgreeOn (fun other => other = cell ∨ Within other)
      (left.alloc cell value) (right.alloc cell value) := by
  rintro other (rfl | within)
  · rw [RefHeap.alloc, RefHeap.alloc, Function.update_self,
      Function.update_self]
  · exact agree.update cell _ other within

theorem ref (agree : AgreeOn Within left right) (within : Within cell) :
    left.ref cell = none ∧ right.ref cell = none ∨
      ∃ leftNext rightNext, left.ref cell = some leftNext ∧
        right.ref cell = some rightNext ∧
        AgreeOn Within leftNext rightNext := by
  unfold RefHeap.ref
  rw [agree cell within]
  cases right cell with
  | none => exact .inl ⟨rfl, rfl⟩
  | some counted => exact .inr ⟨_, _, rfl, rfl, agree.update cell _⟩

theorem unref (agree : AgreeOn Within left right) (within : Within cell) :
    left.unref cell = none ∧ right.unref cell = none ∨
      ∃ leftNext rightNext, left.unref cell = some leftNext ∧
        right.unref cell = some rightNext ∧
        AgreeOn Within leftNext rightNext := by
  unfold RefHeap.unref
  rw [agree cell within]
  cases right cell with
  | none => exact .inl ⟨rfl, rfl⟩
  | some counted => exact .inr ⟨_, _, rfl, rfl, agree.update cell _⟩

theorem set (agree : AgreeOn Within left right) (within : Within cell)
    (value : α) : AgreeOn Within (left.set cell value)
      (right.set cell value) := by
  unfold RefHeap.set
  rw [agree cell within]
  cases right cell with
  | none => exact agree
  | some counted => exact agree.update cell _

end AgreeOn

/-! Contents of cells, whatever their counts. -/

def contents (heap : RefHeap α) (cell : Nat) : Option α :=
  (heap cell).map Counted.value

theorem live_of_contents {heap : RefHeap α} {cell : Nat} {value : α}
    (held : heap.contents cell = some value) : heap cell ≠ none := by
  intro freed
  rw [contents, freed] at held
  cases held

theorem contents_update_of_ne (heap : RefHeap α) {cell other : Nat}
    (content : Option (Counted α)) (different : other ≠ cell) :
    contents (Function.update heap cell content) other =
      heap.contents other := by
  unfold contents
  rw [Function.update_of_ne different]

theorem contents_alloc_self (heap : RefHeap α) (cell : Nat) (value : α) :
    (heap.alloc cell value).contents cell = some value := by
  unfold contents alloc
  rw [Function.update_self]
  rfl

theorem contents_set_self {heap : RefHeap α} {cell : Nat}
    (live : heap cell ≠ none) (value : α) :
    (heap.set cell value).contents cell = some value := by
  obtain ⟨counted, found⟩ := Option.ne_none_iff_exists'.mp live
  unfold contents set
  simp only [found, Function.update_self, Option.map_some]

theorem contents_set_of_ne (heap : RefHeap α) {cell other : Nat} (value : α)
    (different : other ≠ cell) :
    (heap.set cell value).contents other = heap.contents other := by
  unfold set
  cases heap cell with
  | none => rfl
  | some counted => exact contents_update_of_ne heap _ different

/-- What is still live has the contents it had. -/
def KeepsContents (before after : RefHeap α) : Prop :=
  ∀ cell, after cell ≠ none → after.contents cell = before.contents cell

namespace KeepsContents

variable {before middle after : RefHeap α}

theorem refl (heap : RefHeap α) : KeepsContents heap heap := fun _ _ => rfl

theorem trans (first : KeepsContents before middle)
    (second : KeepsContents middle after) : KeepsContents before after := by
  intro cell live
  have kept := second cell live
  rw [kept]
  apply first
  intro freed
  rw [contents, contents, freed, Option.map_none, Option.map_eq_none_iff]
    at kept
  exact live kept

theorem update {cell : Nat} {old : Counted α}
    {content : Option (Counted α)} (found : before cell = some old)
    (same : ∀ counted, content = some counted →
      counted.value = old.value) :
    KeepsContents before (Function.update before cell content) := by
  intro other live
  rcases eq_or_ne other cell with rfl | different
  · rw [Function.update_self] at live
    obtain ⟨counted, held⟩ := Option.ne_none_iff_exists'.mp live
    unfold contents
    rw [Function.update_self, held, found, Option.map_some, Option.map_some,
      same counted held]
  · exact contents_update_of_ne before content different

theorem refOption {cell : Option Nat}
    (taken : before.refOption cell = some after) :
    KeepsContents before after := by
  cases cell with
  | none =>
      cases taken
      exact refl before
  | some cell =>
      obtain ⟨old, found, rfl⟩ := Option.map_eq_some_iff.mp taken
      apply update found
      intro counted same
      cases same
      rfl

theorem unrefOption {cell : Option Nat}
    (dropped : before.unrefOption cell = some after) :
    KeepsContents before after := by
  cases cell with
  | none =>
      cases dropped
      exact refl before
  | some cell =>
      obtain ⟨old, found, rfl⟩ := Option.map_eq_some_iff.mp dropped
      apply update found
      intro counted same
      rcases old with ⟨others, value⟩
      cases others with
      | zero => cases same
      | succ others =>
          cases same
          rfl

end KeepsContents

end RefHeap

end VirtioGpu.Foundation
