import Mathlib.Data.List.Nodup

namespace VirtioGpu.Foundation

/-! Lists searched by a key.  A list whose keys are distinct is a finite map:
insertion at the head and removal of the first match act on one key only. -/

namespace KeyedList

variable {α : Type u} {κ : Type v} [DecidableEq κ] (key : α → κ)

def lookup (entries : List α) (name : κ) : Option α :=
  entries.find? fun entry => key entry == name

def remove (entries : List α) (name : κ) : List α :=
  entries.eraseP fun entry => key entry == name

theorem lookup_cons (entry : α) (entries : List α) (name : κ) :
    lookup key (entry :: entries) name =
      if key entry = name then some entry else lookup key entries name := by
  unfold lookup
  rw [List.find?_cons]
  by_cases same : key entry = name
  · rw [if_pos same, beq_iff_eq.mpr same]
  · rw [if_neg same, beq_eq_false_iff_ne.mpr same]

theorem remove_cons (entry : α) (entries : List α) (name : κ) :
    remove key (entry :: entries) name =
      if key entry = name then entries
      else entry :: remove key entries name := by
  unfold remove
  rw [List.eraseP_cons]
  by_cases same : key entry = name
  · rw [if_pos same, beq_iff_eq.mpr same]
    rfl
  · rw [if_neg same, beq_eq_false_iff_ne.mpr same]
    rfl

theorem lookup_eq_none_iff {entries : List α} {name : κ} :
    lookup key entries name = none ↔ name ∉ entries.map key := by
  unfold lookup
  rw [List.find?_eq_none, List.mem_map]
  constructor
  · rintro absent ⟨entry, member, same⟩
    exact absent entry member (beq_iff_eq.mpr same)
  · intro absent entry member same
    exact absent ⟨entry, member, beq_iff_eq.mp same⟩

def Distinct (entries : List α) : Prop := (entries.map key).Nodup

variable {key}

theorem Distinct.cons {entry : α} {entries : List α}
    (distinct : Distinct key entries)
    (absent : lookup key entries (key entry) = none) :
    Distinct key (entry :: entries) :=
  List.nodup_cons.mpr ⟨(lookup_eq_none_iff key).mp absent, distinct⟩

theorem Distinct.remove {entries : List α} (distinct : Distinct key entries)
    (name : κ) : Distinct key (KeyedList.remove key entries name) :=
  distinct.sublist (List.eraseP_sublist.map key)

/-- Removing a key from a map forgets that key and no other. -/
theorem Distinct.lookup_remove {entries : List α}
    (distinct : Distinct key entries) (name other : κ) :
    lookup key (KeyedList.remove key entries name) other =
      if name = other then none else lookup key entries other := by
  induction entries with
  | nil =>
      split
      · rfl
      · rfl
  | cons head tail induction =>
      obtain ⟨fresh, rest⟩ := List.nodup_cons.mp distinct
      rw [remove_cons, lookup_cons]
      by_cases here : key head = name
      · rw [if_pos here]
        by_cases same : name = other
        · rw [if_pos same]
          subst same here
          exact (lookup_eq_none_iff key).mpr fresh
        · rw [if_neg same, if_neg (fun equal => same (here.symm.trans equal))]
      · rw [if_neg here, lookup_cons, induction rest]
        by_cases there : key head = other
        · rw [if_pos there, if_pos there,
            if_neg (fun equal => here (there.trans equal.symm))]
        · rw [if_neg there, if_neg there]

/-! Histories. -/

/-- One edit of a map. -/
inductive Edit (α : Type u) (κ : Type v) where
  | put (entry : α)
  | drop (name : κ)
  | clear

/-- The entry put last under a name and not dropped since; the latest edit
comes first. -/
def latest (key : α → κ) : List (Edit α κ) → κ → Option α
  | [], _ => none
  | .put entry :: earlier, name =>
      if key entry = name then some entry else latest key earlier name
  | .drop dropped :: earlier, name =>
      if dropped = name then none else latest key earlier name
  | .clear :: _, _ => none

/-- The list is the map its history describes. -/
structure Follows (key : α → κ) (entries : List α)
    (history : List (Edit α κ)) : Prop where
  distinct : Distinct key entries
  lookup : ∀ name, KeyedList.lookup key entries name = latest key history name

namespace Follows

variable {entries : List α} {history : List (Edit α κ)}

theorem nil : Follows key [] [] := ⟨List.nodup_nil, fun _ => rfl⟩

theorem put (follows : Follows key entries history) {entry : α}
    (absent : KeyedList.lookup key entries (key entry) = none) :
    Follows key (entry :: entries) (.put entry :: history) := by
  refine ⟨follows.distinct.cons absent, ?_⟩
  intro name
  rw [lookup_cons, follows.lookup name, latest]

theorem drop (follows : Follows key entries history) (name : κ) :
    Follows key (KeyedList.remove key entries name)
      (.drop name :: history) := by
  refine ⟨follows.distinct.remove name, ?_⟩
  intro other
  rw [follows.distinct.lookup_remove name other, follows.lookup other, latest]

theorem clear : Follows key [] (.clear :: history) :=
  ⟨List.nodup_nil, fun _ => rfl⟩

end Follows

end KeyedList

end VirtioGpu.Foundation
