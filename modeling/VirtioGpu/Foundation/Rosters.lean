import Mathlib.Data.Finset.Erase
import Mathlib.Data.Finset.Insert
import Mathlib.Data.List.Nodup
import Mathlib.Logic.Function.Basic

namespace VirtioGpu.Foundation

open Function

theorem nodup_concat {α : Type u} {items : List α} {item : α}
    (absent : item ∉ items) (nodup : items.Nodup) :
    (items ++ [item]).Nodup :=
  List.nodup_append_comm.mpr (List.nodup_cons.mpr ⟨absent, nodup⟩)

/-! Lists of the keys whose entries in a table are of one kind. -/

structure Roster {Key : Type u} {Entry : Type v} (items : List Key)
    (table : Key → Entry) (Fits : Entry → Prop) : Prop where
  nodup : items.Nodup
  mem_iff : ∀ key, key ∈ items ↔ Fits (table key)

namespace Roster

variable {Key : Type u} {Entry : Type v} {items : List Key}
  {table other : Key → Entry} {Fits : Entry → Prop} {key : Key}
  {entry : Entry}

theorem congr (roster : Roster items table Fits)
    (same : ∀ key, Fits (other key) ↔ Fits (table key)) :
    Roster items other Fits where
  nodup := roster.nodup
  mem_iff := fun key => (roster.mem_iff key).trans (same key).symm

variable [DecidableEq Key]

theorem stay (roster : Roster items table Fits)
    (same : Fits entry ↔ Fits (table key)) :
    Roster items (update table key entry) Fits := by
  apply roster.congr
  intro place
  by_cases here : place = key
  · rw [here, update_self, same]
  · rw [update_of_ne here]

theorem enter (roster : Roster items table Fits) (out : ¬Fits (table key))
    (fits : Fits entry) :
    Roster (items ++ [key]) (update table key entry) Fits := by
  constructor
  · exact nodup_concat (fun member => out ((roster.mem_iff key).mp member))
      roster.nodup
  · intro place
    rw [List.mem_append, List.mem_singleton, roster.mem_iff]
    by_cases here : place = key
    · rw [here, update_self]
      exact ⟨fun _ => fits, fun _ => .inr rfl⟩
    · rw [update_of_ne here]
      exact or_iff_left here

theorem push (roster : Roster items table Fits) (out : ¬Fits (table key))
    (fits : Fits entry) :
    Roster (key :: items) (update table key entry) Fits := by
  have entered := roster.enter out fits
  have order : (key :: items).Perm (items ++ [key]) :=
    (List.perm_append_singleton key items).symm
  exact ⟨order.nodup_iff.mpr entered.nodup, fun place =>
    order.mem_iff.trans (entered.mem_iff place)⟩

theorem leave (roster : Roster items table Fits) (unfit : ¬Fits entry) :
    Roster (items.erase key) (update table key entry) Fits := by
  constructor
  · exact roster.nodup.erase key
  · intro place
    rw [roster.nodup.mem_erase_iff, roster.mem_iff]
    by_cases here : place = key
    · rw [here, update_self]
      exact ⟨fun both => absurd rfl both.1, fun fits => absurd fits unfit⟩
    · rw [update_of_ne here]
      exact and_iff_right here

theorem count_fits (roster : Roster items table Fits)
    (fits : Fits (table key)) : items.count key = 1 :=
  List.count_eq_one_of_mem roster.nodup ((roster.mem_iff key).mpr fits)

theorem count_unfit (roster : Roster items table Fits)
    (unfit : ¬Fits (table key)) : items.count key = 0 :=
  List.count_eq_zero.mpr fun member => unfit ((roster.mem_iff key).mp member)

end Roster

/-! Items that are each in the hold of one key. -/

structure Custody {Key : Type u} {Item : Type v}
    (hold : Key → Option Item) (items : Finset Item) : Prop where
  mem_iff : ∀ item, item ∈ items ↔ ∃ key, hold key = some item
  single : ∀ {first second item}, hold first = some item →
    hold second = some item → first = second

namespace Custody

variable {Key : Type u} {Item : Type v} {hold : Key → Option Item}
  {items : Finset Item} {key : Key} {item : Item}

theorem existsUnique (custody : Custody hold items) (member : item ∈ items) :
    ∃! key, hold key = some item := by
  obtain ⟨key, holds⟩ := (custody.mem_iff item).mp member
  exact ⟨key, holds, fun other also => custody.single also holds⟩

variable [DecidableEq Key] [DecidableEq Item]

theorem give (custody : Custody hold items) (fresh : item ∉ items)
    (empty : hold key = none) :
    Custody (update hold key (some item)) (insert item items) := by
  have unheld : ∀ other, hold other ≠ some item := fun other holds =>
    fresh ((custody.mem_iff item).mpr ⟨other, holds⟩)
  constructor
  · intro thing
    rw [Finset.mem_insert, custody.mem_iff]
    constructor
    · rintro (rfl | ⟨other, holds⟩)
      · exact ⟨key, update_self _ _ _⟩
      · refine ⟨other, ?_⟩
        rw [update_of_ne, holds]
        rintro rfl
        rw [empty] at holds
        cases holds
    · rintro ⟨other, holds⟩
      by_cases here : other = key
      · rw [here, update_self] at holds
        exact .inl (Option.some.inj holds).symm
      · rw [update_of_ne here] at holds
        exact .inr ⟨other, holds⟩
  · intro first second thing one two
    by_cases here : first = key
    · by_cases there : second = key
      · exact here.trans there.symm
      · rw [here, update_self] at one
        rw [update_of_ne there, ← one] at two
        exact absurd two (unheld second)
    · by_cases there : second = key
      · rw [there, update_self] at two
        rw [update_of_ne here, ← two] at one
        exact absurd one (unheld first)
      · rw [update_of_ne here] at one
        rw [update_of_ne there] at two
        exact custody.single one two

theorem drop (custody : Custody hold items) (holds : hold key = some item) :
    Custody (update hold key none) (items.erase item) := by
  constructor
  · intro thing
    rw [Finset.mem_erase, custody.mem_iff]
    constructor
    · rintro ⟨apart, other, also⟩
      refine ⟨other, ?_⟩
      rw [update_of_ne, also]
      rintro rfl
      exact apart (Option.some.inj (also.symm.trans holds))
    · rintro ⟨other, also⟩
      by_cases here : other = key
      · rw [here, update_self] at also
        cases also
      · rw [update_of_ne here] at also
        refine ⟨?_, other, also⟩
        rintro rfl
        exact here (custody.single also holds)
  · intro first second thing one two
    by_cases here : first = key
    · rw [here, update_self] at one
      cases one
    · by_cases there : second = key
      · rw [there, update_self] at two
        cases two
      · rw [update_of_ne here] at one
        rw [update_of_ne there] at two
        exact custody.single one two

end Custody

/-! One item before another. -/

section Order

variable {Key : Type u} {items : List Key} {early late key : Key}

theorem pair_sublist_concat (member : early ∈ items) :
    [early, late].Sublist (items ++ [late]) :=
  (List.singleton_sublist.mpr member).append (List.Sublist.refl [late])

theorem pair_sublist_erase [DecidableEq Key]
    (pair : [early, late].Sublist items) (notEarly : key ≠ early)
    (notLate : key ≠ late) : [early, late].Sublist (items.erase key) := by
  have absent : key ∉ [early, late] := by
    simp [notEarly, notLate]
  have erased := pair.erase key
  rwa [List.erase_of_not_mem absent] at erased

theorem not_pair_sublist_head (nodup : (late :: items).Nodup) :
    ¬[early, late].Sublist (late :: items) := by
  intro pair
  have absent := (List.nodup_cons.mp nodup).1
  cases pair with
  | cons _ later =>
      exact absent (later.subset (List.mem_cons_of_mem _ List.mem_cons_self))
  | cons_cons _ later => exact absent (List.singleton_sublist.mp later)

end Order

end VirtioGpu.Foundation
