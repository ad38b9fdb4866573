import Mathlib.Data.List.Count
import Mathlib.Data.List.Nodup
import Mathlib.Data.List.Perm.Basic
import Mathlib.Data.List.Range

namespace VirtioGpu.Foundation

/-! Resources that are opened and closed, numbered in the order in which they
are opened. -/

structure Ledger where
  opened : Nat
  closes : List Nat
  deriving Repr, DecidableEq

namespace Ledger

variable {ledger : Ledger} {id other : Nat}

def empty : Ledger := ⟨0, []⟩

/-- The number of the next resource. -/
def fresh (ledger : Ledger) : Nat := ledger.opened

def acquire (ledger : Ledger) : Ledger :=
  { ledger with opened := ledger.opened + 1 }

def close (ledger : Ledger) (id : Nat) : Ledger :=
  { ledger with closes := ledger.closes ++ [id] }

def closeSome (ledger : Ledger) : Option Nat → Ledger
  | none => ledger
  | some id => ledger.close id

/-- Open, and not closed so far. -/
def Outstanding (ledger : Ledger) (id : Nat) : Prop :=
  id < ledger.opened ∧ id ∉ ledger.closes

/-- Everything was closed once, in some order. -/
def Settled (ledger : Ledger) : Prop :=
  ledger.closes.Perm (List.range ledger.opened)

theorem settled_empty : empty.Settled := List.Perm.refl []

theorem Settled.once (settled : ledger.Settled) (below : id < ledger.opened) :
    ledger.closes.count id = 1 := by
  rw [settled.count_eq]
  exact List.count_eq_one_of_mem List.nodup_range (List.mem_range.mpr below)

theorem Outstanding.unsettled (outstanding : ledger.Outstanding id) :
    ledger.closes.count id ≠ 1 := by
  rw [List.count_eq_zero.mpr outstanding.2]
  decide

theorem Outstanding.acquire (outstanding : ledger.Outstanding id) :
    ledger.acquire.Outstanding id :=
  ⟨Nat.lt_succ_of_lt outstanding.1, outstanding.2⟩

theorem Outstanding.close (outstanding : ledger.Outstanding id)
    (apart : id ≠ other) : (ledger.close other).Outstanding id := by
  refine ⟨outstanding.1, fun member => ?_⟩
  cases List.mem_append.mp member with
  | inl earlier => exact outstanding.2 earlier
  | inr last => exact apart (List.mem_singleton.mp last)

theorem Outstanding.closeSome {closing : Option Nat}
    (outstanding : ledger.Outstanding id) (apart : closing ≠ some id) :
    (ledger.closeSome closing).Outstanding id := by
  cases closing with
  | none => exact outstanding
  | some other => exact outstanding.close fun same => apart (same ▸ rfl)

theorem Outstanding.ne_fresh (outstanding : ledger.Outstanding id) :
    id ≠ ledger.fresh := Nat.ne_of_lt outstanding.1

theorem Settled.outstanding_fresh (settled : ledger.Settled) :
    ledger.acquire.Outstanding ledger.fresh := by
  refine ⟨Nat.lt_succ_self _, fun member => ?_⟩
  exact Nat.lt_irrefl _ (List.mem_range.mp (settled.mem_iff.mp member))

/-- A resource opened and closed again. -/
theorem Settled.acquire_close (settled : ledger.Settled) :
    (ledger.acquire.close ledger.fresh).Settled := by
  show (ledger.closes ++ [ledger.opened]).Perm
    (List.range (ledger.opened + 1))
  rw [List.range_succ]
  exact settled.append_right _

/-- Two resources opened and closed again, the later one first. -/
theorem Settled.acquire_acquire_close (settled : ledger.Settled) :
    ((ledger.acquire.acquire.close ledger.acquire.fresh).close
      ledger.fresh).Settled := by
  show (ledger.closes ++ [ledger.opened + 1] ++ [ledger.opened]).Perm
    (List.range (ledger.opened + 1 + 1))
  rw [List.range_succ, List.range_succ, List.append_assoc,
    List.append_assoc]
  exact settled.append (List.Perm.swap _ _ _)

end Ledger

end VirtioGpu.Foundation
