import VirtioGpu.Foundation.Memory

namespace VirtioGpu.Virtio

open Foundation

/-! The shared region seen by the backend.  A host pointer into the region is
its distance from `mem_base`; distances of `mem_size` and more denote whatever
the backend has mapped behind the region. -/

structure Vmctx where
  memSize : Nat
  memFd : Nat
  deriving Repr, DecidableEq

def paddrGuest2host (ctx : Vmctx) (gaddr _len : Nat) : Option Nat :=
  if gaddr < ctx.memSize then some gaddr else none

def vmFindMemfdRegion (ctx : Vmctx) (gpa : Nat) : Option (Nat × Nat) :=
  if ctx.memFd = 0 then none
  else if gpa ≥ ctx.memSize then none
  else some (ctx.memFd, gpa)

def vmAllowDmabuf (ctx : Vmctx) : Bool :=
  decide (ctx.memFd > 0)

/-- One call of `paddr_guest2host`: its two guest-chosen arguments and its
result. -/
structure Translation where
  addr : Nat
  len : Nat
  host : Option Nat
  deriving Repr, DecidableEq

def translate (ctx : Vmctx) (gaddr len : Nat) : Translation :=
  ⟨gaddr, len, paddrGuest2host ctx gaddr len⟩

/-- The call translated, and the whole range it was asked for lies in the
shared region. -/
def Translation.Confined (ctx : Vmctx) (call : Translation) : Prop :=
  call.host ≠ none → call.addr + call.len ≤ ctx.memSize

/-- The requested range starts inside the region and ends outside of it. -/
def Translation.CrossesEnd (ctx : Vmctx) (call : Translation) : Prop :=
  call.addr < ctx.memSize ∧ ctx.memSize < call.addr + call.len

instance (ctx : Vmctx) (call : Translation) : Decidable (call.CrossesEnd ctx) :=
  inferInstanceAs (Decidable (_ ∧ _))

/-- The recorded result is the one `paddr_guest2host` returns. -/
def Translation.Honest (ctx : Vmctx) (call : Translation) : Prop :=
  call.host = paddrGuest2host ctx call.addr call.len

theorem translate_honest (ctx : Vmctx) (gaddr len : Nat) :
    (translate ctx gaddr len).Honest ctx := rfl

/-- The helper ignores the length, so an honest call is confined exactly when
its range does not cross the end of the region. -/
theorem Translation.Honest.confined_iff {ctx : Vmctx} {call : Translation}
    (honest : call.Honest ctx) :
    call.Confined ctx ↔ ¬ call.CrossesEnd ctx := by
  unfold Translation.Confined Translation.CrossesEnd
  rw [honest]
  unfold paddrGuest2host
  by_cases inside : call.addr < ctx.memSize
  · simp [inside]
  · simp [inside]

end VirtioGpu.Virtio
