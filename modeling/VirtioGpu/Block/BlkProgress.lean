import VirtioGpu.Block.BlkAccount

namespace VirtioGpu.Block

open Foundation
open Virtio
open Function

/-! No chain is lost and no notification is missed: left to itself, the device
gives everything back. -/

/-- The steps that neither the driver nor a spurious wake-up makes. -/
def BlkLabel.byDevice : BlkLabel → Bool
  | .notify _ _ | .dequeue _ | .callback _ _ _ | .giveBack _ _
  | .complete _ => true
  | .publish _ _ | .look | .wake _ => false

def Notifier.effort : Notifier → Nat
  | .idle => 0
  | .fetching => 1
  | .marking => 2
  | .entered | .retesting => 3
  | .clearing => 4
  | .testing => 5
  | .returning _ | .aborting _ => 6
  | .answering _ _ => 7
  | .identifying _ => 8
  | .submitting _ _ => 16
  | .checking _ _ => 17
  | .parsing _ => 18

/-- At most so many steps of the device are left. -/
def BlkState.load (state : BlkState) : Nat :=
  18 * (state.published.length - state.taken) + state.notifier.effort +
    2 * state.block.load + state.finishing.length + 4 * state.kicked.toNat

theorem BlkVerdict.effort_next (locals : BlkLocals) (verdict : BlkVerdict) :
    (verdict.next locals).effort ≤ 17 := by
  cases verdict <;> simp [BlkVerdict.next, Notifier.effort]

/-- The check of the capacity does not ask for another one. -/
theorem virtioBlkCheck_effort (blk : VirtioBlk) (memory : Memory)
    (locals : BlkLocals) (op : Blockop) :
    ((virtioBlkCheck blk memory locals op).next locals).effort ≤ 16 := by
  unfold virtioBlkCheck
  split <;> simp [BlkVerdict.next, Notifier.effort]

/-- A request adds one element to `pendq` and wakes one thread at most. -/
theorem requestAct_load {block after : BlockState} {breq : QueuedReq}
    {op : Blockop} {woken : Nat} (kept : block.Kept)
    (room : block.queues.freeq ≠ [])
    (acted : requestAct block breq op woken = some after) :
    after.load ≤ block.load + 5 := by
  obtain ⟨be, threads, _, signalled, rfl⟩ := requestAct_cases kept room acted
  have woke : (threads.map Worker.effort).sum ≤
      (block.threads.map Worker.effort).sum + 1 := by
    rcases signalled with rfl | signalled
    · exact Nat.le_succ _
    · unfold pthreadCondSignal at signalled
      split at signalled
      · rename_i here
        cases signalled
        have effort := effort_set here .awake
        simp only [Worker.effort] at effort
        omega
      · split at signalled
        · cases signalled
        · cases signalled
          exact Nat.le_succ _
  simp only [BlockState.load, BlockQueues.enlist, List.length_append,
    List.length_singleton]
  omega

/-- A test of the available ring leads to one of two places that are both
nearer to the end. -/
theorem load_lt_of_tested {state after : BlkState} {filled empty : Notifier}
    (lessFilled : filled.effort < state.notifier.effort)
    (lessEmpty : empty.effort < state.notifier.effort)
    (acted : (if vqHasDescs state.vq state.memory then
        some { state with notifier := filled }
      else some { state with notifier := empty }) = some after) :
    after.load < state.load := by
  simp only [BlkState.load]
  split at acted
  · cases acted
    dsimp only
    omega
  · cases acted
    dsimp only
    omega

section Progress

variable {device : BlkDevice} {start : VqInfo} {usedBase : Nat}
  {state after : BlkState} (layout : BlkLayout start)
  (invariant : state.Invariant start usedBase)

include layout invariant

/-- A chain is taken for the steps that it needs. -/
theorem BlkState.Invariant.fetch_load (here : state.notifier = .fetching)
    (stack : BlkStack) :
    (fetchAct device state stack).load < state.load := by
  have less := invariant.more (by rw [here]; rfl)
  obtain ⟨_, moved, _⟩ := @BlkState.Invariant.fetched device start usedBase
    state layout invariant (by rw [here]; rfl) stack
  have taken : (fetchAct device state stack).taken = state.taken + 1 :=
    if_neg moved
  have effort : (fetchAct device state stack).notifier.effort ≤ 18 := by
    unfold fetchAct
    dsimp only
    split <;> simp [Notifier.effort]
  have rest : (fetchAct device state stack).block = state.block ∧
      (fetchAct device state stack).finishing = state.finishing ∧
      (fetchAct device state stack).kicked = state.kicked ∧
      (fetchAct device state stack).published = state.published :=
    ⟨rfl, rfl, rfl, rfl⟩
  simp only [BlkState.load, here, taken, rest, Notifier.effort] at effort ⊢
  omega

/-- A request costs the context less than it saves the notified thread. -/
theorem BlkState.Invariant.submit_load {idx woken : Nat} {op : Blockop}
    {block : BlockState} {breq : QueuedReq}
    (here : state.notifier = .submitting idx op)
    (submitted : requestAct state.block breq op woken = some block) :
    BlkState.load { state with block := block, notifier := .testing } <
      state.load := by
  obtain ⟨_, room⟩ := invariant.room layout (by rw [here]; rfl)
  have bound := requestAct_load invariant.kept room submitted
  simp only [BlkState.load, here, Notifier.effort]
  omega

/-- The thread that was notified comes to its end. -/
theorem BlkState.Invariant.notify_load {stack : BlkStack} {woken : Nat}
    (acted : notifyAct device state stack woken = some after) :
    after.load < state.load := by
  unfold notifyAct at acted
  cases here : state.notifier with
  | idle =>
      rw [here] at acted
      obtain ⟨kicked, done⟩ := Option.ite_none_right_eq_some.mp acted
      cases done
      simp only [BlkState.load, here, kicked, Notifier.effort,
        Bool.toNat_true, Bool.toNat_false]
      omega
  | entered | testing | retesting =>
      rw [here] at acted
      exact load_lt_of_tested (by rw [here]; decide) (by rw [here]; decide)
        acted
  | fetching =>
      rw [here] at acted
      cases acted
      exact invariant.fetch_load layout here stack
  | parsing locals =>
      rw [here] at acted
      cases acted
      have effort := BlkVerdict.effort_next locals (virtioBlkParse device.blk
        (state.ios locals.idx) state.memory locals).2
      simp only [BlkState.load, here, Notifier.effort] at effort ⊢
      omega
  | checking locals op =>
      rw [here] at acted
      cases acted
      have effort := virtioBlkCheck_effort device.blk state.memory locals op
      simp only [BlkState.load, here, Notifier.effort] at effort ⊢
      omega
  | submitting idx op =>
      rw [here] at acted
      obtain ⟨block, submitted, rfl⟩ := Option.map_eq_some_iff.mp acted
      exact invariant.submit_load layout here submitted
  | marking | identifying _ | answering _ _ | returning _ | aborting _
  | clearing =>
      rw [here] at acted
      cases acted
      simp only [BlkState.load, returnAct, abortAct, here, Notifier.effort]
      omega

theorem BlkState.Invariant.load_lt {label : BlkLabel}
    (own : label.byDevice = true)
    (acted : blkAct device state label = some after) :
    after.load < state.load := by
  cases label with
  | publish heads memory => cases own
  | look => cases own
  | wake t => cases own
  | notify stack woken => exact invariant.notify_load layout acted
  | dequeue t =>
      obtain ⟨block, took, rfl⟩ := Option.map_eq_some_iff.mp acted
      have less := invariant.kept.load_lt rfl took
      simp only [BlkState.load]
      omega
  | callback t err memory =>
      obtain ⟨head, _, acted⟩ := Option.bind_eq_some_iff.mp acted
      obtain ⟨block, called, rfl⟩ := Option.map_eq_some_iff.mp acted
      have acts : blockAct state.block (.callback t) = some block := called
      have less := invariant.kept.load_lt rfl acts
      simp only [BlkState.load, List.length_cons]
      omega
  | giveBack t head =>
      obtain ⟨member, done⟩ := Option.ite_none_right_eq_some.mp acted
      cases done
      have fewer := List.length_erase_of_mem member
      have nonempty := List.length_pos_of_mem member
      simp only [BlkState.load, returnAct]
      omega
  | complete t =>
      obtain ⟨_, acted⟩ := Option.ite_none_left_eq_some.mp acted
      obtain ⟨block, completed, rfl⟩ := Option.map_eq_some_iff.mp acted
      have less := invariant.kept.load_lt rfl completed
      simp only [BlkState.load]
      omega

/-- The device can do nothing. -/
def BlkState.Still (device : BlkDevice) (state : BlkState) : Prop :=
  ∀ label : BlkLabel, label.byDevice = true →
    blkAct device state label = none

end Progress

/-- Each step of the device leaves fewer of them, and when none is left and
the driver has looked at the flags, all chains are given back. -/
structure BlkState.Settles (device : BlkDevice) (state : BlkState) :
    Prop where
  ends : ∀ (label : BlkLabel) (after : BlkState), label.byDevice = true →
    blkAct device state label = some after → after.load < state.load
  settled : state.Still device → state.owing = false →
    state.returned.Perm state.published

end VirtioGpu.Block
