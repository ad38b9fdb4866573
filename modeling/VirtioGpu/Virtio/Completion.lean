import VirtioGpu.Foundation.Intervals
import VirtioGpu.Foundation.Transition
import VirtioGpu.Virtio.Rings

namespace VirtioGpu.Virtio

open Foundation

/-! Interrupts along runs of `vq_relchain` and `vq_endchains` on one queue. -/

/-- A queue with its memory, the used index the last `vq_endchains` found, and
the number of chains published since. -/
structure Completion where
  vq : VqInfo
  memory : Memory
  lastUsed : Nat
  published : Nat

inductive CompletionLabel where
  | relchain (idx iolen : Nat)
  | driver (memory : Memory)
  | endchains (usedAllAvail : Bool)

/-- The driver leaves the used index to the device. -/
inductive CompletionStep (negotiatedCaps : Nat) (before : Completion) :
    CompletionLabel → Completion → Prop
  | relchain (idx iolen : Nat) :
      CompletionStep negotiatedCaps before (.relchain idx iolen)
        { before with
          memory := vqRelchain before.vq before.memory idx iolen
          published := before.published + 1 }
  | driver {memory : Memory}
      (kept : before.vq.usedIdx memory = before.vq.usedIdx before.memory) :
      CompletionStep negotiatedCaps before (.driver memory)
        { before with memory := memory }
  | endchains (usedAllAvail : Bool) :
      CompletionStep negotiatedCaps before (.endchains usedAllAvail)
        { before with
          vq := (vqEndchains before.vq before.memory negotiatedCaps
            usedAllAvail).1
          lastUsed := before.vq.usedIdx before.memory
          published := 0 }

/-- A run starts after a `vq_endchains`, or on a queue whose used index and
saved index are both 0. -/
def completions (negotiatedCaps : Nat) :
    TransitionSystem Completion CompletionLabel where
  initial := fun state => state.vq.used ≠ none ∧
    state.vq.saveUsed = state.vq.usedIdx state.memory ∧
    state.lastUsed = state.vq.usedIdx state.memory ∧ state.published = 0
  step := CompletionStep negotiatedCaps

/-- At most 65535 chains are published between two calls of `vq_endchains`. -/
def publishesFew (state : Completion) : CompletionLabel → Prop
  | .relchain _ _ => state.published < 65535
  | .driver _ | .endchains _ => True

theorem reached_relchain {negotiatedCaps : Nat} {state : Completion}
    (reached : (completions negotiatedCaps).ReachedWhere publishesFew state)
    (few : state.published < 65535) (idx iolen : Nat) :
    (completions negotiatedCaps).ReachedWhere publishesFew
      { state with
        memory := vqRelchain state.vq state.memory idx iolen
        published := state.published + 1 } := by
  have permitted : publishesFew state (.relchain idx iolen) := few
  exact reached.step permitted (.relchain idx iolen)

/-- The saved index is the one the last `vq_endchains` found, and the used
index has moved by the chains published since. -/
structure Completion.Tracked (state : Completion) : Prop where
  mapped : state.vq.used ≠ none
  saved : state.vq.saveUsed = state.lastUsed
  bounded : state.lastUsed < 65536
  moved : state.vq.usedIdx state.memory =
    (state.lastUsed + state.published) % 65536
  few : state.published ≤ 65535

theorem Completion.Tracked.step {negotiatedCaps : Nat}
    {before after : Completion} {label : CompletionLabel}
    (tracked : before.Tracked) (few : publishesFew before label)
    (stepped : CompletionStep negotiatedCaps before label after) :
    after.Tracked := by
  cases stepped with
  | relchain idx iolen =>
      refine ⟨tracked.mapped, tracked.saved, tracked.bounded, ?_, few⟩
      have moved := vqRelchain_usedIdx before.vq before.memory idx iolen
      rw [tracked.moved] at moved
      rw [moved, Nat.mod_add_mod, Nat.add_assoc]
  | driver kept =>
      exact { tracked with moved := kept.trans tracked.moved }
  | endchains usedAllAvail =>
      have ended := @vqEndchains_saveUsed before.vq before.memory
        negotiatedCaps usedAllAvail tracked.mapped
      have bounded := Memory.load16_lt before.memory
        (before.vq.used.getD 0 + 2)
      rw [ended]
      exact ⟨tracked.mapped, rfl, bounded,
        (Nat.mod_eq_of_lt bounded).symm, Nat.zero_le _⟩

theorem reached_tracked {negotiatedCaps : Nat} {state : Completion}
    (reached : (completions negotiatedCaps).ReachedWhere publishesFew state) :
    state.Tracked := by
  refine reached.invariant Completion.Tracked ?_ ?_
  · rintro state ⟨mapped, saved, last, unpublished⟩
    have bounded := Memory.load16_lt state.memory (state.vq.used.getD 0 + 2)
    refine ⟨mapped, saved.trans last.symm, ?_, ?_, ?_⟩
    · rw [last]
      exact bounded
    · rw [last, unpublished]
      exact (Nat.mod_eq_of_lt bounded).symm
    · rw [unpublished]
      exact Nat.zero_le _
  · intro before label after tracked few stepped
    exact tracked.step few stepped

/-! The decision of `vq_endchains`. -/

/-- The index is one of the positions published since the last
`vq_endchains`. -/
def Completion.Published (state : Completion) (index : Nat) : Prop :=
  ∃ position, position < state.published ∧
    (state.lastUsed + position) % 65536 = index

/-- The condition under which the driver asked for an interrupt. -/
def Completion.Wanted (negotiatedCaps : Nat) (state : Completion) : Prop :=
  if negotiatedCaps.testBit virtioRingFEventIdx then
    state.Published (state.vq.usedEventIdx state.memory)
  else
    0 < state.published ∧
      state.vq.availFlags state.memory &&& vringAvailFNoInterrupt = 0

theorem sub16_sub16_one {left right : Nat} (bounded : right < 65536) :
    sub16 (sub16 left right) 1 = (left + (65536 - right) - 1) % 65536 := by
  unfold sub16
  omega

theorem Completion.Tracked.moved_iff {state : Completion}
    (tracked : state.Tracked) :
    state.vq.usedIdx state.memory ≠ state.vq.saveUsed ↔
      0 < state.published := by
  have bounded := tracked.bounded
  have few := tracked.few
  rw [tracked.saved, tracked.moved]
  omega

theorem Completion.Tracked.event_iff {state : Completion} {event : Nat}
    (tracked : state.Tracked) (bounded : event < 65536) :
    sub16 (sub16 (state.vq.usedIdx state.memory) event) 1 <
        sub16 (state.vq.usedIdx state.memory) state.vq.saveUsed ↔
      state.Published event := by
  have few := tracked.few
  have last := tracked.bounded
  have count : sub16 (state.vq.usedIdx state.memory) state.vq.saveUsed =
      state.published := by
    rw [tracked.saved, tracked.moved]
    unfold sub16
    omega
  have gap : sub16 (sub16 (state.vq.usedIdx state.memory) event) 1 =
      (state.lastUsed + state.published + (65536 - event) - 1) % 65536 := by
    rw [sub16_sub16_one bounded, tracked.moved]
    omega
  rw [count, gap]
  exact mem_arc_iff bounded

/-- Whatever the driver stored, `vq_endchains` raises an interrupt just when
the driver asked for one. -/
theorem reached_interruptsExact {negotiatedCaps : Nat} {state : Completion}
    (unasked : negotiatedCaps.testBit virtioFNotifyOnEmpty = false)
    (reached : (completions negotiatedCaps).ReachedWhere publishesFew state)
    (usedAllAvail : Bool) :
    (vqEndchains state.vq state.memory negotiatedCaps usedAllAvail).2 = true ↔
      state.Wanted negotiatedCaps := by
  have tracked := reached_tracked reached
  unfold vqEndchains Completion.Wanted
  cases used : state.vq.used with
  | none => exact absurd used tracked.mapped
  | some base =>
      dsimp only
      rw [unasked, Bool.and_false]
      cases negotiatedCaps.testBit virtioRingFEventIdx with
      | true =>
          have bounded : state.vq.usedEventIdx state.memory < 65536 :=
            Memory.load16_lt _ _
          simpa using tracked.event_iff bounded
      | false =>
          have moved := tracked.moved_iff
          simpa using and_congr_left' moved

def wrappingQueue : VqInfo where
  qsize := 4
  flags := vqAlloc
  lastAvail := 0
  saveUsed := 65535
  msixIdx := virtioMsiNoVector
  pfn := 0
  desc := some 0
  avail := some 64
  used := some 128
  gpaDesc := (0, 0)
  gpaAvail := (64, 0)
  gpaUsed := (128, 0)
  enabled := true

/-- Two chains are published across the wrap-around of the index, and the
driver asked for an interrupt after the second one. -/
theorem wrapped_index_interrupts :
    ∃ state : Completion, state.lastUsed = 65535 ∧ state.published = 2 ∧
      state.vq.usedEventIdx state.memory = 0 ∧
      ((vqEndchains state.vq state.memory (2 ^ virtioRingFEventIdx) true).2 =
        true ↔ state.Wanted (2 ^ virtioRingFEventIdx)) := by
  have start : (completions (2 ^ virtioRingFEventIdx)).ReachedWhere
      publishesFew ⟨wrappingQueue, Memory.zero.store 130 (le16 65535),
        65535, 0⟩ :=
    .initial ⟨by decide, by decide, by decide, rfl⟩
  have one := reached_relchain start (by decide) 0 24
  have two := reached_relchain one (by decide) 1 24
  exact ⟨_, rfl, rfl, by decide,
    reached_interruptsExact (by decide) two true⟩

end VirtioGpu.Virtio
