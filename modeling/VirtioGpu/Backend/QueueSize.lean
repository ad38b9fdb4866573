import VirtioGpu.Backend.QueueEnable
import VirtioGpu.Virtio.Rings

namespace VirtioGpu.Backend

open Foundation
open Virtio
open Gpu

/-! The size of a queue, against the size its rings were translated for. -/

/-- The descriptors the outer loop of `vq_getchain` loads. -/
def vqVisited (walk : WalkContext) (deviceCaps qsize table : Nat) :
    Nat → Nat → Chain → List Nat
  | 0, _, _ => []
  | rounds + 1, next, chain =>
      if chain.count ≥ vqMaxDescriptors then
        []
      else if next ≥ qsize then
        []
      else
        let vdir := descAt walk.memory table next
        match vqDirect walk deviceCaps vdir chain with
        | .error _ => [next]
        | .ok chain =>
            if !vdir.hasNext then
              [next]
            else
              next :: vqVisited walk deviceCaps qsize table rounds vdir.next
                chain

theorem vqVisited_lt {walk : WalkContext}
    {deviceCaps qsize table rounds next index : Nat} {chain : Chain}
    (visited : index ∈ vqVisited walk deviceCaps qsize table rounds next
      chain) : index < qsize := by
  induction rounds generalizing next chain with
  | zero => cases visited
  | succ rounds induction =>
      unfold vqVisited at visited
      split at visited
      · cases visited
      · split at visited
        · cases visited
        · rename_i small
          dsimp only at visited
          split at visited
          · cases List.mem_singleton.mp visited
            exact Nat.not_le.mp small
          · split at visited
            · cases List.mem_singleton.mp visited
              exact Nat.not_le.mp small
            · rcases List.mem_cons.mp visited with here | later
              · subst here
                exact Nat.not_le.mp small
              · exact induction later

/-- A size the device offers. -/
def OfferedSize (qsize : Nat) : Prop :=
  (∃ exponent, qsize = 2 ^ exponent) ∧ qsize ≤ virtioGpuRingsz

/-- Every access to the rings of a queue lies in the areas translated for
`size`. -/
structure AccessesInside (vq : VqInfo) (size : Nat) : Prop where
  getchain : ∀ idx, idx &&& (vq.qsize - 1) = idx % vq.qsize
  relchain : ∀ idx, idx &&& slotMask vq.qsize = idx % vq.qsize
  head : ∀ idx,
    4 + 2 * (idx &&& (vq.qsize - 1)) + 2 ≤ availRingSize size
  usedElem : ∀ idx,
    4 + 8 * (idx &&& slotMask vq.qsize) + 8 ≤ usedRingSize size
  desc : ∀ walk deviceCaps table rounds next chain index,
    index ∈ vqVisited walk deviceCaps vq.qsize table rounds next chain →
      16 * index + 16 ≤ descTableSize size
  usedEvent : 4 + 2 * vq.qsize + 2 ≤ availRingSize size

theorem slotMask_of_offered {qsize : Nat} (offered : OfferedSize qsize) :
    slotMask qsize = qsize - 1 := by
  obtain ⟨⟨exponent, rfl⟩, small⟩ := offered
  have positive := Nat.two_pow_pos exponent
  unfold virtioGpuRingsz at small
  unfold slotMask sub16
  omega

theorem AccessesInside.of_offered {vq : VqInfo}
    (offered : OfferedSize vq.qsize) : AccessesInside vq vq.qsize := by
  have positive : 0 < vq.qsize := by
    obtain ⟨⟨exponent, size⟩, _⟩ := offered
    rw [size]
    exact Nat.two_pow_pos exponent
  have masked : ∀ idx, idx &&& (vq.qsize - 1) = idx % vq.qsize := by
    obtain ⟨⟨exponent, size⟩, _⟩ := offered
    intro idx
    rw [size]
    exact Nat.and_two_pow_sub_one_eq_mod idx exponent
  have inside : ∀ idx, idx &&& (vq.qsize - 1) < vq.qsize := by
    intro idx
    rw [masked]
    exact Nat.mod_lt idx positive
  have mask := slotMask_of_offered offered
  refine ⟨masked, ?_, ?_, ?_, ?_, ?_⟩
  · intro idx
    rw [mask]
    exact masked idx
  · intro idx
    have := inside idx
    unfold availRingSize
    omega
  · intro idx
    have := inside idx
    rw [mask]
    unfold usedRingSize
    omega
  · intro walk deviceCaps table rounds next chain index visited
    have := vqVisited_lt visited
    unfold descTableSize
    omega
  · unfold availRingSize
    omega

/-! Runs that remember the size each queue was last translated for. -/

structure SizedRun where
  traced : Traced
  translated : Queue → Option Nat

/-- The label enables the queue, and the attempt succeeds. -/
def Enables (machine : Machine) (queue : Queue) : Label → Prop
  | .commonWrite offset size _ =>
      offset = CommonReg.qEnable.offset ∧ size = CommonReg.qEnable.width ∧
        Queue.ofIndex machine.device.base.curq = some queue ∧
        RingsTranslate machine.device.gpu.vmctx (machine.device.queues queue)
  | .guest _ | .deviceWrite _ _ _ | .hotplug | .start _ _ _ | .run _ => False

instance (machine : Machine) (queue : Queue) (label : Label) :
    Decidable (Enables machine queue label) :=
  match label with
  | .commonWrite _ _ _ => inferInstanceAs (Decidable (_ ∧ _ ∧ _ ∧ _))
  | .guest _ | .deviceWrite _ _ _ | .hotplug | .start _ _ _ | .run _ =>
      inferInstanceAs (Decidable False)

def translatedAfter (before : SizedRun) (label : Label) (queue : Queue) :
    Option Nat :=
  if Enables before.traced.machine queue label then
    some (before.traced.machine.device.queues queue).qsize
  else
    before.translated queue

def sizedRuns : TransitionSystem SizedRun Label where
  initial := fun state => backend.initial state.traced
  step := fun before label after =>
    backend.step before.traced label after.traced ∧
      after.translated = translatedAfter before label

/-- Only sizes the device offers are enabled, and a queue in use keeps its
size. -/
structure KeepsSizes (state : Traced) (label : Label) : Prop where
  enables : ∀ queue, Enables state.machine queue label →
    OfferedSize (state.machine.device.queues queue).qsize
  resizes : ∀ value queue,
    label = .commonWrite CommonReg.qSize.offset CommonReg.qSize.width value →
    Queue.ofIndex state.machine.device.base.curq = some queue →
    vqRingReady (state.machine.device.queues queue) = true →
    value % 65536 = (state.machine.device.queues queue).qsize

structure QueueSized (translated : Option Nat) (vq : VqInfo) : Prop where
  offered : OfferedSize vq.qsize
  translated : translated = some vq.qsize

def SizesHold (state : SizedRun) : Prop :=
  ∀ queue, vqRingReady (state.traced.machine.device.queues queue) = true →
    QueueSized (state.translated queue)
      (state.traced.machine.device.queues queue)

theorem virtioVqEnable_ready_iff {ctx : Vmctx} {vq : VqInfo} :
    vqRingReady (virtioVqEnable ctx vq).1 = true ↔ RingsTranslate ctx vq := by
  have enabling := virtioVqEnable_enabling ctx vq
  generalize (virtioVqEnable ctx vq).1 = after at enabling
  unfold RingsTranslate
  cases enabling with
  | noDesc desc => simp [not_ready, desc]
  | noAvail desc avail => simp [not_ready, avail]
  | noUsed desc avail used => simp [not_ready, used]
  | done desc avail used => simp [ready_of_flags, desc, avail, used]

theorem virtioVqEnable_qsize (ctx : Vmctx) (vq : VqInfo) :
    (virtioVqEnable ctx vq).1.qsize = vq.qsize := by
  have enabling := virtioVqEnable_enabling ctx vq
  generalize (virtioVqEnable ctx vq).1 = after at enabling
  cases enabling with
  | noDesc _ | noAvail _ _ | noUsed _ _ _ | done _ _ _ => rfl

theorem sizedValue_mod (value : Nat) :
    sizedValue CommonReg.qSize.width value % 65536 = value % 65536 := by
  show value % 65536 % 65536 = value % 65536
  exact Nat.mod_mod value 65536

theorem enables_after {before after : Machine} {events : List Event}
    {label : Label} {queue : Queue}
    (stepped : machineStep before label = .ok (after, events))
    (enables : Enables before queue label) :
    after.device.queues queue =
      (virtioVqEnable before.device.gpu.vmctx
        (before.device.queues queue)).1 := by
  cases label with
  | commonWrite offset size value =>
      obtain ⟨rfl, rfl, selected, _⟩ := enables
      obtain ⟨written, ran, rfl⟩ :=
        @machineStep_register .qEnable rfl _ _ value _ stepped
      cases ran
      exact enableQueue_selected selected
  | guest _ | deviceWrite _ _ _ | hotplug | start _ _ _ | run _ =>
      exact absurd enables not_false

theorem Enables.translate {machine : Machine} {queue : Queue} {label : Label}
    (enables : Enables machine queue label) :
    RingsTranslate machine.device.gpu.vmctx (machine.device.queues queue) := by
  cases label with
  | commonWrite offset size value => exact enables.2.2.2
  | guest _ | deviceWrite _ _ _ | hotplug | start _ _ _ | run _ =>
      exact absurd enables not_false

theorem QueueSized.step {before : SizedRun} {label : Label} {queue : Queue}
    {vq : VqInfo} (keeps : KeepsSizes before.traced label)
    (holds : SizesHold before)
    (other : ¬Enables before.traced.machine queue label)
    (stepped : QueueStep before.traced.machine queue label vq)
    (ready : vqRingReady vq = true) :
    QueueSized (before.translated queue) vq := by
  cases stepped with
  | kept => exact holds queue ready
  | fetched | ended =>
      have sized := holds queue ready
      exact ⟨sized.offered, sized.translated⟩
  | @written reg value vq changed =>
      cases changed with
      | kept => exact holds queue ready
      | addressed =>
          have sized := holds queue ready
          exact ⟨sized.offered, sized.translated⟩
      | resized selected =>
          have sized := holds queue ready
          have same := keeps.resizes value queue rfl selected ready
          rw [← sizedValue_mod] at same
          constructor
          · rw [same]
            exact sized.offered
          · rw [same]
            exact sized.translated
      | enabled selected =>
          have translates := virtioVqEnable_ready_iff.mp ready
          exact absurd ⟨rfl, rfl, selected, translates⟩ other
      | reset _ =>
          rw [not_ready rfl] at ready
          cases ready

theorem sizesHold_step_iff {before after : SizedRun} {label : Label}
    (holds : SizesHold before)
    (stepped : sizedRuns.step before label after) :
    SizesHold after ↔ KeepsSizes before.traced label := by
  obtain ⟨⟨_, machine, events, stepped, traced⟩, translated⟩ := stepped
  unfold SizesHold
  rw [traced, translated]
  constructor
  · intro sizes
    constructor
    · intro queue enables
      have enabled := enables_after stepped enables
      have sized := sizes queue
      rw [show (Traced.mk machine _).machine = machine from rfl, enabled]
        at sized
      rw [← virtioVqEnable_qsize before.traced.machine.device.gpu.vmctx]
      exact (sized (virtioVqEnable_ready_iff.mpr enables.translate)).offered
    · rintro value queue rfl selected ready
      obtain ⟨written, ran, rfl⟩ :=
        @machineStep_register .qSize rfl _ _ value _ stepped
      cases ran
      have sized := sizes queue
      dsimp only at sized
      rw [writeQueue_selected _ selected] at sized
      have other : ¬Enables before.traced.machine queue
          (.commonWrite CommonReg.qSize.offset CommonReg.qSize.width value) :=
        fun enables => absurd enables.1 (by decide)
      have now := (sized ready).translated
      rw [translatedAfter, if_neg other, (holds queue ready).translated] at now
      have same := Option.some.inj now
      rw [same]
      exact (sizedValue_mod value).symm
  · intro keeps queue ready
    by_cases enables : Enables before.traced.machine queue label
    · rw [translatedAfter, if_pos enables]
      rw [show (Traced.mk machine _).machine = machine from rfl,
        enables_after stepped enables]
      constructor
      · rw [virtioVqEnable_qsize]
        exact keeps.enables queue enables
      · rw [virtioVqEnable_qsize]
    · rw [translatedAfter, if_neg enables]
      exact QueueSized.step keeps holds enables
        (machineStep_queue stepped queue) ready

/-- In a run that enables only offered sizes and resizes no queue in use, the
queues in use have the size of their rings, and every access stays inside
them; and just such steps keep it so. -/
theorem reached_sizes_hold {state : SizedRun}
    (reached : sizedRuns.ReachedWhere
      (fun state => KeepsSizes state.traced) state) :
    (∀ queue,
      vqRingReady (state.traced.machine.device.queues queue) = true →
        ∃ size, state.translated queue = some size ∧
          (state.traced.machine.device.queues queue).qsize = size ∧
          OfferedSize size ∧
          AccessesInside (state.traced.machine.device.queues queue) size) ∧
      ∀ label after, sizedRuns.step state label after →
        (SizesHold after ↔ KeepsSizes state.traced label) := by
  have holds : SizesHold state := by
    refine reached.invariant SizesHold ?_ ?_
    · rintro ⟨traced, translated⟩
        ⟨vmctx, isBlobSupported, scanoutNum, memory, _, _, rfl⟩ queue ready
      rw [not_ready rfl] at ready
      cases ready
    · intro before label after holds keeps stepped
      exact (sizesHold_step_iff holds stepped).mpr keeps
  constructor
  · intro queue ready
    have sized := holds queue ready
    exact ⟨_, sized.translated, rfl, sized.offered,
      .of_offered sized.offered⟩
  · intro label after stepped
    exact sizesHold_step_iff holds stepped

/-! Concrete runs. -/

theorem exists_translated {state : Traced}
    (reached : backend.ReachedWhere KeepsSizes state) :
    ∃ translated, sizedRuns.ReachedWhere
      (fun state => KeepsSizes state.traced) ⟨state, translated⟩ := by
  induction reached with
  | initial starts => exact ⟨fun _ => none, .initial starts⟩
  | @step before after label _ permitted stepped induction =>
      obtain ⟨translated, reached⟩ := induction
      exact ⟨translatedAfter ⟨before, translated⟩ label,
        .step reached permitted ⟨stepped, rfl⟩⟩

/-- A decidable form of `KeepsSizes` for queues of up to 64 entries. -/
def checkSizes (state : Traced) (label : Label) : Bool :=
  [Queue.control, .cursor].all fun queue =>
    (!decide (Enables state.machine queue label) ||
      [1, 2, 4, 8, 16, 32, 64].contains
        (state.machine.device.queues queue).qsize) &&
    match label with
    | .commonWrite offset _ value =>
        decide (offset ≠ CommonReg.qSize.offset) ||
          decide (value % 65536 = (state.machine.device.queues queue).qsize) ||
          !vqRingReady (state.machine.device.queues queue)
    | .guest _ | .deviceWrite _ _ _ | .hotplug | .start _ _ _ | .run _ => true

theorem offeredSize_of_mem {qsize : Nat}
    (listed : qsize ∈ [1, 2, 4, 8, 16, 32, 64]) : OfferedSize qsize := by
  have exponents : ∀ size, size ∈ [1, 2, 4, 8, 16, 32, 64] →
      ∃ exponent, exponent < 7 ∧ size = 2 ^ exponent ∧ size ≤ 64 := by decide
  obtain ⟨exponent, _, power, small⟩ := exponents qsize listed
  exact ⟨⟨exponent, power⟩, small⟩

theorem keepsSizes_of_check (state : Traced) (label : Label)
    (checked : checkSizes state label = true) : KeepsSizes state label := by
  have each : ∀ queue, queue ∈ [Queue.control, .cursor] := by
    intro queue
    cases queue <;> simp
  have all := List.all_eq_true.mp checked
  constructor
  · intro queue enables
    have here := (Bool.and_eq_true_iff.mp (all queue (each queue))).1
    simp only [enables, decide_true, Bool.not_true, Bool.false_or,
      List.contains_iff_mem] at here
    exact offeredSize_of_mem here
  · rintro value queue rfl _ ready
    have here := (Bool.and_eq_true_iff.mp (all queue (each queue))).2
    simpa [ready] using here

/-- A queue of 16 entries that is written its own size once more. -/
theorem steady_sizes_hold :
    ∃ state, sizedRuns.ReachedWhere
        (fun state => KeepsSizes state.traced) state ∧
      vqRingReady (state.traced.machine.device.queues .control) = true ∧
      ∃ size, state.translated .control = some size ∧
        OfferedSize size ∧
        AccessesInside (state.traced.machine.device.queues .control) size := by
  obtain ⟨traced, reached, ready⟩ :=
    @exists_reachedWhere checkSizes KeepsSizes
      (setUpQueue .control 16 256 1024 2048 ++
        [.commonWrite CommonReg.qSize.offset 2 16])
      ⟨initialMachine ⟨4096, 0⟩ false 1 Memory.zero, []⟩
      (fun state => vqRingReady (state.machine.device.queues .control))
      keepsSizes_of_check
      ⟨_, false, 1, _, nofun, by decide, rfl⟩ (by decide +kernel)
  obtain ⟨translated, reached⟩ := exists_translated reached
  obtain ⟨size, remembered, _, offered, inside⟩ :=
    (reached_sizes_hold reached).1 .control ready
  exact ⟨_, reached, ready, size, remembered, offered, inside⟩

/-- The size of a queue in use is written over: not a power of two, beyond
the offered size, and beyond the used ring that was translated for 16. -/
theorem resized_queue_overruns :
    ∃ state, backend.Reached state ∧
      vqRingReady (state.machine.device.queues .control) = true ∧
      (state.machine.device.queues .control).qsize = 1000 ∧
      ¬OfferedSize (state.machine.device.queues .control).qsize ∧
      (∃ idx, idx &&& ((state.machine.device.queues .control).qsize - 1) ≠
        idx % (state.machine.device.queues .control).qsize) ∧
      .mapped [⟨256, descTableSize 16, some 256⟩,
          ⟨1024, availRingSize 16, some 1024⟩,
          ⟨2048, usedRingSize 16, some 2048⟩] ∈ state.events ∧
      ∃ idx, usedRingSize 16 <
        4 + 8 * (idx &&&
          slotMask (state.machine.device.queues .control).qsize) + 8 := by
  obtain ⟨state, reached, checked⟩ :=
    @exists_reached ⟨initialMachine ⟨4096, 0⟩ false 1 Memory.zero, []⟩
      (setUpQueue .control 16 256 1024 2048 ++
        [.commonWrite CommonReg.qSize.offset 2 1000])
      (fun state => vqRingReady (state.machine.device.queues .control) &&
        decide ((state.machine.device.queues .control).qsize = 1000) &&
        state.events.any fun event =>
          match event with
          | .mapped calls =>
              decide (calls = [⟨256, descTableSize 16, some 256⟩,
                ⟨1024, availRingSize 16, some 1024⟩,
                ⟨2048, usedRingSize 16, some 2048⟩])
          | _ => false)
      ⟨_, false, 1, _, nofun, by decide, rfl⟩ (by decide +kernel)
  simp only [Bool.and_eq_true, decide_eq_true_eq, List.any_eq_true] at checked
  obtain ⟨⟨ready, size⟩, event, member, found⟩ := checked
  refine ⟨state, reached, ready, size, ?_, ?_, ?_, ?_⟩
  · intro offered
    have small := offered.2
    rw [size] at small
    exact absurd small (by decide)
  · rw [size]
    exact ⟨8, by decide⟩
  · split at found
    · rw [of_decide_eq_true found] at member
      exact member
    · cases found
  · rw [size]
    exact ⟨100, by decide⟩

end VirtioGpu.Backend
