import VirtioGpu.Backend.Queues

namespace VirtioGpu.Backend

open Foundation
open Virtio
open Gpu

/-! Enabling a queue, and what a failed attempt leaves behind. -/

/-- All three rings translate. -/
def RingsTranslate (ctx : Vmctx) (vq : VqInfo) : Prop :=
  vq.descHost ctx ≠ none ∧ vq.availHost ctx ≠ none ∧ vq.usedHost ctx ≠ none

instance (ctx : Vmctx) (vq : VqInfo) : Decidable (RingsTranslate ctx vq) :=
  inferInstanceAs (Decidable (_ ∧ _ ∧ _))

/-- The pointers set before the first translation that fails keep their
values. -/
def KeepsPointers (ctx : Vmctx) (vq : VqInfo) : Prop :=
  vq.descHost ctx = none ∨
    vq.descHost ctx = vq.desc ∧
      (vq.availHost ctx = none ∨ vq.availHost ctx = vq.avail)

instance (ctx : Vmctx) (vq : VqInfo) : Decidable (KeepsPointers ctx vq) :=
  inferInstanceAs (Decidable (_ ∨ _ ∧ (_ ∨ _)))

/-- Either the attempt succeeds, or it fails on a queue that is not enabled
without replacing a pointer. -/
def EnablesCleanly (ctx : Vmctx) (vq : VqInfo) : Prop :=
  RingsTranslate ctx vq ∨ vq.enabled = false ∧ KeepsPointers ctx vq

instance (ctx : Vmctx) (vq : VqInfo) : Decidable (EnablesCleanly ctx vq) :=
  inferInstanceAs (Decidable (_ ∨ _ ∧ _))

/-- The enable bit the driver reads and the flag the device tests agree. -/
def EnableConsistent (vq : VqInfo) : Prop :=
  vq.enabled = true ↔ vqRingReady vq = true

instance (vq : VqInfo) : Decidable (EnableConsistent vq) :=
  inferInstanceAs (Decidable (_ ↔ _))

/-- A failed attempt leaves the queue disabled, with the rings it had. -/
def EnableAtomic (ctx : Vmctx) (before after : VqInfo) : Prop :=
  ¬RingsTranslate ctx before →
    after.enabled = false ∧ after.desc = before.desc ∧
      after.avail = before.avail ∧ after.used = before.used

instance (ctx : Vmctx) (before after : VqInfo) :
    Decidable (EnableAtomic ctx before after) :=
  inferInstanceAs (Decidable (_ → _ ∧ _ ∧ _ ∧ _))

def qEnableWrite (value : Nat) : Label :=
  .commonWrite CommonReg.qEnable.offset CommonReg.qEnable.width value

/-- Every write to `Q_ENABLE` enables the selected queue cleanly. -/
def CleanEnables (state : Traced) (label : Label) : Prop :=
  ∀ value queue, label = qEnableWrite value →
    Queue.ofIndex state.machine.device.base.curq = some queue →
    EnablesCleanly state.machine.device.gpu.vmctx
      (state.machine.device.queues queue)

theorem EnableConsistent.disabled {vq : VqInfo} (flags : vq.flags = 0)
    (enabled : vq.enabled = false) : EnableConsistent vq := by
  unfold EnableConsistent
  rw [not_ready flags, enabled]

/-- One attempt, on a queue whose enable state is consistent. -/
theorem virtioVqEnable_clean_iff {ctx : Vmctx} {vq : VqInfo} :
    EnableConsistent (virtioVqEnable ctx vq).1 ∧
        EnableAtomic ctx vq (virtioVqEnable ctx vq).1 ↔
      EnablesCleanly ctx vq := by
  have enabling := virtioVqEnable_enabling ctx vq
  generalize (virtioVqEnable ctx vq).1 = after at enabling
  cases enabling with
  | noDesc desc =>
      have fails : ¬RingsTranslate ctx vq := fun all => all.1 desc
      constructor
      · intro ⟨_, atomic⟩
        exact .inr ⟨(atomic fails).1, .inl desc⟩
      · rintro (all | ⟨disabled, _⟩)
        · exact absurd all fails
        · exact ⟨.disabled rfl disabled, fun _ => ⟨disabled, rfl, rfl, rfl⟩⟩
  | noAvail desc avail =>
      have fails : ¬RingsTranslate ctx vq := fun all => all.2.1 avail
      constructor
      · intro ⟨_, atomic⟩
        obtain ⟨disabled, same, _⟩ := atomic fails
        exact .inr ⟨disabled, .inr ⟨desc.trans same, .inl avail⟩⟩
      · rintro (all | ⟨disabled, missing | ⟨same, _⟩⟩)
        · exact absurd all fails
        · rw [desc] at missing
          cases missing
        · exact ⟨.disabled rfl disabled,
            fun _ => ⟨disabled, desc.symm.trans same, rfl, rfl⟩⟩
  | noUsed desc avail used =>
      have fails : ¬RingsTranslate ctx vq := fun all => all.2.2 used
      constructor
      · intro ⟨_, atomic⟩
        obtain ⟨disabled, sameDesc, sameAvail, _⟩ := atomic fails
        exact .inr ⟨disabled,
          .inr ⟨desc.trans sameDesc, .inr (avail.trans sameAvail)⟩⟩
      · rintro (all | ⟨disabled, missing | ⟨sameDesc, missing | sameAvail⟩⟩)
        · exact absurd all fails
        · rw [desc] at missing
          cases missing
        · rw [avail] at missing
          cases missing
        · exact ⟨.disabled rfl disabled, fun _ => ⟨disabled,
            desc.symm.trans sameDesc, avail.symm.trans sameAvail, rfl⟩⟩
  | done desc avail used =>
      have all : RingsTranslate ctx vq := by
        unfold RingsTranslate
        rw [desc, avail, used]
        exact ⟨nofun, nofun, nofun⟩
      constructor
      · exact fun _ => .inl all
      · exact fun _ => ⟨iff_of_true rfl (ready_of_flags rfl), fun fails =>
          absurd all fails⟩

theorem EnableConsistent.step {before : Traced} {label : Label}
    {queue : Queue} {vq : VqInfo} (permitted : CleanEnables before label)
    (consistent : EnableConsistent (before.machine.device.queues queue))
    (stepped : QueueStep before.machine queue label vq) :
    EnableConsistent vq := by
  cases stepped with
  | kept | fetched | ended => exact consistent
  | @written reg value after changed =>
      cases changed with
      | kept | addressed | resized _ => exact consistent
      | enabled selected =>
          exact (virtioVqEnable_clean_iff.mpr
            (permitted value queue rfl selected)).1
      | reset _ => exact .disabled rfl rfl

/-- In a run whose `Q_ENABLE` writes are clean, every queue is consistent; and
from its states on, consistency and atomicity survive just the clean writes. -/
theorem reached_enable_consistent {state : Traced}
    (reached : backend.ReachedWhere CleanEnables state) :
    (∀ queue, EnableConsistent (state.machine.device.queues queue)) ∧
      ∀ value after, backend.step state (qEnableWrite value) after →
        (CleanEnables state (qEnableWrite value) ↔
          ∀ queue, EnableConsistent (after.machine.device.queues queue) ∧
            (Queue.ofIndex state.machine.device.base.curq = some queue →
              EnableAtomic state.machine.device.gpu.vmctx
                (state.machine.device.queues queue)
                (after.machine.device.queues queue))) := by
  have consistent : ∀ queue,
      EnableConsistent (state.machine.device.queues queue) := by
    refine reached_queue EnableConsistent (.disabled rfl rfl) ?_ reached
    intro before label queue vq permitted consistent stepped
    exact consistent.step permitted stepped
  refine ⟨consistent, ?_⟩
  rintro value after ⟨_, machine, events, stepped, rfl⟩
  obtain ⟨written, ran, rfl⟩ :=
    @machineStep_register .qEnable rfl _ _ value _ stepped
  cases ran
  constructor
  · intro permitted queue
    refine ⟨(consistent queue).step permitted
      (machineStep_queue stepped queue), fun selected => ?_⟩
    have enabled := enableQueue_selected selected
    show EnableAtomic _ _ ((enableQueue state.machine.device).1.queues queue)
    rw [enabled]
    exact (virtioVqEnable_clean_iff.mpr
      (permitted value queue rfl selected)).2
  · intro holds other queue _ selected
    have enabled := enableQueue_selected selected
    obtain ⟨kept, atomic⟩ := holds queue
    change EnableConsistent
      ((enableQueue state.machine.device).1.queues queue) at kept
    have complete : EnableAtomic _ _
      ((enableQueue state.machine.device).1.queues queue) := atomic selected
    rw [enabled] at kept complete
    exact virtioVqEnable_clean_iff.mp ⟨kept, complete⟩

/-- A decidable form of `CleanEnables`. -/
def checkEnables (state : Traced) (label : Label) : Bool :=
  match label with
  | .commonWrite offset _ _ =>
      decide (offset ≠ CommonReg.qEnable.offset) ||
        (Queue.ofIndex state.machine.device.base.curq).all fun queue =>
          decide (EnablesCleanly state.machine.device.gpu.vmctx
            (state.machine.device.queues queue))
  | .guest _ | .deviceWrite _ _ _ | .hotplug | .start _ _ _ | .run _ => true

theorem cleanEnables_of_check (state : Traced) (label : Label)
    (checked : checkEnables state label = true) :
    CleanEnables state label := by
  rintro value queue rfl selected
  simpa [checkEnables, qEnableWrite, selected] using checked

/-- A first attempt without memory behind the descriptor table, then one that
succeeds. -/
theorem retried_enable_consistent :
    ∃ state, backend.ReachedWhere CleanEnables state ∧
      vqRingReady (state.machine.device.queues .cursor) = true ∧
      (∀ queue, EnableConsistent (state.machine.device.queues queue)) := by
  obtain ⟨state, reached, checked⟩ :=
    @exists_reachedWhere checkEnables CleanEnables
      (.commonWrite CommonReg.qSelect.offset 2 1 ::
        .commonWrite CommonReg.qDesclo.offset 4 8192 ::
        qEnableWrite 1 :: setUpQueue .cursor 16 256 1024 2048)
      ⟨initialMachine ⟨4096, 0⟩ false 1 Memory.zero, []⟩
      (fun state => vqRingReady (state.machine.device.queues .cursor))
      cleanEnables_of_check
      ⟨_, false, 1, _, nofun, by decide, rfl⟩ (by decide +kernel)
  exact ⟨state, reached, checked, (reached_enable_consistent reached).1⟩

/-- A second `Q_ENABLE` with an available ring outside of the memory: the
queue still reads as enabled, without its flag, and its descriptor table is
the new one beside the old rings. -/
theorem reenabled_queue_torn :
    ∃ state after, backend.Reached state ∧
      backend.step state (qEnableWrite 1) after ∧
      Queue.ofIndex state.machine.device.base.curq = some .control ∧
      ¬RingsTranslate state.machine.device.gpu.vmctx
        (state.machine.device.queues .control) ∧
      (after.machine.device.queues .control).enabled = true ∧
      vqRingReady (after.machine.device.queues .control) = false ∧
      (after.machine.device.queues .control).desc = some 512 ∧
      (state.machine.device.queues .control).desc = some 256 ∧
      (after.machine.device.queues .control).avail = some 1024 := by
  obtain ⟨state, reached, checked⟩ :=
    @exists_reached ⟨initialMachine ⟨4096, 0⟩ false 1 Memory.zero, []⟩
      (setUpQueue .control 16 256 1024 2048 ++
        [.commonWrite CommonReg.qDesclo.offset 4 512,
          .commonWrite CommonReg.qAvaillo.offset 4 8192])
      (fun state =>
        decide (Queue.ofIndex state.machine.device.base.curq =
          some .control) &&
        decide (¬RingsTranslate state.machine.device.gpu.vmctx
          (state.machine.device.queues .control)) &&
        decide ((state.machine.device.queues .control).desc = some 256) &&
        (runLabels state [qEnableWrite 1]).any fun after =>
          (after.machine.device.queues .control).enabled &&
          !vqRingReady (after.machine.device.queues .control) &&
          decide ((after.machine.device.queues .control).desc = some 512) &&
          decide ((after.machine.device.queues .control).avail = some 1024))
      ⟨_, false, 1, _, nofun, by decide, rfl⟩ (by decide +kernel)
  simp only [Bool.and_eq_true, decide_eq_true_eq, Option.any_eq_true,
    Bool.not_eq_true'] at checked
  obtain ⟨⟨⟨selected, fails⟩, old⟩, after, ran, ⟨⟨enabled, cleared⟩, desc⟩,
    avail⟩ := checked
  exact ⟨state, after, reached, runLabels_singleton ran, selected, fails,
    enabled, cleared, desc, old, avail⟩

end VirtioGpu.Backend
