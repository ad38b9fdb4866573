import VirtioGpu.Backend.Service
import VirtioGpu.Virtio.Flatten

namespace VirtioGpu.Backend

open Foundation
open Virtio
open Gpu

/-! What a step does to one queue. -/

/-- A register write, seen from a queue. -/
inductive QueueWritten (device : Device) (queue : Queue) (value : Nat) :
    CommonReg → VqInfo → Prop
  | kept {reg : CommonReg} :
      QueueWritten device queue value reg (device.queues queue)
  | addressed {reg : CommonReg} {msixIdx : Nat}
      {gpaDesc gpaAvail gpaUsed : Nat × Nat} :
      QueueWritten device queue value reg
        { device.queues queue with
          msixIdx := msixIdx
          gpaDesc := gpaDesc
          gpaAvail := gpaAvail
          gpaUsed := gpaUsed }
  | resized (selected : Queue.ofIndex device.base.curq = some queue) :
      QueueWritten device queue value .qSize
        { device.queues queue with qsize := value % 65536 }
  | enabled (selected : Queue.ofIndex device.base.curq = some queue) :
      QueueWritten device queue value .qEnable
        (virtioVqEnable device.gpu.vmctx (device.queues queue)).1
  | reset (cleared : value % 256 = 0) :
      QueueWritten device queue value .status (device.queues queue).reset

/-- A step of the machine, seen from a queue. -/
inductive QueueStep (machine : Machine) (queue : Queue) :
    Label → VqInfo → Prop
  | kept {label : Label} :
      QueueStep machine queue label (machine.device.queues queue)
  | fetched {env : Env} :
      QueueStep machine queue (.run env)
        { machine.device.queues queue with
          lastAvail := ((machine.device.queues queue).lastAvail + 1) % 65536 }
  | ended {env : Env} {saveUsed : Nat} :
      QueueStep machine queue (.run env)
        { machine.device.queues queue with saveUsed := saveUsed }
  | written {reg : CommonReg} {value : Nat} {after : VqInfo}
      (changed : QueueWritten machine.device queue
        (sizedValue reg.width value) reg after) :
      QueueStep machine queue (.commonWrite reg.offset reg.width value) after

theorem setQueue_queues (device : Device) (queue : Queue) (vq : VqInfo) :
    (device.setQueue queue vq).queues queue = vq := by
  unfold Device.setQueue
  exact Function.update_self _ _ _

theorem setQueue_queues_of_ne (device : Device) {queue other : Queue}
    (vq : VqInfo) (different : other ≠ queue) :
    (device.setQueue queue vq).queues other = device.queues other := by
  unfold Device.setQueue
  exact Function.update_of_ne different _ _

theorem writeQueue_selected {device : Device} {queue : Queue}
    (write : VqInfo → VqInfo)
    (selected : Queue.ofIndex device.base.curq = some queue) :
    (writeQueue device write).queues queue = write (device.queues queue) := by
  unfold writeQueue
  rw [selected]
  exact setQueue_queues device queue _

theorem writeQueue_unselected {device : Device} {queue : Queue}
    (write : VqInfo → VqInfo)
    (other : Queue.ofIndex device.base.curq ≠ some queue) :
    (writeQueue device write).queues queue = device.queues queue := by
  unfold writeQueue
  cases selected : Queue.ofIndex device.base.curq with
  | none => rfl
  | some selection =>
      refine setQueue_queues_of_ne device _ fun same => other ?_
      rw [selected, same]

theorem enableQueue_selected {device : Device} {queue : Queue}
    (selected : Queue.ofIndex device.base.curq = some queue) :
    (enableQueue device).1.queues queue =
      (virtioVqEnable device.gpu.vmctx (device.queues queue)).1 := by
  unfold enableQueue
  rw [selected]
  exact setQueue_queues device queue _

theorem enableQueue_unselected {device : Device} {queue : Queue}
    (other : Queue.ofIndex device.base.curq ≠ some queue) :
    (enableQueue device).1.queues queue = device.queues queue := by
  unfold enableQueue
  cases selected : Queue.ofIndex device.base.curq with
  | none => rfl
  | some selection =>
      refine setQueue_queues_of_ne device _ fun same => other ?_
      rw [selected, same]

theorem writeQueue_addressed {device : Device} {queue : Queue} {value : Nat}
    {reg : CommonReg} (write : VqInfo → VqInfo)
    (addresses : ∀ vq, ∃ msixIdx gpaDesc gpaAvail gpaUsed, write vq =
      { vq with
        msixIdx := msixIdx
        gpaDesc := gpaDesc
        gpaAvail := gpaAvail
        gpaUsed := gpaUsed }) :
    QueueWritten device queue value reg
      ((writeQueue device write).queues queue) := by
  by_cases selected : Queue.ofIndex device.base.curq = some queue
  · obtain ⟨msixIdx, gpaDesc, gpaAvail, gpaUsed, equal⟩ :=
      addresses (device.queues queue)
    rw [writeQueue_selected write selected, equal]
    exact .addressed
  · rw [writeQueue_unselected write selected]
    exact .kept

theorem writeStatus_queues {device after : Device} {value : Nat}
    (ran : writeStatus device value = .ok after) :
    after.queues = device.queues ∨
      value % 256 = 0 ∧
        after.queues = fun queue => (device.queues queue).reset := by
  unfold writeStatus at ran
  dsimp only at ran
  split at ran
  · rename_i cleared
    obtain ⟨gpu, _, rest⟩ := bind_eq_ok ran
    cases rest
    exact .inr ⟨cleared, rfl⟩
  · cases ran
    exact .inl rfl

theorem writeStatus_zero {device after : Device}
    (ran : writeStatus device 0 = .ok after) :
    after.queues = fun queue => (device.queues queue).reset := by
  obtain ⟨gpu, _, rest⟩ := bind_eq_ok (show virtioGpuReset _ = _ from ran)
  cases rest
  rfl

theorem writeRegister_queue {device : Device} {value : Nat} {reg : CommonReg}
    (queue : Queue) :
    Ensures (writeRegister device value reg) fun written =>
      QueueWritten device queue value reg (written.1.queues queue) := by
  cases reg with
  | dfselect | gfselect | msix | qSelect | df | numq | cfggeneration
  | qNoff => exact .ok .kept
  | gf => exact .ite (fun _ => .ok .kept) fun _ => .ok .kept
  | status =>
      refine .bind fun after ran => .pure ?_
      rcases writeStatus_queues ran with same | ⟨cleared, same⟩
      · rw [same]
        exact .kept
      · rw [same]
        exact .reset cleared
  | qEnable =>
      refine .ok ?_
      by_cases selected : Queue.ofIndex device.base.curq = some queue
      · rw [enableQueue_selected selected]
        exact .enabled selected
      · rw [enableQueue_unselected selected]
        exact .kept
  | qSize =>
      refine .ok ?_
      by_cases selected : Queue.ofIndex device.base.curq = some queue
      · rw [writeQueue_selected _ selected]
        exact .resized selected
      · rw [writeQueue_unselected _ selected]
        exact .kept
  | qMsix | qDesclo | qDeschi | qAvaillo | qAvailhi | qUsedlo | qUsedhi =>
      exact .ok (writeQueue_addressed _ fun vq => ⟨_, _, _, _, rfl⟩)

theorem virtioDeviceCfgWrite_queues {device : Device}
    {offset size value : Nat} :
    Ensures (virtioDeviceCfgWrite device offset size value)
      (fun result => result.queues = device.queues) := by
  unfold virtioDeviceCfgWrite virtioGpuCfgwrite
  refine .ite (fun _ => .ok rfl) fun _ => ?_
  refine .ite (fun _ => ?_) fun _ => .ok rfl
  exact .ite (fun _ => .error) fun _ => .ok rfl

theorem fetch_queue {env : Env} {machine : Machine} {locals : Locals}
    (fetched queue : Queue) :
    QueueStep machine queue (.run env)
      ((machine.device.setQueue fetched
        (fetchOf machine fetched locals).result.vq).queues queue) := by
  rcases eq_or_ne queue fetched with same | different
  · subst same
    rw [setQueue_queues]
    rcases vqGetchain_vq (fetchWalk machine queue)
        machine.device.base.deviceCaps (machine.device.queues queue) 0
        locals.iov locals.flags with unchanged | advanced
    · rw [show (fetchOf machine queue locals).result.vq = _ from unchanged]
      exact .kept
    · rw [show (fetchOf machine queue locals).result.vq = _ from advanced]
      exact .fetched
  · rw [setQueue_queues_of_ne _ _ different]
    exact .kept

theorem endChains_queue {env : Env} {machine : Machine}
    (ended queue : Queue) :
    QueueStep machine queue (.run env)
      ((endChains machine ended).1.device.queues queue) := by
  rcases eq_or_ne queue ended with same | different
  · subst same
    rw [show (endChains machine queue).1.device.queues queue = _ from
      setQueue_queues machine.device queue _]
    cases used : (machine.device.queues queue).used with
    | none =>
        simp only [vqEndchains, used]
        exact .kept
    | some ring =>
        rw [vqEndchains_saveUsed (by simp [used])]
        exact .ended
  · rw [show (endChains machine ended).1.device.queues queue = _ from
      setQueue_queues_of_ne machine.device _ different]
    exact .kept

theorem Section.queueStep {env : Env} {before after : Machine}
    {events : List Event} (ran : Section env before after events)
    (queue : Queue) :
    QueueStep before queue (.run env) (after.device.queues queue) := by
  cases ran with
  | idle _ | more _ _ | done _ _ | served _ _ _ | servedCursor _ _
  | released _ => exact .kept
  | rejected _ _ | accepted _ _ => exact fetch_queue _ queue
  | ended _ => exact endChains_queue _ queue

theorem startBh_device (machine : Machine) (queue : Queue)
    (iov : Nat → IoVec) (flags : Nat → Nat) :
    (startBh machine queue iov flags).device = machine.device := by
  unfold startBh
  cases machine.task with
  | idle => rfl
  | testing _ _ | fetching _ _ | serving _ _ _ _ | releasing _ _ _
  | ending _ => rfl

theorem machineStep_queue {before after : Machine} {label : Label}
    {events : List Event}
    (stepped : machineStep before label = .ok (after, events))
    (queue : Queue) :
    QueueStep before queue label (after.device.queues queue) := by
  cases label with
  | guest memory =>
      cases stepped
      exact .kept
  | commonWrite offset size value =>
      obtain ⟨written, ran, rest⟩ := bind_eq_ok stepped
      cases rest
      rcases virtioCommonCfgWrite_cases ran with
        same | ⟨reg, _, rfl, rfl, wrote⟩
      · subst same
        exact .kept
      · exact .written (writeRegister_queue queue written wrote)
  | deviceWrite offset size value =>
      obtain ⟨device, ran, rest⟩ := bind_eq_ok stepped
      cases rest
      rw [show device.queues = before.device.queues from
        virtioDeviceCfgWrite_queues device ran]
      exact .kept
  | hotplug =>
      cases stepped
      exact .kept
  | start started iov flags =>
      cases stepped
      rw [startBh_device]
      exact .kept
  | run env => exact (bhStep_section stepped).queueStep queue

theorem machineStep_register {reg : CommonReg}
    (writable : reg.readOnly = false) {before after : Machine} {value : Nat}
    {events : List Event}
    (stepped : machineStep before
      (.commonWrite reg.offset reg.width value) = .ok (after, events)) :
    ∃ written,
      writeRegister before.device (sizedValue reg.width value) reg =
          .ok written ∧
        after = { before with device := written.1 } := by
  obtain ⟨written, ran, rest⟩ := bind_eq_ok stepped
  rw [virtioCommonCfgWrite_register _ _ writable] at ran
  cases rest
  exact ⟨written, ran, rfl⟩

/-- An invariant of single queues holds of both in every reachable state. -/
theorem reached_queue {allowed : Traced → Label → Prop}
    (Holds : VqInfo → Prop)
    (starts : Holds (VqInfo.fresh virtioGpuRingsz).reset)
    (preserved : ∀ before label queue vq,
      allowed before label → Holds (before.machine.device.queues queue) →
      QueueStep before.machine queue label vq → Holds vq)
    {state : Traced} (reached : backend.ReachedWhere allowed state)
    (queue : Queue) : Holds (state.machine.device.queues queue) := by
  refine reached.invariant
    (fun state => ∀ queue, Holds (state.machine.device.queues queue))
    ?_ ?_ queue
  · rintro state ⟨vmctx, isBlobSupported, scanoutNum, memory, _, _, rfl⟩
    exact fun _ => starts
  · rintro before label after holds permitted ⟨_, machine, events, stepped, rfl⟩
    intro queue
    exact preserved before label queue _ permitted (holds queue)
      (machineStep_queue stepped queue)

/-! Queues of a reachable device. -/

/-- A queue that may be used has its used ring mapped; its size and its index
are `uint16_t`. -/
structure QueueSound (vq : VqInfo) : Prop where
  mapped : vqRingReady vq = true → vq.used ≠ none
  small : vq.lastAvail < 65536
  sized : vq.qsize < 65536

def QueuesSound (device : Device) : Prop :=
  ∀ queue, QueueSound (device.queues queue)

theorem not_ready {vq : VqInfo} (flags : vq.flags = 0) :
    vqRingReady vq = false := by
  rw [vqRingReady, flags]
  rfl

theorem ready_of_flags {vq : VqInfo} (flags : vq.flags = vqAlloc) :
    vqRingReady vq = true := by
  rw [vqRingReady, flags]
  rfl

theorem QueueSound.not_ready {vq : VqInfo} (flags : vq.flags = 0)
    (small : vq.lastAvail < 65536) (sized : vq.qsize < 65536) :
    QueueSound vq := by
  refine ⟨fun ready => ?_, small, sized⟩
  rw [Backend.not_ready flags] at ready
  cases ready

theorem QueueSound.enabling {ctx : Vmctx} {vq after : VqInfo}
    (sound : QueueSound vq) (enabling : Enabling ctx vq after) :
    QueueSound after := by
  cases enabling with
  | noDesc _ | noAvail _ _ | noUsed _ _ _ =>
      exact .not_ready rfl sound.small sound.sized
  | done _ _ _ => exact ⟨nofun, (by decide : 0 < 65536), sound.sized⟩

theorem QueueSound.step {machine : Machine} {label : Label} {queue : Queue}
    {vq : VqInfo} (sound : QueueSound (machine.device.queues queue))
    (stepped : QueueStep machine queue label vq) : QueueSound vq := by
  cases stepped with
  | kept => exact sound
  | fetched => exact ⟨sound.mapped, Nat.mod_lt _ (by decide), sound.sized⟩
  | ended => exact ⟨sound.mapped, sound.small, sound.sized⟩
  | written changed =>
      cases changed with
      | kept => exact sound
      | addressed => exact ⟨sound.mapped, sound.small, sound.sized⟩
      | resized _ => exact ⟨sound.mapped, sound.small, Nat.mod_lt _ (by decide)⟩
      | enabled _ => exact sound.enabling (virtioVqEnable_enabling _ _)
      | reset _ => exact .not_ready rfl (by decide : 0 < 65536) sound.sized

theorem Section.queuesSound {env : Env} {before after : Machine}
    {events : List Event} (ran : Section env before after events)
    (sound : QueuesSound before.device) : QueuesSound after.device :=
  fun queue => (sound queue).step (ran.queueStep queue)

theorem reached_queuesSound {state : Traced}
    (reached : backend.Reached state) : QueuesSound state.machine.device := by
  refine reached_queue QueueSound ?_ ?_ reached
  · exact .not_ready rfl (by decide : 0 < 65536) (by decide : 64 < 65536)
  · intro before label queue vq _ sound stepped
    exact sound.step stepped

theorem vqHasDescs_available {vq : VqInfo} {memory : Memory}
    (sound : QueueSound vq) (available : vqHasDescs vq memory = true) :
    vqRingReady vq = true ∧ sub16 (vq.availIdx memory) vq.lastAvail ≠ 0 ∧
      sub16 (vq.availIdx memory) vq.lastAvail ≤ vq.qsize := by
  simp only [vqHasDescs, Bool.and_eq_true, decide_eq_true_eq,
    Bool.not_eq_true', decide_eq_false_iff_not, Nat.not_lt] at available
  obtain ⟨⟨ready, different⟩, few⟩ := available
  have small := sound.small
  have bounded : vq.availIdx memory < 65536 := memory.load16_lt _
  refine ⟨ready, ?_, few⟩
  unfold sub16
  omega

end VirtioGpu.Backend
