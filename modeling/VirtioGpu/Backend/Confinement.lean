import VirtioGpu.Backend.GpuRun
import VirtioGpu.Virtio.Getchain

namespace VirtioGpu.Backend

open Foundation
open Virtio
open Gpu

/-! The guest ranges the backend translates along a run. -/

def Event.calls : Event → List Translation
  | .mapped calls => calls
  | .fetched fetch => fetch.result.chain.calls
  | .served service => service.reply.calls
  | .servedCursor _ _ _ _ | .released _ _ _ | .ended _ _ => []

/-- Every call of `paddr_guest2host` so far: for rings, for the buffers and
the indirect tables of chains, and for memory entries. -/
def Traced.translations (state : Traced) : List Translation :=
  state.events.flatMap Event.calls

/-! Every recorded call was made. -/

def Chain.HonestCalls (ctx : Vmctx) (chain : Chain) : Prop :=
  ∀ call, call ∈ chain.calls → call.Honest ctx

theorem honestCalls_kept (walk : WalkContext) :
    KeptByWalk walk (Chain.HonestCalls walk.ctx) := by
  have logged : ∀ chain addr len, Chain.HonestCalls walk.ctx chain →
      Chain.HonestCalls walk.ctx (chain.log (translate walk.ctx addr len)) := by
    intro chain addr len honest call member
    rcases List.mem_append.mp member with earlier | now
    · exact honest call earlier
    · rw [List.mem_singleton.mp now]
      exact translate_honest walk.ctx addr len
  refine ⟨logged, ?_, fun _ honest => honest⟩
  intro chain vd _ honest
  exact logged chain vd.addr vd.len honest

theorem vqGetchain_honest (walk : WalkContext) (deviceCaps : Nat)
    (vq : VqInfo) (pidx : Nat) (iov : Nat → IoVec) (flags : Nat → Nat) :
    Chain.HonestCalls walk.ctx
      (vqGetchain walk deviceCaps vq pidx iov flags).chain := by
  apply vqGetchain_kept (honestCalls_kept walk)
  intro call member
  cases member

theorem virtioVqEnable_honest (ctx : Vmctx) (vq : VqInfo) :
    ∀ call, call ∈ (virtioVqEnable ctx vq).2 → call.Honest ctx := by
  have single : ∀ calls : List Translation,
      (∀ call, call ∈ calls → ∃ addr len, call = translate ctx addr len) →
        ∀ call, call ∈ calls → call.Honest ctx := by
    intro calls made call member
    obtain ⟨addr, len, rfl⟩ := made call member
    exact translate_honest ctx addr len
  apply single
  unfold virtioVqEnable
  dsimp only
  cases (translate ctx (gpaOf vq.gpaDesc) (descTableSize vq.qsize)).host with
  | none => simp
  | some desc =>
      dsimp only
      cases (translate ctx (gpaOf vq.gpaAvail)
          (availRingSize vq.qsize)).host with
      | none => simp
      | some avail =>
          dsimp only
          cases (translate ctx (gpaOf vq.gpaUsed)
              (usedRingSize vq.qsize)).host with
          | none => simp
          | some used => simp

/-- A register write translates nothing but the rings it maps. -/
theorem writeRegister_honest (device : Device) (value : Nat)
    (reg : CommonReg) :
    Ensures (writeRegister device value reg) fun written =>
      ∀ call, call ∈ written.2 → call.Honest device.gpu.vmctx := by
  cases reg with
  | status => exact .bind fun _ _ => .pure nofun
  | gf => exact .ite (fun _ => .ok nofun) fun _ => .ok nofun
  | qEnable =>
      refine .ok ?_
      unfold enableQueue
      cases Queue.ofIndex device.base.curq with
      | none => exact nofun
      | some queue => exact virtioVqEnable_honest _ _
  | qSize | qMsix | qDesclo | qDeschi | qAvaillo | qAvailhi | qUsedlo
  | qUsedhi | dfselect | gfselect | msix | qSelect | df | numq
  | cfggeneration | qNoff => exact .ok nofun

theorem virtioCommonCfgWrite_honest (device : Device)
    (offset size value : Nat) :
    Ensures (virtioCommonCfgWrite device offset size value) fun written =>
      ∀ call, call ∈ written.2 → call.Honest device.gpu.vmctx := by
  intro written ran
  rcases virtioCommonCfgWrite_cases ran with rfl | ⟨reg, _, _, _, wrote⟩
  · nofun
  · exact writeRegister_honest device value reg written wrote

theorem Section.honest {env : Env} {before after : Machine}
    {events : List Event} (ran : Section env before after events) :
    ∀ event, event ∈ events → ∀ call, call ∈ event.calls →
      call.Honest before.device.gpu.vmctx := by
  intro event member call made
  cases ran with
  | idle _ | more _ _ | done _ _ => cases member
  | rejected _ _ | accepted _ _ =>
      rw [List.mem_singleton.mp member] at made
      exact vqGetchain_honest _ _ _ _ _ _ call made
  | served _ serves _ =>
      rw [List.mem_singleton.mp member] at made
      exact (ctrlDispatch_changes _ _ _ _ (loadCommand_base serves.loads) _
        serves.handled).calls call made
  | servedCursor _ _ | released _ | ended _ =>
      rw [List.mem_singleton.mp member] at made
      cases made

theorem machineStep_honest {before after : Machine} {label : Label}
    {events : List Event}
    (stepped : machineStep before label = .ok (after, events)) :
    ∀ event, event ∈ events → ∀ call, call ∈ event.calls →
      call.Honest before.device.gpu.vmctx := by
  intro event member call made
  cases label with
  | guest _ | hotplug | start _ _ _ =>
      cases stepped
      cases member
  | commonWrite offset size value =>
      obtain ⟨written, ran, rest⟩ := bind_eq_ok stepped
      cases rest
      rw [List.mem_singleton.mp member] at made
      exact virtioCommonCfgWrite_honest _ _ _ _ written ran call made
  | deviceWrite offset size value =>
      obtain ⟨device, _, rest⟩ := bind_eq_ok stepped
      cases rest
      cases member
  | run env =>
      exact (bhStep_section stepped).honest event member call made

theorem reached_honest {state : Traced} (reached : backend.Reached state) :
    ∀ call, call ∈ state.translations →
      call.Honest state.machine.device.gpu.vmctx := by
  refine reached.invariant (fun state => ∀ call, call ∈ state.translations →
    call.Honest state.machine.device.gpu.vmctx) ?_ ?_
  · rintro state ⟨vmctx, isBlobSupported, scanoutNum, memory, _, _, rfl⟩ call
      made
    cases made
  · rintro before label after honest ⟨_, machine, events, stepped, rfl⟩ call
      made
    rw [show (Traced.mk machine _).machine.device.gpu.vmctx =
      before.machine.device.gpu.vmctx from
        (machineStep_gpu stepped).sameSetup.vmctx]
    obtain ⟨event, member, called⟩ := List.mem_flatMap.mp made
    rcases List.mem_append.mp member with earlier | now
    · exact honest call (List.mem_flatMap.mpr ⟨event, earlier, called⟩)
    · exact machineStep_honest stepped event now call called

/-- A translated range lies in the shared region exactly when it does not
cross the region's end, which the translation does not check. -/
theorem reached_confined_iff {state : Traced} {call : Translation}
    (reached : backend.Reached state) (made : call ∈ state.translations) :
    call.Confined state.machine.device.gpu.vmctx ↔
      ¬call.CrossesEnd state.machine.device.gpu.vmctx :=
  (reached_honest reached call made).confined_iff

theorem exists_translation {before : Traced} {labels : List Label}
    {check : Traced → Translation → Bool} (starts : backend.initial before)
    (checked : (runLabels before labels).any (fun state =>
      state.translations.any (check state)) = true) :
    ∃ state call, backend.Reached state ∧ call ∈ state.translations ∧
      check state call = true := by
  obtain ⟨state, reached, strays⟩ := exists_reached starts checked
  obtain ⟨call, made, checked⟩ := List.any_eq_true.mp strays
  exact ⟨state, call, reached, made, checked⟩

/-- The descriptor table of a queue of two, mapped inside the region. -/
theorem mapped_table_confined :
    ∃ state call, backend.Reached state ∧ call ∈ state.translations ∧
      call.host = some 64 ∧
      call.Confined state.machine.device.gpu.vmctx := by
  obtain ⟨state, call, reached, made, checked⟩ :=
    @exists_translation ⟨initialMachine ⟨4096, 0⟩ false 1 Memory.zero, []⟩
      (setUpQueue .control 2 64 128 160)
      (fun state call => decide (call.host = some 64) &&
        !decide (call.CrossesEnd state.machine.device.gpu.vmctx))
      ⟨_, false, 1, _, nofun, by decide, rfl⟩
      (by decide +kernel)
  obtain ⟨host, inside⟩ := Bool.and_eq_true_iff.mp checked
  refine ⟨state, call, reached, made, of_decide_eq_true host, ?_⟩
  exact (reached_confined_iff reached made).mpr (by simpa using inside)

/-- A descriptor table that starts on the last byte of the region is mapped
although all but that byte lies outside. -/
theorem table_past_end_mapped :
    ∃ state call, backend.Reached state ∧ call ∈ state.translations ∧
      ¬call.Confined state.machine.device.gpu.vmctx := by
  obtain ⟨state, call, reached, made, checked⟩ :=
    @exists_translation ⟨initialMachine ⟨4096, 0⟩ false 1 Memory.zero, []⟩
      (setUpQueue .control 2 4095 128 160)
      (fun state call => decide (call.host = some 4095) &&
        decide (state.machine.device.gpu.vmctx.memSize < call.addr + call.len))
      ⟨_, false, 1, _, nofun, by decide, rfl⟩
      (by decide +kernel)
  obtain ⟨host, outside⟩ := Bool.and_eq_true_iff.mp checked
  refine ⟨state, call, reached, made, ?_⟩
  intro confined
  have inside := confined (by rw [of_decide_eq_true host]; nofun)
  exact absurd inside (Nat.not_le.mpr (of_decide_eq_true outside))

end VirtioGpu.Backend
