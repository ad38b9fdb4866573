import VirtioGpu.Backend.Call
import VirtioGpu.Backend.Queues

namespace VirtioGpu.Backend

open Foundation
open Virtio
open Gpu

/-! The ring accounting of one call. -/

namespace Traced

def consumed (state : Traced) : List Nat :=
  state.fetches.map fun fetch => fetch.result.idx

def givenBack (state : Traced) : List Nat := state.releases.map Prod.fst

end Traced

def Fetch.ChainWellFormed (fetch : Fetch) : Prop :=
  fetch.vq.NextWellFormed fetch.walk fetch.deviceCaps

/-- The driver takes back nothing it has published. -/
def NoRetraction (before : Traced) : Label → Prop
  | .guest memory => ∀ queue,
      vqHasDescs (before.machine.device.queues queue)
          before.machine.memory = true →
        vqHasDescs (before.machine.device.queues queue) memory = true
  | .run _ | .start _ _ _ | .commonWrite _ _ _ | .deviceWrite _ _ _
  | .hotplug => True

/-- Every consumed chain was given back, and was well formed. -/
structure Settled (state : Traced) : Prop where
  balanced : state.consumed = state.givenBack
  wellFormed : ∀ fetch, fetch ∈ state.fetches → fetch.ChainWellFormed

/-- One well-formed chain with head `idx` is still to be given back. -/
structure Owing (state : Traced) (idx : Nat) : Prop where
  balanced : state.consumed = state.givenBack ++ [idx]
  wellFormed : ∀ fetch, fetch ∈ state.fetches → fetch.ChainWellFormed

structure CallInvariant (queue : Queue) (state : Traced) : Prop where
  sound : QueuesSound state.machine.device
  mapped : state.fetches ≠ [] →
    (state.machine.device.queues queue).used ≠ none
  task : match state.machine.task with
    | .testing current _ | .ending current =>
        current = queue ∧ Settled state
    | .fetching current _ => current = queue ∧ Settled state ∧
        vqHasDescs (state.machine.device.queues queue)
          state.machine.memory = true
    | .serving current _ idx _ | .releasing current _ idx =>
        current = queue ∧ Owing state idx
    | .idle => True

theorem fetchOf_spec {machine : Machine} {queue : Queue} {locals : Locals}
    (sound : QueuesSound machine.device)
    (available : vqHasDescs (machine.device.queues queue) machine.memory =
      true) :
    (fetchOf machine queue locals).result.vq.used =
        (machine.device.queues queue).used ∧
      (0 < (fetchOf machine queue locals).result.ret ↔
        (fetchOf machine queue locals).ChainWellFormed) := by
  obtain ⟨_, nonzero, few⟩ := vqHasDescs_available (sound queue) available
  obtain ⟨vq, _, positive⟩ :=
    @vqGetchain_spec (fetchWalk machine queue)
      machine.device.base.deviceCaps 0 (machine.device.queues queue)
      locals.iov locals.flags nonzero few
  refine ⟨?_, positive⟩
  show (vqGetchain _ _ _ _ _ _).vq.used = _
  rw [vq]

theorem Traced.consumed_of_append {before after : Traced}
    {events : List Event}
    (extended : after.events = before.events ++ events) :
    after.consumed = before.consumed ++
      (events.filterMap Event.fetch?).map fun fetch => fetch.result.idx := by
  rw [consumed, fetches_of_append extended, List.map_append]
  rfl

theorem Traced.givenBack_of_append {before after : Traced}
    {events : List Event}
    (extended : after.events = before.events ++ events) :
    after.givenBack = before.givenBack ++
      (events.filterMap Event.release?).map Prod.fst := by
  rw [givenBack, releases_of_append extended, List.map_append]
  rfl

/-- A section that fetches and gives back nothing settles nothing. -/
theorem Settled.of_append {before after : Traced} {events : List Event}
    (settled : Settled before)
    (extended : after.events = before.events ++ events)
    (noFetch : events.filterMap Event.fetch? = [])
    (noRelease : events.filterMap Event.release? = []) : Settled after := by
  constructor
  · rw [Traced.consumed_of_append extended,
      Traced.givenBack_of_append extended, noFetch, noRelease,
      settled.balanced]
    rfl
  · rw [Traced.fetches_of_append extended, noFetch, List.append_nil]
    exact settled.wellFormed

theorem Owing.of_append {before after : Traced} {events : List Event}
    {idx : Nat} (owing : Owing before idx)
    (extended : after.events = before.events ++ events)
    (noFetch : events.filterMap Event.fetch? = [])
    (noRelease : events.filterMap Event.release? = []) : Owing after idx := by
  constructor
  · rw [Traced.consumed_of_append extended,
      Traced.givenBack_of_append extended, noFetch, noRelease,
      owing.balanced]
    simp
  · rw [Traced.fetches_of_append extended, noFetch, List.append_nil]
    exact owing.wellFormed

theorem Settled.fetched {before after : Traced} {fetch : Fetch}
    (settled : Settled before)
    (extended : after.events = before.events ++ [.fetched fetch])
    (wellFormed : fetch.ChainWellFormed) :
    Owing after fetch.result.idx := by
  constructor
  · rw [Traced.consumed_of_append extended,
      Traced.givenBack_of_append extended, settled.balanced]
    simp [Event.fetch?, Event.release?]
  · rw [Traced.fetches_of_append extended]
    intro other member
    rcases List.mem_append.mp member with earlier | now
    · exact settled.wellFormed other earlier
    · cases List.mem_singleton.mp now
      exact wellFormed

theorem Owing.released {before after : Traced} {queue : Queue}
    {idx iolen : Nat} (owing : Owing before idx)
    (extended : after.events = before.events ++ [.released queue idx iolen]) :
    Settled after := by
  constructor
  · rw [Traced.consumed_of_append extended,
      Traced.givenBack_of_append extended, owing.balanced]
    simp [Event.fetch?, Event.release?]
  · rw [Traced.fetches_of_append extended]
    simpa [Event.fetch?] using owing.wellFormed

theorem CallInvariant.kept_by_section {queue : Queue} {env : Env}
    {before after : Traced} {events : List Event}
    (invariant : CallInvariant queue before)
    (ran : Section env before.machine after.machine events)
    (extended : after.events = before.events ++ events) :
    CallInvariant queue after := by
  obtain ⟨machine, history⟩ := after
  have sound := ran.queuesSound invariant.sound
  have mapped := invariant.mapped
  have task := invariant.task
  have fetches := Traced.fetches_of_append extended
  dsimp only at ran sound
  cases ran with
  | idle idle =>
      refine ⟨sound, ?_, ?_⟩
      · rw [fetches]
        simpa using mapped
      · dsimp only
        rw [idle]
        trivial
  | more testing ready =>
      rw [testing] at task
      obtain ⟨rfl, settled⟩ := task
      refine ⟨sound, ?_, ?_⟩
      · rw [fetches]
        simpa using mapped
      · exact ⟨rfl, settled.of_append extended rfl rfl, ready⟩
  | done testing drained =>
      rw [testing] at task
      obtain ⟨rfl, settled⟩ := task
      refine ⟨sound, ?_, ?_⟩
      · rw [fetches]
        simpa using mapped
      · exact ⟨rfl, settled.of_append extended rfl rfl⟩
  | @rejected current locals fetching bad =>
      rw [fetching] at task
      obtain ⟨rfl, settled, available⟩ := task
      obtain ⟨ready, _, _⟩ :=
        vqHasDescs_available (invariant.sound current) available
      have used := (@fetchOf_spec _ _ locals invariant.sound available).1
      refine ⟨sound, fun _ => ?_, ?_⟩
      · show ((before.machine.device.setQueue _ _).queues _).used ≠ none
        rw [setQueue_queues, used]
        exact (invariant.sound current).mapped ready
      · trivial
  | @accepted current locals fetching good =>
      rw [fetching] at task
      obtain ⟨rfl, settled, available⟩ := task
      obtain ⟨ready, _, _⟩ :=
        vqHasDescs_available (invariant.sound current) available
      obtain ⟨used, positive⟩ :=
        @fetchOf_spec _ _ locals invariant.sound available
      refine ⟨sound, fun _ => ?_, ?_⟩
      · show ((before.machine.device.setQueue _ _).queues _).used ≠ none
        rw [setQueue_queues, used]
        exact (invariant.sound current).mapped ready
      · exact ⟨rfl, settled.fetched extended (positive.mp good)⟩
  | served serving serves written =>
      rw [serving] at task
      obtain ⟨rfl, owing⟩ := task
      refine ⟨sound, ?_, ?_⟩
      · rw [fetches]
        simpa [Event.fetch?] using mapped
      · exact ⟨rfl, owing.of_append extended rfl rfl⟩
  | servedCursor serving handled =>
      rw [serving] at task
      obtain ⟨rfl, owing⟩ := task
      refine ⟨sound, ?_, ?_⟩
      · rw [fetches]
        simpa [Event.fetch?] using mapped
      · exact ⟨rfl, owing.of_append extended rfl rfl⟩
  | released releasing =>
      rw [releasing] at task
      obtain ⟨rfl, owing⟩ := task
      refine ⟨sound, ?_, ?_⟩
      · rw [fetches]
        simpa [Event.fetch?, releaseChain] using mapped
      · exact ⟨rfl, owing.released extended⟩
  | @ended current interrupt ending =>
      rw [ending] at task
      obtain ⟨rfl, settled⟩ := task
      refine ⟨sound, ?_, ?_⟩
      · intro fetched
        rw [fetches] at fetched
        have used := mapped (by simpa [Event.fetch?] using fetched)
        show ((before.machine.device.setQueue _ _).queues _).used ≠ none
        rw [setQueue_queues, vqEndchains_saveUsed used]
        exact used
      · trivial

theorem call_invariant {queue : Queue} {state : Traced}
    (reached : (call queue).ReachedWhere NoRetraction state) :
    CallInvariant queue state := by
  refine reached.invariant (CallInvariant queue) ?_ ?_
  · intro state starts
    obtain ⟨iov, flags, task, unfetched⟩ := call_initial_task starts
    obtain ⟨before, _, _, beforeReached, _, rfl⟩ := starts
    refine ⟨?_, fun fetched => absurd rfl fetched, ?_⟩
    · rw [startBh_device]
      exact reached_queuesSound beforeReached
    · rw [task]
      exact ⟨rfl, rfl, by simp [Traced.fetches]⟩
  · intro before label after invariant permitted stepped
    rcases call_step_cases stepped with
      ⟨env, events, _, ran, extended⟩ | ⟨memory, rfl, rfl⟩
    · exact invariant.kept_by_section ran extended
    · refine ⟨invariant.sound, invariant.mapped, ?_⟩
      have task := invariant.task
      dsimp only
      cases current : before.machine.task with
      | idle => trivial
      | fetching other locals =>
          rw [current] at task
          obtain ⟨same, settled, available⟩ := task
          exact ⟨same, ⟨settled.balanced, settled.wellFormed⟩,
            permitted queue available⟩
      | testing other locals | ending other =>
          rw [current] at task
          exact ⟨task.1, ⟨task.2.balanced, task.2.wellFormed⟩⟩
      | serving other locals idx n | releasing other locals idx =>
          rw [current] at task
          exact ⟨task.1, ⟨task.2.balanced, task.2.wellFormed⟩⟩

/-- Every chain the call consumed is back on the used ring, once and in order,
and every entry it published is covered by an interrupt decision. -/
structure Accounted (queue : Queue) (state : Traced) : Prop where
  givenBack : state.consumed = state.givenBack
  covered : state.givenBack ≠ [] →
    (∃ earlier interrupt,
      state.events = earlier ++ [.ended queue interrupt]) ∧
      (state.machine.device.queues queue).saveUsed =
        (state.machine.device.queues queue).usedIdx state.machine.memory

theorem Settled.accounted {queue : Queue} {before after : Traced}
    {interrupt : Bool} (settled : Settled before)
    (mapped : before.fetches ≠ [] →
      (before.machine.device.queues queue).used ≠ none)
    (ended : after.machine = (endChains before.machine queue).1)
    (extended : after.events = before.events ++ [.ended queue interrupt]) :
    Accounted queue after := by
  have balanced := settled.of_append extended rfl rfl
  refine ⟨balanced.balanced, fun returned => ⟨⟨_, _, extended⟩, ?_⟩⟩
  have fetched : before.fetches ≠ [] := by
    intro unfetched
    rw [← balanced.balanced, Traced.consumed,
      Traced.fetches_of_append extended, unfetched] at returned
    exact returned rfl
  rw [ended]
  show ((before.machine.device.setQueue _ _).queues _).saveUsed =
    ((before.machine.device.setQueue _ _).queues _).usedIdx
      before.machine.memory
  rw [setQueue_queues, vqEndchains_saveUsed (mapped fetched)]
  rfl

/-- When a call returns, its ring accounting is right exactly when every chain
it consumed was well formed. -/
theorem returned_accounted_iff {queue : Queue} {env : Env}
    {before after : Traced}
    (reached : (call queue).ReachedWhere NoRetraction before)
    (running : before.machine.task ≠ .idle)
    (returned : (call queue).step before (.run env) after)
    (idle : after.machine.task = .idle) :
    Accounted queue after ↔
      ∀ fetch, fetch ∈ after.fetches → fetch.ChainWellFormed := by
  have invariant := call_invariant reached
  have task := invariant.task
  rcases call_step_cases returned with
    ⟨_, events, _, ran, extended⟩ | ⟨memory, impossible, _⟩
  rotate_left
  · cases impossible
  generalize afterMachine : after.machine = machine at ran idle
  cases ran with
  | idle idle => exact absurd idle running
  | more testing ready => cases idle
  | done testing drained => cases idle
  | @rejected current locals fetching bad =>
      rw [fetching] at task
      obtain ⟨rfl, settled, available⟩ := task
      obtain ⟨_, positive⟩ := @fetchOf_spec _ _ locals invariant.sound available
      have malformed := mt positive.mpr (Int.not_lt.mpr bad)
      constructor
      · intro accounted
        have lengths := congrArg List.length accounted.givenBack
        rw [Traced.consumed_of_append extended,
          Traced.givenBack_of_append extended, settled.balanced] at lengths
        simp [List.filterMap_cons, Event.fetch?, Event.release?] at lengths
      · intro wellFormed
        refine absurd (wellFormed _ ?_) malformed
        rw [Traced.fetches_of_append extended]
        exact List.mem_append_right _ (List.mem_singleton.mpr rfl)
  | accepted fetching good => cases idle
  | served serving serves written => cases idle
  | servedCursor serving handled => cases idle
  | released releasing => cases idle
  | @ended current interrupt ending =>
      rw [ending] at task
      obtain ⟨rfl, settled⟩ := task
      constructor
      · intro _
        exact (settled.of_append extended rfl rfl).wellFormed
      · intro _
        exact settled.accounted invariant.mapped afterMachine extended

theorem noRetraction_run (env : Env) (state : Traced) :
    NoRetraction state (.run env) := trivial

theorem Section.of_ending {env : Env} {before after : Machine}
    {events : List Event} {queue : Queue}
    (ran : Section env before after events)
    (ending : before.task = .ending queue) :
    ∃ interrupt, events = [.ended queue interrupt] := by
  cases ran with
  | ended task =>
      rw [ending] at task
      cases task
      exact ⟨_, rfl⟩
  | idle task | more task _ | done task _ | rejected task _ | accepted task _
  | served task _ _ | servedCursor task _ | released task =>
      rw [ending] at task
      cases task

/-- One well-formed command, consumed and given back. -/
theorem unknown_command_accounted :
    ∃ before after, (call .control).ReachedWhere NoRetraction before ∧
      (call .control).step before (.run (Env.steady 0)) after ∧
      after.consumed = [0] ∧ Accounted .control after := by
  obtain ⟨before, reached, checked⟩ :=
    exists_called (oneCommand_initial ⟨0, 0, 0, 0, 0⟩ 24)
      (noRetraction_run (Env.steady 0))
      (show ((runLabels ⟨initialMachine ⟨4096, 0⟩ false 1
            (oneCommand ⟨0, 0, 0, 0, 0⟩ 24), []⟩
            (setUpQueue .control 2 64 128 160)).bind
          (runCall (Env.steady 0) .control 5)).any (fun before =>
            (match before.machine.task with
              | .ending .control => true
              | _ => false) &&
            (runLabels before [.run (Env.steady 0)]).any fun after =>
              decide (after.consumed = [0]) && after.machine.task.isIdle) =
          true
        by decide +kernel)
  obtain ⟨atEnd, stepped⟩ := Bool.and_eq_true_iff.mp checked
  obtain ⟨after, step, ended⟩ := call_step_of_runLabels stepped
  obtain ⟨consumed, idle⟩ := Bool.and_eq_true_iff.mp ended
  have ending : before.machine.task = .ending .control := by
    split at atEnd
    · assumption
    · cases atEnd
  refine ⟨before, after, reached, step, of_decide_eq_true consumed, ?_⟩
  apply (returned_accounted_iff reached (by rw [ending]; nofun) step
    (Task.eq_idle idle)).mpr
  have task := (call_invariant reached).task
  rw [ending] at task
  rcases call_step_cases step with
    ⟨_, events, _, ran, extended⟩ | ⟨memory, impossible, _⟩
  · obtain ⟨interrupt, rfl⟩ := ran.of_ending ending
    exact (task.2.of_append extended rfl rfl).wellFormed
  · cases impossible

/-- A head beyond the descriptor table is consumed and never given back. -/
theorem bad_head_lost :
    ∃ before after, (call .control).ReachedWhere NoRetraction before ∧
      before.machine.task ≠ .idle ∧
      (call .control).step before (.run (Env.steady 0)) after ∧
      after.machine.task = .idle ∧ ¬Accounted .control after := by
  obtain ⟨before, reached, checked⟩ :=
    exists_called
      (show backend.initial ⟨initialMachine ⟨4096, 0⟩ false 1 _, []⟩ from
        ⟨_, false, 1, _, nofun, by decide, rfl⟩)
      (noRetraction_run (Env.steady 0))
      (show ((runLabels ⟨initialMachine ⟨4096, 0⟩ false 1
            (Memory.zero.store 128 (le16 0 ++ le16 1 ++ le16 5)), []⟩
            (setUpQueue .control 2 64 128 160)).bind
          (runCall (Env.steady 0) .control 1)).any (fun before =>
            !before.machine.task.isIdle &&
            (runLabels before [.run (Env.steady 0)]).any fun after =>
              decide (after.consumed ≠ after.givenBack) &&
                after.machine.task.isIdle) = true
        by decide +kernel)
  obtain ⟨running, stepped⟩ := Bool.and_eq_true_iff.mp checked
  obtain ⟨after, step, ended⟩ := call_step_of_runLabels stepped
  obtain ⟨lost, idle⟩ := Bool.and_eq_true_iff.mp ended
  refine ⟨before, after, reached, ?_, step, Task.eq_idle idle, ?_⟩
  · intro task
    rw [task] at running
    cases running
  · intro accounted
    exact of_decide_eq_true lost accounted.givenBack

end VirtioGpu.Backend
