import VirtioGpu.Backend.ChainAccess
import VirtioGpu.Backend.Doorbell
import VirtioGpu.Backend.Exchange
import VirtioGpu.Virtio.Getchain

namespace VirtioGpu.Backend

open Foundation
open Virtio
open Gpu

/-! The guest memory that the device leaves alone. The header lies in the same
memory and takes stores of its own: the event bytes and `config[0]` with an
interrupt, `write_transaction` and the mirrored fields with a register
access. -/

/-- Steps of the backend, each with stores to the header. -/
def sharing : TransitionSystem Traced Label where
  initial := backend.initial
  step := fun before label after => ∃ stepped memory,
    backend.step before label stepped ∧
      (∀ location, headerSize ≤ location →
        memory location = stepped.machine.memory location) ∧
      after = ⟨{ stepped.machine with memory := memory }, stepped.events⟩

/-- The stores to the header could be the driver's. -/
theorem sharing_backend {state : Traced} (reached : sharing.Reached state) :
    backend.Reached state := by
  refine reached.invariant backend.Reached ?_ ?_
  · exact fun _ starts => .initial starts
  · rintro before label after reached ⟨stepped, memory, step, _, rfl⟩
    have stores : backend.step stepped (.guest memory)
        ⟨{ stepped.machine with memory := memory }, stepped.events⟩ :=
      ⟨trivial, _, [], rfl, by rw [List.append_nil]⟩
    exact .step (.step reached trivial step) trivial stores

/-- A run without stores to the header. -/
theorem backend_sharing {state : Traced} (reached : backend.Reached state) :
    sharing.Reached state := by
  refine reached.invariant sharing.Reached ?_ ?_
  · exact fun _ starts => .initial starts
  · intro before label after reached step
    exact .step reached trivial ⟨after, _, step, fun _ _ => rfl, rfl⟩

/-- The byte lies in a descriptor of the chain that the driver made
writable. -/
def Fetch.Grants (fetch : Fetch) (location : Nat) : Prop :=
  ∃ segments, Flattens fetch.walk.ctx fetch.walk.memory fetch.deviceCaps
      fetch.vq.qsize (fetch.vq.desc.getD 0) fetch.result.idx segments ∧
    ∃ segment, segment ∈ segments ∧ segment.flags &&& vringDescFWrite ≠ 0 ∧
      segment.addr ≤ location ∧ location < segment.addr + segment.len

def bufferHolds (location : Nat) (iov : IoVec) : Prop :=
  match iov.base with
  | none => False
  | some base => base ≤ location ∧ location < base + iov.len

instance (location : Nat) (iov : IoVec) :
    Decidable (bufferHolds location iov) :=
  match base : iov.base with
  | none => isFalse (by simp [bufferHolds, base])
  | some address =>
      decidable_of_iff
        (address ≤ location ∧ location < address + iov.len)
        (by simp [bufferHolds, base])

/-- A writable buffer among the first `n` holds the byte. -/
def Locals.Exposes (locals : Locals) (n location : Nat) : Prop :=
  ∃ slot, slot < n ∧ locals.flags slot &&& vringDescFWrite ≠ 0 ∧
    bufferHolds location (locals.iov slot)

instance (locals : Locals) (n location : Nat) :
    Decidable (locals.Exposes n location) :=
  decidable_of_iff
    (∃ slot ∈ List.range n, locals.flags slot &&& vringDescFWrite ≠ 0 ∧
      bufferHolds location (locals.iov slot))
    (by simp [Locals.Exposes])

/-- The next section does not take a chain with the byte, has room for its
response and does not give a chain back over the byte. -/
def Machine.Spares (machine : Machine) (location : Nat) : Prop :=
  match machine.task with
  | .fetching .control locals =>
      ¬(fetchOf machine .control locals).Grants location
  | .serving .control locals _ _ => ∀ cmd, machine.nextCommand = some cmd →
      let exit := exitOf machine.device.gpu cmd machine.memory cmd.address
      Command.Writes cmd locals.flags exit.slot exit.size
  | .releasing queue _ _ => 0 < (machine.device.queues queue).qsize ∧
      ¬(machine.device.queues queue).InUsed location
  | .idle | .testing _ _ | .fetching .cursor _ | .serving .cursor _ _ _
  | .ending _ => True

/-- The driver does not write the byte either. -/
def Spares (location : Nat) (state : Traced) : Label → Prop
  | .guest memory => memory location = state.machine.memory location
  | .run _ => state.machine.Spares location
  | .commonWrite _ _ _ | .deviceWrite _ _ _ | .hotplug | .start _ _ _ => True

/-! A taken chain exposes what it grants. -/

theorem exposes_iff_of_lists {walk : WalkContext} {chain : Chain}
    {segments : List VringDesc} (lists : chain.Lists walk segments)
    (keeps : walk.keepFlags = true) (iolen location : Nat) :
    (Locals.mk chain.iov chain.flags iolen).Exposes segments.length
        location ↔
      ∃ segment, segment ∈ segments ∧
        segment.flags &&& vringDescFWrite ≠ 0 ∧
          segment.addr ≤ location ∧
            location < segment.addr + segment.len := by
  constructor
  · rintro ⟨slot, inside, writable, holds⟩
    have writable : chain.flags slot &&& vringDescFWrite ≠ 0 := writable
    have holds : bufferHolds location (chain.iov slot) := holds
    rw [lists.iov slot inside] at holds
    rw [lists.flags keeps slot inside] at writable
    exact ⟨_, List.getElem_mem inside, writable, holds⟩
  · rintro ⟨segment, member, writable, holds⟩
    obtain ⟨slot, inside, rfl⟩ := List.getElem_of_mem member
    refine ⟨slot, inside, ?_, ?_⟩
    · show chain.flags slot &&& vringDescFWrite ≠ 0
      rw [lists.flags keeps slot inside]
      exact writable
    · show bufferHolds location (chain.iov slot)
      rw [lists.iov slot inside]
      exact holds

theorem grants_iff {machine : Machine} {locals : Locals}
    (accepted : 0 < (fetchOf machine .control locals).result.ret)
    (iolen location : Nat) :
    (fetchOf machine .control locals).Grants location ↔
      (Locals.mk (fetchOf machine .control locals).result.chain.iov
        (fetchOf machine .control locals).result.chain.flags iolen).Exposes
          (fetchOf machine .control locals).result.ret.toNat location := by
  obtain ⟨segments, flattens, length, lists⟩ := vqGetchain_lists accepted
  have count : (fetchOf machine .control locals).result.ret.toNat =
      segments.length := by
    rw [show (fetchOf machine .control locals).result.ret =
      segments.length from length]
    rfl
  have exposes := exposes_iff_of_lists lists rfl iolen location
  rw [count]
  refine Iff.trans ?_ exposes.symm
  constructor
  · rintro ⟨others, again, granted⟩
    rw [flattens.unique again]
    exact granted
  · exact fun granted => ⟨segments, flattens, granted⟩

/-! The chain in hand never exposes the byte. -/

def Task.Hides (location : Nat) : Task → Prop
  | .serving .control locals _ n => ¬locals.Exposes n location
  | .idle | .testing _ _ | .fetching _ _ | .serving .cursor _ _ _
  | .releasing _ _ _ | .ending _ => True

/-- A response that stays in a writable buffer stays off the byte. -/
theorem Serves.kept {env : Env} {before : Machine} {locals : Locals}
    {n location : Nat} {service : Service} {memory : Memory}
    (serves : Serves env before locals n service)
    (hides : ¬locals.Exposes n location)
    (room : Command.Writes service.cmd locals.flags service.exit.slot
      service.exit.size)
    (written : writeResponse before.memory service.cmd service.reply =
      .ok memory) : memory location = before.memory location := by
  have follows := ctrlDispatch_follows _ _ _ _
    (loadCommand_base serves.loads) service.reply serves.handled
  have exits : exitOf before.device.gpu service.cmd before.memory
      service.cmd.address = service.exit := by
    rw [Service.exit, Service.address, serves.gpu, serves.memory]
  obtain ⟨address, based, stored⟩ := bind_eq_ok written
  cases stored
  obtain ⟨inside, short, writable⟩ := room
  rw [← exits, ← follows.slot] at inside short writable
  rw [← follows.size, ← Resp.length_bytes] at short
  rw [serves.iovcnt] at inside
  apply Memory.store_outside
  apply Classical.byContradiction
  intro touched
  have found := base_eq_ok based
  rw [serves.iov] at found short
  refine hides ⟨service.reply.slot, inside, writable, ?_⟩
  unfold bufferHolds
  rw [found]
  show address ≤ location ∧ _
  omega

theorem Section.spared {env : Env} {before after : Machine} {location : Nat}
    {events : List Event} (queues : QueuesSound before.device)
    (hides : before.task.Hides location) (spares : before.Spares location)
    (ran : Section env before after events) :
    after.memory location = before.memory location ∧
      after.task.Hides location := by
  cases ran with
  | idle task => exact ⟨rfl, hides⟩
  | more task ready => exact ⟨rfl, trivial⟩
  | done task drained => exact ⟨rfl, trivial⟩
  | rejected task bad => exact ⟨rfl, trivial⟩
  | @accepted queue locals task good =>
      cases queue with
      | control =>
          unfold Machine.Spares at spares
          rw [task] at spares
          refine ⟨rfl, ?_⟩
          exact fun exposed => spares ((grants_iff good _ _).mpr exposed)
      | cursor => exact ⟨rfl, trivial⟩
  | @served locals idx n service memory task serves written =>
      unfold Machine.Spares at spares
      rw [task] at hides spares
      have next : before.nextCommand = some service.cmd := by
        simp only [Machine.nextCommand, task, serves.loads]
      refine ⟨serves.kept hides ?_ written, trivial⟩
      rw [Service.exit, Service.address, serves.gpu, serves.memory]
      exact spares service.cmd next
  | servedCursor task handled => exact ⟨rfl, trivial⟩
  | @released queue locals idx task =>
      unfold Machine.Spares at spares
      rw [task] at spares
      obtain ⟨positive, outside⟩ := spares
      refine ⟨?_, trivial⟩
      exact vqRelchain_outside
        (and_slotMask_lt positive (queues queue).sized _) outside
  | ended task => exact ⟨rfl, trivial⟩

theorem startBh_hides {before : Machine} {location : Nat}
    (hides : before.task.Hides location) (queue : Queue) (iov : Nat → IoVec)
    (flags : Nat → Nat) :
    (startBh before queue iov flags).memory = before.memory ∧
      (startBh before queue iov flags).task.Hides location := by
  unfold startBh
  cases task : before.task with
  | idle => exact ⟨rfl, trivial⟩
  | testing _ _ | fetching _ _ | serving _ _ _ _ | releasing _ _ _
  | ending _ => exact ⟨rfl, hides⟩

theorem machineStep_spared {before : Traced} {after : Machine}
    {label : Label} {location : Nat} {events : List Event}
    (queues : QueuesSound before.machine.device)
    (hides : before.machine.task.Hides location)
    (spares : Spares location before label)
    (stepped : machineStep before.machine label = .ok (after, events)) :
    after.memory location = before.machine.memory location ∧
      after.task.Hides location := by
  cases label with
  | guest memory =>
      cases stepped
      exact ⟨spares, hides⟩
  | commonWrite offset size value =>
      obtain ⟨written, _, rest⟩ := bind_eq_ok stepped
      cases rest
      exact ⟨rfl, hides⟩
  | deviceWrite offset size value =>
      obtain ⟨device, _, rest⟩ := bind_eq_ok stepped
      cases rest
      exact ⟨rfl, hides⟩
  | hotplug =>
      cases stepped
      exact ⟨rfl, hides⟩
  | start queue iov flags =>
      cases stepped
      obtain ⟨memory, hidden⟩ := startBh_hides hides queue iov flags
      exact ⟨congrFun memory location, hidden⟩
  | run env => exact (bhStep_section stepped).spared queues hides spares

/-- A byte past the header that no chain granted is left alone: along a run
whose sections spare it, it stays as the driver wrote it. -/
theorem spared_kept {before after : Traced} {location : Nat}
    (reached : sharing.Reached before) (idle : before.machine.task = .idle)
    (past : headerSize ≤ location)
    (run : (sharing.startingAt before).ReachedWhere (Spares location)
      after) :
    after.machine.memory location = before.machine.memory location := by
  have kept : sharing.Reached after ∧
      after.machine.memory location = before.machine.memory location ∧
        after.machine.task.Hides location := by
    refine run.invariant (fun state => sharing.Reached state ∧
      state.machine.memory location = before.machine.memory location ∧
        state.machine.task.Hides location) ?_ ?_
    · rintro state rfl
      refine ⟨reached, rfl, ?_⟩
      rw [idle]
      trivial
    · rintro state label next ⟨reached, same, hides⟩ spares shared
      refine ⟨.step reached trivial shared, ?_⟩
      obtain ⟨middle, memory, step, header, rfl⟩ := shared
      obtain ⟨_, machine, events, stepped, rfl⟩ := step
      obtain ⟨kept, hidden⟩ := machineStep_spared
        (reached_queuesSound (sharing_backend reached)) hides spares stepped
      exact ⟨(header location past).trans (kept.trans same), hidden⟩
  exact kept.2.1

/-- A check that the label spares the byte. -/
def checksSpared (location : Nat) (state : Traced) : Label → Bool
  | .run _ =>
      match state.machine.task with
      | .fetching .control locals =>
          let result := (fetchOf state.machine .control locals).result
          decide (0 < result.ret) && !decide
            ((Locals.mk result.chain.iov result.chain.flags 0).Exposes
              result.ret.toNat location)
      | .serving .control locals _ _ =>
          state.machine.nextCommand.all fun cmd =>
            let exit := exitOf state.machine.device.gpu cmd
              state.machine.memory cmd.address
            decide (exit.slot < cmd.iovcnt ∧
              exit.size ≤ (cmd.iov exit.slot).len ∧
                locals.flags exit.slot &&& vringDescFWrite ≠ 0)
      | .releasing queue _ _ =>
          let vq := state.machine.device.queues queue
          decide (0 < vq.qsize ∧ ¬(vq.used.getD 0 ≤ location ∧
            location < vq.used.getD 0 + usedRingSize vq.qsize))
      | .idle | .testing _ _ | .fetching .cursor _ | .serving .cursor _ _ _
      | .ending _ => true
  | .guest memory => decide (memory location = state.machine.memory location)
  | .commonWrite _ _ _ | .deviceWrite _ _ _ | .hotplug | .start _ _ _ => true

theorem spares_of_checks {location : Nat} (state : Traced) (label : Label)
    (checks : checksSpared location state label = true) :
    Spares location state label := by
  cases label with
  | guest memory =>
      have same := of_decide_eq_true checks
      exact same
  | run env =>
      unfold checksSpared at checks
      show state.machine.Spares location
      unfold Machine.Spares
      cases task : state.machine.task with
      | fetching queue locals =>
          cases queue with
          | control =>
              rw [task] at checks
              obtain ⟨accepted, hidden⟩ := Bool.and_eq_true_iff.mp checks
              have good := of_decide_eq_true accepted
              intro granted
              have exposed := (grants_iff good 0 location).mp granted
              rw [Bool.not_eq_true'] at hidden
              exact of_decide_eq_false hidden exposed
          | cursor => trivial
      | serving queue locals idx n =>
          cases queue with
          | control =>
              rw [task] at checks
              intro cmd next
              dsimp only at checks
              rw [next] at checks
              have room := of_decide_eq_true checks
              exact room
          | cursor => trivial
      | releasing queue locals idx =>
          rw [task] at checks
          have outside := of_decide_eq_true checks
          exact outside
      | idle | testing _ _ | ending _ => trivial
  | commonWrite _ _ _ | deviceWrite _ _ _ | hotplug | start _ _ _ => trivial

/-- A step that was checked to spare the byte, with a store of
`queue_event`. -/
def sparingStep (location : Nat) (state : Traced) (label : Label) :
    Option Traced :=
  if checksSpared location state label then
    (runLabels state [label]).map fun stepped =>
      ⟨{ stepped.machine with
          memory := stepped.machine.memory.store queueEventOffset [1] },
        stepped.events⟩
  else none

theorem reachedWhere_of_sparingStep {location : Nat}
    {start before after : Traced} {label : Label}
    (reached : (sharing.startingAt start).ReachedWhere (Spares location)
      before)
    (stepped : sparingStep location before label = some after) :
    (sharing.startingAt start).ReachedWhere (Spares location) after := by
  unfold Backend.sparingStep at stepped
  split at stepped
  · rename_i checks
    obtain ⟨next, ran, rfl⟩ := Option.map_eq_some_iff.mp stepped
    refine .step reached (spares_of_checks before label checks)
      ⟨next, _, runLabels_singleton ran, ?_, rfl⟩
    intro location past
    apply Memory.store_outside
    unfold headerSize configOffset at past
    unfold queueEventOffset
    rw [List.length_singleton]
    omega
  · cases stepped

/-- An unknown command is served, an interrupt raised, and the bytes of the
request are left. -/
theorem spared_kept_unknown : ∃ before after : Traced,
    (after.events.any (servesWith fun _ => true)) = true ∧
      after.machine.memory queueEventOffset ≠
        before.machine.memory queueEventOffset ∧
      after.machine.memory 256 = before.machine.memory 256 := by
  have served : ((runLabels ⟨initialMachine ⟨4096, 0⟩ false 1
      (oneCommand ⟨0, 0, 0, 0, 0⟩ 24), []⟩
        (setUpQueue .control 2 64 128 160)).any fun before =>
          before.machine.task.isIdle &&
            (((callBh (Env.steady 0) .control 6).foldlM
              (sparingStep 256) before).any fun after =>
                after.events.any (servesWith fun _ => true) && decide
                  (after.machine.memory queueEventOffset ≠
                    before.machine.memory queueEventOffset))) = true := by
    decide +kernel
  obtain ⟨before, set, served⟩ := (Option.any_eq_true _ _).mp served
  obtain ⟨idle, served⟩ := Bool.and_eq_true_iff.mp served
  obtain ⟨after, ran, served⟩ := (Option.any_eq_true _ _).mp served
  obtain ⟨served, raised⟩ := Bool.and_eq_true_iff.mp served
  have reached : backend.Reached before := reached_of_runLabels
    (.initial (oneCommand_initial ⟨0, 0, 0, 0, 0⟩ 24)) set
  exact ⟨before, after, served, of_decide_eq_true raised,
    spared_kept (backend_sharing reached) (Task.eq_idle idle) (by decide)
      (TransitionSystem.ReachedWhere.foldlM reachedWhere_of_sparingStep
        (.initial rfl) ran)⟩

end VirtioGpu.Backend
