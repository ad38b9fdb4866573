import VirtioGpu.Backend.GpuRun
import VirtioGpu.Gpu.Gather
import VirtioGpu.Virtio.Getchain

namespace VirtioGpu.Backend

open Foundation
open Virtio
open Gpu

/-! Memory entries of the commands a run serves. -/

/-- The chain in service has been translated. -/
def Task.Mapped : Task → Prop
  | .serving _ locals _ n => ∀ slot, slot < n → (locals.iov slot).base ≠ none
  | _ => True

theorem Section.mapped {env : Env} {before after : Machine}
    {events : List Event} (mapped : before.task.Mapped)
    (ran : Section env before after events) : after.task.Mapped := by
  cases ran with
  | idle task => exact mapped
  | accepted task good =>
      intro slot inside
      exact vqGetchain_mapped good inside
  | more task ready | done task drained | rejected task bad
  | served task serves written | servedCursor task handled | released task
  | ended task => trivial

theorem startBh_mapped {before : Machine} (mapped : before.task.Mapped)
    (queue : Queue) (iov : Nat → IoVec) (flags : Nat → Nat) :
    (startBh before queue iov flags).task.Mapped := by
  unfold startBh
  cases task : before.task with
  | idle => trivial
  | testing _ _ | fetching _ _ | serving _ _ _ _ | releasing _ _ _
  | ending _ => exact mapped

theorem reached_mapped {state : Traced} (reached : backend.Reached state) :
    state.machine.task.Mapped := by
  refine reached.invariant (fun state => state.machine.task.Mapped) ?_ ?_
  · rintro state ⟨vmctx, isBlobSupported, scanoutNum, memory, _, _, rfl⟩
    trivial
  · rintro before label after mapped ⟨_, machine, events, stepped, rfl⟩
    rcases machineStep_elsewhere stepped with
      ⟨env, _, ran⟩ | ⟨queue, iov, flags, _, rfl, _⟩ | ⟨task, _⟩
    · exact ran.mapped mapped
    · exact startBh_mapped mapped queue iov flags
    · show machine.task.Mapped
      rw [task]
      exact mapped

theorem nextCommand_mapped {machine : Machine} {cmd : Command}
    (mapped : machine.task.Mapped)
    (next : machine.nextCommand = some cmd) : cmd.Mapped := by
  unfold Machine.nextCommand at next
  split at next
  · rename_i task
    rw [task] at mapped
    split at next
    · cases next
    · rename_i loaded
      cases next
      obtain ⟨_, _, rfl⟩ := loadCommand_eq_ok loaded
      exact mapped
  all_goals cases next

/-- Whatever chain a run serves next, its memory entries are gathered within
bounds and exactly if and only if its descriptors fit. -/
theorem reached_gathersExactly_iff {state : Traced}
    (reached : backend.Reached state) {cmd : Command}
    (next : state.machine.nextCommand = some cmd)
    (backs : BacksResource cmd) (env : Env) :
    GathersExactly env state.machine.device.gpu cmd state.machine.memory ↔
      GatheringFits env state.machine.device.gpu cmd state.machine.memory :=
  gathersExactly_iff backs (nextCommand_base next)
    (nextCommand_mapped (reached_mapped reached) next)

/-- A chain for a ring of four: an `ATTACH_BACKING` request for one entry of
resource 1, `length` bytes that should hold the entry, and a response. -/
def attachMemory (length : Nat) : Memory :=
  ((Memory.zero.store 64
    ((VringDesc.mk 256 32 vringDescFNext 1).bytes ++
      (VringDesc.mk 1024 length vringDescFNext 2).bytes ++
      (VringDesc.mk 512 24 vringDescFWrite 0).bytes)).store 128
    (le16 0 ++ le16 2)).store 256
    (request .resourceAttachBacking (le32 1 ++ le32 1))

/-- Resource 1 is created, and the request to back it is fetched. -/
def fetchAttach (length : Nat) : List Label :=
  setUpQueue .control 4 64 128 160 ++
    requestLabels 0 [createRequest 1 16 16] ++
    (.guest (attachMemory length) :: callBh (Env.steady 1) .control 2)

/-- The next command is the request of `attachMemory`, with a chain that
supplies `length` bytes. -/
def attachesOne (length : Nat) (state : Traced) (cmd : Command) : Bool :=
  decide (CtrlCmd.ofCode cmd.hdr.type = some .resourceAttachBacking) &&
  decide (cmd.iovcnt = 3) && decide (cmd.supplied = length) &&
  decide ((ResourceAttachBacking.load state.machine.memory
    cmd.address).nrEntries = 1) &&
  decide (virtioGpuFindResource2d state.machine.device.gpu
    (ResourceAttachBacking.load state.machine.memory
      cmd.address).resourceId ≠ none)

theorem exists_fetchAttach (length : Nat)
    (checked : (runLabels
      ⟨initialMachine ⟨65536, 5⟩ true 2 Memory.zero, []⟩
      (fetchAttach length)).any (fun state =>
        state.machine.nextCommand.any (attachesOne length state)) = true) :
    ∃ state cmd, backend.Reached state ∧
      state.machine.nextCommand = some cmd ∧
      AttachesBacking (Env.steady 1) state.machine.device.gpu cmd
        (ResourceAttachBacking.load state.machine.memory cmd.address) ∧
      cmd.supplied = length ∧
      wantedEntries cmd state.machine.memory = 1 := by
  obtain ⟨state, reached, attaches⟩ :=
    exists_reached ⟨_, true, 2, _, fun _ => rfl, by decide, rfl⟩ checked
  obtain ⟨cmd, next, fits⟩ := (Option.any_eq_true _ _).mp attaches
  simp only [attachesOne, Bool.and_eq_true, decide_eq_true_eq] at fits
  obtain ⟨⟨⟨⟨code, three⟩, supplied⟩, one⟩, present⟩ := fits
  refine ⟨state, cmd, reached, next, ⟨code, ?_, present, ?_, rfl⟩, supplied,
    ?_⟩
  · rw [three]
    decide
  · rw [one]
    decide
  · rw [wantedEntries_attach code, one]

/-- One record of sixteen bytes for one entry. -/
theorem one_record_gathersExactly :
    ∃ state cmd, backend.Reached state ∧
      state.machine.nextCommand = some cmd ∧
      Gathers (Env.steady 1) state.machine.device.gpu cmd
        state.machine.memory ∧
      GathersExactly (Env.steady 1) state.machine.device.gpu cmd
        state.machine.memory := by
  obtain ⟨state, cmd, reached, next, attaches, supplied, one⟩ :=
    exists_fetchAttach 16 (by decide +kernel)
  refine ⟨state, cmd, reached, next, .attach attaches rfl,
    (reached_gathersExactly_iff reached next (.inl attaches.code) _).mpr
      ⟨?_, ?_, ?_, ?_⟩⟩
  · intro _
    rw [supplied, one]
    decide
  · intro _ _
    rw [supplied, one]
    decide
  · intro code _ absent
    rw [backedId_attach code] at absent
    exact absurd absent attaches.present
  · intro _ _ zero
    rw [one] at zero
    cases zero

/-- Thirty-two bytes for one entry overrun the array of sixteen. -/
theorem long_descriptor_overflows :
    ∃ state cmd, backend.Reached state ∧
      state.machine.nextCommand = some cmd ∧ BacksResource cmd ∧
      ¬GathersExactly (Env.steady 1) state.machine.device.gpu cmd
        state.machine.memory := by
  obtain ⟨state, cmd, reached, next, attaches, supplied, one⟩ :=
    exists_fetchAttach 32 (by decide +kernel)
  refine ⟨state, cmd, reached, next, .inl attaches.code, ?_⟩
  intro exactly
  obtain ⟨bytes, gathered, total⟩ := gatherBytes_returns
    (nextCommand_mapped (reached_mapped reached) next) state.machine.memory
  have bounded := exactly.bounded (.attach attaches rfl) bytes gathered
  rw [total, supplied, one] at bounded
  exact absurd bounded (by decide)

end VirtioGpu.Backend
