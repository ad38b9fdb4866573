import Mathlib.Logic.Function.Basic
import VirtioGpu.Block.Queue
import VirtioGpu.Block.Transfer
import VirtioGpu.Foundation.Transition

namespace VirtioGpu.Block

open Foundation
open Function

/-! Requests whose threads share the position of one descriptor. -/

/-- A request, with the answers that the kernel has for it. -/
structure BlockJob where
  request : BlockifReq
  direction : Direction
  kernel : BlockKernel

/-- The position that `lseek` sets, or the error without a transfer. -/
def BlockJob.seek (ctxt : BlockifCtxt) (job : BlockJob) : Except Int Nat :=
  if job.direction = .write ∧ ctxt.rdonly then .error erofs
  else if job.kernel.lseek (ctxt.position job.request) then
    .ok (ctxt.position job.request).toNat
  else .error 0

/-- `read` or `write` at the shared position, with the bytes it moves. -/
def BlockJob.move (ctxt : BlockifCtxt) (job : BlockJob) (memory : Memory)
    (file : FileBytes) (position : Nat) : Transferred × Nat :=
  let request := job.request
  match job.kernel.transfer with
  | .error errno => (⟨memory, file, request.resid, errno⟩, 0)
  | .ok limit =>
      match job.direction with
      | .read =>
          let bytes := file.readAt position (min limit request.iovcnt)
          (⟨memory.store request.iov bytes, file,
            request.resid - bytes.length, 0⟩, bytes.length)
      | .write =>
          let bytes := memory.read request.iov (min limit request.iovcnt)
          (⟨memory, file.writeAt position bytes,
            request.resid - bytes.length,
            blockifFlushCache ctxt job.kernel⟩, bytes.length)

/-- The two calls, one right after the other, are `blockif_proc`. -/
theorem blockifProc_eq_seek_move (ctxt : BlockifCtxt) (job : BlockJob)
    (memory : Memory) (file : FileBytes) :
    blockifProc ctxt job.kernel job.request job.direction memory file =
      match job.seek ctxt with
      | .error err => ⟨memory, file, job.request.resid, err⟩
      | .ok position => (job.move ctxt memory file position).1 := by
  unfold blockifProc BlockJob.seek BlockJob.move
  cases job.direction with
  | read =>
      cases sought : job.kernel.lseek (ctxt.position job.request) with
      | false => simp [sought]
      | true => cases job.kernel.transfer <;> simp [sought]
  | write =>
      cases ctxt.rdonly with
      | true => simp
      | false =>
          cases sought : job.kernel.lseek (ctxt.position job.request) with
          | false => simp [sought]
          | true => cases job.kernel.transfer <;> simp [sought]

/-- What requests leave behind: `resid` and the error of each that ended. -/
structure Outcome where
  memory : Memory
  file : FileBytes
  results : Nat → Option (Int × Int)

def Outcome.record (outcome : Outcome) (i : Nat) (moved : Transferred) :
    Outcome where
  memory := moved.memory
  file := moved.file
  results := update outcome.results i (some (moved.resid, moved.err))

/-- The next request of a sequential execution. -/
def serialStep (ctxt : BlockifCtxt) (jobs : List BlockJob)
    (outcome : Outcome) (i : Nat) : Outcome :=
  match jobs[i]? with
  | none => outcome
  | some job => outcome.record i (blockifProc ctxt job.kernel job.request
      job.direction outcome.memory outcome.file)

/-- `between` has the requests between their seek and their transfer, `moves`
the position of each transfer, `finished` the requests in the order of their
ends. -/
structure SharedFile where
  outcome : Outcome
  position : Nat
  between : List Nat
  moves : List (Nat × Nat)
  finished : List Nat

def SharedFile.fresh (memory : Memory) (file : FileBytes)
    (position : Nat) : SharedFile :=
  ⟨⟨memory, file, fun _ => none⟩, position, [], [], []⟩

inductive FileLabel where
  | seek (i : Nat)
  | transfer (i : Nat)
  deriving Repr, DecidableEq

def seekAct (ctxt : BlockifCtxt) (job : BlockJob) (state : SharedFile)
    (i : Nat) : Option SharedFile :=
  if i ∈ state.between ∨ (state.outcome.results i).isSome ∨
      blockifNumthr ≤ state.between.length then none
  else
    match job.seek ctxt with
    | .error err => some { state with
        outcome := state.outcome.record i
          ⟨state.outcome.memory, state.outcome.file, job.request.resid, err⟩
        finished := state.finished ++ [i] }
    | .ok position => some { state with
        position := position
        between := state.between ++ [i] }

def transferAct (ctxt : BlockifCtxt) (job : BlockJob) (state : SharedFile)
    (i : Nat) : Option SharedFile :=
  if i ∈ state.between then
    let moved := job.move ctxt state.outcome.memory state.outcome.file
      state.position
    some {
      outcome := state.outcome.record i moved.1
      position := state.position + moved.2
      between := state.between.erase i
      moves := state.moves ++ [(i, state.position)]
      finished := state.finished ++ [i] }
  else none

def fileAct (ctxt : BlockifCtxt) (jobs : List BlockJob)
    (state : SharedFile) : FileLabel → Option SharedFile
  | .seek i => jobs[i]?.bind fun job => seekAct ctxt job state i
  | .transfer i => jobs[i]?.bind fun job => transferAct ctxt job state i

def fileSystem (ctxt : BlockifCtxt) (jobs : List BlockJob)
    (memory : Memory) (file : FileBytes) :
    TransitionSystem SharedFile FileLabel where
  initial := fun state => ∃ position, state = .fresh memory file position
  step := fun before label after =>
    fileAct ctxt jobs before label = some after

/-- Where the transfer of a request belongs. -/
def ownPosition (ctxt : BlockifCtxt) (jobs : List BlockJob) (i : Nat) :
    Option Nat :=
  jobs[i]?.map fun job => (ctxt.position job.request).toNat

/-- Every transfer is at its own offset, and the ended requests might have
run one after the other. -/
structure SharedFile.Serial (ctxt : BlockifCtxt) (jobs : List BlockJob)
    (memory : Memory) (file : FileBytes) (state : SharedFile) : Prop where
  placed : ∀ move ∈ state.moves,
    ownPosition ctxt jobs move.1 = some move.2
  serial : ∃ order : List Nat, order.Nodup ∧
    (∀ i, i ∈ order ↔ (state.outcome.results i).isSome) ∧
    state.outcome = order.foldl (serialStep ctxt jobs)
      ⟨memory, file, fun _ => none⟩

/-- A step that takes the position away from a request that is about to make
its transfer there. -/
def displaces (ctxt : BlockifCtxt) (jobs : List BlockJob)
    (state : SharedFile) : FileLabel → Bool
  | .seek i => jobs[i]?.any fun job =>
      match job.seek ctxt with
      | .error _ => false
      | .ok position => state.between.any fun j =>
          ownPosition ctxt jobs j ≠ some position
  | .transfer i => jobs[i]?.any fun job =>
      0 < (job.move ctxt state.outcome.memory state.outcome.file
        state.position).2 && state.between.any (· ≠ i)

section Shared

variable {ctxt : BlockifCtxt} {jobs : List BlockJob} {memory : Memory}
  {file : FileBytes} {state after : SharedFile} {job : BlockJob} {i : Nat}

theorem BlockJob.seek_ok {position : Nat}
    (sought : job.seek ctxt = .ok position) :
    position = (ctxt.position job.request).toNat := by
  unfold BlockJob.seek at sought
  split at sought
  · cases sought
  · split at sought
    · cases sought
      rfl
    · cases sought

structure SharedFile.Kept (ctxt : BlockifCtxt) (jobs : List BlockJob)
    (memory : Memory) (file : FileBytes) (state : SharedFile) : Prop where
  aimed : ∀ j ∈ state.between, ∃ job, jobs[j]? = some job ∧
    job.seek ctxt = .ok state.position
  alone : state.between.Nodup
  unsettled : ∀ j ∈ state.between, state.outcome.results j = none
  placed : ∀ move ∈ state.moves,
    ownPosition ctxt jobs move.1 = some move.2
  serial : state.outcome = state.finished.foldl (serialStep ctxt jobs)
    ⟨memory, file, fun _ => none⟩
  ended : ∀ i, i ∈ state.finished ↔ (state.outcome.results i).isSome
  once : state.finished.Nodup

theorem fresh_kept (position : Nat) :
    (SharedFile.fresh memory file position).Kept ctxt jobs memory file where
  aimed := fun j member => by cases member
  alone := List.nodup_nil
  unsettled := fun j member => by cases member
  placed := fun move member => by cases member
  serial := rfl
  ended := fun i => by simp [SharedFile.fresh]
  once := List.nodup_nil

theorem ownPosition_eq {position : Nat} (known : jobs[i]? = some job)
    (sought : job.seek ctxt = .ok position) :
    ownPosition ctxt jobs i = some position := by
  unfold ownPosition
  rw [known, Option.map_some, job.seek_ok sought]

/-- A request that ends has an outcome of its own and of a sequential
execution. -/
theorem SharedFile.Kept.record (kept : state.Kept ctxt jobs memory file)
    (known : jobs[i]? = some job)
    (unfinished : state.outcome.results i = none) :
    let moved := blockifProc ctxt job.kernel job.request job.direction
      state.outcome.memory state.outcome.file
    let finished := state.finished ++ [i]
    state.outcome.record i moved =
        finished.foldl (serialStep ctxt jobs)
          ⟨memory, file, fun _ => none⟩ ∧
      (∀ j, j ∈ finished ↔
        ((state.outcome.record i moved).results j).isSome) ∧
      finished.Nodup := by
  intro moved finished
  have new : i ∉ state.finished := by
    rw [kept.ended, unfinished]
    decide
  refine ⟨?_, ?_, ?_⟩
  · rw [List.foldl_append, ← kept.serial]
    simp only [List.foldl_cons, List.foldl_nil, serialStep, known]
    rfl
  · intro j
    rw [List.mem_append, List.mem_singleton, kept.ended]
    by_cases here : j = i
    · simp [here, Outcome.record]
    · simp [here, Outcome.record]
  · exact nodup_concat new kept.once

theorem SharedFile.Kept.seek (kept : state.Kept ctxt jobs memory file)
    (known : jobs[i]? = some job)
    (allowed : displaces ctxt jobs state (.seek i) = false)
    (acted : seekAct ctxt job state i = some after) :
    after.Kept ctxt jobs memory file := by
  obtain ⟨begun, acted⟩ := Option.ite_none_left_eq_some.mp acted
  simp only [not_or, Bool.not_eq_true, Option.isSome_eq_false_iff,
    Option.isNone_iff_eq_none] at begun
  obtain ⟨away, new, _⟩ := begun
  cases sought : job.seek ctxt with
  | error err =>
      rw [sought] at acted
      cases acted
      have same := blockifProc_eq_seek_move ctxt job state.outcome.memory
        state.outcome.file
      rw [sought] at same
      have recorded := kept.record known new
      rw [same] at recorded
      obtain ⟨serial, ended, once⟩ := recorded
      refine ⟨kept.aimed, kept.alone, ?_, kept.placed, serial, ended, once⟩
      intro j member
      have apart : j ≠ i := fun same => away (same ▸ member)
      simp [Outcome.record, apart, kept.unsettled j member]
  | ok position =>
      rw [sought] at acted
      cases acted
      refine ⟨?_, ?_, ?_, kept.placed, kept.serial, kept.ended, kept.once⟩
      · intro j member
        cases List.mem_append.mp member with
        | inl earlier =>
            obtain ⟨other, there, its⟩ := kept.aimed j earlier
            refine ⟨other, there, ?_⟩
            have own := ownPosition_eq there its
            simp only [displaces, known, Option.any_some, sought] at allowed
            have same := List.any_eq_false.mp allowed j earlier
            simp only [decide_eq_true_eq, not_not] at same
            rw [own] at same
            rw [its, Option.some.inj same]
        | inr last =>
            cases List.mem_singleton.mp last
            exact ⟨job, known, sought⟩
      · exact nodup_concat away kept.alone
      · intro j member
        cases List.mem_append.mp member with
        | inl earlier => exact kept.unsettled j earlier
        | inr last =>
            cases List.mem_singleton.mp last
            exact new

theorem SharedFile.Kept.transfer
    (kept : state.Kept ctxt jobs memory file)
    (known : jobs[i]? = some job)
    (allowed : displaces ctxt jobs state (.transfer i) = false)
    (acted : transferAct ctxt job state i = some after) :
    after.Kept ctxt jobs memory file := by
  obtain ⟨member, acted⟩ := Option.ite_none_right_eq_some.mp acted
  obtain ⟨_, same, sought⟩ := kept.aimed i member
  cases known.symm.trans same
  have proc := blockifProc_eq_seek_move ctxt job state.outcome.memory
    state.outcome.file
  rw [sought] at proc
  have recorded := kept.record known (kept.unsettled i member)
  rw [proc] at recorded
  obtain ⟨serial, ended, once⟩ := recorded
  cases acted
  refine ⟨?_, kept.alone.erase i, ?_, ?_, serial, ended, once⟩
  · intro j listed
    obtain ⟨apart, earlier⟩ := (kept.alone.mem_erase_iff).mp listed
    obtain ⟨other, there, its⟩ := kept.aimed j earlier
    refine ⟨other, there, ?_⟩
    have still : (job.move ctxt state.outcome.memory state.outcome.file
        state.position).2 = 0 := by
      simp only [displaces, known, Option.any_some, Bool.and_eq_false_iff,
        decide_eq_false_iff_not, Nat.not_lt, Nat.le_zero] at allowed
      refine allowed.resolve_right fun alone => ?_
      have same := List.any_eq_false.mp alone j earlier
      simp [apart] at same
    rw [its]
    show Except.ok state.position = Except.ok (state.position + _)
    rw [still, Nat.add_zero]
  · intro j listed
    obtain ⟨apart, earlier⟩ := (kept.alone.mem_erase_iff).mp listed
    simp [Outcome.record, apart, kept.unsettled j earlier]
  · intro move moved
    cases List.mem_append.mp moved with
    | inl earlier => exact kept.placed move earlier
    | inr last =>
        cases List.mem_singleton.mp last
        exact ownPosition_eq known sought

theorem SharedFile.Kept.step {before : SharedFile} {label : FileLabel}
    (kept : before.Kept ctxt jobs memory file)
    (allowed : displaces ctxt jobs before label = false)
    (acted : fileAct ctxt jobs before label = some after) :
    after.Kept ctxt jobs memory file := by
  cases label with
  | seek i =>
      obtain ⟨job, known, acted⟩ := Option.bind_eq_some_iff.mp acted
      exact kept.seek known allowed acted
  | transfer i =>
      obtain ⟨job, known, acted⟩ := Option.bind_eq_some_iff.mp acted
      exact kept.transfer known allowed acted

/-- A request between its two calls can make the second one at once. -/
theorem exists_transfer (ctxt : BlockifCtxt) (state : SharedFile)
    (known : jobs[i]? = some job) (member : i ∈ state.between) :
    ∃ last, fileAct ctxt jobs state (.transfer i) = some last ∧
      (i, state.position) ∈ last.moves := by
  simp only [fileAct, known, Option.bind_some, transferAct, if_pos member]
  exact ⟨_, rfl, List.mem_append_right _ List.mem_cons_self⟩

/-- Right behind a displacing step, the other request can make its transfer,
and makes it elsewhere. -/
theorem SharedFile.Kept.astray {label : FileLabel}
    (kept : state.Kept ctxt jobs memory file)
    (displacing : displaces ctxt jobs state label = true)
    (acted : fileAct ctxt jobs state label = some after) :
    ∃ j last, fileAct ctxt jobs after (.transfer j) = some last ∧
      ∃ move ∈ last.moves, ownPosition ctxt jobs move.1 ≠ some move.2 := by
  cases label with
  | seek i =>
      obtain ⟨job, known, acted⟩ := Option.bind_eq_some_iff.mp acted
      obtain ⟨_, acted⟩ := Option.ite_none_left_eq_some.mp acted
      simp only [displaces, known, Option.any_some] at displacing
      cases sought : job.seek ctxt with
      | error err =>
          rw [sought] at displacing
          cases displacing
      | ok position =>
          rw [sought] at acted displacing
          cases acted
          obtain ⟨j, member, elsewhere⟩ := List.any_eq_true.mp displacing
          obtain ⟨other, there, _⟩ := kept.aimed j member
          obtain ⟨last, transferred, moved⟩ := exists_transfer ctxt
            { state with
              position := position
              between := state.between ++ [i] } there
            (List.mem_append_left _ member)
          exact ⟨j, last, transferred, _, moved,
            of_decide_eq_true elsewhere⟩
  | transfer i =>
      obtain ⟨job, known, acted⟩ := Option.bind_eq_some_iff.mp acted
      obtain ⟨_, acted⟩ := Option.ite_none_right_eq_some.mp acted
      cases acted
      simp only [displaces, known, Option.any_some, Bool.and_eq_true,
        decide_eq_true_eq] at displacing
      obtain ⟨j, member, apart⟩ := List.any_eq_true.mp displacing.2
      obtain ⟨other, there, its⟩ := kept.aimed j member
      have remains : j ∈ state.between.erase i :=
        kept.alone.mem_erase_iff.mpr ⟨of_decide_eq_true apart, member⟩
      have moves := displacing.1
      generalize job.move ctxt state.outcome.memory state.outcome.file
        state.position = moved at moves ⊢
      obtain ⟨last, transferred, astray⟩ := exists_transfer ctxt
        ⟨state.outcome.record i moved.1, state.position + moved.2,
          state.between.erase i, state.moves ++ [(i, state.position)],
          state.finished ++ [i]⟩ there remains
      refine ⟨j, last, transferred, _, astray, ?_⟩
      rw [ownPosition_eq there its]
      intro same
      have equal := Option.some.inj same
      dsimp only at equal
      omega

end Shared

/-- In a run without displacing steps. -/
theorem fileSystem_serial {ctxt : BlockifCtxt} {jobs : List BlockJob}
    {memory : Memory} {file : FileBytes} {state : SharedFile}
    (reached : (fileSystem ctxt jobs memory file).ReachedWhere
      (fun before label => displaces ctxt jobs before label = false)
      state) :
    state.Serial ctxt jobs memory file := by
  have kept : state.Kept ctxt jobs memory file := by
    apply TransitionSystem.ReachedWhere.invariant
      (fun state => state.Kept ctxt jobs memory file) _ _ reached
    · rintro _ ⟨position, rfl⟩
      exact fresh_kept position
    · exact fun _ _ _ kept allowed acted => kept.step allowed acted
  exact ⟨kept.placed, state.finished, kept.once, kept.ended, kept.serial⟩

def smallWrite (iov : Nat) (offset : Int64) : BlockJob :=
  ⟨⟨iov, 2, offset, 2, by decide⟩, .write, obliging⟩

/-- Two writes of two bytes each, the first to the start of the file. -/
def twoWrites : List BlockJob := [smallWrite 512 0, smallWrite 1024 4]

def twoArrays : Memory := (Memory.zero.store 512 [11, 12]).store 1024 [21, 22]

theorem fileSystem_serial_twoWrites :
    ∃ state, (fileSystem wholeFile twoWrites twoArrays
        smallFile).ReachedWhere (fun before label =>
          displaces wholeFile twoWrites before label = false) state ∧
      state.outcome.file = [11, 12, 3, 4, 21, 22, 7, 8] ∧
      state.Serial wholeFile twoWrites twoArrays smallFile := by
  obtain ⟨state, reached, checked⟩ :=
    @TransitionSystem.exists_reachedWhere _ _
      (fileSystem wholeFile twoWrites twoArrays smallFile)
      (fun before label =>
        displaces wholeFile twoWrites before label = false) _
      (fileAct wholeFile twoWrites) (.fresh twoArrays smallFile 0)
      [.seek 1, .transfer 1, .seek 0, .transfer 0]
      (fun state =>
        decide (state.outcome.file = [11, 12, 3, 4, 21, 22, 7, 8]))
      (fun acted => acted) ⟨0, rfl⟩ (by decide +kernel)
  exact ⟨state, reached, of_decide_eq_true checked,
    fileSystem_serial reached⟩

/-- Both seek before either writes, and both write behind the second seek. -/
theorem interleaved_writes_astray :
    ∃ state, (fileSystem wholeFile twoWrites twoArrays smallFile).Reached
        state ∧
      state.outcome.file = [1, 2, 3, 4, 11, 12, 21, 22] ∧
      ¬state.Serial wholeFile twoWrites twoArrays smallFile := by
  obtain ⟨state, reached, checked⟩ :=
    @TransitionSystem.exists_reached _ _
      (fileSystem wholeFile twoWrites twoArrays smallFile)
      (fileAct wholeFile twoWrites) (.fresh twoArrays smallFile 0)
      [.seek 0, .seek 1, .transfer 0, .transfer 1]
      (fun state => decide (
        state.outcome.file = [1, 2, 3, 4, 11, 12, 21, 22] ∧
        state.moves = [(0, 4), (1, 6)]))
      (fun acted => acted) ⟨0, rfl⟩ (by decide +kernel)
  obtain ⟨written, moves⟩ := of_decide_eq_true checked
  refine ⟨state, reached, written, fun serial => ?_⟩
  have placed := serial.placed (0, 4) (moves ▸ List.mem_cons_self)
  revert placed
  decide

end VirtioGpu.Block
