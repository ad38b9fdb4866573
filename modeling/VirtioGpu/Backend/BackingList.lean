import VirtioGpu.Backend.Representation

namespace VirtioGpu.Backend

open Foundation
open Virtio
open Gpu

/-! The backing lists of resources, `iov` and `iovcnt`, along every run. -/

/-- A resource that counts entries has a live array of that many. -/
def Listed (r2d : Resource2d) : Prop :=
  0 < r2d.iovcnt →
    ∃ entries, r2d.iov = .live entries ∧ entries.length = r2d.iovcnt

/-- The fault of indexing an array that is not there or not there any more. -/
def IndexesLost (fault : Fault) : Prop :=
  fault = .nullPointer ∨ fault = .useAfterFree

structure BackingListed (gpu : GpuState) : Prop where
  listed : ∀ r2d, r2d ∈ gpu.r2dList → Listed r2d
  rows : ∀ r2d, r2d ∈ gpu.r2dList → ∀ memory req image heights data,
    Avoids (transferRows memory req r2d image heights data) IndexesLost

/-! The row loop. -/

theorem transferRow_avoids (memory : Memory) (bufSize dst total : Nat)
    (entries : List IoVec) (srcOffset done : Nat) (data : Memory) :
    Avoids (transferRow memory bufSize dst total entries srcOffset done data)
      IndexesLost := by
  induction entries generalizing srcOffset done data with
  | nil => exact .ok
  | cons entry rest induction =>
      unfold transferRow
      cases entry.base with
      | none => exact induction _ _ _
      | some base =>
          refine .ite (fun _ => induction _ _ _) fun _ => ?_
          refine .ite (fun _ => ?_) fun _ => induction _ _ _
          refine .ite (fun _ => .error ?_) fun _ => ?_
          · rintro (null | freed)
            · cases null
            · cases freed
          · exact .ite (fun _ => .ok) fun _ => induction _ _ _

theorem Listed.backingEntries {r2d : Resource2d} (listed : Listed r2d) :
    ∃ entries, backingEntries r2d = .ok entries ∧
      entries.length = r2d.iovcnt := by
  unfold Gpu.backingEntries
  rcases Nat.eq_zero_or_pos r2d.iovcnt with zero | positive
  · rw [if_pos zero]
    exact ⟨[], rfl, zero.symm⟩
  · obtain ⟨entries, live, size⟩ := listed positive
    rw [if_neg (Nat.ne_of_gt positive), live]
    dsimp only
    rw [if_neg (by omega), ← size, List.take_length]
    exact ⟨entries, rfl, rfl⟩

theorem Listed.rows {r2d : Resource2d} (listed : Listed r2d)
    (memory : Memory) (req : TransferToHost2d) (image : Image)
    (heights : List Nat) (data : Memory) :
    Avoids (transferRows memory req r2d image heights data) IndexesLost := by
  obtain ⟨entries, known, _⟩ := listed.backingEntries
  induction heights generalizing data with
  | nil => exact .ok
  | cons height rest induction =>
      unfold transferRows
      rw [known]
      refine .bind .ok fun _ _ => .bind ?_ fun next _ => induction next
      exact transferRow_avoids _ _ _ _ _ _ _ _

theorem backingListed_iff {gpu : GpuState} :
    BackingListed gpu ↔ ∀ r2d, r2d ∈ gpu.r2dList → Listed r2d := by
  constructor
  · intro backed
    exact backed.listed
  · intro listed
    exact ⟨listed, fun r2d member => (listed r2d member).rows⟩

/-! The commands that would break a list. -/

/-- `DETACH_BACKING` does not find a resource that counts entries, and
`ATTACH_BACKING` does not run out of memory between its two allocations. -/
structure KeepsListed (env : Env) (gpu : GpuState) (cmd : Command)
    (memory : Memory) : Prop where
  detaches : CtrlCmd.ofCode cmd.hdr.type = some .resourceDetachBacking →
    ∀ r2d, r2d ∈ virtioGpuFindResource2d gpu
        (ResourceDetachBacking.load memory cmd.address).resourceId →
      r2d.iovcnt = 0
  attaches : CtrlCmd.ofCode cmd.hdr.type = some .resourceAttachBacking →
    2 ≤ cmd.iovcnt →
    virtioGpuFindResource2d gpu
      (ResourceAttachBacking.load memory cmd.address).resourceId ≠ none →
    (ResourceAttachBacking.load memory cmd.address).nrEntries ≠ 0 →
    env.iovAlloc = true → env.entriesAlloc = true

instance (env : Env) (gpu : GpuState) (cmd : Command) (memory : Memory) :
    Decidable (KeepsListed env gpu cmd memory) :=
  decidable_of_iff
    ((CtrlCmd.ofCode cmd.hdr.type = some .resourceDetachBacking →
        ∀ r2d, r2d ∈ virtioGpuFindResource2d gpu
            (ResourceDetachBacking.load memory cmd.address).resourceId →
          r2d.iovcnt = 0) ∧
      (CtrlCmd.ofCode cmd.hdr.type = some .resourceAttachBacking →
        2 ≤ cmd.iovcnt →
        virtioGpuFindResource2d gpu
          (ResourceAttachBacking.load memory cmd.address).resourceId ≠ none →
        (ResourceAttachBacking.load memory cmd.address).nrEntries ≠ 0 →
        env.iovAlloc = true → env.entriesAlloc = true))
    ⟨fun keeps => ⟨keeps.1, keeps.2⟩,
      fun keeps => ⟨keeps.detaches, keeps.attaches⟩⟩

theorem gatherEntries_length {cmd : Command} {memory : Memory}
    {nrEntries : Nat} {entries : List MemEntry}
    (gathered : gatherEntries cmd memory nrEntries = .ok entries) :
    entries.length = nrEntries := by
  obtain ⟨bytes, _, rest⟩ := bind_eq_ok gathered
  split at rest
  · cases rest
  · cases rest
    rw [List.length_map, List.length_range]

theorem listed_of_gathered {cmd : Command} {memory : Memory}
    {nrEntries : Nat} {entries : List MemEntry} {r2d : Resource2d}
    (ctx : Vmctx)
    (gathered : gatherEntries cmd memory nrEntries = .ok entries)
    (iov : r2d.iov = .live (backingOf ctx entries))
    (iovcnt : r2d.iovcnt = nrEntries) : Listed r2d := by
  intro _
  refine ⟨_, iov, ?_⟩
  rw [backingOf, List.length_map, gatherEntries_length gathered, iovcnt]

theorem listed_of_empty {r2d : Resource2d} (empty : r2d.iovcnt = 0) :
    Listed r2d := by
  intro positive
  rw [empty] at positive
  cases positive

theorem Backs.listed {env : Env} {gpu : GpuState} {cmd : Command}
    {memory : Memory} {resourceId iovcnt : Nat} {iov : IovArray}
    (keeps : KeepsListed env gpu cmd memory)
    (backs : Backs env gpu cmd memory cmd.address resourceId iov iovcnt)
    (r2d : Resource2d) : Listed { r2d with iov := iov, iovcnt := iovcnt } := by
  cases backs with
  | attached attaches entriesAlloc gathered =>
      exact listed_of_gathered gpu.vmctx gathered rfl rfl
  | lost attaches entriesAlloc =>
      have allocated := keeps.attaches attaches.code attaches.room
        attaches.present attaches.nonempty attaches.iovAlloc
      rw [allocated] at entriesAlloc
      cases entriesAlloc
  | detached code found =>
      have empty := keeps.detaches code _ found
      exact listed_of_empty empty

theorem change_backingListed {env : Env} {cmd : Command} {memory : Memory}
    {before after : GpuState} (backed : BackingListed before)
    (keeps : KeepsListed env before cmd memory)
    (changed : Change env cmd memory cmd.address before after) :
    BackingListed after := by
  rw [backingListed_iff] at backed ⊢
  refine changed.listed backed ?_ ?_
  · intro r2d creation
    cases creation with
    | pixels code | bare code accepted empty | blob code accepted =>
        exact listed_of_empty rfl
    | cursor code accepted entries gathered small iovAlloc made =>
        exact listed_of_gathered before.vmctx gathered rfl rfl
  · intro r2d resourceId iov iovcnt reason _
    exact Backs.listed keeps reason r2d

/-! The two exits that break a list. -/

theorem mem_modifyResource_of_find {r2dList : List Resource2d}
    {resourceId : Nat} {r2d : Resource2d}
    (modify : Resource2d → Resource2d)
    (found : r2dList.find? (fun r2d => r2d.resourceId == resourceId) =
      some r2d) :
    modify r2d ∈ modifyResource resourceId modify r2dList := by
  induction r2dList with
  | nil => cases found
  | cons head tail induction =>
      rw [List.find?_cons] at found
      unfold modifyResource
      cases named : head.resourceId == resourceId with
      | true =>
          rw [named] at found
          cases found
          exact List.mem_cons_self
      | false =>
          rw [named] at found
          exact List.mem_cons_of_mem _ (induction found)

theorem setBacking_breaks {gpu : GpuState} {resourceId iovcnt : Nat}
    {iov : IovArray} {r2d : Resource2d}
    (found : virtioGpuFindResource2d gpu resourceId = some r2d)
    (counts : 0 < iovcnt) (lost : ∀ entries, iov ≠ .live entries) :
    ¬BackingListed (setBacking gpu resourceId iov iovcnt) := by
  intro backed
  obtain ⟨entries, live, _⟩ := backed.listed _
    (mem_modifyResource_of_find _ found) counts
  exact lost entries live

theorem detach_breaks {env : Env} {gpu : GpuState} {cmd : Command}
    {memory : Memory} {reply : Reply} {r2d : Resource2d}
    (code : CtrlCmd.ofCode cmd.hdr.type = some .resourceDetachBacking)
    (based : cmd.base 0 = .ok cmd.address)
    (found : virtioGpuFindResource2d gpu
      (ResourceDetachBacking.load memory cmd.address).resourceId = some r2d)
    (counts : 0 < r2d.iovcnt)
    (ran : ctrlDispatch env gpu cmd memory = .ok reply) :
    ¬BackingListed reply.gpu := by
  simp only [ctrlDispatch, code, virtioGpuCmdResourceDetachBacking] at ran
  rw [based] at ran
  obtain ⟨address, same, rest⟩ := bind_eq_ok ran
  cases same
  simp only [found] at rest
  obtain ⟨_, _, rest⟩ := bind_eq_ok rest
  cases rest
  exact setBacking_breaks found counts nofun

theorem attach_breaks {env : Env} {gpu : GpuState} {cmd : Command}
    {memory : Memory} {reply : Reply}
    (attaches : AttachesBacking env gpu cmd
      (ResourceAttachBacking.load memory cmd.address))
    (entriesAlloc : env.entriesAlloc = false)
    (based : cmd.base 0 = .ok cmd.address)
    (ran : ctrlDispatch env gpu cmd memory = .ok reply) :
    ¬BackingListed reply.gpu := by
  obtain ⟨r2d, found⟩ := Option.ne_none_iff_exists'.mp attaches.present
  simp only [ctrlDispatch, attaches.code,
    virtioGpuCmdResourceAttachBacking] at ran
  rw [based] at ran
  obtain ⟨address, same, rest⟩ := bind_eq_ok ran
  cases same
  rw [if_neg (Nat.not_lt.mpr attaches.room)] at rest
  simp only [found, if_neg attaches.nonempty, attaches.iovAlloc,
    entriesAlloc] at rest
  cases rest
  exact setBacking_breaks found (Nat.pos_of_ne_zero attaches.nonempty) nofun

theorem keepsListed_of_backingListed {env : Env} {gpu : GpuState}
    {cmd : Command} {memory : Memory} {reply : Reply}
    (based : cmd.base 0 = .ok cmd.address)
    (ran : ctrlDispatch env gpu cmd memory = .ok reply)
    (backed : BackingListed reply.gpu) : KeepsListed env gpu cmd memory := by
  constructor
  · intro code r2d found
    rcases Nat.eq_zero_or_pos r2d.iovcnt with zero | positive
    · exact zero
    · exact absurd backed (detach_breaks code based found positive ran)
  · intro code room present nonempty iovAlloc
    cases entriesAlloc : env.entriesAlloc with
    | true => rfl
    | false =>
        exact absurd backed (attach_breaks
          ⟨code, room, present, nonempty, iovAlloc⟩ entriesAlloc based ran)

/-! Runs. -/

theorem reached_listed {state : Traced}
    (reached : backend.ReachedWhere (commandsMeet KeepsListed) state) :
    BackingListed state.machine.device.gpu := by
  refine reached_gpu_invariant BackingListed ?_ ?_ ?_ reached
  · intro _ _ _ _
    rw [backingListed_iff]
    intro r2d member
    cases member
  · intro env cmd memory before after backed _ keeps changed
    exact change_backingListed backed keeps changed
  · intro before after _ cleared
    rw [backingListed_iff, resetGpu_r2dList cleared]
    intro r2d member
    cases member

/-- The lists are whole as long as every command keeps them, and the first
command that does not breaks one. -/
theorem reached_backingListed {state : Traced}
    (reached : backend.ReachedWhere (commandsMeet KeepsListed) state) :
    BackingListed state.machine.device.gpu ∧
      ∀ label after, backend.step state label after →
        (BackingListed after.machine.device.gpu ↔
          commandsMeet KeepsListed state label) := by
  refine ⟨reached_listed reached, ?_⟩
  intro label after stepped
  constructor
  · rintro backed env cmd rfl next
    obtain ⟨_, machine, events, ran, rfl⟩ := stepped
    obtain ⟨reply, handled, changed⟩ := (bhStep_section ran).dispatched next
    rw [show (Traced.mk machine _).machine.device.gpu = reply.gpu from changed]
      at backed
    exact keepsListed_of_backingListed (nextCommand_base next) handled backed
  · intro permitted
    exact reached_listed (.step reached permitted stepped)

/-- A resource with one entry attached. -/
theorem attached_backingListed :
    ∃ state, backend.ReachedWhere (commandsMeet KeepsListed) state ∧
      state.machine.device.gpu.r2dList.any (fun r2d => r2d.iovcnt == 1) =
        true ∧
      BackingListed state.machine.device.gpu := by
  obtain ⟨state, reached, checked⟩ :=
    @exists_serveRequests
      (fun env gpu cmd memory => decide (KeepsListed env gpu cmd memory))
      KeepsListed
      [createRequest 1 64 48,
        request .resourceAttachBacking (le32 1 ++ le32 1)]
      (fun state =>
        state.machine.device.gpu.r2dList.any fun r2d => r2d.iovcnt == 1)
      (fun _ _ _ _ keeps => of_decide_eq_true keeps)
      (by decide +kernel)
  exact ⟨state, reached, checked, (reached_backingListed reached).1⟩

/-- `DETACH_BACKING` drops the array and keeps its count, and the next
`TRANSFER_TO_HOST_2D` indexes a null pointer. -/
theorem detached_still_counted :
    ∃ state, backend.Reached state ∧
      ¬BackingListed state.machine.device.gpu ∧
      ∃ env cmd memory,
        ctrlDispatch env state.machine.device.gpu cmd memory =
          .error .nullPointer := by
  obtain ⟨state, reached, checked⟩ :=
    @exists_serveRequests (fun _ _ _ _ => true) (fun _ _ _ _ => True)
      [createRequest 1 64 48,
        request .resourceAttachBacking (le32 1 ++ le32 1),
        request .resourceDetachBacking (le32 1 ++ le32 0)]
      (fun state =>
        (state.machine.device.gpu.r2dList.any fun r2d =>
          r2d.iovcnt == 1 && decide (r2d.iov = .null)) &&
        failsWith .nullPointer
          (ctrlDispatch (Env.steady 1) state.machine.device.gpu
            (requestCommand (transferRequest 1 64 48))
            (requestMemory 0 (transferRequest 1 64 48))))
      (fun _ _ _ _ _ => trivial)
      (by decide +kernel)
  obtain ⟨counted, fails⟩ := Bool.and_eq_true_iff.mp checked
  refine ⟨state, reached.mono (fun _ _ _ => trivial), ?_, Env.steady 1,
    requestCommand (transferRequest 1 64 48),
    requestMemory 0 (transferRequest 1 64 48), failsWith_eq fails⟩
  intro backed
  obtain ⟨r2d, member, lost⟩ := List.any_eq_true.mp counted
  obtain ⟨one, null⟩ := Bool.and_eq_true_iff.mp lost
  obtain ⟨entries, live, _⟩ := backed.listed r2d member (by
    rw [beq_iff_eq.mp one]
    exact Nat.one_pos)
  rw [of_decide_eq_true null] at live
  cases live

end VirtioGpu.Backend
