import VirtioGpu.Foundation.KeyedList
import VirtioGpu.Foundation.Transition
import VirtioGpu.Gpu.Backing
import VirtioGpu.Gpu.Release

namespace VirtioGpu.Gpu

open Foundation
open Virtio

/-! The resource table as a finite map from resource ids to resources. -/

theorem virtioGpuFindResource2d_eq (gpu : GpuState) (resourceId : Nat) :
    virtioGpuFindResource2d gpu resourceId =
      KeyedList.lookup Resource2d.resourceId gpu.r2dList resourceId := rfl

theorem removeResource_eq (r2dList : List Resource2d) (resourceId : Nat) :
    removeResource r2dList resourceId =
      KeyedList.remove Resource2d.resourceId r2dList resourceId := rfl

/-! The requests. -/

def Creates (cmd : Command) : Prop :=
  CtrlCmd.ofCode cmd.hdr.type = some .resourceCreate2d ∨
    CtrlCmd.ofCode cmd.hdr.type = some .resourceCreateBlob

def Unrefs (cmd : Command) : Prop :=
  CtrlCmd.ofCode cmd.hdr.type = some .resourceUnref

instance (cmd : Command) : Decidable (Creates cmd) :=
  inferInstanceAs (Decidable (_ ∨ _))

instance (cmd : Command) : Decidable (Unrefs cmd) :=
  inferInstanceAs (Decidable (_ = _))

/-- The `resource_id` of a request that creates or removes a resource. -/
def namedId (cmd : Command) (memory : Memory) : Nat :=
  match CtrlCmd.ofCode cmd.hdr.type with
  | some .resourceCreate2d =>
      (ResourceCreate2d.load memory cmd.address).resourceId
  | some .resourceCreateBlob =>
      (ResourceCreateBlob.load memory cmd.address).resourceId
  | _ => (ResourceUnref.load memory cmd.address).resourceId

def resourceOfCreateBlob (env : Env) (ctx : Vmctx) (cmd : Command)
    (memory : Memory) (req : ResourceCreateBlob) : Resource2d :=
  if req.nrEntries = 0 then
    Resource2d.fresh req.resourceId
  else if req.size > cursorBlobSize then
    { Resource2d.fresh req.resourceId with
      blob := true
      dmaInfo := some env.dmaCell }
  else
    { Resource2d.fresh req.resourceId with
      width := 64
      height := 64
      format := pixmanA8r8g8b8
      image := if env.imageAlloc then some env.imageCell else none
      iov := .live (backingOf ctx
        ((gatherEntries cmd memory req.nrEntries).toOption.getD []))
      iovcnt := req.nrEntries }

/-- The resource a request asks for, made of what the allocator hands out. -/
def createdResource (env : Env) (ctx : Vmctx) (cmd : Command)
    (memory : Memory) : Resource2d :=
  match CtrlCmd.ofCode cmd.hdr.type with
  | some .resourceCreateBlob =>
      resourceOfCreateBlob env ctx cmd memory
        (ResourceCreateBlob.load memory cmd.address)
  | _ =>
      resourceOfCreate2d (ResourceCreate2d.load memory cmd.address)
        env.imageCell

/-! The answers. -/

def RespType.isError : RespType → Bool
  | .okNodata | .okDisplayInfo | .okEdid => false
  | .errUnspec | .errOutOfMemory | .errInvalidScanoutId
  | .errInvalidResourceId | .errInvalidParameter => true

def Reply.Answers (reply : Reply) (type : RespType) : Prop :=
  reply.resp.hdr.type = type.code

instance (reply : Reply) (type : RespType) : Decidable (reply.Answers type) :=
  inferInstanceAs (Decidable (_ = _))

def Reply.Fails (reply : Reply) : Prop :=
  ∃ type : RespType, type.isError = true ∧ reply.Answers type

theorem Reply.Fails.not_ok {reply : Reply} (fails : reply.Fails) :
    ¬reply.Answers .okNodata := by
  obtain ⟨type, isError, answers⟩ := fails
  unfold Reply.Answers at answers ⊢
  rw [answers]
  cases type with
  | okNodata | okDisplayInfo | okEdid => cases isError
  | errUnspec | errOutOfMemory | errInvalidScanoutId | errInvalidResourceId
  | errInvalidParameter => decide

theorem answer_fails (gpu : GpuState) (cmd : Command) {type : RespType}
    (slot : Nat) (reads : List Access) (isError : type.isError = true) :
    (answer gpu cmd type slot reads).Fails :=
  ⟨type, isError, rfl⟩

/-! What a create can answer. -/

/-- An error and the table as it was, or `OK` and the requested resource under
an id that was free. -/
inductive CreateOutcome (env : Env) (before : GpuState) (cmd : Command)
    (memory : Memory) (reply : Reply) : Prop
  | refused (fails : reply.Fails)
      (same : reply.gpu.r2dList = before.r2dList)
  | accepted (answers : reply.Answers .okNodata)
      (absent : virtioGpuFindResource2d before (namedId cmd memory) = none)
      (inserted : reply.gpu.r2dList =
        createdResource env before.vmctx cmd memory :: before.r2dList)

section Handlers

variable (env : Env) (gpu : GpuState) (cmd : Command) (memory : Memory)

theorem virtioGpuCmdUnspec_outcome :
    Ensures (virtioGpuCmdUnspec gpu cmd)
      (CreateOutcome env gpu cmd memory) :=
  .ok (.refused ⟨.errUnspec, rfl, rfl⟩ rfl)

theorem virtioGpuCmdResourceCreate2d_outcome
    (code : CtrlCmd.ofCode cmd.hdr.type = some .resourceCreate2d)
    (based : cmd.base 0 = .ok cmd.address) :
    Ensures (virtioGpuCmdResourceCreate2d env gpu cmd memory)
      (CreateOutcome env gpu cmd memory) := by
  have named : namedId cmd memory =
      (ResourceCreate2d.load memory cmd.address).resourceId := by
    simp only [namedId, code]
  have created : createdResource env gpu.vmctx cmd memory =
      resourceOfCreate2d (ResourceCreate2d.load memory cmd.address)
        env.imageCell := by
    simp only [createdResource, code]
  unfold virtioGpuCmdResourceCreate2d
  refine .after based ?_
  dsimp only
  cases found : virtioGpuFindResource2d gpu
      (ResourceCreate2d.load memory cmd.address).resourceId with
  | some _ => exact .pure (.refused (answer_fails _ _ _ _ rfl) rfl)
  | none =>
      refine .ite (fun _ => .pure (.refused (answer_fails _ _ _ _ rfl) rfl))
        fun _ => .bind fun result made => ?_
      rcases result with ⟨after, image⟩
      rcases createImage_eq_ok made with ⟨_, rfl, rfl⟩ | ⟨bits, _, rfl, rfl⟩
      · exact .pure (.refused (answer_fails _ _ _ _ rfl) rfl)
      · refine .pure (.accepted rfl ?_ ?_)
        · rw [named]
          exact found
        · rw [created]
          rfl

/-- The image of a cursor blob, and the state that holds it. -/
theorem createImage_cursor {after : GpuState} {image : Option Nat}
    (made : createImage env gpu pixmanA8r8g8b8 64 64 = .ok (after, image)) :
    after.vmctx = gpu.vmctx ∧ after.r2dList = gpu.r2dList ∧
      image = if env.imageAlloc then some env.imageCell else none := by
  rcases createImage_eq_ok made with ⟨failed, rfl, rfl⟩ |
    ⟨bits, created, rfl, rfl⟩
  · refine ⟨rfl, rfl, ?_⟩
    cases allocates : env.imageAlloc with
    | true => exact absurd failed (cursorImage_created allocates)
    | false => rfl
  · refine ⟨rfl, rfl, ?_⟩
    rw [imageAlloc_of_cursorImage created]
    rfl

theorem virtioGpuCmdCreateBlob_outcome
    (code : CtrlCmd.ofCode cmd.hdr.type = some .resourceCreateBlob)
    (based : cmd.base 0 = .ok cmd.address) :
    Ensures (virtioGpuCmdCreateBlob env gpu cmd memory)
      (CreateOutcome env gpu cmd memory) := by
  have named : namedId cmd memory =
      (ResourceCreateBlob.load memory cmd.address).resourceId := by
    simp only [namedId, code]
  have created : createdResource env gpu.vmctx cmd memory =
      resourceOfCreateBlob env gpu.vmctx cmd memory
        (ResourceCreateBlob.load memory cmd.address) := by
    simp only [createdResource, code]
  unfold virtioGpuCmdCreateBlob
  refine .after based ?_
  have refuses : ∀ type slot reads, RespType.isError type = true →
      Ensures (pure (answer gpu cmd type slot reads) : Except Fault Reply)
        (CreateOutcome env gpu cmd memory) :=
    fun _ _ _ isError => .pure (.refused (answer_fails _ _ _ _ isError) rfl)
  refine .ite (fun _ => refuses _ _ _ rfl) fun _ => ?_
  refine .ite (fun _ => refuses _ _ _ rfl) fun _ => ?_
  refine .ite (fun _ => refuses _ _ _ rfl) fun _ => ?_
  dsimp only
  cases found : virtioGpuFindResource2d gpu
      (ResourceCreateBlob.load memory cmd.address).resourceId with
  | some _ => exact refuses _ _ _ rfl
  | none =>
      rw [← named] at found
      refine .ite (fun _ => refuses _ _ _ rfl) fun _ => ?_
      refine .ite (fun empty => .pure (.accepted rfl found ?_)) fun backed => ?_
      · rw [created, resourceOfCreateBlob, if_pos empty]
        rfl
      refine .ite (fun _ => refuses _ _ _ rfl) fun _ => ?_
      refine .bind fun entries gathered =>
        .ite (fun large => ?_) fun small => ?_
      · rcases virtioGpuCreateUdmabuf_cases env gpu entries with
          failed | ⟨_, made⟩
        · rw [failed]
          exact refuses _ _ _ rfl
        · rw [made]
          refine .pure (.accepted rfl found ?_)
          rw [created, resourceOfCreateBlob, if_neg backed, if_pos large]
          rfl
      · refine .bind fun result made => ?_
        rcases result with ⟨after, image⟩
        obtain ⟨vmctx, r2dList, rfl⟩ := createImage_cursor env gpu made
        refine .ite (fun _ => .pure (.refused (answer_fails _ _ _ _ rfl) ?_))
          fun _ => .pure (.accepted rfl found ?_)
        · exact r2dList
        · rw [created, resourceOfCreateBlob, if_neg backed, if_neg small,
            gathered]
          show _ :: after.r2dList = _
          rw [r2dList, vmctx]
          rfl

theorem ctrlDispatch_createOutcome (creates : Creates cmd)
    (based : cmd.base 0 = .ok cmd.address) :
    Ensures (ctrlDispatch env gpu cmd memory)
      (CreateOutcome env gpu cmd memory) := by
  unfold ctrlDispatch
  rcases creates with code | code
  · rw [code]
    exact virtioGpuCmdResourceCreate2d_outcome env gpu cmd memory code based
  · rw [code]
    refine .ite (fun _ => virtioGpuCmdUnspec_outcome env gpu cmd memory)
      fun _ => ?_
    exact virtioGpuCmdCreateBlob_outcome env gpu cmd memory code based

/-- A create under an id in use gets as far as an answer. -/
theorem ctrlDispatch_present_returns (creates : Creates cmd)
    (based : cmd.base 0 = .ok cmd.address)
    (present : virtioGpuFindResource2d gpu (namedId cmd memory) ≠ none) :
    Returns (ctrlDispatch env gpu cmd memory) fun _ => True := by
  obtain ⟨r2d, found⟩ := Option.ne_none_iff_exists'.mp present
  unfold ctrlDispatch
  rcases creates with code | code
  · simp only [namedId, code] at found
    rw [code]
    refine .after based ?_
    dsimp only
    rw [found]
    exact .pure trivial
  · simp only [namedId, code] at found
    rw [code]
    refine .ite (fun _ => .of_eq rfl) fun _ => .after based ?_
    refine .ite (fun _ => .pure trivial) fun _ => ?_
    refine .ite (fun _ => .pure trivial) fun _ => ?_
    refine .ite (fun _ => .pure trivial) fun _ => ?_
    rw [found]
    exact .pure trivial

/-! What an unref can answer. -/

inductive UnrefOutcome (before : GpuState) (cmd : Command) (memory : Memory)
    (reply : Reply) : Prop
  | refused (fails : reply.Fails)
      (absent : virtioGpuFindResource2d before (namedId cmd memory) = none)
      (same : reply.gpu.r2dList = before.r2dList)
  | removed (answers : reply.Answers .okNodata)
      (shorter : reply.gpu.r2dList =
        removeResource before.r2dList (namedId cmd memory))

theorem ctrlDispatch_unrefOutcome (unrefs : Unrefs cmd)
    (based : cmd.base 0 = .ok cmd.address) :
    Ensures (ctrlDispatch env gpu cmd memory)
      (UnrefOutcome gpu cmd memory) := by
  have named : namedId cmd memory =
      (ResourceUnref.load memory cmd.address).resourceId := by
    simp only [namedId, show CtrlCmd.ofCode cmd.hdr.type = _ from unrefs]
  unfold ctrlDispatch
  rw [unrefs]
  unfold virtioGpuCmdResourceUnref
  refine .after based ?_
  dsimp only
  rw [← named]
  cases found : virtioGpuFindResource2d gpu (namedId cmd memory) with
  | none => exact .pure (.refused (answer_fails _ _ _ _ rfl) found rfl)
  | some r2d =>
      refine .bind fun next released => .pure (.removed rfl ?_)
      obtain ⟨_, _, _, _, rfl⟩ := (releaseResource_released released).split
      rfl

/-- Removing a resource gets as far as an answer when its releases succeed. -/
theorem ctrlDispatch_unref_returns {r2d : Resource2d} (unrefs : Unrefs cmd)
    (based : cmd.base 0 = .ok cmd.address)
    (found : virtioGpuFindResource2d gpu (namedId cmd memory) = some r2d)
    (releases : Returns (releaseResource gpu r2d) fun _ => True) :
    Returns (ctrlDispatch env gpu cmd memory) fun _ => True := by
  unfold Unrefs at unrefs
  simp only [namedId, unrefs] at found
  unfold ctrlDispatch
  rw [unrefs]
  refine .after based ?_
  dsimp only
  rw [found]
  exact releases.bind fun _ _ => .pure trivial

end Handlers

end VirtioGpu.Gpu
