import VirtioGpu.Gpu.Table

namespace VirtioGpu.Gpu

open Foundation
open Virtio

/-! Gathering memory entries from the descriptors between the request and the
response. -/

/-- `vq_getchain` records translated descriptors only. -/
def Command.Mapped (cmd : Command) : Prop :=
  ∀ slot, slot < cmd.iovcnt → (cmd.iov slot).base ≠ none

/-- Bytes in descriptors `1 .. iovcnt - 2`. -/
def Command.supplied (cmd : Command) : Nat :=
  cmd.middle.foldr (fun slot total => (cmd.iov slot).len + total) 0

/-- The first `count` records of a sequence of bytes. -/
def recordsOf (bytes : List UInt8) (count : Nat) : List MemEntry :=
  (List.range count).map fun index =>
    MemEntry.load (fun position => bytes.getD position 0)
      (index * MemEntry.size)

theorem length_recordsOf (bytes : List UInt8) (count : Nat) :
    (recordsOf bytes count).length = count := by
  rw [recordsOf, List.length_map, List.length_range]

theorem gatherBytes_returns {cmd : Command} (mapped : cmd.Mapped)
    (memory : Memory) :
    Returns (gatherBytes cmd memory) fun bytes =>
      bytes.length = cmd.supplied := by
  have inside : ∀ slot, slot ∈ cmd.middle → (cmd.iov slot).base ≠ none := by
    intro slot member
    obtain ⟨index, ranged, rfl⟩ := List.mem_map.mp member
    have bound := List.mem_range.mp ranged
    apply mapped
    omega
  unfold gatherBytes Command.supplied
  refine Returns.bind (?_ : Returns _ fun parts =>
    parts.flatten.length = cmd.middle.foldr (fun slot total =>
      (cmd.iov slot).len + total) 0) fun parts total => .pure total
  generalize cmd.middle = slots at inside
  induction slots with
  | nil => exact .pure rfl
  | cons slot rest induction =>
      obtain ⟨address, found⟩ := Option.ne_none_iff_exists'.mp
        (inside slot (List.mem_cons_self))
      have based : cmd.base slot = .ok address := by
        rw [Command.base, found]
      obtain ⟨parts, gathered, total⟩ := induction fun other member =>
        inside other (List.mem_cons_of_mem slot member)
      rw [List.mapM_cons, based]
      refine .after rfl (.after gathered (.pure ?_))
      rw [List.flatten_cons, List.length_append, total, Memory.length_read,
        List.foldr_cons]

/-- The array of entries: an overflow, or the records of the supplied bytes
and zeroes behind them. -/
theorem gatherEntries_eq {cmd : Command} {memory : Memory}
    {bytes : List UInt8} (gathered : gatherBytes cmd memory = .ok bytes)
    (nrEntries : Nat) :
    gatherEntries cmd memory nrEntries =
      if bytes.length > nrEntries * MemEntry.size then .error .heapOverflow
      else .ok (recordsOf bytes nrEntries) := by
  unfold gatherEntries
  rw [gathered]
  rfl

/-! The requests that carry memory entries. -/

def BacksResource (cmd : Command) : Prop :=
  CtrlCmd.ofCode cmd.hdr.type = some .resourceAttachBacking ∨
    CtrlCmd.ofCode cmd.hdr.type = some .resourceCreateBlob

instance (cmd : Command) : Decidable (BacksResource cmd) :=
  inferInstanceAs (Decidable (_ ∨ _))

/-- The request's `resource_id` and `nr_entries`. -/
def backedId (cmd : Command) (memory : Memory) : Nat :=
  match CtrlCmd.ofCode cmd.hdr.type with
  | some .resourceCreateBlob =>
      (ResourceCreateBlob.load memory cmd.address).resourceId
  | _ => (ResourceAttachBacking.load memory cmd.address).resourceId

def wantedEntries (cmd : Command) (memory : Memory) : Nat :=
  match CtrlCmd.ofCode cmd.hdr.type with
  | some .resourceCreateBlob =>
      (ResourceCreateBlob.load memory cmd.address).nrEntries
  | _ => (ResourceAttachBacking.load memory cmd.address).nrEntries

/-- The command gets as far as its gathering loop. -/
inductive Gathers (env : Env) (gpu : GpuState) (cmd : Command)
    (memory : Memory) : Prop
  | attach
      (attaches : AttachesBacking env gpu cmd
        (ResourceAttachBacking.load memory cmd.address))
      (entriesAlloc : env.entriesAlloc = true)
  | blob
      (code : CtrlCmd.ofCode cmd.hdr.type = some .resourceCreateBlob)
      (accepted : AcceptsBlob env gpu cmd
        (ResourceCreateBlob.load memory cmd.address))
      (nonempty :
        (ResourceCreateBlob.load memory cmd.address).nrEntries ≠ 0)
      (entriesAlloc : env.entriesAlloc = true)

/-- How a resource is backed by a list of entries: through its `iov`, through
a dmabuf made of them, or, with no entries, not at all. -/
inductive BackedBy (env : Env) (before after : GpuState)
    (resourceId : Nat) (entries : List MemEntry) : Prop
  | iov {r2d : Resource2d}
      (found : virtioGpuFindResource2d after resourceId = some r2d)
      (listed : r2d.iov = .live (backingOf before.vmctx entries))
      (counted : r2d.iovcnt = entries.length)
  | dmabuf {made : GpuState} {cell : Nat}
      (created : virtioGpuCreateUdmabuf env before entries =
        (made, some cell))
      (result : after = insertResource made
        { Resource2d.fresh resourceId with
          blob := true
          dmaInfo := some cell })
  | nothing (empty : entries = [])
      (bare : ∀ r2d, virtioGpuFindResource2d after resourceId = some r2d →
        r2d.iov = .null)

/-- The copy stays inside the array, and an `OK` answer means that the backing
is made of the successive records of the descriptors. -/
structure GathersExactly (env : Env) (gpu : GpuState) (cmd : Command)
    (memory : Memory) : Prop where
  bounded : Gathers env gpu cmd memory →
    ∀ bytes, gatherBytes cmd memory = .ok bytes →
      bytes.length ≤ wantedEntries cmd memory * MemEntry.size
  backed : ∀ reply, ctrlDispatch env gpu cmd memory = .ok reply →
    reply.Answers .okNodata → ∃ bytes, gatherBytes cmd memory = .ok bytes ∧
      wantedEntries cmd memory * MemEntry.size ≤ bytes.length ∧
      BackedBy env gpu reply.gpu (backedId cmd memory)
        (recordsOf bytes (wantedEntries cmd memory))

/-- Once it has its entries, the command goes on to answer `OK`. -/
inductive Completes (env : Env) (gpu : GpuState) (cmd : Command)
    (memory : Memory) : Prop
  | attach
      (code : CtrlCmd.ofCode cmd.hdr.type = some .resourceAttachBacking)
  | cursor
      (code : CtrlCmd.ofCode cmd.hdr.type = some .resourceCreateBlob)
      (small : (ResourceCreateBlob.load memory cmd.address).size ≤
        cursorBlobSize)
      (iovAlloc : env.iovAlloc = true)
  | dmabuf {bytes : List UInt8}
      (code : CtrlCmd.ofCode cmd.hdr.type = some .resourceCreateBlob)
      (large : (ResourceCreateBlob.load memory cmd.address).size >
        cursorBlobSize)
      (gathered : gatherBytes cmd memory = .ok bytes)
      (created : (virtioGpuCreateUdmabuf env gpu
        (recordsOf bytes (wantedEntries cmd memory))).2 ≠ none)

/-- What the descriptors and the resource must be like: no more bytes than the
array holds, no fewer if the command goes on to succeed, and for
`ATTACH_BACKING` a resource to back and no old backing to leave in place. -/
structure GatheringFits (env : Env) (gpu : GpuState) (cmd : Command)
    (memory : Memory) : Prop where
  bounded : Gathers env gpu cmd memory →
    cmd.supplied ≤ wantedEntries cmd memory * MemEntry.size
  filled : Gathers env gpu cmd memory → Completes env gpu cmd memory →
    wantedEntries cmd memory * MemEntry.size ≤ cmd.supplied
  present : CtrlCmd.ofCode cmd.hdr.type = some .resourceAttachBacking →
    2 ≤ cmd.iovcnt →
      virtioGpuFindResource2d gpu (backedId cmd memory) = none →
        wantedEntries cmd memory = 0
  unbacked : CtrlCmd.ofCode cmd.hdr.type = some .resourceAttachBacking →
    2 ≤ cmd.iovcnt → wantedEntries cmd memory = 0 →
      ∀ r2d, virtioGpuFindResource2d gpu (backedId cmd memory) = some r2d →
        r2d.iov = .null ∨ r2d.iov = .live [] ∧ r2d.iovcnt = 0

theorem find_modifyResource {modify : Resource2d → Resource2d}
    (blind : ∀ r2d, (modify r2d).resourceId = r2d.resourceId)
    (resourceId other : Nat) (r2dList : List Resource2d) :
    (modifyResource resourceId modify r2dList).find?
        (fun r2d => r2d.resourceId == other) =
      if other = resourceId then
        (r2dList.find? fun r2d => r2d.resourceId == other).map modify
      else
        r2dList.find? fun r2d => r2d.resourceId == other := by
  induction r2dList with
  | nil => simp [modifyResource]
  | cons head tail induction =>
      unfold modifyResource
      by_cases here : head.resourceId = resourceId
      · rw [if_pos (beq_iff_eq.mpr here)]
        simp only [List.find?_cons, blind]
        by_cases same : other = resourceId
        · have matched : (head.resourceId == other) = true := by
            rw [here, same, beq_self_eq_true]
          simp only [matched, if_pos same, Option.map_some]
        · have differs : (head.resourceId == other) = false := by
            rw [here, beq_eq_false_iff_ne]
            exact fun equal => same equal.symm
          simp only [differs, if_neg same]
      · rw [if_neg (by rwa [beq_iff_eq])]
        simp only [List.find?_cons, induction]
        cases matched : head.resourceId == other with
        | true =>
            have differs : other ≠ resourceId := by
              intro equal
              rw [equal] at matched
              exact here (beq_iff_eq.mp matched)
            simp only [if_neg differs]
        | false => rfl

theorem find_setBacking (gpu : GpuState) (resourceId other : Nat)
    (iov : IovArray) (iovcnt : Nat) :
    virtioGpuFindResource2d (setBacking gpu resourceId iov iovcnt) other =
      if other = resourceId then
        (virtioGpuFindResource2d gpu other).map fun r2d =>
          { r2d with iov := iov, iovcnt := iovcnt }
      else
        virtioGpuFindResource2d gpu other :=
  @find_modifyResource (fun r2d => { r2d with iov := iov, iovcnt := iovcnt })
    (fun _ => rfl) resourceId other gpu.r2dList

section Handlers

variable {env : Env} {gpu : GpuState} {cmd : Command} {memory : Memory}

/-- The conclusion for an `OK` answer. -/
def AnswersBacked (env : Env) (gpu : GpuState) (cmd : Command)
    (memory : Memory) (reply : Reply) : Prop :=
  reply.Answers .okNodata → ∃ bytes, gatherBytes cmd memory = .ok bytes ∧
    wantedEntries cmd memory * MemEntry.size ≤ bytes.length ∧
    BackedBy env gpu reply.gpu (backedId cmd memory)
      (recordsOf bytes (wantedEntries cmd memory))

theorem Reply.Fails.answersBacked {reply : Reply} (fails : reply.Fails) :
    AnswersBacked env gpu cmd memory reply :=
  fun answers => absurd answers fails.not_ok

theorem refusal_backed {after : GpuState} {type : RespType} {slot : Nat}
    {reads : List Access} (isError : type.isError = true) :
    Ensures (pure (answer after cmd type slot reads) : Except Fault Reply)
      (AnswersBacked env gpu cmd memory) :=
  .pure (answer_fails _ _ _ _ isError).answersBacked

/-- A state is not the result of inserting a resource into itself. -/
theorem ne_insert_udmabuf {entries : List MemEntry} {made : GpuState}
    {cell : Nat} {r2d : Resource2d}
    (created : virtioGpuCreateUdmabuf env gpu entries = (made, some cell)) :
    gpu ≠ insertResource made r2d := by
  have listed : made.r2dList = gpu.r2dList := by
    rcases virtioGpuCreateUdmabuf_cases env gpu entries with
      failed | ⟨_, succeeded⟩
    · rw [failed] at created
      cases created
    · rw [succeeded] at created
      cases created
      rfl
  intro same
  have lengths : gpu.r2dList.length = (r2d :: made.r2dList).length := by
    rw [congrArg GpuState.r2dList same]
    rfl
  rw [listed, List.length_cons] at lengths
  omega

section Attach

variable (code : CtrlCmd.ofCode cmd.hdr.type = some .resourceAttachBacking)
include code

theorem backedId_attach : backedId cmd memory =
    (ResourceAttachBacking.load memory cmd.address).resourceId := by
  simp only [backedId, code]

theorem wantedEntries_attach : wantedEntries cmd memory =
    (ResourceAttachBacking.load memory cmd.address).nrEntries := by
  simp only [wantedEntries, code]

theorem attach_backed (based : cmd.base 0 = .ok cmd.address)
    (mapped : cmd.Mapped) (fits : GatheringFits env gpu cmd memory) :
    Ensures (virtioGpuCmdResourceAttachBacking env gpu cmd memory)
      (AnswersBacked env gpu cmd memory) := by
  have named := @backedId_attach cmd memory code
  have wanted := @wantedEntries_attach cmd memory code
  obtain ⟨bytes, gathered, supplied⟩ := gatherBytes_returns mapped memory
  unfold virtioGpuCmdResourceAttachBacking
  refine .after based ?_
  refine .ite (fun _ => .pure ?_) fun room => ?_
  · exact Reply.Fails.answersBacked ⟨.errInvalidParameter, rfl, rfl⟩
  rw [Nat.not_lt] at room
  dsimp only
  rw [← named, ← wanted]
  cases found : virtioGpuFindResource2d gpu (backedId cmd memory) with
  | none =>
      have zero := fits.present code room found
      refine .pure fun _ => ⟨bytes, gathered, ?_, .nothing ?_ ?_⟩
      · rw [zero, Nat.zero_mul]
        exact Nat.zero_le _
      · rw [zero]
        rfl
      · intro r2d listed
        cases found.symm.trans listed
  | some r2d =>
      refine .ite (fun zero => .pure fun _ => ⟨bytes, gathered, ?_, ?_⟩)
        fun nonempty => ?_
      · rw [zero, Nat.zero_mul]
        exact Nat.zero_le _
      · rw [zero]
        rcases fits.unbacked code room zero r2d found with
          bare | ⟨empty, none⟩
        · refine .nothing rfl fun other listed => ?_
          cases found.symm.trans listed
          exact bare
        · exact .iov found empty none
      refine .ite (fun _ => refusal_backed rfl) fun iovAlloc => ?_
      refine .ite (fun _ => refusal_backed rfl) fun entriesAlloc => ?_
      rw [Bool.not_eq_true, Bool.not_eq_false'] at iovAlloc entriesAlloc
      have attaches : AttachesBacking env gpu cmd
          (ResourceAttachBacking.load memory cmd.address) := by
        rw [named] at found
        rw [wanted] at nonempty
        exact ⟨code, room, found ▸ Option.some_ne_none _, nonempty, iovAlloc⟩
      have gathers : Gathers env gpu cmd memory :=
        .attach attaches entriesAlloc
      rw [gatherEntries_eq gathered, supplied,
        if_neg (Nat.not_lt.mpr (fits.bounded gathers))]
      refine .bind fun entries taken => .pure fun _ => ?_
      cases taken
      refine ⟨bytes, gathered, ?_, ?_⟩
      · rw [supplied]
        exact fits.filled gathers (.attach code)
      · refine @BackedBy.iov _ _ _ _ _ { r2d with
          iov := .live (backingOf gpu.vmctx
            (recordsOf bytes (wantedEntries cmd memory)))
          iovcnt := wantedEntries cmd memory } ?_ rfl ?_
        · show virtioGpuFindResource2d (setBacking _ _ _ _) _ = _
          rw [find_setBacking, if_pos rfl, found]
          rfl
        · exact (length_recordsOf _ _).symm

/-- Without a resource or without entries, `ATTACH_BACKING` does nothing and
answers `OK`. -/
theorem attach_idle (based : cmd.base 0 = .ok cmd.address)
    (room : 2 ≤ cmd.iovcnt)
    (idle : virtioGpuFindResource2d gpu (backedId cmd memory) = none ∨
      wantedEntries cmd memory = 0) :
    Returns (ctrlDispatch env gpu cmd memory) fun reply =>
      reply.gpu = gpu ∧ reply.Answers .okNodata := by
  rw [backedId_attach code, wantedEntries_attach code] at idle
  unfold ctrlDispatch
  rw [code]
  refine .after based (.ite (fun few => absurd room (Nat.not_le.mpr few))
    fun _ => ?_)
  dsimp only
  cases found : virtioGpuFindResource2d gpu
      (ResourceAttachBacking.load memory cmd.address).resourceId with
  | none => exact .pure ⟨rfl, rfl⟩
  | some r2d =>
      rcases idle with absent | zero
      · rw [found] at absent
        cases absent
      · dsimp only
        rw [if_pos zero]
        exact .pure ⟨rfl, rfl⟩

end Attach

theorem attach_completes (based : cmd.base 0 = .ok cmd.address)
    (mapped : cmd.Mapped)
    (attaches : AttachesBacking env gpu cmd
      (ResourceAttachBacking.load memory cmd.address))
    (entriesAlloc : env.entriesAlloc = true)
    (bounded : cmd.supplied ≤ wantedEntries cmd memory * MemEntry.size) :
    Returns (ctrlDispatch env gpu cmd memory) fun reply =>
      reply.Answers .okNodata := by
  obtain ⟨bytes, gathered, supplied⟩ := gatherBytes_returns mapped memory
  obtain ⟨r2d, found⟩ := Option.ne_none_iff_exists'.mp attaches.present
  rw [wantedEntries_attach attaches.code] at bounded
  unfold ctrlDispatch
  rw [attaches.code]
  refine .after based (.ite
    (fun few => absurd attaches.room (Nat.not_le.mpr few)) fun _ => ?_)
  dsimp only
  rw [found]
  dsimp only
  rw [if_neg attaches.nonempty, attaches.iovAlloc, entriesAlloc,
    gatherEntries_eq gathered, supplied, if_neg (Nat.not_lt.mpr bounded)]
  exact .pure rfl

section Blob

variable (code : CtrlCmd.ofCode cmd.hdr.type = some .resourceCreateBlob)
include code

theorem backedId_blob : backedId cmd memory =
    (ResourceCreateBlob.load memory cmd.address).resourceId := by
  simp only [backedId, code]

theorem wantedEntries_blob : wantedEntries cmd memory =
    (ResourceCreateBlob.load memory cmd.address).nrEntries := by
  simp only [wantedEntries, code]

theorem blob_backed (supported : gpu.isBlobSupported = true)
    (based : cmd.base 0 = .ok cmd.address)
    (mapped : cmd.Mapped) (fits : GatheringFits env gpu cmd memory) :
    Ensures (virtioGpuCmdCreateBlob env gpu cmd memory)
      (AnswersBacked env gpu cmd memory) := by
  have named := @backedId_blob cmd memory code
  have wanted := @wantedEntries_blob cmd memory code
  obtain ⟨bytes, gathered, supplied⟩ := gatherBytes_returns mapped memory
  unfold virtioGpuCmdCreateBlob
  refine .after based ?_
  refine .ite (fun _ => refusal_backed rfl) fun nonzero => ?_
  refine .ite (fun _ => refusal_backed rfl) fun room => ?_
  refine .ite (fun _ => refusal_backed rfl) fun shared => ?_
  obtain ⟨guestMemory, shareable⟩ := not_or.mp shared
  dsimp only
  cases found : virtioGpuFindResource2d gpu
      (ResourceCreateBlob.load memory cmd.address).resourceId with
  | some _ => exact refusal_backed rfl
  | none =>
      refine .ite (fun _ => refusal_backed rfl) fun allocated => ?_
      rw [Bool.not_eq_true, Bool.not_eq_false'] at allocated
      have accepted : AcceptsBlob env gpu cmd
          (ResourceCreateBlob.load memory cmd.address) :=
        ⟨supported, nonzero, Nat.not_lt.mp room, not_not.mp guestMemory,
          not_not.mp shareable, found, allocated⟩
      have inserted : ∀ made r2d, r2d.resourceId = backedId cmd memory →
          virtioGpuFindResource2d (insertResource made r2d)
            (backedId cmd memory) = some r2d := by
        intro made r2d same
        exact List.find?_cons_of_pos (beq_iff_eq.mpr same)
      refine .ite (fun empty => .pure fun _ => ?_) fun nonempty => ?_
      · rw [← wanted] at empty
        refine ⟨bytes, gathered, ?_, .nothing ?_ ?_⟩
        · rw [empty, Nat.zero_mul]
          exact Nat.zero_le _
        · rw [empty]
          rfl
        · intro r2d listed
          cases (inserted gpu (.fresh _) named.symm).symm.trans listed
          rfl
      refine .ite (fun _ => refusal_backed rfl) fun entriesAlloc => ?_
      rw [Bool.not_eq_true, Bool.not_eq_false'] at entriesAlloc
      have gathers : Gathers env gpu cmd memory :=
        .blob code accepted nonempty entriesAlloc
      rw [← wanted, gatherEntries_eq gathered, supplied,
        if_neg (Nat.not_lt.mpr (fits.bounded gathers))]
      refine .bind fun entries taken => ?_
      cases taken
      refine .ite (fun large => ?_) fun small => ?_
      · cases made : virtioGpuCreateUdmabuf env gpu
            (recordsOf bytes (wantedEntries cmd memory)) with
        | mk next dmaInfo =>
            cases dmaInfo with
            | none => exact refusal_backed rfl
            | some cell =>
                refine .pure fun _ => ⟨bytes, gathered, ?_, ?_⟩
                · rw [supplied]
                  apply fits.filled gathers
                  refine .dmabuf code large gathered ?_
                  rw [made]
                  exact Option.some_ne_none cell
                · refine .dmabuf made ?_
                  rw [named]
                  rfl
      · refine .bind fun result made => ?_
        rcases result with ⟨after, image⟩
        refine .ite (fun _ => refusal_backed rfl) fun iovAlloc => ?_
        rw [Bool.not_eq_true, Bool.not_eq_false'] at iovAlloc
        refine .pure fun _ => ⟨bytes, gathered, ?_, ?_⟩
        · rw [supplied]
          exact fits.filled gathers
            (.cursor code (Nat.not_lt.mp small) iovAlloc)
        · refine .iov (inserted after _ named.symm) ?_ ?_
          · obtain ⟨vmctx, _, _⟩ := createImage_cursor env gpu made
            rw [← vmctx]
          · exact (length_recordsOf _ _).symm

end Blob

theorem createImage_cursor_returns (env : Env) (gpu : GpuState) :
    Returns (createImage env gpu pixmanA8r8g8b8 64 64) fun _ => True := by
  unfold createImage
  cases env.imageRecordAlloc with
  | false => exact .of_eq rfl
  | true =>
      cases env.imageBitsAlloc with
      | false => exact .of_eq rfl
      | true => exact .of_eq rfl

theorem blob_completes (based : cmd.base 0 = .ok cmd.address)
    (mapped : cmd.Mapped)
    (code : CtrlCmd.ofCode cmd.hdr.type = some .resourceCreateBlob)
    (accepted : AcceptsBlob env gpu cmd
      (ResourceCreateBlob.load memory cmd.address))
    (nonempty : (ResourceCreateBlob.load memory cmd.address).nrEntries ≠ 0)
    (entriesAlloc : env.entriesAlloc = true)
    (bounded : cmd.supplied ≤ wantedEntries cmd memory * MemEntry.size)
    (completes : Completes env gpu cmd memory) :
    Returns (ctrlDispatch env gpu cmd memory) fun reply =>
      reply.Answers .okNodata := by
  obtain ⟨bytes, gathered, supplied⟩ := gatherBytes_returns mapped memory
  have wanted := @wantedEntries_blob cmd memory code
  unfold ctrlDispatch
  rw [code]
  dsimp only
  rw [accepted.supported]
  refine .after based ?_
  dsimp only
  rw [if_neg accepted.nonzero, if_neg (Nat.not_lt.mpr accepted.room),
    if_neg (not_or.mpr ⟨not_not.mpr accepted.guestMemory,
      not_not.mpr accepted.shareable⟩), accepted.absent]
  dsimp only
  rw [accepted.allocated, if_neg nonempty, entriesAlloc, ← wanted,
    gatherEntries_eq gathered, supplied, if_neg (Nat.not_lt.mpr bounded)]
  refine .after rfl ?_
  cases completes with
  | attach attach =>
      rw [code] at attach
      cases attach
  | cursor _ small iovAlloc =>
      rw [if_neg (Nat.not_lt.mpr small)]
      refine (createImage_cursor_returns env gpu).bind fun made _ => ?_
      rw [iovAlloc]
      exact .pure rfl
  | dmabuf _ large again created =>
      cases gathered.symm.trans again
      rw [if_pos large]
      cases made : virtioGpuCreateUdmabuf env gpu
          (recordsOf bytes (wantedEntries cmd memory)) with
      | mk next dmaInfo =>
          rw [made] at created
          obtain ⟨cell, rfl⟩ := Option.ne_none_iff_exists'.mp created
          exact .pure rfl

theorem Gathers.answers (gathers : Gathers env gpu cmd memory)
    (based : cmd.base 0 = .ok cmd.address) (mapped : cmd.Mapped)
    (bounded : cmd.supplied ≤ wantedEntries cmd memory * MemEntry.size)
    (completes : Completes env gpu cmd memory) :
    Returns (ctrlDispatch env gpu cmd memory) fun reply =>
      reply.Answers .okNodata := by
  cases gathers with
  | attach attaches entriesAlloc =>
      exact attach_completes based mapped attaches entriesAlloc bounded
  | blob code accepted nonempty entriesAlloc =>
      exact blob_completes based mapped code accepted nonempty entriesAlloc
        bounded completes

theorem GathersExactly.fits (exactly : GathersExactly env gpu cmd memory)
    (based : cmd.base 0 = .ok cmd.address) (mapped : cmd.Mapped) :
    GatheringFits env gpu cmd memory := by
  obtain ⟨bytes, gathered, supplied⟩ := gatherBytes_returns mapped memory
  have bounded : Gathers env gpu cmd memory →
      cmd.supplied ≤ wantedEntries cmd memory * MemEntry.size := by
    intro gathers
    rw [← supplied]
    exact exactly.bounded gathers bytes gathered
  refine ⟨bounded, ?_, ?_, ?_⟩
  · intro gathers completes
    obtain ⟨reply, handled, okay⟩ :=
      gathers.answers based mapped (bounded gathers) completes
    obtain ⟨taken, again, enough, _⟩ := exactly.backed reply handled okay
    cases gathered.symm.trans again
    rw [← supplied]
    exact enough
  · intro code room absent
    obtain ⟨reply, handled, same, okay⟩ :=
      attach_idle code based room (.inl absent)
    obtain ⟨taken, _, _, backed⟩ := exactly.backed reply handled okay
    rw [same] at backed
    cases backed with
    | iov found _ _ =>
        rw [absent] at found
        cases found
    | dmabuf created result =>
        exact absurd result (ne_insert_udmabuf created)
    | nothing empty _ =>
        rw [← length_recordsOf taken (wantedEntries cmd memory), empty]
        rfl
  · intro code room zero r2d found
    obtain ⟨reply, handled, same, okay⟩ :=
      attach_idle code based room (.inr zero)
    obtain ⟨taken, _, _, backed⟩ := exactly.backed reply handled okay
    rw [same] at backed
    cases backed with
    | iov listed iov iovcnt =>
        cases found.symm.trans listed
        rw [zero] at iov iovcnt
        exact .inr ⟨iov, iovcnt⟩
    | dmabuf created result =>
        exact absurd result (ne_insert_udmabuf created)
    | nothing _ bare => exact .inl (bare r2d found)

theorem GatheringFits.exactly (fits : GatheringFits env gpu cmd memory)
    (backs : BacksResource cmd) (based : cmd.base 0 = .ok cmd.address)
    (mapped : cmd.Mapped) : GathersExactly env gpu cmd memory := by
  obtain ⟨bytes, gathered, supplied⟩ := gatherBytes_returns mapped memory
  constructor
  · intro gathers taken again
    cases gathered.symm.trans again
    rw [supplied]
    exact fits.bounded gathers
  · intro reply handled
    unfold ctrlDispatch at handled
    rcases backs with code | code
    · rw [code] at handled
      exact attach_backed code based mapped fits reply handled
    · rw [code] at handled
      cases supported : gpu.isBlobSupported with
      | false =>
          rw [supported] at handled
          cases handled
          exact Reply.Fails.answersBacked ⟨.errUnspec, rfl, rfl⟩
      | true =>
          rw [supported] at handled
          exact blob_backed code supported based mapped fits reply handled

/-- Gathering is bounded and exact exactly when the descriptors fit. -/
theorem gathersExactly_iff (backs : BacksResource cmd)
    (based : cmd.base 0 = .ok cmd.address) (mapped : cmd.Mapped) :
    GathersExactly env gpu cmd memory ↔
      GatheringFits env gpu cmd memory := by
  constructor
  · intro exactly
    exact exactly.fits based mapped
  · intro fits
    exact fits.exactly backs based mapped

end Handlers

end VirtioGpu.Gpu
