import VirtioGpu.Backend.AbsentResource
import VirtioGpu.Gpu.Transfer

namespace VirtioGpu.Backend

open Foundation
open Virtio
open Gpu

/-! The rectangles `SET_SCANOUT` and `TRANSFER_TO_HOST_2D` accept, and what an
accepted transfer copies. -/

theorem reached_wellSized {state : Traced} (reached : backend.Reached state) :
    WellSized state.machine.device.gpu := by
  refine reached_gpu_handled WellSized ?_ ?_ ?_ reached
  · exact wellSized_initial
  · intro env cmd memory before reply well fresh based handled
    exact well.handle fresh based handled
  · intro before after well cleared
    exact well.reset cleared

/-- The device serves the command and answers with this type. -/
def AnswersWith (env : Env) (gpu : GpuState) (cmd : Command)
    (memory : Memory) (type : RespType) : Prop :=
  Returns (ctrlDispatch env gpu cmd memory) fun reply => reply.Answers type

theorem answersWith_unique {env : Env} {gpu : GpuState} {cmd : Command}
    {memory : Memory} {first second : RespType}
    (answersFirst : AnswersWith env gpu cmd memory first)
    (answersSecond : AnswersWith env gpu cmd memory second) :
    first.code = second.code := by
  obtain ⟨reply, handled, answers⟩ := answersFirst
  obtain ⟨other, again, otherAnswers⟩ := answersSecond
  rw [handled] at again
  cases again
  exact answers.symm.trans otherAnswers

/-! The answers of the two commands. -/

section Answers

variable {env : Env} {gpu : GpuState} {cmd : Command} {memory : Memory}
  {r2d : Resource2d} {cell : Nat}

/-- The answer the bounds test decides. -/
def testAnswer (rect : Rect) (r2d : Resource2d) : RespType :=
  if rectInside rect r2d then .okNodata else .errInvalidParameter

theorem setScanout_answers (tidy : Tidy gpu)
    (asks : Asks cmd .setScanout)
    (inside : (SetScanout.load memory cmd.address).scanoutId <
      gpu.scanouts.length)
    (nonzero : (SetScanout.load memory cmd.address).resourceId ≠ 0)
    (found : virtioGpuFindResource2d gpu
      (SetScanout.load memory cmd.address).resourceId = some r2d)
    (own : r2d.image = some cell) :
    AnswersWith env gpu cmd memory
      (testAnswer (SetScanout.load memory cmd.address).r r2d) := by
  unfold AnswersWith ctrlDispatch
  rw [asks.code]
  refine .after asks.based ?_
  refine .ite (fun outside => absurd inside (Nat.not_lt.mpr outside))
    fun _ => ?_
  dsimp only
  rw [find_setScanoutAt, found, if_neg nonzero]
  dsimp only
  unfold testAnswer
  cases tested : rectInside (SetScanout.load memory cmd.address).r r2d with
  | false => exact .pure rfl
  | true =>
      obtain ⟨leaks, beside⟩ := tidy.counts
      have same := core_setScanoutAt_scanoutId gpu
        (SetScanout.load memory cmd.address).scanoutId
        (SetScanout.load memory cmd.address).scanoutId
      have counts := beside.of_core same
      have within : (SetScanout.load memory cmd.address).scanoutId <
          (marked gpu (SetScanout.load memory cmd.address).scanoutId
            ).scanouts.length := by
        rw [marked, length_scanouts_of_core gpu same]
        exact inside
      obtain ⟨after, updated, _⟩ := counts.virtioGpuUpdateScanout_returns
        within (SetScanout.load memory cmd.address).r
        (fun other known _ => by
          rw [find_setScanoutAt, found] at known
          cases known
          rw [own]
          exact Option.some_ne_none cell)
      have listed : r2d ∈ after.r2dList := by
        rw [virtioGpuUpdateScanout_r2dList updated]
        exact List.mem_of_find?_eq_some found
      have live := (counts.update_scanout within updated).image_live listed own
      obtain ⟨counted, held⟩ := Option.ne_none_iff_exists'.mp live
      obtain ⟨taken, ref⟩ := RefHeap.exists_ref live
      refine .after updated ?_
      rw [own]
      refine .after (by simp only [pixmanImageRef, ref]; rfl) ?_
      refine .after (derefImage_of_ref (by
        rw [RefHeap.contents, held, Option.map_some]) ref) ?_
      refine .after (by
        simp only [pixmanImageUnref, RefHeap.unref_of_ref ref]
        rfl) ?_
      exact .pure rfl

theorem transfer_refused (asks : Asks cmd .transferToHost2d)
    (found : virtioGpuFindResource2d gpu
      (TransferToHost2d.load memory cmd.address).resourceId = some r2d)
    (plain : r2d.blob = false)
    (outside : rectInside (TransferToHost2d.load memory cmd.address).r r2d =
      false) :
    AnswersWith env gpu cmd memory .errInvalidParameter := by
  unfold AnswersWith ctrlDispatch
  rw [asks.code]
  refine .after asks.based ?_
  dsimp only
  rw [found]
  dsimp only
  rw [plain, outside]
  exact .pure rfl

theorem transfer_accepted (asks : Asks cmd .transferToHost2d)
    (found : virtioGpuFindResource2d gpu
      (TransferToHost2d.load memory cmd.address).resourceId = some r2d)
    (inside : rectInside (TransferToHost2d.load memory cmd.address).r r2d =
      true) :
    Ensures (ctrlDispatch env gpu cmd memory) fun reply =>
      reply.Answers .okNodata := by
  unfold ctrlDispatch virtioGpuCmdTransferToHost2d
  rw [asks.code, asks.based]
  refine .bind fun address same => ?_
  cases same
  dsimp only
  rw [found]
  refine .ite (fun _ => .pure rfl) fun _ => ?_
  refine .ite (fun outside => ?_) fun _ => ?_
  · rw [inside] at outside
    cases outside
  · refine .bind fun _ _ => .bind fun _ _ => ?_
    exact .bind fun _ _ => .bind fun _ _ => .pure rfl

/-- The rows of an accepted transfer become the image's new pixels. -/
theorem transfer_stores (well : WellSized gpu)
    (asks : Asks cmd .transferToHost2d) {view : View} {image : Image}
    {entries : List IoVec}
    (seen : gpu.view (TransferToHost2d.load memory cmd.address).resourceId =
      some view)
    (pixels : view.image = some image)
    (known : backingEntries view.record = .ok entries)
    (accepted : rectInside (TransferToHost2d.load memory cmd.address).r
      view.record = true) :
    Returns (ctrlDispatch env gpu cmd memory)
      (Does gpu (TransferToHost2d.load memory cmd.address).resourceId
        (.okNodata, some { view with
          image := some { image with
            data := Memory.storeAll
              (rowTarget (TransferToHost2d.load memory cmd.address) image)
              (rowBytes memory entries
                (TransferToHost2d.load memory cmd.address) image
                view.record.width)
              (List.range (min
                (TransferToHost2d.load memory cmd.address).r.height
                view.record.height))
              image.data } })) := by
  have does := @transferToHost2d_does gpu cmd memory well.tidy asks.based
    (TransferToHost2d.load memory cmd.address) rfl
  rw [seen, (well.sized _ view seen).transfers pixels known accepted] at does
  unfold ctrlDispatch
  rw [asks.code]
  exact does.returns

end Answers

/-! The bounds test. -/

/-- What the bounds test means for a resource with this image. -/
structure RectanglesExact (gpu : GpuState) (r2d : Resource2d)
    (image : Image) : Prop where
  test : ∀ rect, rectInside rect r2d = true ↔
    rect.FitsIn r2d.width r2d.height
  rows : ∀ rect : Rect, rect.FitsIn r2d.width r2d.height →
    ∀ row, row < rect.height →
      (rect.y + row) * image.stride +
          (rect.x + rect.width) * (pixmanFormatBpp image.format / 8) ≤
        image.stride * r2d.height
  setScanout : ∀ env cmd memory, Asks cmd .setScanout →
    (SetScanout.load memory cmd.address).scanoutId < gpu.scanouts.length →
    (SetScanout.load memory cmd.address).resourceId = r2d.resourceId →
    r2d.resourceId ≠ 0 →
      (AnswersWith env gpu cmd memory .okNodata ↔
        (SetScanout.load memory cmd.address).r.FitsIn r2d.width
          r2d.height) ∧
      (AnswersWith env gpu cmd memory .errInvalidParameter ↔
        ¬(SetScanout.load memory cmd.address).r.FitsIn r2d.width
          r2d.height)
  transfer : ∀ env cmd memory, Asks cmd .transferToHost2d →
    (TransferToHost2d.load memory cmd.address).resourceId =
      r2d.resourceId →
      (AnswersWith env gpu cmd memory .errInvalidParameter ↔
        ¬(TransferToHost2d.load memory cmd.address).r.FitsIn r2d.width
          r2d.height) ∧
      ∀ entries, backingEntries r2d = .ok entries →
        (AnswersWith env gpu cmd memory .okNodata ↔
          (TransferToHost2d.load memory cmd.address).r.FitsIn r2d.width
            r2d.height)

/-- A command answered by the test answers `OK` exactly where the test
holds. -/
theorem answersWith_iff {env : Env} {gpu : GpuState} {cmd : Command}
    {memory : Memory} {rect : Rect} {r2d : Resource2d}
    (answers : AnswersWith env gpu cmd memory (testAnswer rect r2d))
    {Fits : Prop} (exact : rectInside rect r2d = true ↔ Fits) :
    (AnswersWith env gpu cmd memory .okNodata ↔ Fits) ∧
      (AnswersWith env gpu cmd memory .errInvalidParameter ↔ ¬Fits) := by
  rw [← exact]
  unfold testAnswer at answers
  cases tested : rectInside rect r2d with
  | false =>
      rw [tested] at answers
      refine ⟨⟨fun accepted => ?_, fun inside => ?_⟩, fun _ => ?_,
        fun _ => answers⟩
      · cases answersWith_unique accepted answers
      · cases inside
      · exact Bool.false_ne_true
  | true =>
      rw [tested] at answers
      refine ⟨⟨fun _ => rfl, fun _ => answers⟩, fun refused => ?_,
        fun outside => absurd rfl outside⟩
      cases answersWith_unique refused answers

/-- For a resource with pixels, both commands accept the rectangles inside it
and no others, and the rows of these lie inside its buffer. -/
theorem reached_rectanglesExact {state : Traced}
    (reached : backend.Reached state) {r2d : Resource2d} {cell : Nat}
    (listed : r2d ∈ state.machine.device.gpu.r2dList)
    (own : r2d.image = some cell) (wide : r2d.width ≠ 0)
    (high : r2d.height ≠ 0) :
    ∃ image, state.machine.device.gpu.images.contents cell = some image ∧
      RectanglesExact state.machine.device.gpu r2d image := by
  have well := reached_wellSized reached
  have found := find_of_mem well.tidy.distinct listed
  obtain ⟨image, contents, laidOut, _, width, height, plain⟩ :=
    well.image listed own
  have seen := view_of_find found
  rw [Option.map_some] at seen
  have sized := well.sized _ _ seen
  have pixels : (viewOf state.machine.device.gpu.images r2d).image =
      some image := by
    rw [viewOf, own, Option.bind_some, contents]
  have test : ∀ rect, rectInside rect r2d = true ↔
      rect.FitsIn r2d.width r2d.height := sized.accepts_iff pixels wide high
  have spacious := sized.spacious pixels wide high
  refine ⟨image, contents, test, ?_, ?_, ?_⟩
  · intro rect fits row inside
    rw [← width, ← height] at fits
    rw [← height]
    exact spacious.row_le fits inside
  · intro env cmd memory asks inside named nonzero
    rw [← named] at found nonzero
    exact answersWith_iff
      (setScanout_answers well.tidy asks inside nonzero found own) (test _)
  · intro env cmd memory asks named
    rw [← named] at found seen
    have refused_iff : AnswersWith env state.machine.device.gpu cmd memory
        .errInvalidParameter ↔
          ¬rectInside (TransferToHost2d.load memory cmd.address).r r2d =
            true := by
      constructor
      · rintro ⟨reply, handled, refused⟩ inside
        have accepted := transfer_accepted asks found inside reply handled
        cases refused.symm.trans accepted
      · intro outside
        exact transfer_refused asks found plain
          (Bool.eq_false_iff.mpr outside)
    refine ⟨refused_iff.trans (not_congr (test _)), ?_⟩
    intro entries known
    rw [← test]
    constructor
    · intro accepted
      by_contra outside
      cases answersWith_unique accepted (refused_iff.mpr outside)
    · intro inside
      obtain ⟨reply, handled, does⟩ :=
        @transfer_stores env _ _ _ well asks _ _ _ seen pixels known inside
      exact ⟨reply, handled, does.answers⟩

/-- A resource of 64 by 48 pixels. -/
theorem created_rectanglesExact :
    ∃ state r2d image, backend.Reached state ∧
      r2d ∈ state.machine.device.gpu.r2dList ∧ r2d.width = 64 ∧
      r2d.height = 48 ∧
      RectanglesExact state.machine.device.gpu r2d image := by
  obtain ⟨state, reached, checked⟩ :=
    @exists_serveRequests (fun _ _ _ _ => true) (fun _ _ _ _ => True)
      [createRequest 1 64 48]
      (fun state => state.machine.device.gpu.r2dList.any fun r2d =>
        decide (r2d.image = some 0 ∧ r2d.width = 64 ∧ r2d.height = 48))
      (fun _ _ _ _ _ => trivial)
      (by decide +kernel)
  obtain ⟨r2d, listed, made⟩ := List.any_eq_true.mp checked
  obtain ⟨own, width, height⟩ := of_decide_eq_true made
  have unrestricted : backend.Reached state :=
    reached.mono fun _ _ _ => trivial
  obtain ⟨image, _, exact⟩ := @reached_rectanglesExact state unrestricted r2d 0
    listed own (by rw [width]; decide) (by rw [height]; decide)
  exact ⟨state, r2d, image, unrestricted, listed, width, height, exact⟩

/-! The pixels of an accepted transfer. -/

/-- A backing all of whose entries were translated, as host ranges. -/
def translated (segments : List (Nat × Nat)) : List IoVec :=
  segments.map fun segment => ⟨some segment.1, segment.2⟩

def concatenation (memory : Memory) (segments : List (Nat × Nat)) :
    List UInt8 :=
  segments.flatMap fun segment => memory.read segment.1 segment.2

theorem backingBytes_translated (memory : Memory)
    (segments : List (Nat × Nat)) :
    backingBytes memory (translated segments) =
      concatenation memory segments := by
  unfold backingBytes translated concatenation
  rw [List.flatMap_map]
  rfl

/-- An accepted transfer copies the rectangle it names from the concatenated
segments, and changes no other pixel and no other resource. -/
theorem reached_transfer_copies {state : Traced}
    (reached : backend.Reached state) {env : Env} {cmd : Command}
    {memory : Memory} {view : View} {image : Image}
    {segments : List (Nat × Nat)}
    (asks : Asks cmd .transferToHost2d)
    (seen : state.machine.device.gpu.view
      (TransferToHost2d.load memory cmd.address).resourceId = some view)
    (pixels : view.image = some image)
    (backed : backingEntries view.record = .ok (translated segments))
    (accepted : rectInside (TransferToHost2d.load memory cmd.address).r
      view.record = true)
    (addressable : image.stride * image.height < 4294967296)
    (within : (TransferToHost2d.load memory cmd.address).offset +
        image.stride *
          ((TransferToHost2d.load memory cmd.address).r.height - 1) +
        (TransferToHost2d.load memory cmd.address).r.width *
          (pixmanFormatBpp image.format / 8) < 4294967296) :
    Returns (ctrlDispatch env state.machine.device.gpu cmd memory)
      fun reply => reply.Answers .okNodata ∧
        ∃ after, reply.gpu.view =
            Function.update state.machine.device.gpu.view
              (TransferToHost2d.load memory cmd.address).resourceId
              (some { view with
                image := some { image with data := after } }) ∧
          CopiesRect (concatenation memory segments)
            (TransferToHost2d.load memory cmd.address) image after := by
  have well := reached_wellSized reached
  obtain ⟨reply, handled, does⟩ :=
    @transfer_stores env _ _ _ well asks _ _ _ seen pixels backed accepted
  refine ⟨reply, handled, does.answers, _, does.view, ?_⟩
  rw [← backingBytes_translated]
  exact (well.sized _ view seen).copiesRect pixels accepted addressable within

/-- An `ATTACH_BACKING` request for entries of resource 1, each an address and
a length, between two other descriptors of a ring of four. -/
def backingMemory (entries : List (Nat × Nat)) : Memory :=
  (((Memory.zero.store 64
    ((VringDesc.mk 256 32 vringDescFNext 1).bytes ++
      (VringDesc.mk 1024 (16 * entries.length) vringDescFNext 2).bytes ++
      (VringDesc.mk 512 24 vringDescFWrite 0).bytes)).store 128
    (le16 0 ++ le16 2)).store 256
    (request .resourceAttachBacking (le32 1 ++ le32 entries.length))).store
    1024 (entries.flatMap fun entry => le64 entry.1 ++ le64 entry.2)

/-- Resource 1 is created, two pixels wide and high, and backed. -/
def backResource (entries : List (Nat × Nat)) : List Label :=
  setUpQueue .control 4 64 128 160 ++
    requestLabels 0 [createRequest 1 2 2] ++
    (.guest (backingMemory entries) :: callBh (Env.steady 1) .control 3)

/-- Resource 1 with the given backing and an image of 2 by 2 pixels. -/
def showsBacking (backing : List IoVec) (state : Traced) : Bool :=
  (state.machine.device.gpu.view 1).any fun view =>
    decide (backingEntries view.record = .ok backing) &&
    decide (view.record.width = 2 ∧ view.record.height = 2) &&
    view.image.any fun image =>
      decide (image.stride = 8 ∧ image.height = 2 ∧
        pixmanFormatBpp image.format = 32)

structure ShowsBacking (gpu : GpuState) (backing : List IoVec) (view : View)
    (image : Image) : Prop where
  seen : gpu.view 1 = some view
  backed : backingEntries view.record = .ok backing
  width : view.record.width = 2
  height : view.record.height = 2
  pixels : view.image = some image
  stride : image.stride = 8
  rows : image.height = 2
  bits : pixmanFormatBpp image.format = 32

theorem exists_backed {entries : List (Nat × Nat)} {backing : List IoVec}
    (checked : (runLabels ⟨initialMachine ⟨65536, 5⟩ true 2 Memory.zero, []⟩
      (backResource entries)).any (showsBacking backing) = true) :
    ∃ state view image, backend.Reached state ∧
      ShowsBacking state.machine.device.gpu backing view image := by
  obtain ⟨state, reached, shows⟩ :=
    exists_reached ⟨_, true, 2, _, fun _ => rfl, by decide, rfl⟩ checked
  obtain ⟨view, seen, fields⟩ := (Option.any_eq_true _ _).mp shows
  obtain ⟨record, drawn⟩ := Bool.and_eq_true_iff.mp fields
  obtain ⟨backed, size⟩ := Bool.and_eq_true_iff.mp record
  obtain ⟨image, pixels, layout⟩ := (Option.any_eq_true _ _).mp drawn
  obtain ⟨width, height⟩ := of_decide_eq_true size
  obtain ⟨stride, rows, bits⟩ := of_decide_eq_true layout
  exact ⟨state, view, image, reached, seen, of_decide_eq_true backed, width,
    height, pixels, stride, rows, bits⟩

/-- Two segments of five and seven bytes, for an image of sixteen. -/
theorem two_segments_copied :
    ∃ state reply after image, backend.Reached state ∧
      ctrlDispatch (Env.steady 3) state.machine.device.gpu
        (requestCommand (transferRequest 1 2 2))
        (requestMemory 0 (transferRequest 1 2 2)) = .ok reply ∧
      CopiesRect
        (concatenation (requestMemory 0 (transferRequest 1 2 2))
          [(4096, 5), (8192, 7)])
        ⟨⟨0, 0, 2, 2⟩, 0, 1⟩ image after := by
  obtain ⟨state, view, image, reached, shows⟩ :=
    @exists_backed [(4096, 5), (8192, 7)] (translated [(4096, 5), (8192, 7)])
      (by decide +kernel)
  have loaded : TransferToHost2d.load
      (requestMemory 0 (transferRequest 1 2 2))
      (requestCommand (transferRequest 1 2 2)).address =
        ⟨⟨0, 0, 2, 2⟩, 0, 1⟩ := by decide +kernel
  obtain ⟨reply, handled, _, after, _, copies⟩ :=
    @reached_transfer_copies state reached (Env.steady 3)
      (requestCommand (transferRequest 1 2 2))
      (requestMemory 0 (transferRequest 1 2 2)) view image
      [(4096, 5), (8192, 7)]
      ⟨by decide +kernel, rfl, by decide⟩
      (by rw [loaded]; exact shows.seen) shows.pixels shows.backed
      (by rw [loaded]; simp [rectInside, add32, shows.width, shows.height])
      (by rw [shows.stride, shows.rows]; decide)
      (by rw [loaded, shows.stride, shows.bits]; decide)
  rw [loaded] at copies
  exact ⟨state, reply, after, image, reached, handled, copies⟩

end VirtioGpu.Backend
