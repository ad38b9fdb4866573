import VirtioGpu.Backend.Rectangles
import VirtioGpu.Gpu.Positions

namespace VirtioGpu.Backend

open Foundation
open Virtio
open Gpu

/-! Positions of a backing list and the pixels a transfer makes of them. -/

/-- The transfer makes these copies, each of bytes of the list, and every byte
of row `row` comes from the position its column counts from
`offset + stride * row`. -/
structure CopiesInPlace (env : Env) (gpu : GpuState) (cmd : Command)
    (memory : Memory) (req : TransferToHost2d) (view : View) (image : Image)
    (entries : List IoVec) : Prop where
  copies : Returns (ctrlDispatch env gpu cmd memory) fun reply =>
    reply.gpu.view = Function.update gpu.view req.resourceId
      (some { view with
        image := some { image with
          data := storeRows memory entries req image view.record.width
            (List.range req.r.height) image.data } })
  located : ∀ row copied,
    copied ∈ transferCopies entries req image view.record.width row →
      Locates entries copied.position copied.source copied.length
  inPlace : ∀ row, row < req.r.height → ∀ copied,
    copied ∈ transferCopies entries req image view.record.width row →
      copied.length ≠ 0 →
        copied.position =
            req.offset + image.stride * row + copied.column ∧
          copied.column + copied.length ≤
            req.r.width * (pixmanFormatBpp image.format / 8)

section Transfers

variable {env : Env} {gpu : GpuState} {cmd : Command} {memory : Memory}
  {req : TransferToHost2d} {view : View} {image : Image}
  {entries : List IoVec}

theorem copiesInPlace_iff (well : WellSized gpu)
    (asks : Asks cmd .transferToHost2d)
    (loaded : TransferToHost2d.load memory cmd.address = req)
    (seen : gpu.view req.resourceId = some view)
    (pixels : view.image = some image)
    (backed : backingEntries view.record = .ok entries)
    (accepted : rectInside req.r view.record = true) :
    CopiesInPlace env gpu cmd memory req view image entries ↔
      ∀ row, row < req.r.height →
        RowInPlace entries
          (req.r.width * (pixmanFormatBpp image.format / 8))
          (req.offset + image.stride * row) := by
  have sized := well.sized _ view seen
  have total : ∀ row, row < req.r.height →
      rowTotal req image view.record.width =
        req.r.width * (pixmanFormatBpp image.format / 8) :=
    fun row inside => sized.rowTotal_eq pixels accepted (by omega)
  have inPlace : ∀ row, row < req.r.height →
      (InPlace (req.offset + image.stride * row)
          (transferCopies entries req image view.record.width row) ↔
        RowInPlace entries
          (req.r.width * (pixmanFormatBpp image.format / 8))
          (req.offset + image.stride * row)) := by
    intro row inside
    rw [← total row inside]
    exact inPlace_iff_rowInPlace _ _ _
  constructor
  · intro kept row inside
    apply (inPlace row inside).mp
    intro copied member nonempty
    exact (kept.inPlace row inside copied member nonempty).1
  · intro apart
    refine ⟨?_, ?_, ?_⟩
    · subst loaded
      obtain ⟨reply, handled, does⟩ :=
        @transfer_stores env _ _ _ well asks _ _ _ seen pixels backed accepted
      have rows := @transferRows_eq memory
        (TransferToHost2d.load memory cmd.address) view.record image entries
        backed _ (fun row member => sized.rows_fit pixels accepted member)
        image.data
      have stored := transferRows_copies backed _ _ _ rows
      refine ⟨reply, handled, does.view.trans ?_⟩
      rw [stored, Nat.min_eq_left (size_of_rectInside accepted).2]
    · intro row copied member
      obtain ⟨position, placed, located⟩ := rowCopies_located member
      rw [placed, Nat.zero_add]
      exact located
    · intro row inside copied member nonempty
      refine ⟨(inPlace row inside).mpr (apart row inside) copied member
        nonempty, ?_⟩
      rw [← total row inside]
      exact rowCopies_within member (Nat.zero_le _)

/-- A transfer keeps positions apart if and only if every row with bytes to
copy has neither a wrapped offset nor an untranslated entry in its way, or has
both in the same measure. -/
theorem reached_copiesInPlace_iff {state : Traced}
    (reached : backend.Reached state)
    (asks : Asks cmd .transferToHost2d)
    (loaded : TransferToHost2d.load memory cmd.address = req)
    (seen : state.machine.device.gpu.view req.resourceId = some view)
    (pixels : view.image = some image)
    (backed : backingEntries view.record = .ok entries)
    (accepted : rectInside req.r view.record = true) :
    CopiesInPlace env state.machine.device.gpu cmd memory req view image
        entries ↔
      ∀ row, row < req.r.height →
        RowInPlace entries
          (req.r.width * (pixmanFormatBpp image.format / 8))
          (req.offset + image.stride * row) :=
  copiesInPlace_iff (reached_wellSized reached) asks loaded seen pixels backed
    accepted

end Transfers

/-! Transfers of all four pixels of resource 1. -/

def transferFrom (offset : Nat) : List UInt8 :=
  request .transferToHost2d (le32 0 ++ le32 0 ++ le32 2 ++ le32 2 ++
    le64 offset ++ le32 1 ++ le32 0)

/-- From offset 0 of five and seven bytes, both translated. -/
theorem translated_copiesInPlace :
    ∃ state view image, backend.Reached state ∧
      CopiesInPlace (Env.steady 3) state.machine.device.gpu
        (requestCommand (transferFrom 0)) (requestMemory 0 (transferFrom 0))
        ⟨⟨0, 0, 2, 2⟩, 0, 1⟩ view image
        (translated [(4096, 5), (8192, 7)]) := by
  obtain ⟨state, view, image, reached, shows⟩ :=
    @exists_backed [(4096, 5), (8192, 7)] (translated [(4096, 5), (8192, 7)])
      (by decide +kernel)
  refine ⟨state, view, image, reached, ?_⟩
  apply (reached_copiesInPlace_iff reached ⟨by decide +kernel, rfl, by decide⟩
    (by decide +kernel) shows.seen shows.pixels shows.backed
    (by simp [rectInside, add32, shows.width, shows.height])).mpr
  rw [shows.stride, shows.bits]
  unfold RowInPlace
  decide

/-- Offset `2 ^ 32` is taken for offset 0. -/
theorem large_offset_wraps :
    ∃ state view image, backend.Reached state ∧
      state.machine.device.gpu.view 1 = some view ∧
      view.image = some image ∧
      backingEntries view.record =
        .ok (translated [(4096, 5), (8192, 7)]) ∧
      rectInside ⟨0, 0, 2, 2⟩ view.record = true ∧
      ¬CopiesInPlace (Env.steady 3) state.machine.device.gpu
        (requestCommand (transferFrom 4294967296))
        (requestMemory 0 (transferFrom 4294967296))
        ⟨⟨0, 0, 2, 2⟩, 4294967296, 1⟩ view image
        (translated [(4096, 5), (8192, 7)]) := by
  obtain ⟨state, view, image, reached, shows⟩ :=
    @exists_backed [(4096, 5), (8192, 7)] (translated [(4096, 5), (8192, 7)])
      (by decide +kernel)
  have accepted : rectInside ⟨0, 0, 2, 2⟩ view.record = true := by
    simp [rectInside, add32, shows.width, shows.height]
  refine ⟨state, view, image, reached, shows.seen, shows.pixels,
    shows.backed, accepted, fun copies => ?_⟩
  have rows := (copiesInPlace_iff (reached_wellSized reached)
    ⟨by decide +kernel, rfl, by decide⟩ (by decide +kernel) shows.seen
    shows.pixels shows.backed accepted).mp copies
  rw [shows.stride, shows.bits] at rows
  unfold RowInPlace at rows
  revert rows
  decide

/-- The bytes behind an untranslated entry move up. -/
theorem untranslated_entry_skipped :
    ∃ state view image, backend.Reached state ∧
      state.machine.device.gpu.view 1 = some view ∧
      view.image = some image ∧
      backingEntries view.record = .ok [⟨none, 5⟩, ⟨some 8192, 16⟩] ∧
      rectInside ⟨0, 0, 2, 2⟩ view.record = true ∧
      ¬CopiesInPlace (Env.steady 3) state.machine.device.gpu
        (requestCommand (transferFrom 0)) (requestMemory 0 (transferFrom 0))
        ⟨⟨0, 0, 2, 2⟩, 0, 1⟩ view image [⟨none, 5⟩, ⟨some 8192, 16⟩] := by
  obtain ⟨state, view, image, reached, shows⟩ :=
    @exists_backed [(70000, 5), (8192, 16)] [⟨none, 5⟩, ⟨some 8192, 16⟩]
      (by decide +kernel)
  have accepted : rectInside ⟨0, 0, 2, 2⟩ view.record = true := by
    simp [rectInside, add32, shows.width, shows.height]
  refine ⟨state, view, image, reached, shows.seen, shows.pixels,
    shows.backed, accepted, fun copies => ?_⟩
  have rows := (copiesInPlace_iff (reached_wellSized reached)
    ⟨by decide +kernel, rfl, by decide⟩ (by decide +kernel) shows.seen
    shows.pixels shows.backed accepted).mp copies
  rw [shows.stride, shows.bits] at rows
  unfold RowInPlace at rows
  revert rows
  decide

end VirtioGpu.Backend
