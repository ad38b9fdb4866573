import VirtioGpu.Gpu.Transfer

namespace VirtioGpu.Gpu

open Foundation
open Virtio

/-! Which positions of a backing list a row of a transfer copies.  Positions
count the bytes of all entries, translated or not. -/

/-- A copy the row loop makes: `length` bytes that start at a position of the
list, found at the host address `source`, put at a column of the row. -/
structure Copied where
  column : Nat
  position : Nat
  source : Nat
  length : Nat
  deriving Repr, DecidableEq

/-- The copies of `transferRow` when the entries start at `start`. -/
def rowCopies (total : Nat) : Nat → List IoVec → Nat → Nat → List Copied
  | _, [], _, _ => []
  | start, entry :: rest, srcOffset, done =>
      match entry.base with
      | none => rowCopies total (start + entry.len) rest srcOffset done
      | some base =>
          if entry.len = 0 then
            rowCopies total (start + entry.len) rest srcOffset done
          else if srcOffset < entry.len then
            let bytes := min (total - done) (entry.len - srcOffset)
            ⟨done, start + srcOffset, base + srcOffset, bytes⟩ ::
              (if done + bytes ≥ total then []
              else rowCopies total (start + entry.len) rest 0 (done + bytes))
          else
            rowCopies total (start + entry.len) rest (srcOffset - entry.len)
              done

def storeCopies (memory : Memory) (dst : Nat) (copies : List Copied)
    (data : Memory) : Memory :=
  Memory.storeAll (fun copied : Copied => dst + copied.column)
    (fun copied => memory.read copied.source copied.length) copies data

theorem storeCopies_cons (memory : Memory) (dst : Nat) (head : Copied)
    (tail : List Copied) (data : Memory) :
    storeCopies memory dst (head :: tail) data =
      storeCopies memory dst tail (data.store (dst + head.column)
        (memory.read head.source head.length)) := rfl

/-- The row loop makes these copies and nothing else. -/
theorem transferRow_copies (memory : Memory) (bufSize dst total start : Nat)
    (entries : List IoVec) (srcOffset done : Nat) (data : Memory) :
    Ensures (transferRow memory bufSize dst total entries srcOffset done data)
      fun after => after =
        storeCopies memory dst (rowCopies total start entries srcOffset done)
          data := by
  induction entries generalizing start srcOffset done data with
  | nil => exact .ok rfl
  | cons entry rest induction =>
      unfold transferRow rowCopies
      cases entry.base with
      | none => exact induction _ _ _ _
      | some base =>
          dsimp only
          by_cases empty : entry.len = 0
          · rw [if_pos empty, if_pos empty]
            exact induction _ _ _ _
          rw [if_neg empty, if_neg empty]
          by_cases early : srcOffset < entry.len
          · rw [if_pos early, if_pos early]
            refine .ite (fun _ => .error) fun _ => ?_
            rw [storeCopies_cons]
            by_cases finished :
                done + min (total - done) (entry.len - srcOffset) ≥ total
            · rw [if_pos finished, if_pos finished]
              exact .ok rfl
            · rw [if_neg finished, if_neg finished]
              exact induction _ _ _ _
          · rw [if_neg early, if_neg early]
            exact induction _ _ _ _

/-! The copies lie in the list and in the row. -/

/-- The range that starts at `position` of the list is the host range that
starts at `source`. -/
inductive Locates : List IoVec → Nat → Nat → Nat → Prop
  | here {entry : IoVec} {rest : List IoVec} {base offset length : Nat}
      (mapped : entry.base = some base)
      (inside : offset + length ≤ entry.len) :
      Locates (entry :: rest) offset (base + offset) length
  | later {entry : IoVec} {rest : List IoVec} {position source length : Nat}
      (located : Locates rest position source length) :
      Locates (entry :: rest) (entry.len + position) source length

/-- A copy of a row comes from its first entry or from a later one. -/
theorem mem_rowCopies_cons {total start : Nat} {entry : IoVec}
    {rest : List IoVec} {srcOffset done : Nat} {copied : Copied}
    (member : copied ∈
      rowCopies total start (entry :: rest) srcOffset done) :
    (∃ base, entry.base = some base ∧ srcOffset < entry.len ∧
      copied = ⟨done, start + srcOffset, base + srcOffset,
        min (total - done) (entry.len - srcOffset)⟩) ∨
    ∃ skip before, (done ≤ total → before ≤ total) ∧
      copied ∈ rowCopies total (start + entry.len) rest skip before := by
  unfold rowCopies at member
  cases mapped : entry.base with
  | none =>
      rw [mapped] at member
      exact .inr ⟨_, _, id, member⟩
  | some base =>
      rw [mapped] at member
      dsimp only at member
      by_cases empty : entry.len = 0
      · rw [if_pos empty] at member
        exact .inr ⟨_, _, id, member⟩
      rw [if_neg empty] at member
      by_cases early : srcOffset < entry.len
      · rw [if_pos early] at member
        rcases List.mem_cons.mp member with here | later
        · exact .inl ⟨base, rfl, early, here⟩
        · split at later
          · cases later
          · exact .inr ⟨_, _, fun _ => by omega, later⟩
      · rw [if_neg early] at member
        exact .inr ⟨_, _, id, member⟩

theorem rowCopies_located {total start : Nat} {entries : List IoVec}
    {srcOffset done : Nat} {copied : Copied}
    (member : copied ∈ rowCopies total start entries srcOffset done) :
    ∃ position, copied.position = start + position ∧
      Locates entries position copied.source copied.length := by
  induction entries generalizing start srcOffset done with
  | nil => cases member
  | cons entry rest induction =>
      rcases mem_rowCopies_cons member with
        ⟨base, mapped, early, rfl⟩ | ⟨skip, before, _, later⟩
      · exact ⟨srcOffset, rfl, .here mapped (by dsimp only; omega)⟩
      · obtain ⟨position, placed, located⟩ := induction later
        refine ⟨entry.len + position, ?_, .later located⟩
        rw [placed, Nat.add_assoc]

theorem rowCopies_within {total start : Nat} {entries : List IoVec}
    {srcOffset done : Nat} {copied : Copied}
    (member : copied ∈ rowCopies total start entries srcOffset done)
    (begun : done ≤ total) : copied.column + copied.length ≤ total := by
  induction entries generalizing start srcOffset done with
  | nil => cases member
  | cons entry rest induction =>
      rcases mem_rowCopies_cons member with
        ⟨base, mapped, early, rfl⟩ | ⟨skip, before, within, later⟩
      · dsimp only
        omega
      · exact induction later (within begun)

/-! When they lie in place. -/

/-- The bytes of the entries that were translated. -/
def mappedLength : List IoVec → Nat
  | [] => 0
  | entry :: rest =>
      match entry.base with
      | none => mappedLength rest
      | some _ => entry.len + mappedLength rest

/-- The bytes of the untranslated entries before the translated byte of this
index. -/
def unmappedBefore : List IoVec → Nat → Nat
  | [], _ => 0
  | entry :: rest, index =>
      match entry.base with
      | none => entry.len + unmappedBefore rest index
      | some _ =>
          if index < entry.len then 0
          else unmappedBefore rest (index - entry.len)

theorem unmappedBefore_mono (entries : List IoVec) {first second : Nat}
    (ordered : first ≤ second) :
    unmappedBefore entries first ≤ unmappedBefore entries second := by
  induction entries generalizing first second with
  | nil => exact Nat.le_refl _
  | cons entry rest induction =>
      unfold unmappedBefore
      cases entry.base with
      | none => exact Nat.add_le_add_left (induction ordered) _
      | some base =>
          dsimp only
          split
          · exact Nat.zero_le _
          · rw [if_neg (by omega)]
            exact induction (by omega)

/-- Every byte the copies put into the row comes from the position `first`
counts for its column. -/
def InPlace (first : Nat) (copies : List Copied) : Prop :=
  ∀ copied, copied ∈ copies → copied.length ≠ 0 →
    copied.position = first + copied.column

theorem inPlace_cons {first : Nat} {head : Copied} {tail : List Copied} :
    InPlace first (head :: tail) ↔
      (head.length ≠ 0 → head.position = first + head.column) ∧
        InPlace first tail :=
  List.forall_mem_cons

theorem rowCopies_inPlace_iff {total : Nat} (entries : List IoVec)
    {start srcOffset done first : Nat} (begun : done ≤ total) :
    InPlace first (rowCopies total start entries srcOffset done) ↔
      ∀ index, index < min (total - done) (mappedLength entries - srcOffset) →
        start + srcOffset + unmappedBefore entries (srcOffset + index) =
          first + done := by
  induction entries generalizing start srcOffset done with
  | nil =>
      constructor
      · intro _ index bound
        rw [mappedLength, Nat.zero_sub, Nat.min_zero] at bound
        cases bound
      · intro _ copied member
        cases member
  | cons entry rest induction =>
      unfold rowCopies mappedLength unmappedBefore
      cases entry.base with
      | none =>
          dsimp only
          rw [induction begun]
          constructor
          · intro placed index bound
            have := placed index bound
            omega
          · intro placed index bound
            have := placed index bound
            omega
      | some base =>
          dsimp only
          by_cases empty : entry.len = 0
          · rw [if_pos empty, induction begun, empty, Nat.zero_add,
              Nat.add_zero]
            simp only [Nat.not_lt_zero, if_false, Nat.sub_zero]
          rw [if_neg empty]
          by_cases early : srcOffset < entry.len
          · rw [if_pos early, inPlace_cons]
            constructor
            · rintro ⟨here, later⟩ index bound
              dsimp only at here
              by_cases near : srcOffset + index < entry.len
              · rw [if_pos near]
                exact here (by omega)
              · rw [if_neg near]
                rw [if_neg (by omega), induction (by omega)] at later
                have placed := later (srcOffset + index - entry.len) (by omega)
                rw [Nat.zero_add] at placed
                omega
            · intro placed
              constructor
              · intro nonempty
                dsimp only at nonempty
                have := placed 0 (by omega)
                rw [if_pos (by omega)] at this
                exact this
              · by_cases finished :
                    done + min (total - done) (entry.len - srcOffset) ≥ total
                · rw [if_pos finished]
                  intro copied member
                  cases member
                · rw [if_neg finished, induction (by omega)]
                  intro index bound
                  have := placed (entry.len - srcOffset + index) (by omega)
                  rw [if_neg (by omega)] at this
                  have same : srcOffset + (entry.len - srcOffset + index) -
                      entry.len = 0 + index := by omega
                  rw [same] at this
                  omega
          · rw [if_neg early, induction begun]
            constructor
            · intro placed index bound
              have := placed index (by omega)
              have same : srcOffset - entry.len + index =
                  srcOffset + index - entry.len := by omega
              rw [if_neg (by omega), ← same]
              omega
            · intro placed index bound
              have := placed index (by omega)
              have same : srcOffset + index - entry.len =
                  srcOffset - entry.len + index := by omega
              rw [if_neg (by omega), same] at this
              omega

/-- A row from `first` copies in place if it copies nothing, or if the
untranslated bytes before the first and before the last byte it copies are as
many as the wrapping of its offset leaves out. -/
def RowInPlace (entries : List IoVec) (total first : Nat) : Prop :=
  total = 0 ∨ mappedLength entries ≤ first % 4294967296 ∨
    unmappedBefore entries (first % 4294967296) =
        first - first % 4294967296 ∧
      unmappedBefore entries
          (min (first % 4294967296 + total) (mappedLength entries) - 1) =
        first - first % 4294967296

theorem inPlace_iff_rowInPlace (entries : List IoVec) (total first : Nat) :
    InPlace first (rowCopies total 0 entries (first % 4294967296) 0) ↔
      RowInPlace entries total first := by
  rw [rowCopies_inPlace_iff entries (Nat.zero_le _)]
  unfold RowInPlace
  have wrapped := Nat.mod_le first 4294967296
  generalize first % 4294967296 = offset at wrapped ⊢
  simp only [Nat.zero_add, Nat.add_zero, Nat.sub_zero]
  constructor
  · intro placed
    by_cases nothing : total = 0 ∨ mappedLength entries ≤ offset
    · exact nothing.imp_right .inl
    · have start := placed 0 (by omega)
      have finish := placed
        (min total (mappedLength entries - offset) - 1) (by omega)
      have same : offset + (min total (mappedLength entries - offset) - 1) =
          min (offset + total) (mappedLength entries) - 1 := by omega
      rw [same] at finish
      rw [Nat.add_zero] at start
      exact .inr (.inr ⟨by omega, by omega⟩)
  · rintro (empty | behind | ⟨start, finish⟩) index bound
    · omega
    · omega
    · have low := @unmappedBefore_mono entries offset (offset + index)
        (by omega)
      have high := @unmappedBefore_mono entries (offset + index)
        (min (offset + total) (mappedLength entries) - 1) (by omega)
      omega

/-! Transfers. -/

/-- The copies of one row. -/
def transferCopies (entries : List IoVec) (req : TransferToHost2d)
    (image : Image) (width row : Nat) : List Copied :=
  rowCopies (rowTotal req image width) 0 entries (rowSource req image row) 0

/-- The pixels after the copies of all rows. -/
def storeRows (memory : Memory) (entries : List IoVec)
    (req : TransferToHost2d) (image : Image) (width : Nat) (rows : List Nat)
    (data : Memory) : Memory :=
  rows.foldl (fun data row =>
    storeCopies memory (rowTarget req image row)
      (transferCopies entries req image width row) data) data

theorem transferRows_copies {memory : Memory} {req : TransferToHost2d}
    {r2d : Resource2d} {image : Image} {entries : List IoVec}
    (known : backingEntries r2d = .ok entries) (rows : List Nat)
    (data : Memory) :
    Ensures (transferRows memory req r2d image rows data) fun after =>
      after = storeRows memory entries req image r2d.width rows data := by
  induction rows generalizing data with
  | nil => exact .ok rfl
  | cons row rest induction =>
      unfold transferRows
      rw [known]
      refine .bind fun found same => .bind fun next copied => ?_
      cases same
      have stored := transferRow_copies _ _ _ _ 0 _ _ _ _ next copied
      rw [stored]
      exact induction _

/-- Where an accepted transfer has a row, the row is as wide as asked. -/
theorem View.Sized.rowTotal_eq {view : View} {image : Image}
    {req : TransferToHost2d} (sized : view.Sized)
    (pixels : view.image = some image)
    (accepted : rectInside req.r view.record = true)
    (high : req.r.height ≠ 0) :
    rowTotal req image view.record.width =
      req.r.width * (pixmanFormatBpp image.format / 8) := by
  obtain ⟨narrow, low⟩ := size_of_rectInside accepted
  rcases Nat.eq_zero_or_pos view.record.width with flat | wide
  · have thin : req.r.width = 0 := by omega
    rw [rowTotal, thin, Nat.zero_min, Nat.zero_mul, Nat.zero_mod]
  · obtain ⟨_, _, width, _⟩ := sized.image image pixels
    rw [← width] at narrow ⊢
    exact Gpu.rowTotal_eq (sized.spacious pixels (by omega) (by omega)) narrow

end VirtioGpu.Gpu
