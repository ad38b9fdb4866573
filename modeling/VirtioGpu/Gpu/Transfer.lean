import VirtioGpu.Foundation.Stores
import VirtioGpu.Gpu.Layout

namespace VirtioGpu.Gpu

open Foundation
open Virtio

/-! What the row loop of `TRANSFER_TO_HOST_2D` stores, and where. -/

/-- The bytes of an entry whose address was translated. -/
def entryBytes (memory : Memory) (entry : IoVec) : List UInt8 :=
  match entry.base with
  | none => []
  | some base => memory.read base entry.len

def backingBytes (memory : Memory) (entries : List IoVec) : List UInt8 :=
  entries.flatMap (entryBytes memory)

theorem backingBytes_cons (memory : Memory) (entry : IoVec)
    (rest : List IoVec) :
    backingBytes memory (entry :: rest) =
      entryBytes memory entry ++ backingBytes memory rest :=
  List.flatMap_cons

/-- A row that fits the buffer copies one piece of the backing. -/
theorem transferRow_eq (memory : Memory) {bufSize dst total : Nat}
    (fits : total ≠ 0 → dst + total ≤ bufSize) (entries : List IoVec)
    {done : Nat} (begun : done ≤ total) (srcOffset : Nat) (data : Memory) :
    transferRow memory bufSize dst total entries srcOffset done data =
      .ok (data.store (dst + done)
        (((backingBytes memory entries).drop srcOffset).take
          (total - done))) := by
  induction entries generalizing srcOffset done data with
  | nil =>
      rw [backingBytes, List.flatMap_nil, List.drop_nil, List.take_nil,
        Memory.store_nil]
      rfl
  | cons entry rest induction =>
      unfold transferRow
      rw [backingBytes_cons]
      cases mapped : entry.base with
      | none =>
          rw [entryBytes, mapped, List.nil_append]
          exact induction begun srcOffset data
      | some base =>
          have bytes : entryBytes memory entry =
              memory.read base entry.len := by
            rw [entryBytes, mapped]
          have length : (memory.read base entry.len).length = entry.len :=
            Memory.length_read memory base entry.len
          rw [bytes]
          dsimp only
          by_cases empty : entry.len = 0
          · rw [if_pos empty, empty, Memory.read, List.range_zero,
              List.map_nil, List.nil_append]
            exact induction begun srcOffset data
          rw [if_neg empty]
          by_cases early : srcOffset < entry.len
          · rw [if_pos early, if_neg (by omega),
              List.drop_append_of_le_length (by omega), Memory.drop_read]
            by_cases finished :
                done + min (total - done) (entry.len - srcOffset) ≥ total
            · rw [if_pos finished, List.take_append_of_le_length (by
                rw [Memory.length_read]
                omega), Memory.take_read]
            · have whole : min (total - done) (entry.len - srcOffset) =
                  entry.len - srcOffset := by omega
              rw [if_neg finished, whole]
              rw [induction (by omega) 0, List.drop_zero, List.take_append,
                Memory.take_read, Nat.min_eq_right (by omega),
                ← Memory.store_store, Memory.length_read, Nat.sub_add_eq,
                ← Nat.add_assoc]
          · have skipped : (memory.read base entry.len).drop srcOffset =
                [] := by
              apply List.drop_eq_nil_of_le
              rw [length]
              exact Nat.not_lt.mp early
            rw [if_neg early, induction begun, List.drop_append, skipped,
              List.nil_append, length]

/-! Rows. -/

def rowSource (req : TransferToHost2d) (image : Image) (row : Nat) : Nat :=
  (req.offset + image.stride * row) % 4294967296

def rowTarget (req : TransferToHost2d) (image : Image) (row : Nat) : Nat :=
  ((req.r.y + row) * image.stride +
    req.r.x * (pixmanFormatBpp image.format / 8)) % 4294967296

def rowTotal (req : TransferToHost2d) (image : Image) (width : Nat) : Nat :=
  min req.r.width width * (pixmanFormatBpp image.format / 8) % 4294967296

/-- The piece of the backing a row copies. -/
def rowBytes (memory : Memory) (entries : List IoVec)
    (req : TransferToHost2d) (image : Image) (width row : Nat) :
    List UInt8 :=
  ((backingBytes memory entries).drop (rowSource req image row)).take
    (rowTotal req image width)

theorem transferRows_eq {memory : Memory} {req : TransferToHost2d}
    {r2d : Resource2d} {image : Image} {entries : List IoVec}
    (known : backingEntries r2d = .ok entries) {rows : List Nat}
    (fits : ∀ row, row ∈ rows → rowTotal req image r2d.width ≠ 0 →
      rowTarget req image row + rowTotal req image r2d.width ≤ image.bufSize)
    (data : Memory) :
    transferRows memory req r2d image rows data =
      .ok (Memory.storeAll (rowTarget req image)
        (rowBytes memory entries req image r2d.width) rows data) := by
  induction rows generalizing data with
  | nil => rfl
  | cons row rest induction =>
      unfold transferRows
      rw [known]
      have copied := transferRow_eq memory (fits row List.mem_cons_self)
        entries (Nat.zero_le _) (rowSource req image row) data
      refine (congrArg (· >>= _) copied).trans ?_
      exact induction
        (fun later member => fits later (List.mem_cons_of_mem row member)) _

/-! Rectangles inside an image with pixels. -/

theorem Image.Spacious.row_le {image : Image} (spacious : image.Spacious)
    {rect : Rect} (fits : rect.FitsIn image.width image.height) {row : Nat}
    (inside : row < rect.height) :
    (rect.y + row) * image.stride +
        (rect.x + rect.width) * (pixmanFormatBpp image.format / 8) ≤
      image.stride * image.height := by
  obtain ⟨wide, high⟩ := fits
  calc (rect.y + row) * image.stride +
        (rect.x + rect.width) * (pixmanFormatBpp image.format / 8)
      ≤ (rect.y + row) * image.stride +
          image.width * (pixmanFormatBpp image.format / 8) :=
        Nat.add_le_add_left (Nat.mul_le_mul_right _ wide) _
    _ ≤ (rect.y + row) * image.stride + image.stride :=
        Nat.add_le_add_left spacious.row _
    _ = image.stride * (rect.y + row + 1) := by
        rw [Nat.mul_succ, Nat.mul_comm]
    _ ≤ image.stride * image.height :=
        Nat.mul_le_mul_left _ (by omega)

section Accepted

variable {view : View} {image : Image} {req : TransferToHost2d}

theorem View.Sized.spacious (sized : view.Sized)
    (pixels : view.image = some image) (wide : view.record.width ≠ 0)
    (high : view.record.height ≠ 0) :
    image.Spacious := by
  obtain ⟨laidOut, _, width, height⟩ := sized.image image pixels
  apply laidOut.spacious
  · rw [width]
    exact wide
  · rw [height]
    exact high

/-- The test is exact where there are pixels. -/
theorem View.Sized.accepts_iff (sized : view.Sized)
    (pixels : view.image = some image) (wide : view.record.width ≠ 0)
    (high : view.record.height ≠ 0) (rect : Rect) :
    rectInside rect view.record = true ↔
      rect.FitsIn view.record.width view.record.height := by
  have spacious := sized.spacious pixels wide high
  obtain ⟨_, _, width, height⟩ := sized.image image pixels
  apply rectInside_iff
  · rw [← width]
    exact spacious.width
  · rw [← height]
    exact spacious.height

/-- No row of an accepted transfer leaves the buffer, wrapped or not. -/
theorem View.Sized.rows_fit (sized : view.Sized)
    (pixels : view.image = some image)
    (accepted : rectInside req.r view.record = true) {row : Nat}
    (member : row ∈ List.range (min req.r.height view.record.height))
    (nonempty : rowTotal req image view.record.width ≠ 0) :
    rowTarget req image row + rowTotal req image view.record.width ≤
      image.bufSize := by
  have inside := List.mem_range.mp member
  have wide : view.record.width ≠ 0 := by
    intro flat
    apply nonempty
    rw [rowTotal, flat, Nat.min_zero, Nat.zero_mul, Nat.zero_mod]
  have high : view.record.height ≠ 0 := by omega
  have spacious := sized.spacious pixels wide high
  have fits := (sized.accepts_iff pixels wide high req.r).mp accepted
  obtain ⟨_, _, width, height⟩ := sized.image image pixels
  rw [← width, ← height] at fits
  have row_le := spacious.row_le fits
    (Nat.lt_of_lt_of_le inside (Nat.min_le_left _ _))
  rw [Nat.add_mul req.r.x, ← Nat.add_assoc] at row_le
  calc rowTarget req image row + rowTotal req image view.record.width
      ≤ ((req.r.y + row) * image.stride +
          req.r.x * (pixmanFormatBpp image.format / 8)) +
          req.r.width * (pixmanFormatBpp image.format / 8) :=
        Nat.add_le_add (Nat.mod_le _ _)
          (Nat.le_trans (Nat.mod_le _ _)
            (Nat.mul_le_mul_right _ (Nat.min_le_left _ _)))
    _ ≤ image.bufSize := row_le

/-- An accepted transfer stores one piece of the backing for each row. -/
theorem View.Sized.transfers (sized : view.Sized) {memory : Memory}
    {entries : List IoVec} (pixels : view.image = some image)
    (known : backingEntries view.record = .ok entries)
    (accepted : rectInside req.r view.record = true) :
    actTransferToHost2d memory req (some view) =
      .ok (.okNodata, some { view with
        image := some { image with
          data := Memory.storeAll (rowTarget req image)
            (rowBytes memory entries req image view.record.width)
            (List.range (min req.r.height view.record.height))
            image.data } }) := by
  have plain := sized.plain (pixels ▸ Option.some_ne_none image)
  have rows := @transferRows_eq memory req view.record image entries known _
    (fun row member => sized.rows_fit pixels accepted member) image.data
  unfold actTransferToHost2d
  dsimp only
  rw [plain, accepted, pixels]
  exact congrArg (· >>= _) rows

end Accepted

/-! Where nothing wraps, the rows are those of the rectangle. -/

/-- The place of a byte of a rectangle's row in the buffer. -/
def rectByte (rect : Rect) (image : Image) (row index : Nat) : Nat :=
  (rect.y + row) * image.stride +
    rect.x * (pixmanFormatBpp image.format / 8) + index

/-- The rectangle's pixels become those of the backing, and no others
change. -/
structure CopiesRect (bytes : List UInt8) (req : TransferToHost2d)
    (image : Image) (after : Memory) : Prop where
  inside : ∀ row, row < req.r.height →
    ∀ index, index < req.r.width * (pixmanFormatBpp image.format / 8) →
      after (rectByte req.r image row index) =
        bytes.getD (req.offset + image.stride * row + index)
          (image.data (rectByte req.r image row index))
  outside : ∀ location,
    (∀ row, row < req.r.height →
      ∀ index, index < req.r.width * (pixmanFormatBpp image.format / 8) →
        location ≠ rectByte req.r image row index) →
    after location = image.data location

theorem Image.Spacious.rows_apart {image : Image}
    (spacious : image.Spacious) {rect : Rect}
    (fits : rect.FitsIn image.width image.height) {row other : Nat}
    (later : row < other) :
    rectByte rect image row
        (rect.width * (pixmanFormatBpp image.format / 8)) ≤
      rectByte rect image other 0 := by
  have whole := Nat.mul_le_mul_right (pixmanFormatBpp image.format / 8) fits.1
  rw [Nat.add_mul] at whole
  have row_le := spacious.row
  unfold rectByte
  calc (rect.y + row) * image.stride +
        rect.x * (pixmanFormatBpp image.format / 8) +
        rect.width * (pixmanFormatBpp image.format / 8)
      ≤ (rect.y + row) * image.stride + image.stride := by omega
    _ = (rect.y + (row + 1)) * image.stride := by
        rw [← Nat.add_assoc, Nat.succ_mul]
    _ ≤ (rect.y + other) * image.stride :=
        Nat.mul_le_mul_right _ (by omega)
    _ ≤ _ := by omega

section Unwrapped

variable {image : Image} {req : TransferToHost2d} {width row : Nat}

theorem rowTarget_eq (spacious : image.Spacious)
    (fits : req.r.FitsIn image.width image.height)
    (addressable : image.bufSize < 4294967296) (inside : row < req.r.height) :
    rowTarget req image row = rectByte req.r image row 0 := by
  have row_le := spacious.row_le fits inside
  rw [Nat.add_mul req.r.x] at row_le
  unfold Image.bufSize at addressable
  rw [rowTarget, Nat.mod_eq_of_lt (by omega)]
  rfl

theorem rowTotal_eq (spacious : image.Spacious)
    (fits : req.r.width ≤ image.width) :
    rowTotal req image image.width =
      req.r.width * (pixmanFormatBpp image.format / 8) := by
  have narrow := Nat.mul_le_mul_right (pixmanFormatBpp image.format / 8) fits
  have bounded := spacious.rowBytes
  rw [rowTotal, Nat.min_eq_left fits, Nat.mod_eq_of_lt (by omega)]

theorem rowSource_eq
    (addressable : req.offset + image.stride * (req.r.height - 1) +
      req.r.width * (pixmanFormatBpp image.format / 8) < 4294967296)
    (inside : row < req.r.height) :
    rowSource req image row = req.offset + image.stride * row := by
  have steps : image.stride * row ≤ image.stride * (req.r.height - 1) :=
    Nat.mul_le_mul_left _ (by omega)
  rw [rowSource, Nat.mod_eq_of_lt (by omega)]

end Unwrapped

theorem getElem?_piece (bytes : List UInt8) {start total index : Nat}
    (inside : index < total) :
    ((bytes.drop start).take total)[index]? = bytes[start + index]? := by
  rw [List.getElem?_take, if_pos inside, List.getElem?_drop]

section Rows

variable {memory : Memory} {entries : List IoVec} {req : TransferToHost2d}
variable {image : Image} {row other index : Nat}

theorem length_rowBytes_le (spacious : image.Spacious)
    (fits : req.r.width ≤ image.width) (row : Nat) :
    (rowBytes memory entries req image image.width row).length ≤
      req.r.width * (pixmanFormatBpp image.format / 8) := by
  rw [← rowTotal_eq spacious fits]
  exact List.length_take_le _ _

/-- The copy of one row misses the bytes of the others. -/
theorem rowTarget_misses (spacious : image.Spacious)
    (fits : req.r.FitsIn image.width image.height)
    (addressable : image.bufSize < 4294967296)
    (inside : row < req.r.height) (among : other < req.r.height)
    (different : other ≠ row)
    (bound : index < req.r.width * (pixmanFormatBpp image.format / 8)) :
    Memory.Misses (rowTarget req image)
      (rowBytes memory entries req image image.width)
      (rowTarget req image row + index) other := by
  have size := @length_rowBytes_le memory entries req image spacious
    (by have := fits.1; omega) other
  unfold Memory.Misses
  rw [rowTarget_eq spacious fits addressable inside,
    rowTarget_eq spacious fits addressable among]
  rcases Nat.lt_or_gt_of_ne different with before | behind
  · have apart := spacious.rows_apart fits before
    unfold rectByte at apart ⊢
    omega
  · have apart := spacious.rows_apart fits behind
    unfold rectByte at apart ⊢
    omega

/-- What is copied of a row is a piece of the backing. -/
theorem getElem?_rowBytes (spacious : image.Spacious)
    (fits : req.r.width ≤ image.width)
    (within : req.offset + image.stride * (req.r.height - 1) +
      req.r.width * (pixmanFormatBpp image.format / 8) < 4294967296)
    (inside : row < req.r.height)
    (bound : index < req.r.width * (pixmanFormatBpp image.format / 8)) :
    (rowBytes memory entries req image image.width row)[index]? =
      (backingBytes memory entries)[
        req.offset + image.stride * row + index]? := by
  rw [← rowSource_eq within inside, rowBytes]
  apply getElem?_piece
  rw [rowTotal_eq spacious fits]
  exact bound

theorem storeAll_copiesRect (spacious : image.Spacious)
    (fits : req.r.FitsIn image.width image.height)
    (addressable : image.bufSize < 4294967296)
    (within : req.offset + image.stride * (req.r.height - 1) +
      req.r.width * (pixmanFormatBpp image.format / 8) < 4294967296) :
    CopiesRect (backingBytes memory entries) req image
      (Memory.storeAll (rowTarget req image)
        (rowBytes memory entries req image image.width)
        (List.range req.r.height) image.data) := by
  have narrow : req.r.width ≤ image.width := by
    have wide := fits.1
    omega
  have target : ∀ row, row < req.r.height →
      rowTarget req image row = rectByte req.r image row 0 :=
    fun row inside => rowTarget_eq spacious fits addressable inside
  have short := fun row =>
    @length_rowBytes_le memory entries req image spacious narrow row
  constructor
  · intro row inside index bound
    have place : rectByte req.r image row index =
        rowTarget req image row + index := by
      rw [target row inside]
      rfl
    have others : ∀ other, other ∈ List.range req.r.height → other ≠ row →
        Memory.Misses (rowTarget req image)
          (rowBytes memory entries req image image.width)
          (rowTarget req image row + index) other :=
      fun other member different => rowTarget_misses spacious fits
        addressable inside (List.mem_range.mp member) different bound
    rw [place, List.getD_eq_getElem?_getD,
      ← getElem?_rowBytes spacious narrow within inside bound]
    by_cases copied : index <
        (rowBytes memory entries req image image.width row).length
    · rw [Memory.storeAll_reached (List.mem_range.mpr inside) others copied,
        List.getD_eq_getElem?_getD, List.getElem?_eq_getElem copied,
        Option.getD_some, Option.getD_some]
    · rw [List.getElem?_eq_none (Nat.not_lt.mp copied), Option.getD_none]
      apply Memory.storeAll_missed
      intro other member
      by_cases same : other = row
      · rw [same]
        exact .inr (by omega)
      · exact others other member same
  · intro location away
    apply Memory.storeAll_missed
    intro row member
    have inside := List.mem_range.mp member
    have size := short row
    unfold Memory.Misses
    by_contra hit
    apply away row inside (location - rowTarget req image row)
    · omega
    · have start := target row inside
      unfold rectByte at start ⊢
      omega

end Rows

/-- A rectangle without pixels. -/
theorem copiesRect_empty {bytes : List UInt8} {req : TransferToHost2d}
    {image : Image} (empty : req.r.width = 0 ∨ req.r.height = 0) :
    CopiesRect bytes req image image.data := by
  constructor
  · intro row inside index bound
    rcases empty with narrow | low
    · rw [narrow, Nat.zero_mul] at bound
      cases bound
    · rw [low] at inside
      cases inside
  · intro _ _
    rfl

theorem View.Sized.copiesRect {view : View} {image : Image}
    {req : TransferToHost2d} {memory : Memory} {entries : List IoVec}
    (sized : view.Sized) (pixels : view.image = some image)
    (accepted : rectInside req.r view.record = true)
    (addressable : image.bufSize < 4294967296)
    (within : req.offset + image.stride * (req.r.height - 1) +
      req.r.width * (pixmanFormatBpp image.format / 8) < 4294967296) :
    CopiesRect (backingBytes memory entries) req image
      (Memory.storeAll (rowTarget req image)
        (rowBytes memory entries req image view.record.width)
        (List.range (min req.r.height view.record.height)) image.data) := by
  obtain ⟨narrow, low⟩ := size_of_rectInside accepted
  obtain ⟨_, _, width, height⟩ := sized.image image pixels
  rw [Nat.min_eq_left low]
  by_cases flat : req.r.width = 0 ∨ req.r.height = 0
  · have unchanged : Memory.storeAll (rowTarget req image)
        (rowBytes memory entries req image view.record.width)
        (List.range req.r.height) image.data = image.data := by
      funext location
      apply Memory.storeAll_missed
      intro row member
      rcases flat with thin | empty
      · have nothing : rowBytes memory entries req image view.record.width
            row = [] := by
          rw [rowBytes, rowTotal, thin, Nat.zero_min, Nat.zero_mul,
            Nat.zero_mod, List.take_zero]
        unfold Memory.Misses
        rw [nothing, List.length_nil]
        omega
      · rw [empty] at member
        cases member
    rw [unchanged]
    exact copiesRect_empty flat
  · have wide : view.record.width ≠ 0 := by omega
    have high : view.record.height ≠ 0 := by omega
    have fits := (sized.accepts_iff pixels wide high req.r).mp accepted
    rw [← width, ← height] at fits
    rw [← width]
    exact storeAll_copiesRect (sized.spacious pixels wide high) fits
      addressable within

end VirtioGpu.Gpu
