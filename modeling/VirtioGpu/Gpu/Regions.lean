import VirtioGpu.Gpu.State
import VirtioGpu.Foundation.Intervals

namespace VirtioGpu.Gpu

open Foundation

/-! The pixels of the rectangles that `virtio_gpu_scanout_needs_flush`
compares, and what is left of them in 16-bit regions. -/

/-- The rectangle with its edges over the natural numbers. -/
def Rect.box (rect : Rect) : Box Nat where
  columns := ⟨rect.x, rect.x + rect.width⟩
  rows := ⟨rect.y, rect.y + rect.height⟩

def Rect.pixels (rect : Rect) : Set (Nat × Nat) := rect.box.points

def SharePixel (first second : Rect) : Prop :=
  (first.pixels ∩ second.pixels).Nonempty

theorem sharePixel_iff (first second : Rect) :
    SharePixel first second ↔ first.box.Crosses second.box :=
  Box.inter_nonempty_iff first.box second.box

instance (first second : Rect) : Decidable (SharePixel first second) :=
  decidable_of_iff _ (sharePixel_iff first second).symm

/-! The 65536 values of `int16_t` are the offsets in a window that begins at
-32768. -/

def int16Window (value : Nat) : Nat := window 65536 32768 value

def int16Offset (value : Nat) : Nat := windowOffset 65536 32768 value

theorem toInt16_lt_iff (first second : Nat) :
    toInt16 first < toInt16 second ↔
      int16Offset first < int16Offset second := by
  unfold toInt16 int16Offset windowOffset
  omega

/-- The boxes pixman stores have a pixel in common. -/
theorem regionsMeet_iff (first second : Rect) :
    pixmanRegionNotEmpty
        (pixmanRegionIntersect (regionOfRect first) (regionOfRect second)) =
      true ↔
    (first.box.map int16Offset).Crosses (second.box.map int16Offset) := by
  have order := toInt16_lt_iff
  unfold regionOfRect pixmanRegionInitRect pixmanRegionNotEmpty
  dsimp only
  constructor
  · intro meets
    split at meets
    · split at meets
      · unfold pixmanRegionIntersect at meets
        dsimp only at meets
        split at meets
        · cases meets
        · rename_i spans otherSpans apart
          obtain ⟨columns, rows⟩ := spans
          obtain ⟨otherColumns, otherRows⟩ := otherSpans
          have forward : toInt16 first.x <
              toInt16 (second.x + second.width) := by omega
          have backward : toInt16 second.x <
              toInt16 (first.x + first.width) := by omega
          have below : toInt16 first.y <
              toInt16 (second.y + second.height) := by omega
          have above : toInt16 second.y <
              toInt16 (first.y + first.height) := by omega
          rw [order] at columns rows otherColumns otherRows
          rw [order] at forward backward below above
          exact ⟨⟨columns, forward, backward, otherColumns⟩,
            ⟨rows, below, above, otherRows⟩⟩
      · cases meets
    · cases meets
  · rintro ⟨columns, rows⟩
    have own := (order _ _).mpr columns.inFirst
    have ownRows := (order _ _).mpr rows.inFirst
    have other := (order _ _).mpr columns.inSecond
    have otherRows := (order _ _).mpr rows.inSecond
    have forward := (order _ _).mpr columns.forward
    have backward := (order _ _).mpr columns.backward
    have below := (order _ _).mpr rows.forward
    have above := (order _ _).mpr rows.backward
    dsimp only [Rect.box, Box.map, Span.map] at *
    rw [if_pos ⟨own, ownRows⟩, if_pos ⟨other, otherRows⟩]
    unfold pixmanRegionIntersect
    dsimp only
    rw [if_neg (by omega)]
    rfl

/-! The flush decision against the pixels. -/

/-- The ids are equal and the rectangles share a pixel. -/
def FlushExact (scanout : Scanout) (resourceId : Nat) (flushRect : Rect) :
    Prop :=
  virtioGpuScanoutNeedsFlush scanout resourceId flushRect = true ↔
    resourceId = scanout.resourceId ∧
      SharePixel scanout.scanoutRect flushRect

instance (scanout : Scanout) (resourceId : Nat) (flushRect : Rect) :
    Decidable (FlushExact scanout resourceId flushRect) :=
  inferInstanceAs (Decidable (_ ↔ _))

/-- On one axis, the edge `finish` lies in a later window than the edge
`start`, and not further into it. -/
def Folds (start finish : Nat) : Prop :=
  int16Window start < int16Window finish ∧
    int16Offset finish ≤ int16Offset start

/-- One of the starts and one of the finishes of the spans fold. -/
def SpansFold (first second : Span Nat) : Prop :=
  ∃ start, start ∈ [first.start, second.start] ∧
    ∃ finish, finish ∈ [first.finish, second.finish] ∧ Folds start finish

/-- The rectangles share a pixel, and on one axis a near edge and a far edge
fold. -/
def FlushDropped (scanoutRect flushRect : Rect) : Prop :=
  SharePixel scanoutRect flushRect ∧
    (SpansFold scanoutRect.box.columns flushRect.box.columns ∨
      SpansFold scanoutRect.box.rows flushRect.box.rows)

/-- The rectangles share no pixel, and on both axes every near edge has a
smaller offset in its window than every far edge. -/
def FlushInvented (scanoutRect flushRect : Rect) : Prop :=
  ¬SharePixel scanoutRect flushRect ∧
    (scanoutRect.box.map int16Offset).Crosses (flushRect.box.map int16Offset)

theorem SpansFold.not_crosses {first second : Span Nat}
    (folds : SpansFold first second) :
    ¬(first.map int16Offset).Crosses (second.map int16Offset) := by
  obtain ⟨start, starts, finish, finishes, _, folded⟩ := folds
  intro crosses
  have inFirst := crosses.inFirst
  have forward := crosses.forward
  have backward := crosses.backward
  have inSecond := crosses.inSecond
  simp only [Span.map, List.mem_cons, List.not_mem_nil, or_false] at *
  rcases starts with rfl | rfl
  · rcases finishes with rfl | rfl
    · omega
    · omega
  · rcases finishes with rfl | rfl
    · omega
    · omega

/-- Spans that cross and do not fold cross in their windows as well. -/
theorem crosses_of_not_spansFold {first second : Span Nat}
    (crosses : first.Crosses second) (kept : ¬SpansFold first second) :
    (first.map int16Offset).Crosses (second.map int16Offset) := by
  have ordered : ∀ start, start ∈ [first.start, second.start] →
      ∀ finish, finish ∈ [first.finish, second.finish] → start < finish →
        int16Offset start < int16Offset finish := by
    intro start starts finish finishes before
    apply Nat.not_le.mp
    intro folded
    exact kept ⟨start, starts, finish, finishes,
      window_lt_of_windowOffset_le before folded, folded⟩
  constructor
  · exact ordered _ (by simp) _ (by simp) crosses.inFirst
  · exact ordered _ (by simp) _ (by simp) crosses.forward
  · exact ordered _ (by simp) _ (by simp) crosses.backward
  · exact ordered _ (by simp) _ (by simp) crosses.inSecond

theorem flushExact_iff (scanout : Scanout) (resourceId : Nat)
    (flushRect : Rect) :
    FlushExact scanout resourceId flushRect ↔
      resourceId ≠ scanout.resourceId ∨
        ¬FlushDropped scanout.scanoutRect flushRect ∧
          ¬FlushInvented scanout.scanoutRect flushRect := by
  have decided := regionsMeet_iff scanout.scanoutRect flushRect
  unfold FlushExact virtioGpuScanoutNeedsFlush
  by_cases same : resourceId = scanout.resourceId
  · rw [if_neg (not_not.mpr same), decided]
    constructor
    · intro exact
      refine .inr ⟨?_, ?_⟩
      · rintro ⟨shared, folds⟩
        have crosses := exact.mpr ⟨same, shared⟩
        rcases folds with columns | rows
        · exact columns.not_crosses crosses.columns
        · exact rows.not_crosses crosses.rows
      · rintro ⟨apart, crosses⟩
        exact apart (exact.mp crosses).2
    · rintro (different | ⟨noneDropped, noneInvented⟩)
      · exact absurd same different
      · constructor
        · intro crosses
          refine ⟨same, ?_⟩
          by_contra apart
          exact noneInvented ⟨apart, crosses⟩
        · rintro ⟨_, shared⟩
          have crosses := (sharePixel_iff _ _).mp shared
          constructor
          · apply crosses_of_not_spansFold crosses.columns
            intro folds
            exact noneDropped ⟨shared, .inl folds⟩
          · apply crosses_of_not_spansFold crosses.rows
            intro folds
            exact noneDropped ⟨shared, .inr folds⟩
  · rw [if_pos same]
    constructor
    · intro _
      exact .inl same
    · intro _
      simp [same]

end VirtioGpu.Gpu
