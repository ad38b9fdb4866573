import VirtioGpu.Vga.Canvas

namespace VirtioGpu.Vga

open Foundation

/-! The device shows what was painted on a canvas. -/

/-- The pixels are the bytes of the planes turned round. -/
structure Canvas.Holds (canvas : Canvas) (vgaRam : Memory)
    (gcLatch : Fin 4 → UInt8) : Prop where
  pixels : ∀ offset, offset < 64 * kb → canvas.pixels offset =
    octetOf fun plane => vgaRam (planeIndex offset plane)
  latch : canvas.latch = octetOf gcLatch

/-! One byte. -/

/-- A byte is read from the planes. -/
def LoadsInPlanes (vd : VgaVdev) (addr : Nat) : Prop :=
  ∀ offset, windowOffset vd.gc.gcMiscMm addr = some offset →
    offset < 64 * kb ∧ (vd.gc.gcModeRm = 0 → vd.gc.regs .readMapSelect ≤ 3)

/-- A byte is written to the planes, and the code follows the rules of the
graphics controller.  Before the window the log call of the write handler has
its arguments inside the format. -/
def StoresByRule (undefinedShift : UInt8 → UInt8 → UInt8) (vd : VgaVdev)
    (addr : Nat) (val : UInt8) : Prop :=
  ∃ offset, windowOffset vd.gc.gcMiscMm addr = some offset ∧
    offset < 64 * kb ∧
      ((vd.gc.gcModeWm = 0 ∨ vd.gc.gcModeWm = 2 ∨ vd.gc.gcModeWm = 3) →
        ∀ plane ∈ storedPlanes vd offset, ∀ index, index < 8 →
          BitFollows vd.gc val plane index undefinedShift)

theorem planeIndex_inj {offset other : Nat} {plane second : Fin 4}
    (within : offset < 64 * kb) (inPlane : other < 64 * kb)
    (same : planeIndex offset plane = planeIndex other second) :
    offset = other ∧ plane = second := by
  have bound := plane.isLt
  have limit := second.isLt
  unfold planeIndex kb at *
  refine ⟨?_, ?_⟩
  · omega
  · apply Fin.ext
    omega

theorem storedOffset_le (vd : VgaVdev) (offset : Nat) :
    storedOffset vd offset ≤ offset := by
  unfold storedOffset
  split <;> omega

/-- Only the bytes at one offset are stored. -/
theorem foldl_update_ne {offset location : Nat} {bytes : Fin 4 → UInt8}
    (planes : List (Fin 4)) {ram : Memory}
    (elsewhere : ∀ plane ∈ planes, location ≠ planeIndex offset plane) :
    planes.foldl (fun ram plane => Function.update ram
      (planeIndex offset plane) (bytes plane)) ram location =
        ram location := by
  induction planes generalizing ram with
  | nil => rfl
  | cons first rest induction =>
      obtain ⟨apart, others⟩ := List.forall_mem_cons.mp elsewhere
      rw [List.foldl_cons, induction others, Function.update_of_ne apart]

/-- What a byte written in the planes changes. -/
theorem vgaMemWrHandler_spec (undefinedShift : UInt8 → UInt8 → UInt8)
    {vd : VgaVdev} {addr offset : Nat} (val : UInt8)
    (window : windowOffset vd.gc.gcMiscMm addr = some offset)
    (inPlane : offset < 64 * kb) :
    ∃ vgaRam : Memory,
      (vgaMemWrHandler undefinedShift vd addr val).1 =
        { vd with vgaRam := vgaRam } ∧
      ∀ place, place < 64 * kb → ∀ plane,
        (place = storedOffset vd offset → plane ∈ storedPlanes vd offset →
          vgaRam (planeIndex place plane) =
            planeByte undefinedShift vd.gc val plane) ∧
        (¬(place = storedOffset vd offset ∧
            plane ∈ storedPlanes vd offset) →
          vgaRam (planeIndex place plane) =
            vd.vgaRam (planeIndex place plane)) := by
  have below : storedOffset vd offset < 64 * kb :=
    Nat.lt_of_le_of_lt (storedOffset_le vd offset) inPlane
  unfold vgaMemWrHandler
  rw [window]
  refine ⟨_, rfl, ?_⟩
  intro place within plane
  constructor
  · rintro rfl member
    exact stored_of_mem (.inl member)
  · intro spared
    apply foldl_update_ne
    intro other member same
    obtain ⟨sameOffset, samePlane⟩ := planeIndex_inj within below same
    exact spared ⟨sameOffset, samePlane ▸ member⟩

/-- A pixel that a byte paints. -/
theorem painted_eq (undefinedShift : UInt8 → UInt8 → UInt8) {gc : VgaGc}
    (decoded : gc.gcOp = gc.regs .dataRotate >>> 3 &&& 0x3) {val : UInt8}
    {plane : Fin 4}
    (follows : (gc.gcModeWm = 0 ∨ gc.gcModeWm = 2 ∨ gc.gcModeWm = 3) →
      ∀ index, index < 8 → BitFollows gc val plane index undefinedShift)
    (column : Fin 8) :
    painted gc val column (octetOf gc.gcLatch column) plane =
      bit (planeByte undefinedShift gc val plane) (7 - column.val) := by
  have inByte : 7 - column.val < 8 := by omega
  have ruled : (gc.gcModeWm = 0 ∨ gc.gcModeWm = 2 ∨ gc.gcModeWm = 3) →
      bit (planeByte undefinedShift gc val plane) (7 - column.val) =
        plannedBit gc val plane (7 - column.val) := fun mode =>
    (bit_planeByte_iff undefinedShift decoded mode val plane inByte).mpr
      (follows mode _ inByte)
  have modes : ∀ code : UInt8, gc.gcModeWm = code ↔
      gc.gcModeWm.toNat = code.toNat := fun code => UInt8.toNat_inj.symm
  simp only [modes] at ruled
  unfold painted
  split <;> rename_i mode
  · exact (ruled (.inl mode)).symm
  · exact (ruled (.inr (.inl mode))).symm
  · exact (ruled (.inr (.inr mode))).symm
  · unfold planeByte
    split
    · contradiction
    · contradiction
    · contradiction
    · rfl

section Bytes

variable {undefinedShift : UInt8 → UInt8 → UInt8} {vd : VgaVdev}
  {canvas : Canvas} {addr : Nat}

theorem Canvas.Holds.store {val : UInt8} (decoded : vd.Decoded)
    (holds : canvas.Holds vd.vgaRam vd.gc.gcLatch)
    (byRule : StoresByRule undefinedShift vd addr val) :
    (Canvas.store vd canvas addr val).Holds
      (vgaMemWrHandler undefinedShift vd addr val).1.vgaRam
      (vgaMemWrHandler undefinedShift vd addr val).1.gc.gcLatch := by
  obtain ⟨pixels, latch⟩ := holds
  obtain ⟨offset, window, inPlane, follows⟩ := byRule
  obtain ⟨after, written, stored⟩ :=
    vgaMemWrHandler_spec undefinedShift val window inPlane
  unfold Canvas.store
  rw [window, written]
  refine ⟨?_, latch⟩
  intro place within
  by_cases here : place = storedOffset vd offset
  · simp only [here, Function.update_self]
    apply octetOf_eq
    intro plane column
    obtain ⟨takes, spares⟩ := stored _ (here ▸ within) plane
    by_cases member : plane ∈ storedPlanes vd offset
    · rw [if_pos member, takes rfl member, latch]
      exact painted_eq undefinedShift decoded.function
        (fun mode => follows mode plane member) column
    · rw [if_neg member, spares fun both => member both.2,
        pixels _ (here ▸ within)]
      rfl
  · simp only [Function.update_of_ne here]
    rw [pixels place within]
    congr 1
    funext plane
    rw [(stored place within plane).2 fun both => here both.1]

theorem planeIndex_ofNat {offset plane : Nat} (known : plane ≤ 3) :
    planeIndex offset (Fin.ofNat 4 plane) = offset + plane * (64 * kb) := by
  have number : (Fin.ofNat 4 plane).val = plane := by
    simp only [Fin.val_ofNat]
    omega
  rw [planeIndex, number]

theorem getD_allPlanes {plane : Nat} (known : plane ≤ 3)
    (bytes : Fin 4 → UInt8) :
    (allPlanes.map bytes).getD plane 0 = bytes (Fin.ofNat 4 plane) := by
  match plane, known with
  | 0, _ => rfl
  | 1, _ => rfl
  | 2, _ => rfl
  | 3, _ => rfl

theorem Canvas.Holds.load (holds : canvas.Holds vd.vgaRam vd.gc.gcLatch)
    (inPlanes : LoadsInPlanes vd addr) :
    (vgaMemRdHandler vd addr).1.2 = (Canvas.load vd canvas addr).2 ∧
      (Canvas.load vd canvas addr).1.Holds
        (vgaMemRdHandler vd addr).1.1.vgaRam
        (vgaMemRdHandler vd addr).1.1.gc.gcLatch := by
  obtain ⟨pixels, latch⟩ := holds
  unfold Canvas.load vgaMemRdHandler
  cases window : windowOffset vd.gc.gcMiscMm addr with
  | none => exact ⟨rfl, pixels, latch⟩
  | some offset =>
      obtain ⟨inPlane, selects⟩ := inPlanes offset window
      have latched := pixels offset inPlane
      simp only
      split
      · exact ⟨rfl, pixels, latched⟩
      · rename_i mode
        obtain ⟨known, before⟩ := readSelection_spec vd offset
        have selected := known.mpr (selects (not_not.mp mode))
        have inPlanes : (readSelection vd offset).2 < 64 * kb :=
          Nat.lt_of_le_of_lt before inPlane
        refine ⟨?_, pixels, latched⟩
        simp only [pixels _ inPlanes, getD_allPlanes selected, byte_octetOf,
          planeIndex_ofNat selected]

theorem StoresByRule.after {other : Nat} {val byte : UInt8}
    (byRule : StoresByRule undefinedShift vd addr val) :
    StoresByRule undefinedShift
      (vgaMemWrHandler undefinedShift vd other byte).1 addr val := by
  unfold vgaMemWrHandler
  split
  · exact byRule
  · exact byRule

end Bytes

def byRule (undefinedShift : UInt8 → UInt8 → UInt8) : Within :=
  ⟨LoadsInPlanes, StoresByRule undefinedShift⟩

theorem canvas_faithful (undefinedShift : UInt8 → UInt8 → UInt8) :
    canvasBytewise.Faithful undefinedShift (byRule undefinedShift)
      Canvas.Holds where
  unseen := fun _ _ _ => ⟨rfl, rfl⟩
  load := fun holds inPlanes => holds.load inPlanes
  store := fun decoded holds byRule => holds.store decoded byRule
  loadsAfter := by
    intro vd addr other inPlanes
    obtain ⟨vgaRam, gcLatch, same⟩ := vgaMemRdHandler_event vd other
    rw [same]
    exact inPlanes
  storesAfter := fun byRule => byRule.after

theorem Canvas.blank_holds :
    Canvas.blank.Holds Memory.zero fun _ => 0 := by
  refine ⟨?_, ?_⟩
  · intro offset _
    exact octetOf_eq fun plane column => bit_zero.symm
  · exact octetOf_eq fun plane column => bit_zero.symm

/-- The device draws pixels. -/
def VgaVdev.Graphics (vd : VgaVdev) : Prop :=
  vd.gc.gcMiscGm ≠ 0 ∧ vd.atc.regs .modeControl &&& 0x01 ≠ 0

theorem Canvas.Holds.pixel {vd : VgaVdev} {canvas : Canvas}
    (holds : canvas.Holds vd.vgaRam vd.gc.gcLatch) {x y : Nat}
    (inPlane : pixelOffset (gcWidth vd) x y < 64 * kb) :
    (vgaGetPixel vd x y).1 = shade vd
      (canvas.pixels (pixelOffset (gcWidth vd) x y) (Fin.ofNat 8 x)) := by
  rw [holds.pixels _ inPlane]
  unfold vgaGetPixel shade
  rw [shownEntry_eq]
  rfl

theorem Canvas.Holds.picture {vd : VgaVdev} {canvas : Canvas}
    (holds : canvas.Holds vd.vgaRam vd.gc.gcLatch) (graphics : vd.Graphics)
    (inside : RenderInside vd) :
    (vgaRender vd).map Prod.fst = canvas.picture vd := by
  have mode : vd.gc.gcMiscGm ≠ 0 ∧
      vd.atc.regs .modeControl &&& 0x01 ≠ 0 := graphics
  unfold vgaRender Canvas.picture
  split
  · rfl
  · rename_i running
    rw [List.map_flatMap]
    apply List.flatMap_congr
    intro y row
    rw [List.map_map]
    apply List.map_congr_left
    intro x column
    have narrow := List.mem_range.mp column
    have low := List.mem_range.mp row
    have last := inside (by simpa using running) (by omega)
    rw [if_pos mode] at last
    exact holds.pixel (Nat.lt_of_le_of_lt
      (pixelOffset_mono (by omega) (by omega)) last)

theorem SameRegisters.picture {panel vd : VgaVdev}
    (same : SameRegisters panel vd) (canvas : Canvas) :
    canvas.picture vd = canvas.picture panel := by
  obtain ⟨vgaRam, gcLatch, rfl⟩ := same
  rfl

/-- In a run whose accesses go to the planes and whose writes follow the
rules, what is read and what is shown is what is read and shown of the
canvas. -/
theorem vga_paints (undefinedShift : UInt8 → UInt8 → UInt8)
    (gcImage : Option Bool) {acts : List VgaAct}
    (allowed : AllowedRun (vgaAct undefinedShift)
      (byRule undefinedShift).Allows (vgaInit gcImage) acts) :
    let device := runInputs (vgaAct undefinedShift) (vgaInit gcImage) acts
    let painter := runInputs canvasBytewise.act
      ⟨vgaInit gcImage, Canvas.blank⟩ acts
    device.2 = painter.2 ∧
      (device.1.Graphics → RenderInside device.1 →
        (vgaRender device.1).map Prod.fst =
          painter.1.contents.picture painter.1.panel) := by
  have starts : Shadow.Follows Canvas.Holds (vgaInit gcImage)
      ⟨vgaInit gcImage, Canvas.blank⟩ :=
    ⟨.refl _, .initial gcImage, Canvas.blank_holds⟩
  have run := (canvas_faithful undefinedShift).run starts allowed
  refine ⟨run.answer, ?_⟩
  intro graphics inside
  rw [run.alike.holds.picture graphics inside]
  exact run.alike.registers.picture _

/-- A screen of eight pixels in sixteen colours, the first of which is read
and painted. -/
def paintedPixel : List VgaAct :=
  [.out 0x3c4 0, .out 0x3c5 3, .out 0x3c4 1, .out 0x3c5 1, .out 0x3c4 2,
    .out 0x3c5 0x0f, .out 0x3d4 0x17, .out 0x3d5 0x80, .out 0x3ce 5,
    .out 0x3cf 2, .out 0x3ce 6, .out 0x3cf 5, .out 0x3ce 8, .out 0x3cf 0x80,
    .out 0x3c0 0x05, .out 0x3c0 0x05, .out 0x3c0 0x12, .out 0x3c0 0x0f,
    .out 0x3c0 0x10, .out 0x3c0 0x01, .load 0xa0000 1 0, .store 0xa0000 1 5]

theorem vga_paints_pixel :
    (vgaRender (runInputs (vgaAct fun _ _ => 0) (vgaInit none)
      paintedPixel).1).map Prod.fst = 0xa800a8 :: List.replicate 7 0 := by
  have allowed : AllowedRun (vgaAct fun _ _ => 0)
      (byRule fun _ _ => 0).Allows (vgaInit none) paintedPixel := by
    unfold paintedPixel
    iterate 20 refine ⟨trivial, ?_⟩
    refine ⟨?_, ?_, trivial⟩
    · intro byte member offset window
      obtain rfl := List.mem_singleton.mp member
      cases window
      decide
    · intro byte member
      obtain rfl := List.mem_singleton.mp member
      exact ⟨0, rfl, by decide, fun _ _ _ _ _ => trivial⟩
  have paints := (vga_paints (fun _ _ => 0) none allowed).2
  rw [paints (by unfold VgaVdev.Graphics; decide)
    (by unfold RenderInside; decide)]
  decide

end VirtioGpu.Vga
