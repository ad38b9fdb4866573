import VirtioGpu.Foundation.BitFields
import VirtioGpu.Vdpy.EdidBlocks

namespace VirtioGpu.Vdpy

open Foundation
open Foundation.Buffer

/-! The preferred timing, read back from the first descriptor. -/

/-- The fields of a detailed timing descriptor. -/
structure DetailedTiming where
  pixelClock : Nat
  havPixel : Nat
  hbPixel : Nat
  vavLine : Nat
  vbLine : Nat
  hfpPixel : Nat
  hspPixel : Nat
  vfpLine : Nat
  vspLine : Nat
  deriving Repr, DecidableEq

/-- The layout of EDID 1.4: twelve bits for sizes, ten for the horizontal and
six for the vertical porch and sync, with the upper bits in bytes 4, 7 and
11. -/
def decodeTiming (byte : Nat → Nat) : DetailedTiming where
  pixelClock := byte 0 + 256 * byte 1
  havPixel := byte 2 + 256 * (byte 4 / 16)
  hbPixel := byte 3 + 256 * (byte 4 % 16)
  vavLine := byte 5 + 256 * (byte 7 / 16)
  vbLine := byte 6 + 256 * (byte 7 % 16)
  hfpPixel := byte 8 + 256 * (byte 11 / 64)
  hspPixel := byte 9 + 256 * (byte 11 / 16 % 4)
  vfpLine := byte 10 / 16 + 16 * (byte 11 / 4 % 4)
  vspLine := byte 10 % 16 + 16 * (byte 11 % 4)

/-- The image size in millimetres. -/
def decodeImage (byte : Nat → Nat) : Nat × Nat :=
  (byte 12 + 256 * (byte 14 / 16), byte 13 + 256 * (byte 14 % 16))

/-- The pixel clock of the requested mode, over the natural numbers. -/
def exactClock (width height : Nat) : Nat :=
  60 * (width + 35 * width / 100) * (height + 35 * height / 1000)

/-- What a decoder is to find. -/
def requestedTiming (width height : Nat) : DetailedTiming :=
  let frame := vdpyEdidSetFrame (vdpyEdidSetBaseparam width height)
  { pixelClock := exactClock width height / 10000
    havPixel := width
    hbPixel := frame.hbPixel
    vavLine := height
    vbLine := frame.vbLine
    hfpPixel := frame.hfpPixel
    hspPixel := frame.hspPixel
    vfpLine := frame.vfpLine
    vspLine := frame.vspLine }

def descriptorByte (bytes : Memory) (index : Nat) : Nat :=
  (bytes (54 + index)).toNat

/-- All bytes are 0 but for the tag of a dummy descriptor. -/
def DummyDescriptor (bytes : Memory) : Prop :=
  ∀ index, index < 18 →
    descriptorByte bytes index = if index = 3 then 0x10 else 0

/-- The first descriptor is the dummy if the clock does not fit; otherwise it
decodes to the requested mode, and bytes 21 and 22 are its image size in
centimetres. -/
def TimingDecodes (bytes : Memory) (width height : Nat) : Prop :=
  if exactClock width height / 10000 > 65535 then
    DummyDescriptor bytes
  else
    decodeTiming (descriptorByte bytes) = requestedTiming width height ∧
      (bytes 21).toNat = (decodeImage (descriptorByte bytes)).1 / 10 ∧
        (bytes 22).toNat = (decodeImage (descriptorByte bytes)).2 / 10

/-! The generated buffer up to the descriptor. -/

theorem contents_dtd (edid : Buffer) (bParam : BaseParam) :
    ∃ between : Buffer, Confined 25 54 edid between ∧
      Confined 72 126
        (vdpyEdidSetDtd between 54 (vdpyEdidSetFrame bParam))
        (setContents edid bParam) := by
  refine ⟨(vdpyEdidSetTiming (vdpyEdidSetTiming (vdpyEdidSetColor edid 6400
    3300 3000 6000 1500 600 3127 3290) 0 .estt).1 0 .stdt).1, ?_, ?_⟩
  · have color := color_confined edid 6400 3300 3000 6000 1500 600 3127 3290
    have estt := estt_confined (vdpyEdidSetColor edid 6400 3300 3000 6000 1500
      600 3127 3290)
    have stdt := stdt_confined (vdpyEdidSetTiming (vdpyEdidSetColor edid 6400
      3300 3000 6000 1500 600 3127 3290) 0 .estt).1
    exact ((color.mono (by decide) (by decide)).trans
      (estt.mono (by decide) (by decide))).trans
        (stdt.mono (by decide) (by decide))
  · unfold setContents
    dsimp only
    generalize (vdpyEdidSetTiming (vdpyEdidSetTiming (vdpyEdidSetColor edid
      6400 3300 3000 6000 1500 600 3127 3290) 0 .estt).1 0 .stdt).1 = between
    have first : vdpyEdidSetDescripter between 54 true 0 bParam =
        vdpyEdidSetDtd between 54 (vdpyEdidSetFrame bParam) := rfl
    rw [first]
    generalize vdpyEdidSetDtd between 54 (vdpyEdidSetFrame bParam) = start
    have range := descripter_confined start 72 false bParam
      (by decide : 0xfd ≠ 0xf7)
    generalize vdpyEdidSetDescripter start 72 false 0xfd bParam = ranged
      at range
    have name := descripter_confined ranged 90 false bParam
      (by decide : 0xfc ≠ 0xf7)
    generalize vdpyEdidSetDescripter ranged 90 false 0xfc bParam = named
      at name
    have serial := descripter_confined named 108 false bParam
      (by decide : 0xff ≠ 0xf7)
    exact ((range.mono (by decide) (by decide)).trans
      (name.mono (by decide) (by decide))).trans
        (serial.mono (by decide) (by decide))

theorem identification_sizes (edid : Buffer) (bParam : BaseParam)
    (info : EdidInfo) :
    (setIdentification edid bParam info).bytes 21 =
        UInt8.ofNat (info.prefx / 10) ∧
      (setIdentification edid bParam info).bytes 22 =
        UInt8.ofNat (info.prefy / 10) := by
  simp [setIdentification]

/-- Nothing before the end of the first block is written later. -/
theorem generate_kept (edid : Buffer) {size : Nat} (info : EdidInfo)
    {location : Nat} (early : location < 126) :
    (vdpyEdidGenerate edid size info).bytes location =
      (setContents (setIdentification (edid.fill 0 0 size)
          (vdpyEdidSetBaseparam info.prefx info.prefy) info)
        (vdpyEdidSetBaseparam info.prefx info.prefy)).bytes location := by
  unfold vdpyEdidGenerate
  rw [fillEdid_eq]
  unfold firstBlock
  dsimp only
  generalize setContents _ _ = contents
  have first := (blockEnd_confined contents 0).kept location (.inl early)
  split
  · have second := (blockEnd_confined (setBlockEnd contents 0) 1).kept location
      (.inl early)
    have extended := (extension_confined (setBlockEnd (setBlockEnd contents 0)
      1)).kept location (.inl (by omega))
    rw [extended, second, first]
  · exact first

/-- The descriptor is written on cleared bytes, and the sizes before it. -/
theorem generate_dtd (edid : Buffer) {size : Nat} (info : EdidInfo)
    (large : 128 ≤ size) :
    ∃ between : Buffer,
      (∀ location, 54 ≤ location → location < 72 →
        between.bytes location = 0) ∧
      (∀ location, 54 ≤ location → location < 72 →
        (vdpyEdidGenerate edid size info).bytes location =
          (vdpyEdidSetDtd between 54 (vdpyEdidSetFrame
            (vdpyEdidSetBaseparam info.prefx info.prefy))).bytes location) ∧
      (vdpyEdidGenerate edid size info).bytes 21 =
        UInt8.ofNat (info.prefx / 10) ∧
      (vdpyEdidGenerate edid size info).bytes 22 =
        UInt8.ofNat (info.prefy / 10) := by
  have kept := fun location (early : location < 126) =>
    @generate_kept edid size info location early
  generalize vdpyEdidSetBaseparam info.prefx info.prefy = bParam at kept ⊢
  have sizes := identification_sizes (edid.fill 0 0 size) bParam info
  have identified := identification_confined (edid.fill 0 0 size) bParam info
  have described := (contents_confined
    (setIdentification (edid.fill 0 0 size) bParam info) bParam).1
  obtain ⟨between, early, late⟩ := contents_dtd
    (setIdentification (edid.fill 0 0 size) bParam info) bParam
  refine ⟨between, ?_, ?_, ?_, ?_⟩
  · intro location above below
    rw [early.kept location (.inr above),
      identified.kept location (.inr (by omega)), fill_bytes,
      if_neg (by omega), fill_bytes, if_pos (by omega)]
    rfl
  · intro location above below
    rw [kept location (by omega), late.kept location (.inl below)]
  · rw [kept 21 (by decide), described.kept 21 (by decide), sizes.1]
  · rw [kept 22 (by decide), described.kept 22 (by decide), sizes.2]

/-! The bytes of a written descriptor. -/

theorem upper_nibbles (first second : Nat) :
    (first &&& 0xf00) >>> 4 ||| (second &&& 0xf00) >>> 8 =
      first / 256 % 16 * 16 + second / 256 % 16 := by
  have high : (first &&& 0xf00) >>> 4 = first / 256 % 16 * 16 :=
    @and_mask_shiftRight first 8 4 4 (by decide)
  have low : (second &&& 0xf00) >>> 8 = second / 256 % 16 * 1 :=
    @and_mask_shiftRight second 8 4 8 (by decide)
  rw [high, low, Nat.mul_one]
  exact @or_joined _ 4 _ (Nat.mod_lt _ (by decide))

theorem low_nibbles (first second : Nat) :
    (first &&& 0xf) <<< 4 ||| second &&& 0xf =
      first % 16 * 16 + second % 16 := by
  have high : first &&& 0xf = first % 16 :=
    Nat.and_two_pow_sub_one_eq_mod first 4
  have low : second &&& 0xf = second % 16 :=
    Nat.and_two_pow_sub_one_eq_mod second 4
  rw [high, low, Nat.shiftLeft_eq]
  exact @or_joined _ 4 _ (Nat.mod_lt _ (by decide))

/-- The upper bits of the vertical porch and sync are shifted out. -/
theorem vertical_lost (value : Nat) {shift : Nat} (far : 6 ≤ shift) :
    (value &&& 0x030) >>> shift = 0 := by
  rw [Nat.shiftRight_eq_div_pow]
  have small : value &&& 0x030 ≤ 0x030 := Nat.and_le_right
  have large : 2 ^ 6 ≤ 2 ^ shift := Nat.pow_le_pow_right (by decide) far
  exact Nat.div_eq_of_lt (by omega)

theorem porch_bits (hfp hsp vfp vsp : Nat) :
    (hfp &&& 0x300) >>> 2 ||| (hsp &&& 0x300) >>> 4 |||
        (vfp &&& 0x030) >>> 6 ||| (vsp &&& 0x030) >>> 8 =
      hfp / 256 % 4 * 64 + hsp / 256 % 4 * 16 := by
  have high : (hfp &&& 0x300) >>> 2 = hfp / 256 % 4 * 64 :=
    @and_mask_shiftRight hfp 8 2 2 (by decide)
  have low : (hsp &&& 0x300) >>> 4 = hsp / 256 % 4 * 16 :=
    @and_mask_shiftRight hsp 8 2 4 (by decide)
  rw [vertical_lost vfp (by decide), vertical_lost vsp (by decide), high, low,
    Nat.or_zero, Nat.or_zero]
  exact @or_joined _ 6 _ (by omega)

/-- The fields as far as the descriptor keeps them. -/
def keptTiming (frame : FrameParam) : DetailedTiming where
  pixelClock := frame.pixelClock / 10000
  havPixel := frame.havPixel % 4096
  hbPixel := frame.hbPixel % 4096
  vavLine := frame.vavLine % 4096
  vbLine := frame.vbLine % 4096
  hfpPixel := frame.hfpPixel % 1024
  hspPixel := frame.hspPixel % 1024
  vfpLine := frame.vfpLine % 16
  vspLine := frame.vspLine % 16

/-- A written descriptor, byte by byte. -/
def dtdValues (frame : FrameParam) : List Nat :=
  [frame.pixelClock / 10000 % 256, frame.pixelClock / 10000 / 256,
    frame.havPixel % 256, frame.hbPixel % 256,
    frame.havPixel / 256 % 16 * 16 + frame.hbPixel / 256 % 16,
    frame.vavLine % 256, frame.vbLine % 256,
    frame.vavLine / 256 % 16 * 16 + frame.vbLine / 256 % 16,
    frame.hfpPixel % 256, frame.hspPixel % 256,
    frame.vfpLine % 16 * 16 + frame.vspLine % 16,
    frame.hfpPixel / 256 % 4 * 64 + frame.hspPixel / 256 % 4 * 16,
    frame.width % 256, frame.height % 256,
    frame.width / 256 % 16 * 16 + frame.height / 256 % 16,
    frame.lhbPixel % 256, frame.tvbLine % 256, 24]

theorem setDtd_eq (edid : Buffer) {frame : FrameParam}
    (fits : frame.pixelClock / 10000 ≤ 65535) :
    vdpyEdidSetDtd edid 54 frame = edid.copy 54 (dtdValues frame) := by
  have byteMask : ∀ value, value &&& 0xff = value % 256 :=
    fun value => Nat.and_two_pow_sub_one_eq_mod value 8
  unfold vdpyEdidSetDtd
  rw [if_neg (by omega)]
  dsimp only
  rw [Nat.mod_eq_of_lt (show frame.pixelClock / 10000 < 65536 by omega),
    upper_nibbles, upper_nibbles, upper_nibbles, low_nibbles, porch_bits]
  simp only [byteMask]
  rfl

theorem dtdValues_byte {frame : FrameParam}
    (fits : frame.pixelClock / 10000 ≤ 65535) :
    ∀ value, value ∈ dtdValues frame → value < 256 := by
  simp only [dtdValues, List.forall_mem_cons, List.not_mem_nil, false_implies,
    implies_true, and_true]
  omega

theorem setDtd_byte (edid : Buffer) {frame : FrameParam}
    (fits : frame.pixelClock / 10000 ≤ 65535) {index : Nat}
    (inside : index < 18) :
    descriptorByte (vdpyEdidSetDtd edid 54 frame).bytes index =
      (dtdValues frame).getD index 0 := by
  have within : index < (dtdValues frame).length := inside
  unfold descriptorByte
  rw [setDtd_eq edid fits, copy_bytes _ _ _ within,
    List.getD_eq_getElem _ _ within]
  exact UInt8.toNat_ofNat_of_lt'
    (dtdValues_byte fits _ (List.getElem_mem within))

theorem decode_setDtd (edid : Buffer) {frame : FrameParam}
    (fits : frame.pixelClock / 10000 ≤ 65535) :
    decodeTiming (descriptorByte (vdpyEdidSetDtd edid 54 frame).bytes) =
      keptTiming frame := by
  simp only [decodeTiming, keptTiming, setDtd_byte edid fits, Nat.reduceLT]
  simp only [dtdValues, List.getD_cons_zero, List.getD_cons_succ,
    DetailedTiming.mk.injEq]
  omega

theorem decodeImage_setDtd (edid : Buffer) {frame : FrameParam}
    (fits : frame.pixelClock / 10000 ≤ 65535) :
    decodeImage (descriptorByte (vdpyEdidSetDtd edid 54 frame).bytes) =
      (frame.width % 4096, frame.height % 4096) := by
  simp only [decodeImage, setDtd_byte edid fits, Nat.reduceLT]
  simp only [dtdValues, List.getD_cons_zero, List.getD_cons_succ,
    Prod.mk.injEq]
  omega

theorem dummy_setDtd {edid : Buffer} {frame : FrameParam}
    (cleared : ∀ location, 54 ≤ location → location < 72 →
      edid.bytes location = 0) :
    DummyDescriptor (vdpyEdidSetDtd edid 54 frame).bytes ↔
      655360000 ≤ frame.pixelClock := by
  constructor
  · intro dummy
    apply Decidable.byContradiction
    intro small
    have last := dummy 17 (by decide)
    rw [setDtd_byte edid (by omega) (by decide)] at last
    cases last
  · intro large index inside
    unfold descriptorByte vdpyEdidSetDtd
    rw [if_pos (by omega), put_bytes]
    by_cases tag : index = 3
    · rw [if_pos (by omega), if_pos tag]
      rfl
    · rw [if_neg (by omega), if_neg tag, cleared _ (by omega) (by omega)]
      rfl

/-! The product of 32-bit values. -/

/-- The product as 32-bit arithmetic gives it. -/
def wrappedClock (width height : Nat) : Nat :=
  60 * (width + 35 * width % 4294967296 / 100) *
    (height + 35 * height % 4294967296 / 1000) % 4294967296

theorem setFrame_clock (width height : Nat) :
    (vdpyEdidSetFrame (vdpyEdidSetBaseparam width height)).pixelClock =
      wrappedClock width height := by
  simp only [vdpyEdidSetFrame, vdpyEdidSetBaseparam, wrappedClock, word32,
    Nat.mul_comm 35]

theorem product_le_clock (width height : Nat) :
    60 * (width * height) ≤ exactClock width height := by
  unfold exactClock
  rw [← Nat.mul_assoc]
  exact Nat.mul_le_mul
    (Nat.mul_le_mul_left 60 (Nat.le_add_right width (35 * width / 100)))
    (Nat.le_add_right height (35 * height / 1000))

/-- A clock that fits in sixteen bits is computed without overflow. -/
theorem wrappedClock_eq {width height : Nat}
    (fits : exactClock width height < 655360000) :
    wrappedClock width height = exactClock width height := by
  have product := product_le_clock width height
  rcases Nat.eq_zero_or_pos width with empty | wide
  · simp [wrappedClock, exactClock, empty]
  · rcases Nat.eq_zero_or_pos height with empty | tall
    · simp [wrappedClock, exactClock, empty]
    · have width_le := Nat.le_mul_of_pos_right width tall
      have height_le := Nat.le_mul_of_pos_left height wide
      unfold wrappedClock
      rw [Nat.mod_eq_of_lt (show 35 * width < 4294967296 by omega),
        Nat.mod_eq_of_lt (show 35 * height < 4294967296 by omega)]
      exact Nat.mod_eq_of_lt (Nat.lt_trans fits (by decide))

/-- The clock of every mode of at most 2559 by 2559 fits. -/
theorem exactClock_small {width height : Nat} (narrow : width ≤ 2559)
    (short : height ≤ 2559) : exactClock width height < 655360000 := by
  have columns : width + 35 * width / 100 ≤ 3454 := by omega
  have lines : height + 35 * height / 1000 ≤ 2648 := by omega
  calc exactClock width height
      ≤ 60 * 3454 * 2648 :=
        Nat.mul_le_mul (Nat.mul_le_mul_left 60 columns) lines
    _ < 655360000 := by decide

/-! The decoded timing against the requested one. -/

/-- A mode of at most 2559 by 2559 is kept whole. -/
theorem keptTiming_small {width height : Nat} (narrow : width ≤ 2559)
    (short : height ≤ 2559) :
    keptTiming (vdpyEdidSetFrame (vdpyEdidSetBaseparam width height)) =
      requestedTiming width height := by
  have fits := exactClock_small narrow short
  simp only [keptTiming, requestedTiming, DetailedTiming.mk.injEq,
    setFrame_clock, wrappedClock_eq fits]
  simp only [vdpyEdidSetFrame, vdpyEdidSetBaseparam, word32]
  simp (disch := omega) only [Nat.mod_eq_of_lt, and_self]

theorem kept_havPixel {width height : Nat}
    (same : keptTiming
        (vdpyEdidSetFrame (vdpyEdidSetBaseparam width height)) =
      requestedTiming width height) :
    width % 4096 = width ∧ height % 4096 = height :=
  ⟨congrArg DetailedTiming.havPixel same,
    congrArg DetailedTiming.vavLine same⟩

/-- A size in centimetres fits in a byte up to 2559. -/
theorem size_byte_iff {value : Nat} (small : value % 4096 = value) :
    (UInt8.ofNat (value / 10)).toNat = value % 4096 / 10 ↔
      value ≤ 2559 := by
  rw [UInt8.toNat_ofNat', small]
  omega

theorem decodeTiming_congr {first second : Nat → Nat}
    (same : ∀ index, index < 18 → first index = second index) :
    decodeTiming first = decodeTiming second ∧
      decodeImage first = decodeImage second := by
  simp [decodeTiming, decodeImage, same]

/-- The first descriptor says what was requested exactly when the mode is at
most 2559 by 2559, or when its clock does not fit and does not fit modulo 2^32
either. -/
theorem timingDecodes_iff {bytes : Memory} {edid : Buffer}
    {width height : Nat}
    (cleared : ∀ location, 54 ≤ location → location < 72 →
      edid.bytes location = 0)
    (described : ∀ location, 54 ≤ location → location < 72 →
      bytes location = (vdpyEdidSetDtd edid 54 (vdpyEdidSetFrame
        (vdpyEdidSetBaseparam width height))).bytes location)
    (horizontal : bytes 21 = UInt8.ofNat (width / 10))
    (vertical : bytes 22 = UInt8.ofNat (height / 10)) :
    TimingDecodes bytes width height ↔
      (width ≤ 2559 ∧ height ≤ 2559) ∨
        (655360000 ≤ exactClock width height ∧
          655360000 ≤ wrappedClock width height) := by
  have sameByte : ∀ index, index < 18 →
      descriptorByte bytes index =
        descriptorByte (vdpyEdidSetDtd edid 54 (vdpyEdidSetFrame
          (vdpyEdidSetBaseparam width height))).bytes index := by
    intro index inside
    unfold descriptorByte
    rw [described _ (by omega) (by omega)]
  have clock := setFrame_clock width height
  unfold TimingDecodes
  split
  next large =>
    have wide : 655360000 ≤ exactClock width height := by omega
    have notSmall : ¬(width ≤ 2559 ∧ height ≤ 2559) := by
      intro small
      exact absurd (exactClock_small small.1 small.2) (by omega)
    rw [or_iff_right notSmall, and_iff_right wide, ← clock,
      ← dummy_setDtd cleared]
    constructor
    · intro dummy index inside
      rw [← sameByte index inside]
      exact dummy index inside
    · intro dummy index inside
      rw [sameByte index inside]
      exact dummy index inside
  next small =>
    have fits : exactClock width height < 655360000 := by omega
    have written : (vdpyEdidSetFrame
        (vdpyEdidSetBaseparam width height)).pixelClock / 10000 ≤ 65535 := by
      rw [clock, wrappedClock_eq fits]
      omega
    obtain ⟨timing, image⟩ := decodeTiming_congr sameByte
    rw [timing, image, decode_setDtd edid written,
      decodeImage_setDtd edid written, horizontal, vertical,
      or_iff_left (fun both => absurd both.1 (by omega))]
    constructor
    · rintro ⟨same, wide, tall⟩
      obtain ⟨narrow, short⟩ := kept_havPixel same
      exact ⟨(size_byte_iff narrow).mp wide, (size_byte_iff short).mp tall⟩
    · rintro ⟨narrow, short⟩
      exact ⟨keptTiming_small narrow short,
        (size_byte_iff (Nat.mod_eq_of_lt (by omega))).mpr narrow,
        (size_byte_iff (Nat.mod_eq_of_lt (by omega))).mpr short⟩

/-- The preferred timing decodes to the requested mode when neither size is
above 2559, or when the clock is reported as too large and is so modulo 2^32
as well. -/
theorem vdpyEdidGenerate_decodes_iff (edid : Buffer) {size : Nat}
    (width height : Nat) (large : 128 ≤ size) :
    TimingDecodes (vdpyEdidGenerate edid size ⟨width, height⟩).bytes width
        height ↔
      (width ≤ 2559 ∧ height ≤ 2559) ∨
        (655360000 ≤ exactClock width height ∧
          655360000 ≤ wrappedClock width height) := by
  obtain ⟨between, cleared, described, horizontal, vertical⟩ :=
    generate_dtd edid ⟨width, height⟩ large
  exact timingDecodes_iff cleared described horizontal vertical

theorem default_timing_decodes :
    TimingDecodes
      (vdpyEdidGenerate ⟨Memory.zero, []⟩ 256 ⟨1920, 1080⟩).bytes 1920 1080 :=
  (vdpyEdidGenerate_decodes_iff _ _ _ (by decide)).mpr
    (.inl ⟨by decide, by decide⟩)

/-- Byte 21 is 0 for a width of 2560. -/
theorem wide_timing_cut :
    ¬TimingDecodes
      (vdpyEdidGenerate ⟨Memory.zero, []⟩ 256 ⟨2560, 1440⟩).bytes 2560
        1440 := by
  obtain ⟨between, cleared, described, horizontal, vertical⟩ :=
    @generate_dtd ⟨Memory.zero, []⟩ 256 ⟨2560, 1440⟩ (by decide)
  rw [timingDecodes_iff cleared described horizontal vertical]
  decide

end VirtioGpu.Vdpy
