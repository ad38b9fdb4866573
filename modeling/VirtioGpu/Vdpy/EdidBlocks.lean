import VirtioGpu.Vdpy.Edid

namespace VirtioGpu.Vdpy

open Foundation
open Foundation.Buffer

/-! The blocks of a generated EDID are well formed. -/

/-- The standard timings of the table, and three that are unused. -/
def standardTimings : List Nat :=
  [0xd1, 0xc0, 0xb3, 0x00, 0xa9, 0x40, 0xa9, 0xc0, 0x95, 0x00, 0x01, 0x01,
    0x01, 0x01, 0x01, 0x01]

structure BlockFormed (bytes : Memory) (extensions : UInt8) : Prop where
  fixedHeader : (List.range 8).map bytes =
    [0x00, 0xff, 0xff, 0xff, 0xff, 0xff, 0xff, 0x00]
  standard : (List.range 16).map (fun index => bytes (38 + index)) =
    standardTimings.map UInt8.ofNat
  count : bytes 126 = extensions
  sum : byteSum bytes 0 128 = 0

/-- The data block is a video data block, and the descriptors begin behind
it. -/
structure ExtensionFormed (bytes : Memory) : Prop where
  offset : (bytes 130).toNat = 5 + (bytes 132).toNat % 32
  video : (bytes 132).toNat / 32 = 2
  sum : byteSum bytes 128 128 = 0

/-- Bytes of the blocks a buffer of `size` bytes has room for. -/
def blocksSize (size : Nat) : Nat := if 256 ≤ size then 256 else 128

/-- The blocks are well formed.  Every store lies in the buffer, and behind the
blocks the buffer is only cleared. -/
structure EdidFormed (before : Buffer) (size : Nat) (after : Buffer) :
    Prop where
  basic : BlockFormed after.bytes (if 256 ≤ size then 1 else 0)
  extension : 256 ≤ size → ExtensionFormed after.bytes
  inside : Confined 0 size before after
  cleared : ∃ later, after.stores = before.stores ++ List.range size ++ later ∧
    ∀ position, position ∈ later → position < blocksSize size
  zero : ∀ location, blocksSize size ≤ location → location < size →
    after.bytes location = 0

/-! The stores of the timings. -/

theorem setTiming_estt (edid : Buffer) :
    (vdpyEdidSetTiming edid 0 .estt).1 =
      ((((edid.orAt 36 1).orAt 36 2).orAt 36 8).orAt 35 1).orAt 35 32 :=
  rfl

theorem setTiming_stdt (edid : Buffer) :
    (vdpyEdidSetTiming edid 0 .stdt).1 = edid.copy 38 standardTimings := by
  simp [vdpyEdidSetTiming, timings, TimingLoop.step, standardAr,
    TimingLoop.putPair, TimingLoop.padStd, standardTimings]

theorem setTiming_cea861 (edid : Buffer) (addr : Nat) :
    vdpyEdidSetTiming edid addr .cea861 = (edid.put addr 97, 1) :=
  rfl

theorem estt_confined (edid : Buffer) :
    Confined 35 38 edid (vdpyEdidSetTiming edid 0 .estt).1 := by
  rw [setTiming_estt]
  have start := Confined.refl 35 38 edid
  have first := start.orAt 1 (by decide : 35 ≤ 36) (by decide)
  have second := first.orAt 2 (by decide : 35 ≤ 36) (by decide)
  have third := second.orAt 8 (by decide : 35 ≤ 36) (by decide)
  have fourth := third.orAt 1 (by decide : 35 ≤ 35) (by decide)
  exact fourth.orAt 32 (by decide) (by decide)

theorem stdt_confined (edid : Buffer) :
    Confined 38 54 edid (vdpyEdidSetTiming edid 0 .stdt).1 := by
  rw [setTiming_stdt]
  exact (Confined.refl 38 54 edid).copy (by decide) (by decide)

theorem copy_standardTimings (edid : Buffer) :
    (List.range 16).map
        (fun index => (edid.copy 38 standardTimings).bytes (38 + index)) =
      standardTimings.map UInt8.ofNat :=
  rfl

/-! The parts of the first block. -/

theorem color_confined (edid : Buffer)
    (redX redY greenX greenY blueX blueY whiteX whiteY : Nat) :
    Confined 25 35 edid (vdpyEdidSetColor edid redX redY greenX greenY blueX
      blueY whiteX whiteY) := by
  apply (Confined.refl 25 35 edid).putAll
  simp

theorem dtd_confined (edid : Buffer) (dtd : Nat) (frame : FrameParam) :
    Confined dtd (dtd + 18) edid (vdpyEdidSetDtd edid dtd frame) := by
  have start := Confined.refl dtd (dtd + 18) edid
  unfold vdpyEdidSetDtd
  split
  · exact start.put _ (by omega) (by omega)
  · apply start.putAll
    simp

theorem text_confined (edid : Buffer) (desc : Nat) (text : List Char) :
    Confined desc (desc + 18) edid (setDescriptorText edid desc text) := by
  unfold setDescriptorText
  dsimp only
  have short : (text.take 12).length ≤ 12 := List.length_take_le 12 text
  have blank : Confined desc (desc + 18) edid (edid.fill (desc + 5) 0x20 13) :=
    (Confined.refl _ _ edid).fill _ (by omega) (by omega)
  refine (blank.copy (by omega) ?_).put _ (by omega) (by omega)
  rw [List.length_map]
  omega

theorem descripter_confined (edid : Buffer) (desc : Nat) (isDtd : Bool)
    {tag : Nat} (bParam : BaseParam) (known : tag ≠ 0xf7) :
    Confined desc (desc + 18) edid
      (vdpyEdidSetDescripter edid desc isDtd tag bParam) := by
  unfold vdpyEdidSetDescripter
  cases isDtd with
  | true => exact dtd_confined edid desc (vdpyEdidSetFrame bParam)
  | false =>
      have tagged : Confined desc (desc + 18) edid (edid.put (desc + 3) tag) :=
        (Confined.refl _ _ edid).put tag (by omega) (by omega)
      rw [if_neg (by decide), if_neg known]
      split
      · apply tagged.putAll
        simp
      · split
        · exact tagged.trans (text_confined _ desc _)
        · split
          · exact tagged.trans (text_confined _ desc _)
          · exact tagged

theorem identification_confined (edid : Buffer) (bParam : BaseParam)
    (info : EdidInfo) :
    Confined 8 25 (edid.fill 1 0xff 6)
      (setIdentification edid bParam info) := by
  unfold setIdentification
  dsimp only
  refine .putAll (.copy (.copy (.putAll (.refl _ _ _) ?_) ?_ ?_) ?_ ?_) ?_
  all_goals simp

/-- The standard timings stay as they were written. -/
theorem contents_confined (edid : Buffer) (bParam : BaseParam) :
    Confined 25 126 edid (setContents edid bParam) ∧
      ∃ between : Buffer, Confined 54 126 (between.copy 38 standardTimings)
        (setContents edid bParam) := by
  unfold setContents
  dsimp only
  have color := color_confined edid 6400 3300 3000 6000 1500 600 3127 3290
  generalize vdpyEdidSetColor edid 6400 3300 3000 6000 1500 600 3127 3290 =
    colored at color
  have estt := estt_confined colored
  generalize (vdpyEdidSetTiming colored 0 .estt).1 = timed at estt
  have stdt := stdt_confined timed
  rw [setTiming_stdt] at stdt ⊢
  have later : Confined 54 126 (timed.copy 38 standardTimings)
      (vdpyEdidSetDescripter
        (vdpyEdidSetDescripter
          (vdpyEdidSetDescripter
            (vdpyEdidSetDescripter (timed.copy 38 standardTimings) 54 true 0
              bParam) 72 false 0xfd bParam) 90 false 0xfc bParam)
        108 false 0xff bParam) := by
    have known : ∀ edid desc isDtd tag, tag ≠ 0xf7 → 54 ≤ desc →
        desc + 18 ≤ 126 → Confined 54 126 edid
          (vdpyEdidSetDescripter edid desc isDtd tag bParam) := by
      intro edid desc isDtd tag known low high
      exact (descripter_confined edid desc isDtd bParam known).mono low high
    have first := known (timed.copy 38 standardTimings) 54 true 0 (by decide)
      (by decide) (by decide)
    have second := first.trans (known _ 72 false 0xfd (by decide) (by decide)
      (by decide))
    have third := second.trans (known _ 90 false 0xfc (by decide) (by decide)
      (by decide))
    exact third.trans (known _ 108 false 0xff (by decide) (by decide)
      (by decide))
  refine ⟨?_, timed, later⟩
  exact (((color.mono (by decide) (by decide)).trans
    (estt.mono (by decide) (by decide))).trans
      (stdt.mono (by decide) (by decide))).trans
        (later.mono (by decide) (by decide))

theorem blockEnd_confined (edid : Buffer) (extensions : Nat) :
    Confined 126 128 edid (setBlockEnd edid extensions) :=
  ((Confined.refl 126 128 edid).put extensions (by decide) (by decide)).put _
    (by decide) (by decide)

/-- The extension before its checksum. -/
def extensionBody (edid : Buffer) : Buffer :=
  ((((edid.putAll [(128, 0x02), (129, 0x03)]).orAt 132 0x40).put 133 97).orAt
    132 1).orAt 130 6

theorem setExtension_eq (edid : Buffer) :
    setExtension edid = (extensionBody edid).put (128 + 127)
      (vdpyEdidGetChecksum (extensionBody edid) 128).toNat := by
  unfold setExtension edidBasicBlockSize
  dsimp only
  rw [setTiming_cea861]
  rfl

theorem extension_confined (edid : Buffer) :
    Confined 128 256 edid (setExtension edid) := by
  rw [setExtension_eq]
  unfold extensionBody
  refine .put (.orAt (.orAt (.put (.orAt (.putAll (.refl _ _ _) ?_) _ ?_ ?_)
    _ ?_ ?_) _ ?_ ?_) _ ?_ ?_) _ ?_ ?_
  all_goals simp

/-! Checksums. -/

theorem putChecksum_sum (edid : Buffer) (base : Nat) :
    byteSum (edid.put (base + 127)
      (vdpyEdidGetChecksum edid base).toNat).bytes base 128 = 0 := by
  apply byteSum_balanced
  have kept : byteSum (edid.put (base + 127)
      (vdpyEdidGetChecksum edid base).toNat).bytes base 127 =
        byteSum edid.bytes base 127 := by
    apply byteSum_congr
    intro index small
    rw [put_bytes, if_neg (by omega)]
  rw [kept, put_bytes, if_pos rfl, UInt8.ofNat_toNat]
  rfl

theorem blockEnd_sum (edid : Buffer) (extensions : Nat) :
    byteSum (setBlockEnd edid extensions).bytes 0 128 = 0 :=
  putChecksum_sum (edid.put 126 extensions) 0

theorem blockEnd_count (edid : Buffer) (extensions : Nat) :
    (setBlockEnd edid extensions).bytes 126 = UInt8.ofNat extensions :=
  rfl

theorem extension_formed {edid : Buffer}
    (blank : ∀ location, 128 ≤ location → location < 256 →
      edid.bytes location = 0) : ExtensionFormed (setExtension edid).bytes := by
  have offset : (setExtension edid).bytes 130 = 6 := by
    rw [setExtension_eq]
    simp [extensionBody, orAt, blank]
  have video : (setExtension edid).bytes 132 = 0x41 := by
    rw [setExtension_eq]
    simp [extensionBody, orAt, blank]
  refine ⟨?_, ?_, ?_⟩
  · rw [offset, video]
    rfl
  · rw [video]
    rfl
  · rw [setExtension_eq]
    exact putChecksum_sum (extensionBody edid) 128

/-! The whole buffer. -/

/-- What is written after the buffer is cleared, up to the end of the first
block. -/
def firstBlock (edid : Buffer) (info : EdidInfo) (extensions : Nat) :
    Buffer :=
  let bParam := vdpyEdidSetBaseparam info.prefx info.prefy
  setBlockEnd (setContents (setIdentification edid bParam info) bParam)
    extensions

theorem firstBlock_confined (edid : Buffer) (info : EdidInfo)
    (extensions : Nat) :
    Confined 0 128 edid (firstBlock edid info extensions) := by
  have cleared : Confined 0 128 edid (edid.fill 1 0xff 6) :=
    (Confined.refl _ _ edid).fill _ (by decide) (by decide)
  have named := cleared.trans ((identification_confined edid
    (vdpyEdidSetBaseparam info.prefx info.prefy) info).mono (by decide)
      (by decide))
  have described := named.trans ((contents_confined _
    (vdpyEdidSetBaseparam info.prefx info.prefy)).1.mono (by decide)
      (by decide))
  exact described.trans ((blockEnd_confined _ extensions).mono (by decide)
    (by decide))

/-- The first block on a buffer that is cleared. -/
theorem firstBlock_formed {edid : Buffer} (info : EdidInfo)
    (extensions : Nat) (first : edid.bytes 0 = 0) (last : edid.bytes 7 = 0) :
    BlockFormed (firstBlock edid info extensions).bytes
      (UInt8.ofNat extensions) := by
  unfold firstBlock
  dsimp only
  generalize vdpyEdidSetBaseparam info.prefx info.prefy = bParam
  have named := identification_confined edid bParam info
  generalize setIdentification edid bParam info = identified at named
  obtain ⟨described, timed, later⟩ := contents_confined identified bParam
  generalize setContents identified bParam = contents at described later
  have ended := blockEnd_confined contents extensions
  refine ⟨?_, ?_, blockEnd_count contents extensions,
    blockEnd_sum contents extensions⟩
  · have early : ∀ location, location < 8 →
        (setBlockEnd contents extensions).bytes location =
          (edid.fill 1 0xff 6).bytes location := by
      intro location small
      rw [ended.kept location (by omega), described.kept location (by omega),
        named.kept location (by omega)]
    simp [List.range_succ, early, first, last]
  · have kept : ∀ index, index < 16 →
        (setBlockEnd contents extensions).bytes (38 + index) =
          (timed.copy 38 standardTimings).bytes (38 + index) := by
      intro index small
      rw [ended.kept (38 + index) (by omega),
        later.kept (38 + index) (by omega)]
    rw [← copy_standardTimings timed]
    apply List.map_congr_left
    intro index member
    exact kept index (List.mem_range.mp member)

theorem BlockFormed.congr {first second : Memory} {extensions : UInt8}
    (formed : BlockFormed first extensions)
    (agree : ∀ location, location < 128 →
      second location = first location) : BlockFormed second extensions := by
  refine ⟨?_, ?_, ?_, ?_⟩
  · rw [← formed.fixedHeader]
    apply List.map_congr_left
    intro index member
    have small := List.mem_range.mp member
    exact agree index (by omega)
  · rw [← formed.standard]
    apply List.map_congr_left
    intro index member
    have small := List.mem_range.mp member
    exact agree (38 + index) (by omega)
  · rw [agree 126 (by decide), formed.count]
  · rw [← formed.sum]
    apply byteSum_congr
    intro index small
    exact agree (0 + index) (by omega)

/-- The end of the block can be written again. -/
theorem BlockFormed.blockEnd {edid : Buffer} {earlier : UInt8}
    (formed : BlockFormed edid.bytes earlier) (extensions : Nat) :
    BlockFormed (setBlockEnd edid extensions).bytes
      (UInt8.ofNat extensions) := by
  have ended := blockEnd_confined edid extensions
  refine ⟨?_, ?_, blockEnd_count edid extensions,
    blockEnd_sum edid extensions⟩
  · rw [← formed.fixedHeader]
    apply List.map_congr_left
    intro index member
    have small := List.mem_range.mp member
    exact ended.kept index (by omega)
  · rw [← formed.standard]
    apply List.map_congr_left
    intro index member
    have small := List.mem_range.mp member
    exact ended.kept (38 + index) (by omega)

theorem fillEdid_eq (edid : Buffer) (size : Nat) (info : EdidInfo) :
    fillEdid edid size info =
      if 256 ≤ size then
        setExtension (setBlockEnd (firstBlock edid info 0) 1)
      else
        firstBlock edid info 0 :=
  rfl

/-- Both blocks on a buffer that is cleared, and where they were written. -/
theorem fillEdid_formed {edid : Buffer} {size : Nat} (info : EdidInfo)
    (blank : ∀ location, location < size → edid.bytes location = 0)
    (large : 128 ≤ size) :
    BlockFormed (fillEdid edid size info).bytes
        (if 256 ≤ size then 1 else 0) ∧
      (256 ≤ size → ExtensionFormed (fillEdid edid size info).bytes) ∧
      Confined 0 (blocksSize size) edid (fillEdid edid size info) := by
  have first := firstBlock_formed info 0 (blank 0 (by omega))
    (blank 7 (by omega))
  have written := firstBlock_confined edid info 0
  rw [fillEdid_eq]
  unfold blocksSize
  by_cases both : 256 ≤ size
  · rw [if_pos both, if_pos both, if_pos both]
    generalize firstBlock edid info 0 = block at first written
    have counted := first.blockEnd 1
    have ended := written.trans ((blockEnd_confined block 1).mono (by decide)
      (Nat.le_refl 128))
    have extended := extension_confined (setBlockEnd block 1)
    refine ⟨counted.congr ?_, ?_, ?_⟩
    · intro location small
      exact extended.kept location (.inl small)
    · intro _
      apply extension_formed
      intro location above below
      rw [ended.kept location (.inr above)]
      exact blank location (by omega)
    · exact (ended.mono (by decide) (by decide)).trans
        (extended.mono (by decide) (by decide))
  · rw [if_neg both, if_neg both, if_neg both]
    exact ⟨first, fun large => absurd large both, written⟩

/-- For every preferred size and every buffer that has room for the first
block, both blocks when it has room for them. -/
theorem vdpyEdidGenerate_formed (edid : Buffer) (info : EdidInfo)
    {size : Nat} (large : 128 ≤ size) :
    EdidFormed edid size (vdpyEdidGenerate edid size info) := by
  have blank : ∀ location, location < size →
      (edid.fill 0 0 size).bytes location = 0 := by
    intro location small
    rw [fill_bytes, if_pos (by omega)]
    rfl
  have fits : blocksSize size ≤ size := by
    unfold blocksSize
    split
    · assumption
    · exact large
  obtain ⟨basic, extension, written⟩ := fillEdid_formed info blank large
  have cleared : Confined 0 size edid (edid.fill 0 0 size) :=
    (Confined.refl _ _ edid).fill _ (Nat.le_refl 0) (by omega)
  obtain ⟨later, stores, inside⟩ := written.stored
  refine ⟨basic, extension, cleared.trans (written.mono (Nat.le_refl 0) fits),
    ⟨later, ?_, ?_⟩, ?_⟩
  · have counted : (edid.fill 0 0 size).stores =
        edid.stores ++ List.range size := by
      simp [fill]
    rw [← counted]
    exact stores
  · intro position member
    exact (inside position member).2
  · intro location behind small
    have kept := written.kept location (.inr behind)
    exact kept.trans (blank location small)

/-- The EDID of the default screen in a buffer of the size the device uses. -/
theorem default_edid_formed :
    EdidFormed ⟨Memory.zero, []⟩ 256
      (vdpyEdidGenerate ⟨Memory.zero, []⟩ 256 ⟨1920, 1080⟩) :=
  vdpyEdidGenerate_formed _ _ (by decide)

/-- Clearing a larger buffer stores behind the two blocks. -/
theorem large_buffer_cleared :
    ¬Confined 0 256 ⟨Memory.zero, []⟩
      (vdpyEdidGenerate ⟨Memory.zero, []⟩ 257 ⟨1920, 1080⟩) := by
  obtain ⟨later, stores, _⟩ := (@fillEdid_formed
    (Buffer.fill ⟨Memory.zero, []⟩ 0 0 257) 257 ⟨1920, 1080⟩
    (by intro location small; simp [Memory.zero]) (by decide)).2.2.stored
  intro confined
  obtain ⟨added, same, inside⟩ := confined.stored
  have stored : 256 ∈ added := by
    have all : added = (Buffer.fill ⟨Memory.zero, []⟩ 0 0 257).stores ++
        later := same.symm.trans stores
    rw [all]
    apply List.mem_append_left
    simp [fill]
  exact absurd (inside 256 stored).2 (by decide)

end VirtioGpu.Vdpy
