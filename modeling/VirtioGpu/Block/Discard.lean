import Mathlib.Algebra.Group.Nat.Defs
import VirtioGpu.Block.Context

namespace VirtioGpu.Block

/-! Discard requests. A driver gives whole ranges in the first buffer, or one
range in `offset` and `resid`; the block layer tells them apart by `iovcnt`. -/

structure DiscardRange where
  sector : UInt64
  numSectors : UInt32

structure DiscardRequest where
  iovcnt : Int32
  ranges : List DiscardRange
  offset : Int64
  resid : Int64

/-- The quotient of two size_t values, stored in an int. -/
def DiscardRequest.nRange (request : DiscardRequest) : Int32 :=
  Int32.ofNat request.ranges.length

def DiscardRequest.parsed (request : DiscardRequest) : List DiscardRange :=
  request.ranges.take request.nRange.toInt.toNat

/-- One entry of `arg`. -/
abbrev DiscardArg := Int64 × Int64

def discardRangeValidate (ctxt : BlockifCtxt) (start size : Int64) : Int :=
  let startSector := start / 512
  let sizeSector := size / 512
  if size = 0 ∨ start + size > ctxt.size + ctxt.subFileStartLba then -1
  else if sizeSector > ctxt.maxDiscardSectors.toInt64 ∨
      (ctxt.discardSectorAlignment ≠ 0 ∧
        startSector % ctxt.discardSectorAlignment.toInt64 ≠ 0) then -1
  else 0

/-- The sector is multiplied as a uint64_t, the count as a uint32_t. -/
def DiscardRange.arg (ctxt : BlockifCtxt) (range : DiscardRange) :
    DiscardArg :=
  ((range.sector * 512 + ctxt.subFileStartLba.toUInt64).toInt64,
    (range.numSectors * 512).toUInt64.toInt64)

structure ParsedRanges where
  written : Nat
  result : Except Int (List DiscardArg)

/-- `written` counts the entries of `arg` that were stored, within its 256 or
beyond them. -/
def parseRanges (ctxt : BlockifCtxt) (segment : Nat) :
    List DiscardRange → ParsedRanges
  | [] => ⟨segment, .ok []⟩
  | range :: rest =>
      let arg := range.arg ctxt
      if (segment + 1 : Nat) > ctxt.maxDiscardSeg.toInt then
        ⟨segment + 1, .error einval⟩
      else if discardRangeValidate ctxt arg.1 arg.2 ≠ 0 then
        ⟨segment + 1, .error einval⟩
      else
        let later := parseRanges ctxt (segment + 1) rest
        ⟨later.written, later.result.map (arg :: ·)⟩

/-- What the kernel answers to the discards of one request: the ioctl or the
fallocate first, then the fdatasync. -/
abbrev DiscardKernel := Nat → Int × Int

def discardErr (isblk : Bool) (answer : Int × Int) : Int :=
  if isblk ∨ answer.1 ≠ 0 then answer.1 else answer.2

def discardSegments (isblk : Bool) (kernel : DiscardKernel) (index : Nat) :
    List DiscardArg → Int × List DiscardArg
  | [] => (0, [])
  | arg :: rest =>
      let err := discardErr isblk (kernel index)
      if err ≠ 0 then (err, [arg])
      else
        let (err, calls) := discardSegments isblk kernel (index + 1) rest
        (err, arg :: calls)

structure DiscardOutcome where
  err : Int
  calls : List DiscardArg
  written : Nat
  resid : Int64

/-- From the parsed ranges on. -/
def discardParsed (ctxt : BlockifCtxt) (request : DiscardRequest)
    (kernel : DiscardKernel) (parsed : ParsedRanges) : DiscardOutcome :=
  match parsed.result with
  | .error err => ⟨err, [], parsed.written, request.resid⟩
  | .ok args =>
      let (err, calls) := discardSegments ctxt.isblk kernel 0 args
      ⟨err, calls, parsed.written, if err = 0 then 0 else request.resid⟩

def blockifProcessDiscard (ctxt : BlockifCtxt) (request : DiscardRequest)
    (kernel : DiscardKernel) : DiscardOutcome :=
  if ctxt.candiscard = false then ⟨eopnotsupp, [], 0, request.resid⟩
  else if ctxt.rdonly then ⟨erofs, [], 0, request.resid⟩
  else
    let parsed :=
      if request.iovcnt = 1 then parseRanges ctxt 0 request.parsed
      else ⟨1, .ok [(request.offset + ctxt.subFileStartLba, request.resid)]⟩
    discardParsed ctxt request kernel parsed

/-! What was asked for, over the integers. -/

/-- First byte and length. -/
abbrev Extent := Int × Int

def DiscardRange.extent (ctxt : BlockifCtxt) (range : DiscardRange) :
    Extent :=
  (ctxt.subFileStartLba.toInt + range.sector.toNat * 512,
    range.numSectors.toNat * 512)

def DiscardRequest.extents (ctxt : BlockifCtxt) (request : DiscardRequest) :
    List Extent :=
  if request.iovcnt = 1 then request.ranges.map (·.extent ctxt)
  else [(ctxt.subFileStartLba.toInt + request.offset.toInt,
    request.resid.toInt)]

def DiscardArg.extent (arg : DiscardArg) : Extent :=
  (arg.1.toInt, arg.2.toInt)

def BlockifCtxt.Holds (ctxt : BlockifCtxt) (extent : Extent) : Prop :=
  0 ≤ extent.2 ∧ ctxt.subFileStartLba.toInt ≤ extent.1 ∧
    extent.1 + extent.2 ≤ ctxt.subFileStartLba.toInt + ctxt.size.toInt

def maxDiscardSegment : Nat := 256

structure DiscardOutcome.Confined (ctxt : BlockifCtxt)
    (request : DiscardRequest) (outcome : DiscardOutcome) : Prop where
  asked : outcome.calls.map DiscardArg.extent <+: request.extents ctxt
  held : ∀ call ∈ outcome.calls, ctxt.Holds (DiscardArg.extent call)
  stored : outcome.written ≤ maxDiscardSegment
  rejected : (∃ extent ∈ request.extents ctxt, ¬ ctxt.Holds extent) →
    outcome.err ≠ 0 ∧ outcome.calls = []

/-! The loop over the ranges: either it stops at the first one refused, or it
goes through all of them. -/

def DiscardRange.Refused (ctxt : BlockifCtxt) (segment : Nat)
    (range : DiscardRange) : Prop :=
  (segment + 1 : Nat) > ctxt.maxDiscardSeg.toInt ∨
    discardRangeValidate ctxt (range.arg ctxt).1 (range.arg ctxt).2 ≠ 0

def RefusedAt (ctxt : BlockifCtxt) (segment : Nat)
    (ranges : List DiscardRange) (index : Nat) : Prop :=
  ∃ range, ranges[index]? = some range ∧
    range.Refused ctxt (segment + index)

theorem refusedAt_cons_succ {ctxt : BlockifCtxt} {segment index : Nat}
    {range : DiscardRange} {rest : List DiscardRange} :
    RefusedAt ctxt segment (range :: rest) (index + 1) ↔
      RefusedAt ctxt (segment + 1) rest index := by
  unfold RefusedAt
  rw [List.getElem?_cons_succ, Nat.add_right_comm, Nat.add_assoc]

theorem refusedAt_cons_zero {ctxt : BlockifCtxt} {segment : Nat}
    {range : DiscardRange} {rest : List DiscardRange} :
    RefusedAt ctxt segment (range :: rest) 0 ↔
      range.Refused ctxt segment := by
  simp [RefusedAt]

theorem RefusedAt.lt_length {ctxt : BlockifCtxt} {segment index : Nat}
    {ranges : List DiscardRange}
    (refused : RefusedAt ctxt segment ranges index) :
    index < ranges.length := by
  obtain ⟨range, found, _⟩ := refused
  exact (List.getElem?_eq_some_iff.mp found).1

theorem parseRanges_refused {ctxt : BlockifCtxt} {segment : Nat}
    {range : DiscardRange} (rest : List DiscardRange)
    (refused : range.Refused ctxt segment) :
    parseRanges ctxt segment (range :: rest) =
      ⟨segment + 1, .error einval⟩ := by
  unfold parseRanges
  dsimp only
  split
  · rfl
  · rename_i few
    rw [if_pos (refused.resolve_left few)]

theorem parseRanges_accepted {ctxt : BlockifCtxt} {segment : Nat}
    {range : DiscardRange} (rest : List DiscardRange)
    (accepted : ¬ range.Refused ctxt segment) :
    parseRanges ctxt segment (range :: rest) =
      ⟨(parseRanges ctxt (segment + 1) rest).written,
        (parseRanges ctxt (segment + 1) rest).result.map
          (range.arg ctxt :: ·)⟩ := by
  obtain ⟨few, valid⟩ := not_or.mp accepted
  rw [parseRanges]
  dsimp only
  rw [if_neg few, if_neg valid]

theorem parseRanges_all (ctxt : BlockifCtxt) (segment : Nat)
    (ranges : List DiscardRange)
    (accepted : ∀ index, ¬ RefusedAt ctxt segment ranges index) :
    parseRanges ctxt segment ranges =
      ⟨segment + ranges.length, .ok (ranges.map (·.arg ctxt))⟩ := by
  induction ranges generalizing segment with
  | nil => rfl
  | cons range rest induction =>
      have later := induction (segment + 1) fun index refused =>
        accepted (index + 1) (refusedAt_cons_succ.mpr refused)
      rw [parseRanges_accepted rest fun refused =>
        accepted 0 (refusedAt_cons_zero.mpr refused), later]
      simp only [Except.map, List.length_cons, List.map_cons,
        ParsedRanges.mk.injEq, and_true]
      omega

/-- The first range refused ends the loop, after its entry is stored. -/
theorem parseRanges_stops (ctxt : BlockifCtxt) (segment : Nat)
    {ranges : List DiscardRange} {index : Nat}
    (refused : RefusedAt ctxt segment ranges index)
    (first : ∀ earlier < index, ¬ RefusedAt ctxt segment ranges earlier) :
    parseRanges ctxt segment ranges =
      ⟨segment + index + 1, .error einval⟩ := by
  induction ranges generalizing segment index with
  | nil =>
      obtain ⟨range, found, _⟩ := refused
      cases found
  | cons range rest induction =>
      cases index with
      | zero =>
          exact parseRanges_refused rest (refusedAt_cons_zero.mp refused)
      | succ index =>
          have later := induction (segment + 1)
            (refusedAt_cons_succ.mp refused) fun earlier before hit =>
              first (earlier + 1) (by omega) (refusedAt_cons_succ.mpr hit)
          rw [parseRanges_accepted rest fun hit =>
            first 0 (by omega) (refusedAt_cons_zero.mpr hit), later]
          simp only [Except.map, ParsedRanges.mk.injEq, and_true]
          omega

theorem discardSegments_prefix (isblk : Bool) (kernel : DiscardKernel)
    (index : Nat) (args : List DiscardArg) :
    (discardSegments isblk kernel index args).2 <+: args := by
  induction args generalizing index with
  | nil => exact List.prefix_refl []
  | cons arg rest induction =>
      unfold discardSegments
      dsimp only
      split
      · exact ⟨rest, rfl⟩
      · exact (List.prefix_cons_inj arg).mpr (induction (index + 1))

theorem discardSegments_obliging (isblk : Bool) (index : Nat)
    (args : List DiscardArg) :
    discardSegments isblk (fun _ => (0, 0)) index args = (0, args) := by
  induction args generalizing index with
  | nil => rfl
  | cons arg rest induction =>
      have agreed : discardErr isblk (0, 0) = 0 := by
        unfold discardErr
        exact ite_self 0
      unfold discardSegments
      dsimp only
      rw [agreed, if_neg (by decide), induction]

/-! The widths of one entry. -/

theorem toInt_toInt64 (value : UInt64) :
    value.toInt64.toInt = (value.toNat : Int).bmod (2 ^ 64) :=
  BitVec.toInt_eq_toNat_bmod value.toBitVec

theorem arg_start (ctxt : BlockifCtxt) (range : DiscardRange) :
    (range.arg ctxt).1.toInt =
      (range.sector.toNat * 512 + ctxt.subFileStartLba.toInt).bmod
        (2 ^ 64) := by
  have word : (range.sector * 512).toInt64.toInt =
      ((range.sector.toNat * 512 : Nat) : Int).bmod (2 ^ 64) := by
    rw [toInt_toInt64, UInt64.toNat_mul, Int.natCast_emod]
    exact Int.emod_bmod _ _
  have joined : (range.arg ctxt).1 =
      (range.sector * 512).toInt64 + ctxt.subFileStartLba := rfl
  rw [joined, Int64.toInt_add, word, Int.bmod_add_bmod, Int.natCast_mul]
  rfl

theorem arg_length (ctxt : BlockifCtxt) (range : DiscardRange) :
    (range.arg ctxt).2.toInt =
      (range.numSectors.toNat * 512 % 4294967296 : Nat) := by
  show (range.numSectors * 512).toUInt64.toInt64.toInt = _
  rw [toInt_toInt64, UInt32.toNat_toUInt64, UInt32.toNat_mul]
  exact Int.bmod_eq_of_le (by omega) (by omega)

theorem bmod_eq_self_iff (value : Int) :
    value.bmod (2 ^ 64) = value ↔
      -9223372036854775808 ≤ value ∧ value < 9223372036854775808 := by
  constructor
  · intro same
    have low := Int.le_bmod (x := value) (m := 2 ^ 64) (by decide)
    have high := Int.bmod_lt (x := value) (m := 2 ^ 64) (by decide)
    omega
  · intro inside
    exact Int.bmod_eq_of_le (by omega) (by omega)

/-- The entry is the range when neither product leaves its width. -/
theorem arg_extent_iff (ctxt : BlockifCtxt) (range : DiscardRange) :
    DiscardArg.extent (range.arg ctxt) = range.extent ctxt ↔
      range.numSectors.toNat < 8388608 ∧
        ctxt.subFileStartLba.toInt + range.sector.toNat * 512 <
          9223372036854775808 := by
  have low := ctxt.subFileStartLba.le_toInt
  have whole := bmod_eq_self_iff
    (ctxt.subFileStartLba.toInt + range.sector.toNat * 512)
  unfold DiscardArg.extent DiscardRange.extent
  rw [Prod.mk.injEq, arg_start, arg_length, Int.add_comm, whole]
  omega

theorem holds_extent_iff (ctxt : BlockifCtxt) (range : DiscardRange) :
    ctxt.Holds (range.extent ctxt) ↔
      (range.sector.toNat + range.numSectors.toNat) * 512 ≤
        ctxt.size.toInt := by
  unfold BlockifCtxt.Holds DiscardRange.extent
  omega

/-! When a request stays inside. -/

/-- The ranges of a virtio request: one of the first 256 is refused, or there
are no more than that and each lies in the sub-file, its products within the
widths the code has for them. -/
def DiscardRequest.RangesSound (ctxt : BlockifCtxt)
    (request : DiscardRequest) : Prop :=
  (∃ index < maxDiscardSegment, RefusedAt ctxt 0 request.parsed index) ∨
    (request.parsed.length ≤ maxDiscardSegment ∧
      (∀ range ∈ request.parsed,
        range.numSectors.toNat < 8388608 ∧
          ctxt.subFileStartLba.toInt + range.sector.toNat * 512 <
            9223372036854775808) ∧
      ∀ range ∈ request.ranges,
        (range.sector.toNat + range.numSectors.toNat) * 512 ≤
          ctxt.size.toInt)

/-- The one range of an AHCI request, which nothing checks. -/
def DiscardRequest.OffsetSound (ctxt : BlockifCtxt)
    (request : DiscardRequest) : Prop :=
  0 ≤ request.resid.toInt ∧ 0 ≤ request.offset.toInt ∧
    request.offset.toInt + request.resid.toInt ≤ ctxt.size.toInt ∧
      ctxt.subFileStartLba.toInt + request.offset.toInt <
        9223372036854775808

def DiscardRequest.Sound (ctxt : BlockifCtxt) (request : DiscardRequest) :
    Prop :=
  ctxt.candiscard = false ∨ ctxt.rdonly = true ∨
    if request.iovcnt = 1 then request.RangesSound ctxt
    else request.OffsetSound ctxt

variable {ctxt : BlockifCtxt} {request : DiscardRequest}

theorem confined_of_refusal {err : Int} {written : Nat} (fails : err ≠ 0)
    (stored : written ≤ maxDiscardSegment) :
    DiscardOutcome.Confined ctxt request
      ⟨err, [], written, request.resid⟩ where
  asked := List.nil_prefix
  held := fun _ member => absurd member List.not_mem_nil
  stored := stored
  rejected := fun _ => ⟨fails, rfl⟩

/-- With ranges accepted it stays inside for every answer of the kernel just
when the entries are the ranges and every range lies in the sub-file. -/
theorem discardParsed_confined_iff {written : Nat} {args : List DiscardArg} :
    (∀ kernel, (discardParsed ctxt request kernel
        ⟨written, .ok args⟩).Confined ctxt request) ↔
      written ≤ maxDiscardSegment ∧
        args.map DiscardArg.extent <+: request.extents ctxt ∧
        ∀ extent ∈ request.extents ctxt, ctxt.Holds extent := by
  constructor
  · intro confined
    have obliging := confined fun _ => (0, 0)
    unfold discardParsed at obliging
    dsimp only at obliging
    rw [discardSegments_obliging] at obliging
    refine ⟨obliging.stored, obliging.asked, ?_⟩
    intro extent member
    exact Classical.byContradiction fun outside =>
      (obliging.rejected ⟨extent, member, outside⟩).1 rfl
  · intro conditions kernel
    obtain ⟨stored, asked, inside⟩ := conditions
    have issued := discardSegments_prefix ctxt.isblk kernel 0 args
    have narrowed := (issued.map DiscardArg.extent).trans asked
    exact {
      asked := narrowed
      held := fun call member =>
        inside _ (narrowed.subset (List.mem_map_of_mem member))
      stored := stored
      rejected := fun ⟨extent, member, outside⟩ =>
        absurd (inside extent member) outside }

theorem first_refusal {ranges : List DiscardRange} {bound : Nat}
    (early : ∃ index < bound, RefusedAt ctxt 0 ranges index) :
    ∃ index < bound, RefusedAt ctxt 0 ranges index ∧
      ∀ earlier < index, ¬ RefusedAt ctxt 0 ranges earlier := by
  obtain ⟨index, below, refused⟩ := early
  induction index using Nat.strongRecOn with
  | ind index induction =>
      cases Classical.em (∃ earlier < index,
          RefusedAt ctxt 0 ranges earlier) with
      | inl sooner =>
          obtain ⟨earlier, before, hit⟩ := sooner
          exact induction earlier before (by omega) hit
      | inr unrefused =>
          exact ⟨index, below, refused, fun earlier before hit =>
            unrefused ⟨earlier, before, hit⟩⟩

/-- The entries of the parsed ranges are extents asked for when none of their
products leaves its width. -/
theorem args_prefix_iff (virtio : request.iovcnt = 1) :
    (request.parsed.map (·.arg ctxt)).map DiscardArg.extent <+:
        request.extents ctxt ↔
      ∀ range ∈ request.parsed,
        range.numSectors.toNat < 8388608 ∧
          ctxt.subFileStartLba.toInt + range.sector.toNat * 512 <
            9223372036854775808 := by
  have begins : request.parsed.map (·.extent ctxt) <+:
      request.extents ctxt := by
    unfold DiscardRequest.extents DiscardRequest.parsed
    rw [if_pos virtio]
    exact (List.take_prefix _ _).map _
  have same : (request.parsed.map (·.arg ctxt)).map DiscardArg.extent <+:
        request.extents ctxt ↔
      (request.parsed.map (·.arg ctxt)).map DiscardArg.extent =
        request.parsed.map (·.extent ctxt) := by
    constructor
    · intro asked
      exact (List.prefix_of_prefix_length_le asked begins
        (by simp)).eq_of_length (by simp)
    · intro equal
      rw [equal]
      exact begins
  rw [same, List.map_map, List.map_inj_left]
  exact forall₂_congr fun range _ => arg_extent_iff ctxt range

theorem ranges_confined_iff (virtio : request.iovcnt = 1) :
    (∀ kernel, (discardParsed ctxt request kernel
        (parseRanges ctxt 0 request.parsed)).Confined ctxt request) ↔
      request.RangesSound ctxt := by
  have extents : (∀ extent ∈ request.extents ctxt, ctxt.Holds extent) ↔
      ∀ range ∈ request.ranges,
        (range.sector.toNat + range.numSectors.toNat) * 512 ≤
          ctxt.size.toInt := by
    unfold DiscardRequest.extents
    rw [if_pos virtio, List.forall_mem_map]
    exact forall₂_congr fun range _ => holds_extent_iff ctxt range
  cases Classical.em (∃ index < request.parsed.length,
      RefusedAt ctxt 0 request.parsed index) with
  | inl refusal =>
      obtain ⟨index, below, refused, first⟩ := first_refusal refusal
      rw [parseRanges_stops ctxt 0 refused first]
      constructor
      · intro confined
        have stored := (confined fun _ => (0, 0)).stored
        exact .inl ⟨index, Nat.zero_add index ▸ stored, refused⟩
      · intro sound kernel
        have fails : einval ≠ 0 := by decide
        have stored : 0 + index + 1 ≤ maxDiscardSegment := by
          cases sound with
          | inl early =>
              obtain ⟨sooner, within, hit⟩ := early
              have least := Nat.le_of_not_lt fun before =>
                first sooner before hit
              omega
          | inr whole =>
              have few := whole.1
              omega
        exact confined_of_refusal fails stored
  | inr accepted =>
      have never : ∀ index, ¬ RefusedAt ctxt 0 request.parsed index :=
        fun index refused =>
          accepted ⟨index, refused.lt_length, refused⟩
      rw [parseRanges_all ctxt 0 request.parsed never,
        discardParsed_confined_iff, args_prefix_iff virtio, extents,
        Nat.zero_add]
      constructor
      · exact .inr
      · intro sound
        exact sound.resolve_left fun early =>
          never early.choose early.choose_spec.2

theorem offset_confined_iff (ahci : request.iovcnt ≠ 1) :
    (∀ kernel, (discardParsed ctxt request kernel
        ⟨1, .ok [(request.offset + ctxt.subFileStartLba,
          request.resid)]⟩).Confined ctxt request) ↔
      request.OffsetSound ctxt := by
  have low := ctxt.subFileStartLba.le_toInt
  have sum := bmod_eq_self_iff
    (request.offset.toInt + ctxt.subFileStartLba.toInt)
  rw [discardParsed_confined_iff]
  unfold DiscardRequest.extents
  rw [if_neg ahci]
  unfold DiscardRequest.OffsetSound
  have alone : [(request.offset + ctxt.subFileStartLba,
        request.resid)].map DiscardArg.extent <+:
      [(ctxt.subFileStartLba.toInt + request.offset.toInt,
        request.resid.toInt)] ↔
      (request.offset.toInt + ctxt.subFileStartLba.toInt).bmod (2 ^ 64) =
        request.offset.toInt + ctxt.subFileStartLba.toInt := by
    rw [List.map_singleton, List.cons_prefix_cons, DiscardArg.extent,
      Int64.toInt_add, Prod.mk.injEq]
    constructor
    · intro same
      omega
    · intro same
      exact ⟨⟨by omega, rfl⟩, List.nil_prefix⟩
  rw [alone, sum, List.forall_mem_singleton]
  unfold BlockifCtxt.Holds maxDiscardSegment
  omega

/-- A discard stays inside its sub-file, whatever the kernel answers, just
when the request is sound. -/
theorem blockifProcessDiscard_confined_iff (ctxt : BlockifCtxt)
    (request : DiscardRequest) :
    (∀ kernel, (blockifProcessDiscard ctxt request kernel).Confined ctxt
        request) ↔ request.Sound ctxt := by
  unfold blockifProcessDiscard DiscardRequest.Sound
  split
  · rename_i refused
    constructor
    · intro _
      exact .inl refused
    · intro _ kernel
      exact confined_of_refusal (by decide) (by decide)
  rename_i discards
  split
  · rename_i readOnly
    constructor
    · intro _
      exact .inr (.inl readOnly)
    · intro _ kernel
      exact confined_of_refusal (by decide) (by decide)
  rename_i writable
  rw [or_iff_right discards, or_iff_right writable]
  dsimp only
  split
  · rename_i virtio
    exact ranges_confined_iff virtio
  · rename_i ahci
    exact offset_confined_iff ahci

/-- A file with two sub-files of a megabyte, the second one assigned. -/
def secondMegabyte : BlockifCtxt where
  isblk := false
  candiscard := true
  rdonly := false
  size := 1048576
  subFileStartLba := 1048576
  sectsz := 512
  maxDiscardSectors := 2048
  maxDiscardSeg := 1
  discardSectorAlignment := 0
  wce := false
  sectszPositive := sectsz_positive

/-- Eight sectors, starting eight before the end of the 64-bit numbers. -/
def wrappingDiscard : DiscardRequest where
  iovcnt := 1
  ranges := [⟨36028797018963960, 8⟩]
  offset := 0
  resid := 16

theorem blockifProcessDiscard_escapes :
    (blockifProcessDiscard secondMegabyte wrappingDiscard
        fun _ => (0, 0)).calls = [(1044480, 4096)] ∧
      ¬ ∀ kernel, (blockifProcessDiscard secondMegabyte wrappingDiscard
        kernel).Confined secondMegabyte wrappingDiscard := by
  have calls : (blockifProcessDiscard secondMegabyte wrappingDiscard
      fun _ => (0, 0)).calls = [(1044480, 4096)] := by decide
  refine ⟨calls, fun confined => ?_⟩
  have held := (confined fun _ => (0, 0)).held (1044480, 4096)
    (calls ▸ List.mem_singleton_self _)
  exact absurd held.2.1 (by decide)

end VirtioGpu.Block
