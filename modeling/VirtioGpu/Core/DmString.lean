import VirtioGpu.Foundation.Numerals

namespace VirtioGpu.Core

open Foundation

/-! Numbers out of option strings.  A string is the characters before its
terminator, and a pointer into it is an offset. -/

def einval : Nat := 22

def erange : Nat := 34

/-! The conversions of the library. -/

structure Range where
  low : Int
  high : Int

def Range.Holds (range : Range) (value : Int) : Prop :=
  range.low ≤ value ∧ value ≤ range.high

instance (range : Range) (value : Int) : Decidable (range.Holds value) :=
  inferInstanceAs (Decidable (_ ∧ _))

def intRange : Range := ⟨-2147483648, 2147483647⟩

def uintRange : Range := ⟨0, 4294967295⟩

def longRange : Range := ⟨-9223372036854775808, 9223372036854775807⟩

def ulongRange : Range := ⟨0, 18446744073709551615⟩

/-- The integers a conversion takes without `ERANGE`, what it makes of them,
and what it makes of the others. -/
structure Conversion where
  taken : Range
  result : Int → Int
  clamped : Int → Int

def strtol : Conversion where
  taken := longRange
  result := fun value => value
  clamped := fun value => if value < 0 then longRange.low else longRange.high

/-- A minus sign is taken, and negates in the unsigned type. -/
def strtoul : Conversion where
  taken := ⟨-18446744073709551615, 18446744073709551615⟩
  result := fun value => value % 18446744073709551616
  clamped := fun _ => ulongRange.high

def validBase (base : Nat) : Bool := base = 0 ∨ 2 ≤ base ∧ base ≤ 36

/-- The value, the end where it is set, and `errno` after a conversion, which
never clears it. -/
def Conversion.call (conversion : Conversion) (s : List Char)
    (base errno : Nat) : Int × Option Nat × Nat :=
  if validBase base then
    match scan base s with
    | none => (0, some 0, errno)
    | some (value, length) =>
        if conversion.taken.Holds value then
          (conversion.result value, some length, errno)
        else (conversion.clamped value, some length, erange)
  else (0, none, einval)

/-! The functions over them. -/

/-- What a call returns, and leaves in `*val`, `*end` and `errno`. -/
structure DmOutcome where
  ret : Int
  val : Int
  endPtr : Option Int
  errno : Nat

section Functions

variable (s : Option (List Char)) (endPtr : Option Int) (base errno : Nat)
  (val : Int)

/-- `dm_strtol` and `dm_strtoul`, which differ in their conversion.  `endPtr`
is absent where `end` is null, and otherwise what `*end` was. -/
def dmConvert (conversion : Conversion) : DmOutcome :=
  match s with
  | none => ⟨-1, val, endPtr, errno⟩
  | some text =>
      let called := conversion.call text base errno
      let moved := endPtr.map fun before =>
        (called.2.1.map Int.ofNat).getD before
      if moved = some 0 ∨ called.2.2 = erange then
        ⟨-1, called.1, moved, called.2.2⟩
      else ⟨0, called.1, moved, called.2.2⟩

/-- `dm_strtoi` and `dm_strtoui`, which differ in what they cut to. -/
def dmNarrow (conversion : Conversion) (cut : Int → Int) : DmOutcome :=
  let wide := dmConvert s endPtr base errno 0 conversion
  { wide with val := if wide.ret = 0 then cut wide.val else val }

def dmStrtol : DmOutcome := dmConvert s endPtr base errno val strtol

def dmStrtoul : DmOutcome := dmConvert s endPtr base errno val strtoul

def dmStrtoi : DmOutcome :=
  dmNarrow s endPtr base errno val strtol
    fun value => (value + 2147483648) % 4294967296 - 2147483648

def dmStrtoui : DmOutcome :=
  dmNarrow s endPtr base errno val strtoul fun value => value % 4294967296

end Functions

/-! What the functions are for, and when they do it. -/

/-- The string starts with a number in the base. -/
def Number (base : Nat) (s : List Char) (value : Int) (length : Nat) : Prop :=
  validBase base = true ∧ Denotes base s value length

section Faithful

variable (range : Range) (s : List Char) (endPtr : Option Int)
  (base errno : Nat)

structure Faithful (outcome : DmOutcome) : Prop where
  accepts : outcome.ret = 0 ↔
    ∃ value length, Number base s value length ∧ range.Holds value
  stores : outcome.ret = 0 → ∀ value length, Number base s value length →
    outcome.val = value ∧ outcome.endPtr = endPtr.map fun _ => (length : Int)

/-- A number of the type needs an `errno` that does not say `ERANGE` yet, one
that only the conversion takes needs one that does, and no number is noticed
by the end alone. -/
structure Meets (taken : Range) : Prop where
  number : ∀ value length, Number base s value length →
    if range.Holds value then errno ≠ erange
    else taken.Holds value → errno = erange
  noNumber : (¬∃ value length, Number base s value length) →
    if validBase base then endPtr ≠ none ∨ errno = erange
    else endPtr = some 0

end Faithful

theorem number_iff_scan {base : Nat} {s : List Char} {value : Int}
    {length : Nat} (valid : validBase base = true) :
    Number base s value length ↔ scan base s = some (value, length) := by
  unfold Number
  rw [scan_eq_some_iff]
  simp [valid]

theorem Number.functional {base : Nat} {s : List Char} {value other : Int}
    {length size : Nat} (first : Number base s value length)
    (second : Number base s other size) : value = other ∧ length = size :=
  first.2.functional second.2

section Returns

variable {conversion : Conversion} {s : List Char} {endPtr : Option Int}
  {base errno : Nat} {val : Int}

/-- A call on a string that starts with a number. -/
theorem dmConvert_of_number {value : Int} {length : Nat}
    (number : Number base s value length) :
    ((dmConvert (some s) endPtr base errno val conversion).ret = 0 ↔
      conversion.taken.Holds value ∧ errno ≠ erange) ∧
    (conversion.taken.Holds value →
      (dmConvert (some s) endPtr base errno val conversion).val =
        conversion.result value) ∧
    (dmConvert (some s) endPtr base errno val conversion).endPtr =
      endPtr.map fun _ => (length : Int) := by
  have positive := number.2.length_pos
  have found := (number_iff_scan number.1).mp number
  have notStart : (endPtr.map fun _ => (length : Int)) ≠ some 0 := by
    cases endPtr with
    | none => simp
    | some before => simp; omega
  unfold dmConvert Conversion.call
  simp only [number.1, if_true, found]
  by_cases holds : conversion.taken.Holds value
  · simp only [holds, if_true, Option.map_some, Option.getD_some]
    by_cases stale : errno = erange
    · simp [stale]
    · simp [stale, notStart]
  · simp [holds]

/-- A call on a string that starts with none. -/
theorem dmConvert_of_noNumber
    (noNumber : ¬∃ value length, Number base s value length) :
    (dmConvert (some s) endPtr base errno val conversion).ret = 0 ↔
      if validBase base then endPtr = none ∧ errno ≠ erange
      else endPtr ≠ some 0 := by
  unfold dmConvert Conversion.call
  by_cases valid : validBase base = true
  · have missing : scan base s = none :=
      scan_eq_none_iff.mpr fun ⟨value, length, denotes⟩ =>
        noNumber ⟨value, length, valid, denotes⟩
    simp only [valid, if_true, missing, Option.map_some, Option.getD_some]
    cases endPtr with
    | none => by_cases stale : errno = erange <;> simp [stale]
    | some before => simp
  · simp only [valid]
    cases endPtr with
    | none => simp [einval, erange]
    | some before => by_cases start : before = 0 <;>
        simp [start, einval, erange]

end Returns

/-! The promise and its condition, by what the string starts with. -/

section Starts

variable {range taken : Range} {s : List Char} {endPtr : Option Int}
  {base errno : Nat} {outcome : DmOutcome}

theorem Meets.number_iff {value : Int} {length : Nat}
    (number : Number base s value length) :
    Meets range s endPtr base errno taken ↔
      if range.Holds value then errno ≠ erange
      else taken.Holds value → errno = erange := by
  constructor
  · exact fun meets => meets.number value length number
  · intro here
    refine ⟨?_, fun missing => absurd ⟨value, length, number⟩ missing⟩
    intro other size same
    rwa [← (number.functional same).1]

theorem Meets.noNumber_iff
    (noNumber : ¬∃ value length, Number base s value length) :
    Meets range s endPtr base errno taken ↔
      if validBase base then endPtr ≠ none ∨ errno = erange
      else endPtr = some 0 := by
  constructor
  · exact fun meets => meets.noNumber noNumber
  · intro here
    exact ⟨fun value length number => absurd ⟨value, length, number⟩ noNumber,
      fun _ => here⟩

theorem Faithful.number_iff {value : Int} {length : Nat}
    (number : Number base s value length)
    (stores : outcome.ret = 0 → range.Holds value →
      outcome.val = value ∧ outcome.endPtr = endPtr.map fun _ =>
        (length : Int)) :
    Faithful range s endPtr base outcome ↔
      (outcome.ret = 0 ↔ range.Holds value) := by
  have known : (∃ value length, Number base s value length ∧
      range.Holds value) ↔ range.Holds value := by
    constructor
    · rintro ⟨other, size, same, holds⟩
      rwa [(number.functional same).1]
    · exact fun holds => ⟨value, length, number, holds⟩
  constructor
  · exact fun faithful => faithful.accepts.trans known
  · intro accepts
    refine ⟨accepts.trans known.symm, ?_⟩
    intro success other size same
    obtain ⟨rfl, rfl⟩ := number.functional same
    exact stores success (accepts.mp success)

theorem Faithful.noNumber_iff
    (noNumber : ¬∃ value length, Number base s value length) :
    Faithful range s endPtr base outcome ↔ outcome.ret ≠ 0 := by
  have refuses : ¬∃ value length, Number base s value length ∧
      range.Holds value :=
    fun ⟨value, length, number, _⟩ => noNumber ⟨value, length, number⟩
  constructor
  · exact fun faithful success => refuses (faithful.accepts.mp success)
  · intro failed
    exact ⟨iff_of_false failed refuses,
      fun success => absurd success failed⟩

end Starts

/-- A function of the family keeps its promise where its call meets the
condition, if it returns and moves the end as a conversion that takes its
range does. -/
theorem faithful_iff {conversion : Conversion} {range : Range}
    {s : List Char} {endPtr : Option Int} {base errno : Nat} {val : Int}
    {outcome : DmOutcome}
    (inside : ∀ value, range.Holds value → conversion.taken.Holds value)
    (returns : outcome.ret =
      (dmConvert (some s) endPtr base errno val conversion).ret)
    (ends : outcome.endPtr =
      (dmConvert (some s) endPtr base errno val conversion).endPtr)
    (stores : ∀ value, range.Holds value → outcome.ret = 0 →
      (dmConvert (some s) endPtr base errno val conversion).val =
        conversion.result value → outcome.val = value) :
    Faithful range s endPtr base outcome ↔
      Meets range s endPtr base errno conversion.taken := by
  by_cases found : ∃ value length, Number base s value length
  · obtain ⟨value, length, number⟩ := found
    obtain ⟨ret, result, moved⟩ := @dmConvert_of_number conversion s endPtr
      base errno val value length number
    rw [← returns] at ret
    rw [Meets.number_iff number, Faithful.number_iff number, ret]
    · split
      · rename_i holds
        exact (iff_true_right holds).trans (and_iff_right (inside _ holds))
      · rename_i outside
        exact (iff_false_right outside).trans (not_and.trans
          (imp_congr_right fun _ => not_not))
    · intro success holds
      exact ⟨stores value holds success (result (inside value holds)),
        ends.trans moved⟩
  · have ret := @dmConvert_of_noNumber conversion s endPtr base errno val found
    rw [Meets.noNumber_iff found, Faithful.noNumber_iff found, returns,
      Ne, ret]
    split
    · rw [not_and_or, not_not]
    · exact not_not

theorem dmStrtol_faithful_iff {s : List Char} {endPtr : Option Int}
    {base errno : Nat} {val : Int} :
    Faithful longRange s endPtr base
        (dmStrtol (some s) endPtr base errno val) ↔
      Meets longRange s endPtr base errno strtol.taken :=
  faithful_iff (fun _ holds => holds) rfl rfl fun _ _ _ result => result

theorem dmStrtoul_faithful_iff {s : List Char} {endPtr : Option Int}
    {base errno : Nat} {val : Int} :
    Faithful ulongRange s endPtr base
        (dmStrtoul (some s) endPtr base errno val) ↔
      Meets ulongRange s endPtr base errno strtoul.taken := by
  refine faithful_iff ?_ rfl rfl ?_
  · intro value holds
    unfold Range.Holds ulongRange strtoul at *
    simp only at *
    omega
  · intro value holds _ result
    refine result.trans ?_
    unfold Range.Holds ulongRange strtoul at *
    simp only at *
    omega

theorem dmNarrow_val {s : Option (List Char)} {endPtr : Option Int}
    {base errno : Nat} {val : Int} {conversion : Conversion}
    {cut : Int → Int} {value : Int}
    (success : (dmNarrow s endPtr base errno val conversion cut).ret = 0)
    (result : (dmConvert s endPtr base errno 0 conversion).val = value) :
    (dmNarrow s endPtr base errno val conversion cut).val = cut value := by
  subst result
  exact if_pos success

theorem dmNarrow_failed {s : Option (List Char)} {endPtr : Option Int}
    {base errno : Nat} {val : Int} {conversion : Conversion}
    {cut : Int → Int}
    (failed : (dmNarrow s endPtr base errno val conversion cut).ret ≠ 0) :
    (dmNarrow s endPtr base errno val conversion cut).val = val :=
  if_neg failed

theorem dmStrtoi_faithful_iff {s : List Char} {endPtr : Option Int}
    {base errno : Nat} {val : Int} :
    Faithful intRange s endPtr base
        (dmStrtoi (some s) endPtr base errno val) ↔
      Meets intRange s endPtr base errno strtol.taken := by
  refine @faithful_iff strtol intRange s endPtr base errno 0 _ ?_ rfl rfl ?_
  · intro value holds
    unfold Range.Holds intRange strtol longRange at *
    simp only at *
    omega
  · intro value holds success result
    refine (dmNarrow_val success result).trans ?_
    unfold Range.Holds intRange strtol at *
    simp only at *
    omega

theorem dmStrtoui_faithful_iff {s : List Char} {endPtr : Option Int}
    {base errno : Nat} {val : Int} :
    Faithful uintRange s endPtr base
        (dmStrtoui (some s) endPtr base errno val) ↔
      Meets uintRange s endPtr base errno strtoul.taken := by
  refine @faithful_iff strtoul uintRange s endPtr base errno 0 _ ?_ rfl rfl ?_
  · intro value holds
    unfold Range.Holds uintRange strtoul at *
    simp only at *
    omega
  · intro value holds success result
    refine (dmNarrow_val success result).trans ?_
    unfold Range.Holds uintRange strtoul at *
    simp only at *
    omega

/-! `errno` over a sequence of calls. -/

structure DmCall where
  conversion : Conversion
  s : Option (List Char)
  endPtr : Option Int
  base : Nat

/-- The call reads a number its conversion does not take. -/
def DmCall.Overflows (call : DmCall) : Prop :=
  ∃ text value length, call.s = some text ∧
    Number call.base text value length ∧ ¬call.conversion.taken.Holds value

/-- The call has a string and no valid base. -/
def DmCall.Resets (call : DmCall) : Prop :=
  call.s ≠ none ∧ validBase call.base = false

def DmCall.errno (call : DmCall) (before : Nat) : Nat :=
  (dmConvert call.s call.endPtr call.base before 0 call.conversion).errno

def errnoAfter (earlier : List DmCall) (before : Nat) : Nat :=
  earlier.foldl (fun errno call => call.errno errno) before

theorem DmCall.errno_eq_erange_iff (call : DmCall) (before : Nat) :
    call.errno before = erange ↔
      call.Overflows ∨ before = erange ∧ ¬call.Resets := by
  obtain ⟨conversion, s, endPtr, base⟩ := call
  unfold DmCall.errno DmCall.Overflows DmCall.Resets dmConvert
  cases s with
  | none => simp
  | some text =>
      simp only [apply_ite DmOutcome.errno, ite_self, Conversion.call]
      by_cases valid : validBase base = true
      · simp only [valid, if_true, number_iff_scan valid]
        cases found : scan base text with
        | none => simp [found]
        | some pair =>
            obtain ⟨value, length⟩ := pair
            by_cases holds : conversion.taken.Holds value <;>
              simp [found, holds]
      · simp [valid, Number, einval, erange]

/-- A number overflowed and no call after it reset `errno`. -/
def Stale (earlier : List DmCall) (before : Nat) : Prop :=
  (before = erange ∧ ∀ call ∈ earlier, ¬call.Resets) ∨
    ∃ first call later, earlier = first ++ call :: later ∧ call.Overflows ∧
      ∀ other ∈ later, ¬other.Resets

theorem errnoAfter_eq_erange_iff (earlier : List DmCall) (before : Nat) :
    errnoAfter earlier before = erange ↔ Stale earlier before := by
  induction earlier generalizing before with
  | nil => simp [errnoAfter, Stale]
  | cons call rest induction =>
      have step : errnoAfter (call :: rest) before =
        errnoAfter rest (call.errno before) := rfl
      rw [step, induction, Stale, call.errno_eq_erange_iff]
      constructor
      · rintro (⟨overflows | ⟨stale, keeps⟩, quiet⟩ |
          ⟨first, other, later, rfl, overflows, quiet⟩)
        · exact .inr ⟨[], call, rest, rfl, overflows, quiet⟩
        · exact .inl ⟨stale, List.forall_mem_cons.mpr ⟨keeps, quiet⟩⟩
        · exact .inr ⟨call :: first, other, later, rfl, overflows, quiet⟩
      · rintro (⟨stale, quiet⟩ | ⟨first, other, later, split, overflows,
          quiet⟩)
        · obtain ⟨keeps, quiet⟩ := List.forall_mem_cons.mp quiet
          exact .inl ⟨.inr ⟨stale, keeps⟩, quiet⟩
        · cases first with
          | nil =>
              cases split
              exact .inl ⟨.inl overflows, quiet⟩
          | cons head first =>
              cases split
              exact .inr ⟨first, other, later, rfl, overflows, quiet⟩

/-! Lists of numbers, as the options of `blockif_open` have them. -/

/-- The numbers of a text with these separators between them. -/
def parseNumbers (parse : List Char → Nat → DmOutcome) :
    List Char → List Char → Nat → Option (List Int)
  | [], cp, errno =>
      let outcome := parse cp errno
      if outcome.ret = 0 then some [outcome.val] else none
  | separator :: separators, cp, errno =>
      let outcome := parse cp errno
      if outcome.ret = 0 then
        match cp.drop (outcome.endPtr.getD 0).toNat with
        | c :: rest =>
            if c = separator then
              (parseNumbers parse separators rest outcome.errno).map
                (outcome.val :: ·)
            else none
        | [] => none
      else none

/-- What follows `discard=`. -/
def discardOption (cp : List Char) (errno : Nat) : Option (List Int) :=
  parseNumbers (fun cp errno => dmStrtoi (some cp) (some 0) 10 errno 0)
    [':', ':'] cp errno

/-- What follows `range=`. -/
def rangeOption (cp : List Char) (errno : Nat) : Option (List Int) :=
  parseNumbers (fun cp errno => dmStrtol (some cp) (some 0) 10 errno 0)
    ['/'] cp errno

/-- `errno` matters to a parser only where it says `ERANGE`. -/
structure Latched (parse : List Char → Nat → DmOutcome) : Prop where
  fresh : ∀ cp errno, errno ≠ erange →
    (parse cp errno).ret = (parse cp 0).ret ∧
      (parse cp errno).val = (parse cp 0).val ∧
        (parse cp errno).endPtr = (parse cp 0).endPtr
  kept : ∀ cp errno, (parse cp errno).ret = 0 →
    (parse cp errno).errno = errno
  stale : ∀ cp, (parse cp erange).ret ≠ 0

theorem erange_ne_zero : (0 : Nat) ≠ erange := by decide

theorem Latched.parseNumbers_fresh
    {parse : List Char → Nat → DmOutcome} (latched : Latched parse)
    (separators cp : List Char) {errno : Nat} (fresh : errno ≠ erange) :
    parseNumbers parse separators cp errno =
      parseNumbers parse separators cp 0 := by
  induction separators generalizing cp with
  | nil =>
      obtain ⟨ret, val, -⟩ := latched.fresh cp errno fresh
      simp only [parseNumbers, ret, val]
  | cons separator separators induction =>
      obtain ⟨ret, val, ends⟩ := latched.fresh cp errno fresh
      simp only [parseNumbers, ret, val, ends]
      by_cases success : (parse cp 0).ret = 0
      · rw [latched.kept cp errno (ret.trans success),
          latched.kept cp 0 success]
        simp only [induction]
      · simp only [success, if_false]

theorem Latched.parseNumbers_stale
    {parse : List Char → Nat → DmOutcome} (latched : Latched parse)
    (separators cp : List Char) :
    parseNumbers parse separators cp erange = none := by
  have failed := latched.stale cp
  cases separators <;> simp only [parseNumbers, failed, if_false]

theorem Latched.independent_iff
    {parse : List Char → Nat → DmOutcome} (latched : Latched parse)
    (separators cp : List Char) (earlier : List DmCall) :
    parseNumbers parse separators cp (errnoAfter earlier 0) =
        parseNumbers parse separators cp 0 ↔
      ¬Stale earlier 0 ∨ parseNumbers parse separators cp 0 = none := by
  rw [← errnoAfter_eq_erange_iff]
  by_cases stale : errnoAfter earlier 0 = erange
  · rw [stale, latched.parseNumbers_stale]
    simp [eq_comm]
  · exact iff_of_true (latched.parseNumbers_fresh separators cp stale)
      (.inl stale)

theorem dmConvert_latched (conversion : Conversion) :
    Latched fun cp errno =>
      dmConvert (some cp) (some 0) 10 errno 0 conversion where
  fresh := by
    intro cp errno fresh
    have valid : validBase 10 = true := rfl
    simp only [dmConvert, Conversion.call, valid, if_true]
    cases scan 10 cp with
    | none => simp
    | some pair =>
        by_cases holds : conversion.taken.Holds pair.1
        · simp only [holds, if_true, fresh, erange_ne_zero, or_false]
          split <;> simp
        · simp [holds]
  kept := by
    intro cp errno success
    have valid : validBase 10 = true := rfl
    simp only [dmConvert, Conversion.call, valid, if_true] at success ⊢
    cases found : scan 10 cp with
    | none => simp [found] at success
    | some pair =>
        by_cases holds : conversion.taken.Holds pair.1
        · simp [holds, apply_ite DmOutcome.errno]
        · simp [found, holds] at success
  stale := by
    intro cp
    have valid : validBase 10 = true := rfl
    simp only [dmConvert, Conversion.call, valid, if_true]
    cases scan 10 cp with
    | none => simp
    | some pair => by_cases holds : conversion.taken.Holds pair.1 <;>
        simp [holds]

theorem Latched.narrow {conversion : Conversion} (cut : Int → Int)
    (latched : Latched fun cp errno =>
      dmConvert (some cp) (some 0) 10 errno 0 conversion) :
    Latched fun cp errno =>
      dmNarrow (some cp) (some 0) 10 errno 0 conversion cut where
  fresh := by
    intro cp errno fresh
    obtain ⟨ret, val, ends⟩ := latched.fresh cp errno fresh
    refine ⟨ret, ?_, ends⟩
    simp only [dmNarrow, ret, val]
  kept := fun cp errno success => latched.kept cp errno success
  stale := fun cp => latched.stale cp

/-- Each function keeps its promise where its call meets its condition, and
the lists of the options do not depend on the calls before them where no
overflow of those is left in `errno`. -/
theorem dmString_faithful_iff (s : List Char) (endPtr : Option Int)
    (base errno : Nat) (val : Int) (earlier : List DmCall)
    (cp : List Char) :
    ((Faithful longRange s endPtr base
          (dmStrtol (some s) endPtr base errno val) ↔
        Meets longRange s endPtr base errno strtol.taken) ∧
      (Faithful ulongRange s endPtr base
          (dmStrtoul (some s) endPtr base errno val) ↔
        Meets ulongRange s endPtr base errno strtoul.taken) ∧
      ((Faithful intRange s endPtr base
          (dmStrtoi (some s) endPtr base errno val) ∧
        ((dmStrtoi (some s) endPtr base errno val).ret ≠ 0 →
          (dmStrtoi (some s) endPtr base errno val).val = val)) ↔
        Meets intRange s endPtr base errno strtol.taken) ∧
      ((Faithful uintRange s endPtr base
          (dmStrtoui (some s) endPtr base errno val) ∧
        ((dmStrtoui (some s) endPtr base errno val).ret ≠ 0 →
          (dmStrtoui (some s) endPtr base errno val).val = val)) ↔
        Meets uintRange s endPtr base errno strtoul.taken)) ∧
    (discardOption cp (errnoAfter earlier 0) = discardOption cp 0 ↔
      ¬Stale earlier 0 ∨ discardOption cp 0 = none) ∧
    (rangeOption cp (errnoAfter earlier 0) = rangeOption cp 0 ↔
      ¬Stale earlier 0 ∨ rangeOption cp 0 = none) := by
  refine ⟨⟨dmStrtol_faithful_iff, dmStrtoul_faithful_iff,
    (and_iff_left dmNarrow_failed).trans dmStrtoi_faithful_iff,
    (and_iff_left dmNarrow_failed).trans dmStrtoui_faithful_iff⟩, ?_, ?_⟩
  · have narrow := (dmConvert_latched strtol).narrow
      fun value => (value + 2147483648) % 4294967296 - 2147483648
    exact narrow.independent_iff _ cp earlier
  · exact (dmConvert_latched strtol).independent_iff _ cp earlier

/-- A number after one that overflowed. -/
theorem dmStrtoi_refuses_five :
    ¬ ∀ s endPtr base errno val,
      Faithful intRange s endPtr base
        (dmStrtoi (some s) endPtr base errno val) := by
  intro faithful
  have five : Number 10 ['5'] 5 1 := (number_iff_scan rfl).mpr rfl
  have accepted := (faithful ['5'] (some 0) 10 erange 0).accepts.mpr
    ⟨5, 1, five, by decide⟩
  revert accepted
  decide

end VirtioGpu.Core
