import Mathlib.Data.List.TakeWhile

namespace VirtioGpu.Foundation

/-! Integers at the start of a text: white space, a sign, a prefix that names
a radix, and digits.  The base 0 leaves the radix to the prefix. -/

def isSpace (c : Char) : Bool :=
  [' ', '\t', '\n', '\x0b', '\x0c', '\r'].contains c

def digitValue (c : Char) : Option Nat :=
  if '0' ≤ c ∧ c ≤ '9' then some (c.toNat - 48)
  else if 'a' ≤ c ∧ c ≤ 'z' then some (c.toNat - 87)
  else if 'A' ≤ c ∧ c ≤ 'Z' then some (c.toNat - 55)
  else none

def isDigitOf (radix : Nat) (c : Char) : Bool :=
  (digitValue c).any (· < radix)

def numberOf (radix : Nat) (digits : List Char) : Nat :=
  digits.foldl (fun number c => number * radix + (digitValue c).getD 0) 0

/-- The radix of digits without a hexadecimal prefix. -/
def radixOf (base : Nat) (digits : List Char) : Nat :=
  if base ≠ 0 then base else if digits.head? = some '0' then 8 else 10

/-- What may follow the sign of an integer, and its magnitude. -/
inductive Body : Nat → List Char → Nat → Prop
  | plain {base : Nat} {digits : List Char} (nonempty : digits ≠ [])
      (all : ∀ c ∈ digits, isDigitOf (radixOf base digits) c = true) :
      Body base digits (numberOf (radixOf base digits) digits)
  | hexadecimal {base : Nat} {x : Char} {digits : List Char}
      (free : base = 0 ∨ base = 16) (letter : x = 'x' ∨ x = 'X')
      (nonempty : digits ≠ []) (all : ∀ c ∈ digits, isDigitOf 16 c = true) :
      Body base ('0' :: x :: digits) (numberOf 16 digits)

inductive Sign : List Char → Bool → Prop
  | absent : Sign [] false
  | plus : Sign ['+'] false
  | minus : Sign ['-'] true

/-- The longest start of a text that has the form of a body. -/
structure LongestBody (base : Nat) (text body : List Char) (magnitude : Nat) :
    Prop where
  starts : body <+: text
  formed : Body base body magnitude
  longest : ∀ other number, other <+: text → Body base other number →
    other.length ≤ body.length

def signed (negative : Bool) (magnitude : Nat) : Int :=
  if negative then -magnitude else magnitude

/-- A text starts with an integer that takes up so many characters. -/
def Denotes (base : Nat) (text : List Char) (value : Int) (length : Nat) :
    Prop :=
  ∃ spaces sign body rest negative magnitude,
    text = spaces ++ (sign ++ (body ++ rest)) ∧
      (∀ c ∈ spaces, isSpace c = true) ∧ Sign sign negative ∧
        LongestBody base (body ++ rest) body magnitude ∧
          value = signed negative magnitude ∧
            length = spaces.length + sign.length + body.length

/-! Finding the integer. -/

/-- The digits behind a hexadecimal prefix. -/
def hexDigits (base : Nat) : List Char → Option (List Char)
  | first :: x :: rest =>
      if first = '0' ∧ (base = 0 ∨ base = 16) ∧ (x = 'x' ∨ x = 'X') ∧
          rest.takeWhile (isDigitOf 16) ≠ [] then
        some (rest.takeWhile (isDigitOf 16))
      else none
  | _ => none

def scanBody (base : Nat) (text : List Char) : Option (Nat × Nat) :=
  match hexDigits base text with
  | some digits => some (numberOf 16 digits, digits.length + 2)
  | none =>
      let radix := radixOf base text
      let digits := text.takeWhile (isDigitOf radix)
      if digits = [] then none
      else some (numberOf radix digits, digits.length)

def signOf : List Char → Bool × Nat
  | '+' :: _ => (false, 1)
  | '-' :: _ => (true, 1)
  | _ => (false, 0)

/-- The integer a text starts with, and the characters it takes up. -/
def scan (base : Nat) (text : List Char) : Option (Int × Nat) :=
  let spaces := text.takeWhile isSpace
  let after := text.dropWhile isSpace
  let sign := signOf after
  (scanBody base (after.drop sign.2)).map fun found =>
    (signed sign.1 found.1, spaces.length + sign.2 + found.2)

/-! The body that is found is the longest. -/

theorem radixOf_start {base : Nat} {digits text : List Char}
    (nonempty : digits ≠ []) (starts : digits <+: text) :
    radixOf base digits = radixOf base text := by
  obtain ⟨rest, rfl⟩ := starts
  cases digits with
  | nil => exact absurd rfl nonempty
  | cons first others => rfl

theorem length_le_takeWhile {p : Char → Bool} {start text : List Char}
    (starts : start <+: text) (all : ∀ c ∈ start, p c = true) :
    start.length ≤ (text.takeWhile p).length := by
  obtain ⟨rest, rfl⟩ := starts
  rw [List.takeWhile_append_of_pos all, List.length_append]
  omega

/-- The letter of the prefix is no digit of the radices that allow it. -/
theorem letter_not_digit {base : Nat} {x : Char} {digits : List Char}
    (free : base = 0 ∨ base = 16) (letter : x = 'x' ∨ x = 'X') :
    isDigitOf (radixOf base ('0' :: x :: digits)) x = false := by
  rcases free with rfl | rfl <;> rcases letter with rfl | rfl <;> rfl

theorem not_plain {base : Nat} {x : Char} {digits : List Char}
    (free : base = 0 ∨ base = 16) (letter : x = 'x' ∨ x = 'X') :
    ¬ ∀ c ∈ '0' :: x :: digits,
      isDigitOf (radixOf base ('0' :: x :: digits)) c = true := by
  intro all
  have digit := all x (by simp)
  rw [letter_not_digit free letter] at digit
  cases digit

theorem hexDigits_spec {base : Nat} {text digits : List Char}
    (found : hexDigits base text = some digits) :
    ∃ x rest, text = '0' :: x :: rest ∧ (base = 0 ∨ base = 16) ∧
      (x = 'x' ∨ x = 'X') ∧ digits ≠ [] ∧
        digits = rest.takeWhile (isDigitOf 16) := by
  unfold hexDigits at found
  split at found
  · split at found
    · rename_i first x rest met
      obtain ⟨rfl, free, letter, nonempty⟩ := met
      cases found
      exact ⟨x, rest, rfl, free, letter, nonempty, rfl⟩
    · cases found
  · cases found

theorem scanBody_sound {base : Nat} {text : List Char}
    {magnitude length : Nat}
    (found : scanBody base text = some (magnitude, length)) :
    ∃ body, body <+: text ∧ body.length = length ∧
      Body base body magnitude := by
  unfold scanBody at found
  cases hex : hexDigits base text with
  | some digits =>
      obtain ⟨x, rest, rfl, free, letter, nonempty, rfl⟩ :=
        hexDigits_spec hex
      rw [hex] at found
      cases found
      refine ⟨'0' :: x :: rest.takeWhile (isDigitOf 16), ?_, rfl,
        .hexadecimal free letter nonempty fun c member =>
          List.mem_takeWhile_imp member⟩
      exact (List.prefix_cons_inj _).mpr
        ((List.prefix_cons_inj _).mpr <| List.takeWhile_prefix _)
  | none =>
      rw [hex] at found
      simp only at found
      split at found
      · cases found
      · rename_i nonempty
        cases found
        have starts : text.takeWhile (isDigitOf (radixOf base text)) <+:
            text := List.takeWhile_prefix _
        have radix := @radixOf_start base _ _ nonempty starts
        refine ⟨_, starts, rfl, ?_⟩
        have formed := @Body.plain base _ nonempty (by
          rw [radix]
          exact fun c member => List.mem_takeWhile_imp member)
        rwa [radix] at formed

theorem scanBody_longest {base : Nat} {text body : List Char}
    {magnitude : Nat} (starts : body <+: text)
    (formed : Body base body magnitude) :
    ∃ found length, scanBody base text = some (found, length) ∧
      body.length ≤ length := by
  cases formed with
  | hexadecimal free letter nonempty all =>
      rename_i x digits
      obtain ⟨rest, rfl⟩ := starts
      have longer := length_le_takeWhile (p := isDigitOf 16)
        (List.prefix_append digits rest) all
      have more : (digits ++ rest).takeWhile (isDigitOf 16) ≠ [] := by
        intro empty
        rw [empty] at longer
        exact nonempty (List.length_eq_zero_iff.mp (Nat.le_zero.mp longer))
      have hex : hexDigits base ('0' :: x :: digits ++ rest) =
          some ((digits ++ rest).takeWhile (isDigitOf 16)) :=
        if_pos ⟨rfl, free, letter, more⟩
      refine ⟨_, _, by rw [scanBody, hex], ?_⟩
      simpa using longer
  | plain nonempty all =>
      have radix := @radixOf_start base _ _ nonempty starts
      rw [radix] at all
      cases hex : hexDigits base text with
      | some digits =>
          refine ⟨_, _, by rw [scanBody, hex], ?_⟩
          obtain ⟨x, rest, rfl, free, letter, -, -⟩ := hexDigits_spec hex
          have stops := @letter_not_digit base x rest free letter
          have short := length_le_takeWhile starts all
          rw [List.takeWhile_cons] at short
          split at short
          · rw [List.takeWhile_cons, if_neg (by simp [stops])] at short
            simp at short
            omega
          · simp at short
            simp [short]
      | none =>
          have longer := length_le_takeWhile starts all
          have more : text.takeWhile (isDigitOf (radixOf base text)) ≠ [] := by
            intro empty
            rw [empty] at longer
            exact nonempty
              (List.length_eq_zero_iff.mp (Nat.le_zero.mp longer))
          have scanned : scanBody base text =
              some (numberOf (radixOf base text)
                (text.takeWhile (isDigitOf (radixOf base text))),
                  (text.takeWhile (isDigitOf (radixOf base text))).length) := by
            rw [scanBody, hex]
            exact if_neg more
          exact ⟨_, _, scanned, longer⟩

theorem Body.functional {base first second : Nat} {body : List Char}
    (one : Body base body first) (two : Body base body second) :
    first = second := by
  cases one with
  | plain _ all =>
      cases two with
      | plain _ _ => rfl
      | hexadecimal free letter _ _ => exact (not_plain free letter all).elim
  | hexadecimal free letter _ _ =>
      cases two with
      | plain _ all => exact (not_plain free letter all).elim
      | hexadecimal _ _ _ _ => rfl

theorem eq_of_starts {first second text : List Char} (one : first <+: text)
    (two : second <+: text) (same : first.length = second.length) :
    first = second := by
  rw [List.prefix_iff_eq_take.mp one, List.prefix_iff_eq_take.mp two, same]

theorem scanBody_eq_some_iff {base : Nat} {text : List Char}
    {magnitude length : Nat} :
    scanBody base text = some (magnitude, length) ↔
      ∃ body, LongestBody base text body magnitude ∧
        body.length = length := by
  constructor
  · intro found
    obtain ⟨body, starts, rfl, formed⟩ := scanBody_sound found
    refine ⟨body, ⟨starts, formed, ?_⟩, rfl⟩
    intro other number within shaped
    obtain ⟨_, _, again, bound⟩ := scanBody_longest within shaped
    rw [found] at again
    cases again
    exact bound
  · rintro ⟨body, ⟨starts, formed, longest⟩, rfl⟩
    obtain ⟨found, length, scanned, bound⟩ :=
      scanBody_longest starts formed
    obtain ⟨other, within, rfl, shaped⟩ := scanBody_sound scanned
    have same : body = other := eq_of_starts starts within
      (Nat.le_antisymm bound (longest other found within shaped))
    subst same
    rw [scanned, formed.functional shaped]

/-! White space and the sign. -/

theorem Body.starts_digit {base magnitude : Nat} {body : List Char}
    (formed : Body base body magnitude) :
    ∃ first rest, body = first :: rest ∧ (digitValue first).isSome = true := by
  cases formed with
  | plain nonempty all =>
      obtain ⟨first, rest, rfl⟩ := List.exists_cons_of_ne_nil nonempty
      refine ⟨first, rest, rfl, ?_⟩
      have digit := all first List.mem_cons_self
      unfold isDigitOf at digit
      cases value : digitValue first with
      | none => simp [value] at digit
      | some number => rfl
  | hexadecimal _ _ _ _ => exact ⟨'0', _, rfl, rfl⟩

theorem digit_not_space {c : Char} (digit : (digitValue c).isSome = true) :
    isSpace c = false ∧ c ≠ '+' ∧ c ≠ '-' := by
  refine ⟨?_, ?_, ?_⟩
  · cases space : isSpace c with
    | false => rfl
    | true =>
        simp only [isSpace, List.contains_eq_mem, List.mem_cons,
          List.not_mem_nil, or_false, decide_eq_true_eq] at space
        rcases space with rfl | rfl | rfl | rfl | rfl | rfl <;> cases digit
  · rintro rfl
    cases digit
  · rintro rfl
    cases digit

theorem signOf_spec {text : List Char} :
    ∃ sign, text = sign ++ text.drop (signOf text).2 ∧
      Sign sign (signOf text).1 ∧ sign.length = (signOf text).2 := by
  unfold signOf
  split
  · exact ⟨['+'], rfl, .plus, rfl⟩
  · exact ⟨['-'], rfl, .minus, rfl⟩
  · exact ⟨[], rfl, .absent, rfl⟩

theorem signOf_append {sign body rest : List Char} {negative : Bool}
    {base magnitude : Nat} (signs : Sign sign negative)
    (formed : Body base body magnitude) :
    signOf (sign ++ (body ++ rest)) = (negative, sign.length) := by
  obtain ⟨first, others, rfl, digit⟩ := formed.starts_digit
  obtain ⟨-, notPlus, notMinus⟩ := digit_not_space digit
  cases signs with
  | plus => rfl
  | minus => rfl
  | absent =>
      simp only [List.nil_append, List.cons_append, signOf]
      split
      · rename_i same
        exact absurd (List.cons.inj same).1 notPlus
      · rename_i same
        exact absurd (List.cons.inj same).1 notMinus
      · rfl

theorem head_not_space {sign body rest : List Char} {negative : Bool}
    {base magnitude : Nat} (signs : Sign sign negative)
    (formed : Body base body magnitude) :
    ∃ first others, sign ++ (body ++ rest) = first :: others ∧
      isSpace first = false := by
  obtain ⟨first, others, rfl, digit⟩ := formed.starts_digit
  cases signs with
  | plus => exact ⟨_, _, rfl, rfl⟩
  | minus => exact ⟨_, _, rfl, rfl⟩
  | absent => exact ⟨_, _, rfl, (digit_not_space digit).1⟩

theorem takeWhile_spaces {spaces after : List Char}
    (all : ∀ c ∈ spaces, isSpace c = true)
    (stops : ∃ first others, after = first :: others ∧
      isSpace first = false) :
    (spaces ++ after).takeWhile isSpace = spaces ∧
      (spaces ++ after).dropWhile isSpace = after := by
  obtain ⟨first, others, rfl, stop⟩ := stops
  rw [List.takeWhile_append_of_pos all, List.dropWhile_append_of_pos all,
    List.takeWhile_cons, List.dropWhile_cons, stop]
  simp

/-- The scan finds the integer a text starts with. -/
theorem scan_eq_some_iff {base : Nat} {text : List Char} {value : Int}
    {length : Nat} :
    scan base text = some (value, length) ↔
      Denotes base text value length := by
  unfold scan
  rw [Option.map_eq_some_iff]
  constructor
  · rintro ⟨⟨magnitude, taken⟩, found, ends⟩
    cases ends
    obtain ⟨body, longest, rfl⟩ := scanBody_eq_some_iff.mp found
    obtain ⟨sign, split, signs, size⟩ :=
      @signOf_spec (text.dropWhile isSpace)
    obtain ⟨rest, joined⟩ := longest.starts
    refine ⟨text.takeWhile isSpace, sign, body, rest, _, magnitude, ?_,
      fun c member => List.mem_takeWhile_imp member, signs, ?_, rfl, ?_⟩
    · rw [joined, ← split, List.takeWhile_append_dropWhile]
    · rwa [joined]
    · rw [size]
  · rintro ⟨spaces, sign, body, rest, negative, magnitude, rfl, all, signs,
      longest, rfl, rfl⟩
    obtain ⟨taken, dropped⟩ :=
      takeWhile_spaces all (head_not_space signs longest.formed)
    refine ⟨(magnitude, body.length), ?_, ?_⟩
    · rw [dropped, signOf_append signs longest.formed, List.drop_left]
      exact scanBody_eq_some_iff.mpr ⟨body, longest, rfl⟩
    · rw [taken, dropped, signOf_append signs longest.formed]

theorem Denotes.functional {base : Nat} {text : List Char}
    {value other : Int} {length size : Nat}
    (first : Denotes base text value length)
    (second : Denotes base text other size) :
    value = other ∧ length = size := by
  have same := (scan_eq_some_iff.mpr first).symm.trans
    (scan_eq_some_iff.mpr second)
  cases same
  exact ⟨rfl, rfl⟩

theorem scan_eq_none_iff {base : Nat} {text : List Char} :
    scan base text = none ↔
      ¬∃ value length, Denotes base text value length := by
  simp only [← scan_eq_some_iff]
  cases scan base text with
  | none => simp
  | some found =>
      exact iff_of_false (by simp) (not_not_intro ⟨found.1, found.2, rfl⟩)

theorem Denotes.length_pos {base : Nat} {text : List Char} {value : Int}
    {length : Nat} (denotes : Denotes base text value length) :
    0 < length := by
  obtain ⟨_, _, body, _, _, _, _, _, _, longest, _, rfl⟩ := denotes
  obtain ⟨first, rest, rfl, -⟩ := longest.formed.starts_digit
  exact Nat.add_pos_right _ (Nat.succ_pos rest.length)

end VirtioGpu.Foundation
