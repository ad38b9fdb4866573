import VirtioGpu.Foundation.Numerals
import VirtioGpu.Vdpy.Geometry

namespace VirtioGpu.Vdpy

open Foundation

/-! The screens of the display option. -/

def vscreenMaxNum : Nat := 4

/-- The fields of a vscreen that the option sets. -/
structure VscreenConfig where
  pscreenId : Int
  isFullscreen : Bool
  orgX : Int
  orgY : Int
  guestWidth : Int
  guestHeight : Int
  deriving Repr, DecidableEq

def VscreenConfig.zero : VscreenConfig := ⟨0, false, 0, 0, 0, 0⟩

/-! Searching and scanning. -/

/-- The text from the first place on where the needle stands, in letters of
either case. -/
def strcasestr (needle : List Char) : List Char → Option (List Char)
  | [] => if needle = [] then some [] else none
  | c :: rest =>
      if needle.map Char.toLower <+: (c :: rest).map Char.toLower then
        some (c :: rest)
      else strcasestr needle rest

inductive Directive where
  | literal (c : Char)
  | decimal
  deriving Repr, DecidableEq

def geometryText : List Char :=
  ['g', 'e', 'o', 'm', 'e', 't', 'r', 'y', '=']

def fullscreenText : List Char :=
  geometryText ++ ['f', 'u', 'l', 'l', 's', 'c', 'r', 'e', 'e', 'n']

def fullscreenFormat : List Directive :=
  (fullscreenText ++ [':']).map .literal ++ [.decimal]

def windowFormat : List Directive :=
  geometryText.map .literal ++
    [.decimal, .literal 'x', .decimal, .literal '+', .decimal, .literal '+',
      .decimal]

section Parsing

/-! `sscanf` leaves open what it stores of a number that no int holds. -/
variable (overflowed : Int → Int)

/-- The numbers `sscanf` assigns before it stops. -/
def sscanf : List Directive → List Char → List Int
  | [], _ => []
  | .literal _ :: _, [] => []
  | .literal c :: format, first :: input =>
      if first = c then sscanf format input else []
  | .decimal :: format, input =>
      match scan 10 input with
      | some (value, length) =>
          (if -2147483648 ≤ value ∧ value ≤ 2147483647 then value
            else overflowed value) :: sscanf format (input.drop length)
      | none => []

def isFullscreenItem (str : List Char) : Bool :=
  (strcasestr fullscreenText str).isSome

def isGeometryItem (str : List Char) : Bool :=
  (strcasestr geometryText str).isSome

/-- What an item makes of its vscreen, and whether it is in error. -/
def configure (str : List Char) (vscr : VscreenConfig) :
    VscreenConfig × Bool :=
  let tmp := (strcasestr geometryText str).getD []
  if isFullscreenItem str then
    let assigned := sscanf overflowed fullscreenFormat tmp
    ({ pscreenId := if assigned.length = 1 then assigned.getD 0 0 else 0
       orgX := 0
       orgY := 0
       guestWidth := vdpyMaxWidth
       guestHeight := vdpyMaxHeight
       isFullscreen := true }, false)
  else
    let assigned := sscanf overflowed windowFormat tmp
    ({ guestWidth := assigned.getD 0 vscr.guestWidth
       guestHeight := assigned.getD 1 vscr.guestHeight
       orgX := assigned.getD 2 vscr.orgX
       orgY := assigned.getD 3 vscr.orgY
       isFullscreen := false
       pscreenId := 0 }, assigned.length ≠ 4)

/-- The screens, their number, the error so far, and the indices of the
elements that were written. -/
structure ParsedOption where
  vscrs : Nat → VscreenConfig
  vscrsNum : Nat
  error : Int
  written : List Nat

def parseItem (parsed : ParsedOption) (str : List Char) : ParsedOption :=
  if isFullscreenItem str ∨ isGeometryItem str then
    let configured := configure overflowed str (parsed.vscrs parsed.vscrsNum)
    { vscrs := Function.update parsed.vscrs parsed.vscrsNum configured.1
      vscrsNum := parsed.vscrsNum + 1
      error := if configured.2 then -1 else parsed.error
      written := parsed.written ++ [parsed.vscrsNum] }
  else parsed

def parseItems : List (List Char) → ParsedOption → ParsedOption
  | [], parsed => parsed
  | str :: rest, parsed =>
      let next := parseItem overflowed parsed str
      if next.vscrsNum > vscreenMaxNum then next else parseItems rest next

/-- `beyond` is what lies behind the array. -/
def vdpyParseCmdOption (beyond : Nat → VscreenConfig) (opts : List Char) :
    ParsedOption :=
  parseItems overflowed (opts.splitOn ',')
    { vscrs := fun index =>
        if index < vscreenMaxNum then .zero else beyond index
      vscrsNum := 0
      error := 0
      written := [] }

end Parsing

/-- The elements of a loop over the screens, as `vdpy_sdl_display_thread` has
them. -/
def loopIndices (vscrsNum : Nat) : List Nat := List.range vscrsNum

def geometryItems (opts : List Char) : List (List Char) :=
  (opts.splitOn ',').filter isGeometryItem

theorem strcasestr_isSome_of_append {needle more : List Char}
    {text : List Char}
    (found : (strcasestr (needle ++ more) text).isSome = true) :
    (strcasestr needle text).isSome = true := by
  induction text with
  | nil =>
      unfold strcasestr at found ⊢
      split at found
      · rename_i empty
        rw [if_pos (List.append_eq_nil_iff.mp empty).1]
        rfl
      · cases found
  | cons c rest induction =>
      unfold strcasestr at found ⊢
      split
      · rfl
      · rename_i missed
        rw [if_neg] at found
        · exact induction found
        · intro starts
          rw [List.map_append] at starts
          exact missed (List.IsPrefix.trans (List.prefix_append _ _) starts)

/-- A full-screen item is a geometry item too. -/
theorem counts_iff (str : List Char) :
    isFullscreenItem str = true ∨ isGeometryItem str = true ↔
      isGeometryItem str = true :=
  or_iff_right_of_imp strcasestr_isSome_of_append

variable {overflowed : Int → Int}

theorem parseItem_of_geometry {parsed : ParsedOption} {str : List Char}
    (geometry : isGeometryItem str = true) :
    parseItem overflowed parsed str =
      { vscrs := Function.update parsed.vscrs parsed.vscrsNum
          (configure overflowed str (parsed.vscrs parsed.vscrsNum)).1
        vscrsNum := parsed.vscrsNum + 1
        error := if (configure overflowed str
            (parsed.vscrs parsed.vscrsNum)).2 then -1 else parsed.error
        written := parsed.written ++ [parsed.vscrsNum] } :=
  if_pos ((counts_iff str).mpr geometry)

theorem parseItem_of_other {parsed : ParsedOption} {str : List Char}
    (other : isGeometryItem str = false) :
    parseItem overflowed parsed str = parsed := by
  apply if_neg
  rw [counts_iff, other]
  exact Bool.false_ne_true

/-- What the parser has done after so many geometry items. -/
structure Configured (overflowed : Int → Int) (before after : ParsedOption)
    (items : List (List Char)) : Prop where
  vscrsNum : after.vscrsNum = before.vscrsNum + items.length
  written : after.written =
    before.written ++ List.range' before.vscrsNum items.length
  earlier : ∀ index, index < before.vscrsNum →
    after.vscrs index = before.vscrs index
  vscrs : ∀ index, after.vscrs (before.vscrsNum + index) =
    match items[index]? with
    | some str =>
        (configure overflowed str (before.vscrs (before.vscrsNum + index))).1
    | none => before.vscrs (before.vscrsNum + index)

theorem Configured.nil (parsed : ParsedOption) :
    Configured overflowed parsed parsed [] where
  vscrsNum := rfl
  written := by simp
  earlier := fun _ _ => rfl
  vscrs := fun _ => rfl

theorem Configured.cons {before after : ParsedOption} {str : List Char}
    {items : List (List Char)} (geometry : isGeometryItem str = true)
    (rest : Configured overflowed (parseItem overflowed before str) after
      items) : Configured overflowed before after (str :: items) := by
  obtain ⟨vscrsNum, written, earlier, vscrs⟩ := rest
  rw [parseItem_of_geometry geometry] at vscrsNum written earlier vscrs
  simp only at vscrsNum written earlier vscrs
  refine ⟨?_, ?_, ?_, ?_⟩
  · rw [vscrsNum, List.length_cons]
    omega
  · rw [written, List.length_cons, List.range'_succ, List.append_assoc]
    rfl
  · intro index small
    rw [earlier index (Nat.lt_succ_of_lt small)]
    exact Function.update_of_ne (by omega) _ _
  · intro index
    cases index with
    | zero =>
        rw [Nat.add_zero, earlier _ (Nat.lt_succ_self _)]
        exact Function.update_self _ _ _
    | succ index =>
        have place : before.vscrsNum + (index + 1) =
          before.vscrsNum + 1 + index := by omega
        have moved := vscrs index
        rw [Function.update_of_ne (by omega)] at moved
        rw [place, moved, List.getElem?_cons_succ]

theorem parseItems_configured {items : List (List Char)}
    {parsed : ParsedOption}
    (room : parsed.vscrsNum + (items.filter isGeometryItem).length ≤
      vscreenMaxNum) :
    Configured overflowed parsed (parseItems overflowed items parsed)
      (items.filter isGeometryItem) := by
  induction items generalizing parsed with
  | nil => exact .nil parsed
  | cons str rest induction =>
      unfold parseItems
      cases geometry : isGeometryItem str with
      | false =>
          rw [List.filter_cons_of_neg (by simp [geometry])] at room ⊢
          rw [parseItem_of_other geometry]
          simp only
          rw [if_neg (by omega)]
          exact induction room
      | true =>
          rw [List.filter_cons_of_pos geometry] at room ⊢
          rw [List.length_cons] at room
          have count : (parseItem overflowed parsed str).vscrsNum =
              parsed.vscrsNum + 1 := by
            rw [parseItem_of_geometry geometry]
          simp only
          rw [if_neg (by omega)]
          exact .cons geometry (induction (by omega))

/-- The item after the last element is written before the number is
checked. -/
theorem parseItems_overruns {items : List (List Char)}
    {parsed : ParsedOption} (within : parsed.vscrsNum ≤ vscreenMaxNum)
    (many : vscreenMaxNum <
      parsed.vscrsNum + (items.filter isGeometryItem).length) :
    (parseItems overflowed items parsed).vscrsNum = vscreenMaxNum + 1 ∧
      vscreenMaxNum ∈ (parseItems overflowed items parsed).written := by
  induction items generalizing parsed with
  | nil =>
      simp at many
      omega
  | cons str rest induction =>
      unfold parseItems
      cases geometry : isGeometryItem str with
      | false =>
          rw [List.filter_cons_of_neg (by simp [geometry])] at many
          rw [parseItem_of_other geometry]
          simp only
          rw [if_neg (by omega)]
          exact induction within many
      | true =>
          rw [List.filter_cons_of_pos geometry, List.length_cons] at many
          rw [parseItem_of_geometry geometry]
          simp only
          by_cases full : parsed.vscrsNum = vscreenMaxNum
          · rw [if_pos (by omega), full]
            exact ⟨rfl, by simp⟩
          · rw [if_neg (by omega)]
            exact induction (by simp only; omega) (by simp only; omega)

theorem vdpyParseCmdOption_configured (overflowed : Int → Int)
    (beyond : Nat → VscreenConfig) {opts : List Char}
    (room : (geometryItems opts).length ≤ vscreenMaxNum) :
    let parsed := vdpyParseCmdOption overflowed beyond opts
    let items := geometryItems opts
    parsed.written = List.range items.length ∧
      parsed.vscrsNum = items.length ∧
        ∀ index, index < vscreenMaxNum → parsed.vscrs index =
          match items[index]? with
          | some str => (configure overflowed str .zero).1
          | none => .zero := by
  intro parsed items
  obtain ⟨vscrsNum, written, -, vscrs⟩ :=
    @parseItems_configured overflowed (opts.splitOn ',')
      ⟨fun index => if index < vscreenMaxNum then .zero else beyond index,
        0, 0, []⟩ (by rw [Nat.zero_add]; exact room)
  refine ⟨?_, ?_, ?_⟩
  · rw [List.range_eq_range']
    exact written
  · exact vscrsNum.trans (Nat.zero_add _)
  · intro index inside
    have here := vscrs index
    simp only [Nat.zero_add, inside, if_true] at here
    exact here

/-- The screens stay inside their array exactly when there are no more
geometry items than elements, and each item then sets the element of its
number. -/
theorem vdpyParseCmdOption_inside_iff (overflowed : Int → Int)
    (beyond : Nat → VscreenConfig) (opts : List Char) :
    let parsed := vdpyParseCmdOption overflowed beyond opts
    let items := geometryItems opts
    (((∀ index ∈ parsed.written, index < vscreenMaxNum) ∧
        parsed.vscrsNum ≤ vscreenMaxNum ∧
          ∀ index ∈ loopIndices parsed.vscrsNum, index < vscreenMaxNum) ↔
      items.length ≤ vscreenMaxNum) ∧
    (items.length ≤ vscreenMaxNum →
      parsed.written = List.range items.length ∧
        parsed.vscrsNum = items.length ∧
          ∀ index, index < vscreenMaxNum → parsed.vscrs index =
            match items[index]? with
            | some str => (configure overflowed str .zero).1
            | none => .zero) := by
  intro parsed items
  refine ⟨⟨?_, ?_⟩, vdpyParseCmdOption_configured overflowed beyond⟩
  · rintro ⟨-, bounded, -⟩
    by_contra many
    have overrun := (@parseItems_overruns overflowed (opts.splitOn ',')
      ⟨fun index => if index < vscreenMaxNum then .zero else beyond index,
        0, 0, []⟩ (Nat.zero_le _)
      (by rw [Nat.zero_add]; exact Nat.lt_of_not_le many)).1
    have number : parsed.vscrsNum = vscreenMaxNum + 1 := overrun
    omega
  · intro room
    obtain ⟨written, vscrsNum, -⟩ :=
      vdpyParseCmdOption_configured overflowed beyond room
    have inside : ∀ index ∈ List.range items.length,
        index < vscreenMaxNum := by
      intro index member
      exact Nat.lt_of_lt_of_le (List.mem_range.mp member) room
    rw [written, vscrsNum]
    exact ⟨inside, room, inside⟩

/-- Five screens. -/
theorem vdpyParseCmdOption_overruns :
    ¬ ∀ (overflowed : Int → Int) (beyond : Nat → VscreenConfig) (opts),
      (∀ index ∈ (vdpyParseCmdOption overflowed beyond opts).written,
          index < vscreenMaxNum) ∧
        (vdpyParseCmdOption overflowed beyond opts).vscrsNum ≤
          vscreenMaxNum := by
  intro inside
  have overrun := inside (fun _ => 0) (fun _ => .zero)
    ((List.replicate 5 (geometryText ++
      ['8', 'x', '8', '+', '0', '+', '0', ','])).flatten.dropLast)
  exact absurd overrun.2 (by decide)

end VirtioGpu.Vdpy
