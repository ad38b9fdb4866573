import VirtioGpu.Foundation.Bisection
import VirtioGpu.Foundation.Rounds
import VirtioGpu.Virtio.Registers

namespace VirtioGpu.Virtio

open Foundation

/-! The search for a configuration register, round by round. -/

/-- A table as `virtio_find_cr` expects it; `offset` is a `uint16_t`. -/
structure RegTable where
  regs : List ConfigReg
  filled : regs ≠ []
  sorted : regs.Pairwise fun cr later => cr.offset < later.offset
  fits : ∀ cr ∈ regs, cr.offset < 65536

def RegTable.first (table : RegTable) : ConfigReg :=
  table.regs.head table.filled

def modernTable : RegTable where
  regs := modernConfigRegs
  filled := by decide
  sorted := by decide
  fits := by decide

inductive FindEnd where
  | returned (cr : Option ConfigReg)
  /-- The entry at `mid` is not in the table. -/
  | outside (mid : Nat)
  deriving Repr, DecidableEq

/-- `lo` and `hi`, both `u_int`. -/
structure FindBounds where
  lo : Nat
  hi : Nat
  deriving Repr, DecidableEq

def FindBounds.mid (bounds : FindBounds) : Nat :=
  ((bounds.hi + bounds.lo) % 4294967296) >>> 1

def findCrRound (regs : List ConfigReg) (offset : Nat)
    (bounds : FindBounds) (_ : Unit) : Except FindEnd FindBounds :=
  if bounds.hi ≥ bounds.lo then
    match regs[bounds.mid]? with
    | none => .error (.outside bounds.mid)
    | some cr =>
        if cr.offset = offset then
          .error (.returned (some cr))
        else if cr.offset < offset then
          .ok { bounds with lo := (bounds.mid + 1) % 4294967296 }
        else
          .ok { bounds with hi := (bounds.mid + 4294967295) % 4294967296 }
  else
    .error (.returned none)

/-- The loop of `virtio_find_cr` after `count` rounds. -/
def findCrAfter (regs : List ConfigReg) (offset count : Nat) :
    Except FindEnd FindBounds :=
  Rounds.after (findCrRound regs offset) (fun _ => ())
    ⟨0, (regs.length + 4294967295) % 4294967296⟩ count

/-- The entry that a table has at an offset, if there is one. -/
def RegTable.Finds (table : RegTable) (offset : Nat)
    (result : Option ConfigReg) : Prop :=
  ∀ cr, result = some cr ↔ cr ∈ table.regs ∧ cr.offset = offset

/-- The search ends with the right result and reads nothing outside the
table; `virtioFindCr` is this search. -/
structure FindsRight (table : RegTable) (offset : Nat)
    (result : Option ConfigReg) : Prop where
  ends : ∃ count, count ≤ table.regs.length + 1 ∧
    findCrAfter table.regs offset count = .error (.returned result)
  inside : ∀ count bounds,
    findCrAfter table.regs offset count = .ok bounds →
      bounds.lo ≤ bounds.hi → bounds.mid < table.regs.length
  finds : table.Finds offset result
  computed : virtioFindCr table.regs offset = result

section Search

variable {table : RegTable} {offset count : Nat} {bounds : FindBounds}

/-- The offset of an entry. -/
def RegTable.key (table : RegTable) (index : Nat) : Nat :=
  (table.regs[index]?.elim 0) ConfigReg.offset

theorem RegTable.key_eq {index : Nat} {cr : ConfigReg}
    (here : table.regs[index]? = some cr) : table.key index = cr.offset := by
  rw [key, here]
  rfl

theorem RegTable.length_pos (table : RegTable) : 0 < table.regs.length :=
  List.length_pos_iff.mpr table.filled

theorem RegTable.key_zero (table : RegTable) :
    table.key 0 = table.first.offset := by
  apply RegTable.key_eq
  rw [first, ← List.head?_eq_getElem?, List.head?_eq_some_head table.filled]

theorem RegTable.increasing (table : RegTable) :
    Increasing table.regs.length table.key := by
  intro index later before inside
  have early := Nat.lt_trans before inside
  rw [table.key_eq (List.getElem?_eq_getElem early),
    table.key_eq (List.getElem?_eq_getElem inside)]
  exact List.pairwise_iff_getElem.mp table.sorted index later early inside
    before

/-- An entry is the only one with its offset. -/
theorem RegTable.finds_some {index : Nat} {cr : ConfigReg}
    (here : table.regs[index]? = some cr) (same : cr.offset = offset) :
    table.Finds offset (some cr) := by
  intro found
  constructor
  · intro equal
    cases equal
    exact ⟨List.mem_of_getElem? here, same⟩
  · rintro ⟨member, sought⟩
    obtain ⟨other, there⟩ := List.mem_iff_getElem?.mp member
    have keys : table.key index = table.key other := by
      rw [table.key_eq here, table.key_eq there, same, sought]
    have equal := table.increasing.injective
      (List.getElem?_eq_some_iff.mp here).1
      (List.getElem?_eq_some_iff.mp there).1 keys
    rwa [← equal, here] at there

theorem RegTable.finds_none
    (absent : ∀ index, index < table.regs.length →
      table.key index ≠ offset) : table.Finds offset none := by
  intro found
  constructor
  · intro equal
    cases equal
  · rintro ⟨member, sought⟩
    obtain ⟨index, there⟩ := List.mem_iff_getElem?.mp member
    have missing := absent index (List.getElem?_eq_some_iff.mp there).1
    rw [table.key_eq there] at missing
    exact absurd sought missing

/-- Strictly increasing 16-bit offsets are few. -/
theorem RegTable.length_le (table : RegTable) :
    table.regs.length ≤ 65536 := by
  have positive := table.length_pos
  have last : table.regs.length - 1 < table.regs.length := by omega
  have above := table.increasing.index_le last
  have here := List.getElem?_eq_getElem last
  have below := table.fits _ (List.mem_of_getElem? here)
  rw [table.key_eq here] at above
  omega

/-- The bounds before a round, with the number of entries still to search. -/
structure RegTable.Searching (table : RegTable) (offset count : Nat)
    (bounds : FindBounds) : Prop where
  narrowed : Narrowed table.regs.length table.key offset bounds.lo bounds.hi
  room : bounds.hi + 1 - bounds.lo + count ≤ table.regs.length

theorem RegTable.Searching.mid_bounds
    (searching : table.Searching offset count bounds)
    (active : bounds.lo ≤ bounds.hi) :
    bounds.lo ≤ bounds.mid ∧ bounds.mid ≤ bounds.hi := by
  have inside := searching.narrowed.inside
  have few := table.length_le
  rw [FindBounds.mid, Nat.mod_eq_of_lt (by omega), Nat.shiftRight_one]
  omega

/-- One round returns what it should or leaves fewer entries. -/
theorem RegTable.Searching.round
    (searching : table.Searching offset count bounds)
    (first : table.first.offset ≤ offset) :
    (∃ result, findCrRound table.regs offset bounds () =
        .error (.returned result) ∧ table.Finds offset result) ∨
    ∃ next, findCrRound table.regs offset bounds () = .ok next ∧
      bounds.lo ≤ bounds.hi ∧ table.Searching offset (count + 1) next := by
  have narrowed := searching.narrowed
  have inside := narrowed.inside
  have room := searching.room
  have few := table.length_le
  unfold findCrRound
  by_cases active : bounds.lo ≤ bounds.hi
  · rw [if_pos active]
    obtain ⟨least, most⟩ := searching.mid_bounds active
    have here : bounds.mid < table.regs.length := by omega
    have entry := List.getElem?_eq_getElem here
    have key := table.key_eq entry
    rw [entry]
    dsimp only
    by_cases same : table.regs[bounds.mid].offset = offset
    · rw [if_pos same]
      exact .inl ⟨_, rfl, table.finds_some entry same⟩
    · rw [if_neg same]
      by_cases small : table.regs[bounds.mid].offset < offset
      · rw [if_pos small]
        refine .inr ⟨_, rfl, active, ?_⟩
        rw [Nat.mod_eq_of_lt (by omega)]
        constructor
        · exact narrowed.right table.increasing most (by omega)
        · show bounds.hi + 1 - (bounds.mid + 1) + (count + 1) ≤ _
          omega
      · rw [if_neg small]
        refine .inr ⟨_, rfl, active, ?_⟩
        have start : table.key 0 ≤ offset := by rwa [table.key_zero]
        obtain ⟨positive, less⟩ := narrowed.left table.increasing start least
          most (by omega)
        have wraps : (bounds.mid + 4294967295) % 4294967296 =
            bounds.mid - 1 := by omega
        rw [wraps]
        constructor
        · exact less
        · show bounds.mid - 1 + 1 - bounds.lo + (count + 1) ≤ _
          omega
  · rw [if_neg active]
    exact .inl ⟨none, rfl, table.finds_none (narrowed.absent (by omega))⟩

theorem RegTable.searching_start (table : RegTable) (offset : Nat) :
    table.Searching offset 0 ⟨0, table.regs.length - 1⟩ := by
  have positive := table.length_pos
  constructor
  · exact Narrowed.start positive
  · show table.regs.length - 1 + 1 - 0 + 0 ≤ _
    omega

/-- The bounds after any number of rounds that have not ended the search. -/
theorem RegTable.searching_after (first : table.first.offset ≤ offset)
    (running : findCrAfter table.regs offset count = .ok bounds) :
    table.Searching offset count bounds := by
  apply Rounds.invariant (fun count bounds =>
    table.Searching offset count bounds) _ _ running
  · have positive := table.length_pos
    have few := table.length_le
    have last : (table.regs.length + 4294967295) % 4294967296 =
        table.regs.length - 1 := by omega
    rw [last]
    exact table.searching_start offset
  · intro count before next searching ran
    rcases searching.round first with ⟨_, ended, _⟩ | ⟨other, went, _, kept⟩
    · rw [ended] at ran
      cases ran
    · rw [went] at ran
      cases ran
      exact kept

theorem RegTable.endsBy (first : table.first.offset ≤ offset) :
    Rounds.EndsBy (findCrRound table.regs offset) (fun _ => ())
      ⟨0, (table.regs.length + 4294967295) % 4294967296⟩
      (table.regs.length + 1) := by
  apply Rounds.endsBy_of_round
  intro bounds running
  have searching := table.searching_after first running
  rcases searching.round first with ⟨result, ended, _⟩ | ⟨_, _, active, _⟩
  · exact ⟨_, ended⟩
  · have room := searching.room
    omega

theorem findCrAfter_succ {regs : List ConfigReg}
    (running : findCrAfter regs offset count = .ok bounds) :
    findCrAfter regs offset (count + 1) = findCrRound regs offset bounds () :=
  Rounds.after_succ running

theorem FindBounds.mid_lt (bounds : FindBounds) :
    bounds.mid + 1 < 4294967296 := by
  rw [mid, Nat.shiftRight_one]
  omega

/-- The recursion of `virtioFindCrFrom` makes the same rounds. -/
theorem virtioFindCrFrom_succ (regs : List ConfigReg) (rounds : Nat) :
    virtioFindCrFrom regs offset (rounds + 1) bounds.lo bounds.hi =
      match findCrRound regs offset bounds () with
      | .ok next => virtioFindCrFrom regs offset rounds next.lo next.hi
      | .error (.returned result) => result
      | .error (.outside _) => none := by
  unfold findCrRound
  rw [virtioFindCrFrom]
  split
  · show (match regs[bounds.mid]? with
      | none => none
      | some cr => if cr.offset = offset then some cr
          else if cr.offset < offset then
            virtioFindCrFrom regs offset rounds (bounds.mid + 1) bounds.hi
          else virtioFindCrFrom regs offset rounds bounds.lo
            ((bounds.mid + 4294967295) % 4294967296)) = _
    cases regs[bounds.mid]? with
    | none => rfl
    | some cr =>
        dsimp only
        split
        · rfl
        · split
          · rw [Nat.mod_eq_of_lt bounds.mid_lt]
          · rfl
  · rfl

theorem RegTable.Searching.from_finds {rounds : Nat}
    (searching : table.Searching offset count bounds)
    (first : table.first.offset ≤ offset)
    (enough : table.regs.length < count + rounds) :
    table.Finds offset
      (virtioFindCrFrom table.regs offset rounds bounds.lo bounds.hi) := by
  induction rounds generalizing count bounds with
  | zero =>
      have room := searching.room
      omega
  | succ rounds induction =>
      rw [virtioFindCrFrom_succ]
      rcases searching.round first with
        ⟨result, ended, finds⟩ | ⟨next, went, _, kept⟩
      · rw [ended]
        exact finds
      · rw [went]
        exact induction kept (by omega)

theorem RegTable.Finds.unique {result other : Option ConfigReg}
    (finds : table.Finds offset result) (also : table.Finds offset other) :
    result = other := by
  apply Option.ext
  intro cr
  exact (finds cr).trans (also cr).symm

/-- The table of the modern registers starts at 0, so that every offset is
looked up in it. -/
theorem virtioFindModernCr_finds (offset : Nat) :
    modernTable.Finds offset (virtioFindModernCr offset) :=
  (modernTable.searching_start offset).from_finds (Nat.zero_le offset)
    (by decide)

theorem virtioFindCr_sound (table : RegTable) {offset : Nat}
    (first : table.first.offset ≤ offset) :
    ∃ result, FindsRight table offset result := by
  obtain ⟨last, bounds, result, early, running, ended⟩ :=
    (table.endsBy first).lastRound
  have searching := table.searching_after first running
  rcases searching.round first with ⟨other, stops, finds⟩ | ⟨_, went, _, _⟩
  · rw [ended] at stops
    cases stops
    refine ⟨other, ?_, ?_, finds, ?_⟩
    · exact ⟨last + 1, early, (findCrAfter_succ running).trans ended⟩
    · intro count reached before active
      have here := table.searching_after first before
      obtain ⟨_, most⟩ := here.mid_bounds active
      exact Nat.lt_of_le_of_lt most here.narrowed.inside
    · have start := table.searching_start offset
      exact (start.from_finds first (by omega)).unique finds
  · rw [went] at ended
    cases ended

theorem virtioFindCr_sound_gf :
    modernTable.first.offset ≤ 12 ∧
      ∃ result, FindsRight modernTable 12 result :=
  ⟨by decide, virtioFindCr_sound modernTable (by decide)⟩

end Search

end VirtioGpu.Virtio
