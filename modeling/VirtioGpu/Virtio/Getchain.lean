import VirtioGpu.Foundation.Transition
import VirtioGpu.Virtio.Flatten

namespace VirtioGpu.Virtio

open Foundation

/-! What every walk of `vq_getchain` keeps, and that every walk ends. -/

/-- A property of the chain, whether the walk succeeded or gave up. -/
def LeavesChain (Holds : Chain → Prop) : Except Chain Chain → Prop
  | .ok chain | .error chain => Holds chain

/-- The property survives each of the three things a walk does to the
chain. -/
structure KeptByWalk (walk : WalkContext) (Holds : Chain → Prop) : Prop where
  log : ∀ chain addr len, Holds chain →
    Holds (chain.log (translate walk.ctx addr len))
  record : ∀ chain vd, chain.count < walk.nIov → Holds chain →
    Holds (chain.record walk vd)
  advance : ∀ chain, Holds chain → Holds chain.advance

section Kept

variable {walk : WalkContext} {Holds : Chain → Prop} {chain : Chain}
  (kept : KeptByWalk walk Holds) (holds : Holds chain)
include kept holds

theorem vqRecord_kept (vd : VringDesc) :
    LeavesChain Holds (vqRecord walk chain vd) := by
  cases recorded : vqRecord walk chain vd with
  | ok next =>
      obtain ⟨_, room, rfl⟩ := vqRecord_eq_ok_iff.mp recorded
      exact kept.record chain vd room holds
  | error stopped =>
      unfold vqRecord at recorded
      dsimp only at recorded
      split at recorded
      · cases recorded
        exact holds
      · split at recorded
        · cases recorded
          exact kept.log chain vd.addr vd.len holds
        · cases recorded

theorem vqIndirect_kept (vindir nIndir rounds next : Nat) :
    LeavesChain Holds (vqIndirect walk vindir nIndir rounds next chain) := by
  induction rounds generalizing next chain with
  | zero => exact holds
  | succ rounds induction =>
      unfold vqIndirect
      dsimp only
      split
      · exact holds
      · have recorded := vqRecord_kept kept holds
          (descAt walk.memory vindir next)
        cases result : vqRecord walk chain
            (descAt walk.memory vindir next) with
        | error stopped =>
            rw [result] at recorded
            exact recorded
        | ok extended =>
            rw [result] at recorded
            have advanced := kept.advance extended recorded
            dsimp only
            split
            · exact advanced
            · split
              · exact advanced
              · split
                · exact advanced
                · exact induction advanced _

theorem vqDirect_kept (deviceCaps : Nat) (vdir : VringDesc) :
    LeavesChain Holds (vqDirect walk deviceCaps vdir chain) := by
  unfold vqDirect
  split
  · have recorded := vqRecord_kept kept holds vdir
    cases result : vqRecord walk chain vdir with
    | error stopped =>
        rw [result] at recorded
        exact recorded
    | ok extended =>
        rw [result] at recorded
        exact kept.advance extended recorded
  · split
    · exact holds
    · dsimp only
      split
      · exact holds
      · have logged := kept.log chain vdir.addr vdir.len holds
        cases (translate walk.ctx vdir.addr vdir.len).host with
        | none => exact logged
        | some vindir => exact vqIndirect_kept kept logged _ _ _ _

theorem vqWalk_kept (deviceCaps qsize table rounds next : Nat) :
    LeavesChain Holds
      (vqWalk walk deviceCaps qsize table rounds next chain) := by
  induction rounds generalizing next chain with
  | zero => exact holds
  | succ rounds induction =>
      unfold vqWalk
      split
      · exact holds
      · split
        · exact holds
        · dsimp only
          have visited := vqDirect_kept kept holds deviceCaps
            (descAt walk.memory table next)
          cases result : vqDirect walk deviceCaps
              (descAt walk.memory table next) chain with
          | error stopped =>
              rw [result] at visited
              exact visited
          | ok extended =>
              rw [result] at visited
              dsimp only
              split
              · exact visited
              · exact induction visited _

end Kept

theorem vqGetchain_kept {walk : WalkContext} {Holds : Chain → Prop}
    (kept : KeptByWalk walk Holds) {iov : Nat → IoVec} {flags : Nat → Nat}
    (holds : Holds ⟨0, iov, flags, []⟩) (deviceCaps : Nat) (vq : VqInfo)
    (pidx : Nat) :
    Holds (vqGetchain walk deviceCaps vq pidx iov flags).chain := by
  unfold vqGetchain
  dsimp only
  split
  · exact holds
  · split
    · exact holds
    · have walked := vqWalk_kept kept holds deviceCaps vq.qsize
        (vq.desc.getD 0) vqMaxDescriptors
        (vq.availRing walk.memory (vq.lastAvail &&& (vq.qsize - 1)))
      cases result : vqWalk walk deviceCaps vq.qsize (vq.desc.getD 0)
          vqMaxDescriptors (vq.availRing walk.memory
            (vq.lastAvail &&& (vq.qsize - 1))) ⟨0, iov, flags, []⟩ with
      | error stopped =>
          rw [result] at walked
          exact walked
      | ok extended =>
          rw [result] at walked
          exact walked

/-! The two loops of `vq_getchain`, round by round and with no bound on the
number of rounds. -/

/-- Where control is at the head of a loop; the inner loop remembers the
direct descriptor it expands. -/
inductive WalkState where
  | outer (next : Nat) (chain : Chain)
  | inner (vdir : VringDesc) (vindir nIndir next : Nat) (chain : Chain)
  | returned (result : Except Chain Chain)

/-- The end of a round of the outer loop. -/
def afterEntry (vdir : VringDesc) : Except Chain Chain → WalkState
  | .error chain => .returned (.error chain)
  | .ok chain =>
      if !vdir.hasNext then .returned (.ok chain)
      else .outer vdir.next chain

def walkRound (walk : WalkContext) (deviceCaps qsize table : Nat) :
    WalkState → WalkState
  | .outer next chain =>
      if chain.count ≥ vqMaxDescriptors then
        .returned (.error chain)
      else if next ≥ qsize then
        .returned (.error chain)
      else
        let vdir := descAt walk.memory table next
        if !vdir.isIndirect then
          match vqRecord walk chain vdir with
          | .error chain => .returned (.error chain)
          | .ok chain => afterEntry vdir (.ok chain.advance)
        else if !deviceCaps.testBit virtioRingFIndirectDesc then
          .returned (.error chain)
        else
          let nIndir := vdir.len / 16
          if vdir.len &&& 0xf ≠ 0 ∨ nIndir = 0 then
            .returned (.error chain)
          else
            let call := translate walk.ctx vdir.addr vdir.len
            match call.host with
            | none => .returned (.error (chain.log call))
            | some vindir => .inner vdir vindir nIndir 0 (chain.log call)
  | .inner vdir vindir nIndir next chain =>
      let vp := descAt walk.memory vindir next
      if vp.isIndirect then
        .returned (.error chain)
      else
        match vqRecord walk chain vp with
        | .error chain => .returned (.error chain)
        | .ok chain =>
            let chain := chain.advance
            if chain.count > vqMaxDescriptors then
              .returned (.error chain)
            else if !vp.hasNext then
              afterEntry vdir (.ok chain)
            else if vp.next ≥ nIndir then
              .returned (.error chain)
            else
              .inner vdir vindir nIndir vp.next chain
  | .returned result => .returned result

section Ends

variable {walk : WalkContext} {deviceCaps qsize table : Nat} {chain : Chain}

/-- With enough rounds left for `VQ_MAX_DESCRIPTORS`, the bounded inner loop
ends as the loop of the source does. -/
theorem inner_leads (vdir : VringDesc) {vindir nIndir rounds next : Nat}
    (counted : chain.count ≤ vqMaxDescriptors)
    (enough : vqMaxDescriptors < rounds + chain.count) :
    Leads (walkRound walk deviceCaps qsize table)
      (.inner vdir vindir nIndir next chain)
      (afterEntry vdir
        (vqIndirect walk vindir nIndir rounds next chain)) := by
  induction rounds generalizing next chain with
  | zero => omega
  | succ rounds induction =>
      unfold vqIndirect
      dsimp only
      by_cases marked : (descAt walk.memory vindir next).isIndirect = true
      · apply Leads.single
        simp only [walkRound, marked, if_true, afterEntry]
      · rw [if_neg marked]
        cases recorded : vqRecord walk chain
            (descAt walk.memory vindir next) with
        | error stopped =>
            apply Leads.single
            simp only [walkRound, marked, recorded, if_false, afterEntry,
              Bool.false_eq_true]
        | ok extended =>
            obtain ⟨_, _, rfl⟩ := vqRecord_eq_ok_iff.mp recorded
            dsimp only
            by_cases exceeded : (chain.record walk
                (descAt walk.memory vindir next)).advance.count >
                  vqMaxDescriptors
            · apply Leads.single
              simp only [walkRound, marked, recorded, exceeded, if_true,
                if_false, afterEntry, Bool.false_eq_true]
            · rw [if_neg exceeded]
              cases linked : (descAt walk.memory vindir next).hasNext with
              | false =>
                  apply Leads.single
                  simp only [walkRound, marked, recorded, exceeded, linked,
                    if_true, if_false, Bool.false_eq_true, Bool.not_false]
              | true =>
                  rw [if_neg (by decide)]
                  by_cases outside :
                      (descAt walk.memory vindir next).next ≥ nIndir
                  · apply Leads.single
                    simp only [walkRound, marked, recorded, exceeded, linked,
                      outside, if_true, if_false, afterEntry,
                      Bool.false_eq_true, Bool.not_true]
                  · rw [if_neg outside]
                    refine Leads.trans (.single ?_)
                      (induction (Nat.not_lt.mp exceeded) ?_)
                    · simp only [walkRound, marked, recorded, exceeded,
                        linked, outside, if_false, Bool.false_eq_true,
                        Bool.not_true]
                    · show vqMaxDescriptors < rounds + (chain.count + 1)
                      omega

/-- One whole round of the outer loop, with the rounds of the inner loop
inside it. -/
theorem entry_leads {head : Nat} (counted : chain.count < vqMaxDescriptors)
    (inside : head < qsize) :
    Leads (walkRound walk deviceCaps qsize table) (.outer head chain)
      (afterEntry (descAt walk.memory table head)
        (vqDirect walk deviceCaps (descAt walk.memory table head)
          chain)) := by
  have unfilled : ¬chain.count ≥ vqMaxDescriptors := Nat.not_le.mpr counted
  have listed : ¬head ≥ qsize := Nat.not_le.mpr inside
  unfold vqDirect
  dsimp only
  cases marked : (descAt walk.memory table head).isIndirect with
  | false =>
      rw [if_pos (by decide)]
      apply Leads.single
      simp only [walkRound, unfilled, listed, marked, if_false, if_true,
        Bool.not_false]
      cases vqRecord walk chain (descAt walk.memory table head) with
      | error stopped => rfl
      | ok extended => rfl
  | true =>
      rw [if_neg (by decide)]
      by_cases forbidden :
          (!deviceCaps.testBit virtioRingFIndirectDesc) = true
      · rw [if_pos forbidden]
        apply Leads.single
        simp only [walkRound, unfilled, listed, marked, forbidden, if_false,
          if_true, Bool.not_true, Bool.false_eq_true, afterEntry]
      · rw [if_neg forbidden]
        by_cases bad : (descAt walk.memory table head).len &&& 0xf ≠ 0 ∨
            (descAt walk.memory table head).len / 16 = 0
        · rw [if_pos bad]
          apply Leads.single
          simp only [walkRound, unfilled, listed, marked, forbidden, bad,
            if_false, if_true, Bool.not_true, Bool.false_eq_true, afterEntry]
        · rw [if_neg bad]
          cases found : (translate walk.ctx
              (descAt walk.memory table head).addr
              (descAt walk.memory table head).len).host with
          | none =>
              apply Leads.single
              simp only [walkRound, unfilled, listed, marked, forbidden, bad,
                found, if_false, Bool.not_true, Bool.false_eq_true,
                afterEntry]
          | some vindir =>
              refine Leads.trans (.single ?_)
                (inner_leads (descAt walk.memory table head)
                  (Nat.le_of_lt counted) ?_)
              · simp only [walkRound, unfilled, listed, marked, forbidden, bad,
                  found, if_false, Bool.not_true, Bool.false_eq_true]
              · exact Nat.lt_of_lt_of_le (Nat.lt_succ_self _)
                  (Nat.le_add_right _ _)

theorem outer_leads {rounds head : Nat}
    (enough : vqMaxDescriptors ≤ rounds + chain.count) :
    Leads (walkRound walk deviceCaps qsize table) (.outer head chain)
      (.returned
        (vqWalk walk deviceCaps qsize table rounds head chain)) := by
  induction rounds generalizing head chain with
  | zero =>
      apply Leads.single
      rw [Nat.zero_add] at enough
      simp only [walkRound, ge_iff_le, enough, if_true, vqWalk]
  | succ rounds induction =>
      unfold vqWalk
      by_cases full : chain.count ≥ vqMaxDescriptors
      · apply Leads.single
        simp only [walkRound, full, if_true]
      · rw [if_neg full]
        by_cases outside : head ≥ qsize
        · apply Leads.single
          simp only [walkRound, full, outside, if_true, if_false]
        · rw [if_neg outside]
          refine Leads.trans (entry_leads (Nat.not_le.mp full)
            (Nat.not_le.mp outside)) ?_
          dsimp only
          cases direct : vqDirect walk deviceCaps
              (descAt walk.memory table head) chain with
          | error stopped => exact .refl
          | ok extended =>
              obtain ⟨segments, entry, _, longer⟩ :=
                vqDirect_sound (Nat.not_le.mp full) direct
              have positive := entry.length_pos
              have count := longer.count
              unfold afterEntry
              dsimp only
              cases (descAt walk.memory table head).hasNext with
              | false => exact .refl
              | true =>
                  apply induction
                  omega

end Ends

/-! A chain has one flattening. -/

theorem TableFlattens.unique {memory : Memory} {table size next : Nat}
    {first second : List VringDesc}
    (flattens : TableFlattens memory table size next first)
    (again : TableFlattens memory table size next second) :
    first = second := by
  induction flattens generalizing second with
  | last plain final =>
      cases again with
      | last _ _ => rfl
      | more _ linked _ _ =>
          rw [final] at linked
          cases linked
  | more plain linked inside tail induction =>
      cases again with
      | last _ final =>
          rw [final] at linked
          cases linked
      | more _ _ _ other => rw [induction other]

theorem EntryFlattens.unique {ctx : Vmctx} {memory : Memory}
    {deviceCaps : Nat} {desc : VringDesc} {first second : List VringDesc}
    (flattens : EntryFlattens ctx memory deviceCaps desc first)
    (again : EntryFlattens ctx memory deviceCaps desc second) :
    first = second := by
  cases flattens with
  | direct plain =>
      cases again with
      | direct _ => rfl
      | indirect marked _ _ _ _ _ =>
          rw [plain] at marked
          cases marked
  | indirect marked _ _ _ _ table =>
      cases again with
      | direct plain =>
          rw [plain] at marked
          cases marked
      | indirect _ _ _ _ _ other => exact table.unique other

theorem Flattens.unique {ctx : Vmctx} {memory : Memory}
    {deviceCaps qsize table head : Nat} {first second : List VringDesc}
    (flattens : Flattens ctx memory deviceCaps qsize table head first)
    (again : Flattens ctx memory deviceCaps qsize table head second) :
    first = second := by
  induction flattens generalizing second with
  | last inside entry final =>
      cases again with
      | last _ other _ => exact entry.unique other
      | more _ _ linked _ =>
          rw [final] at linked
          cases linked
  | more inside entry linked tail induction =>
      cases again with
      | last _ _ final =>
          rw [final] at linked
          cases linked
      | more _ other _ rest => rw [entry.unique other, induction rest]

/-! The chain a call returns. -/

/-- What `vq_getchain` makes of the end of its loops. -/
def vqReturn (vq : VqInfo) (head : Nat) : Except Chain Chain → ChainResult
  | .error chain => ⟨-1, head, vq, chain⟩
  | .ok chain => ⟨chain.count, head, vq, chain⟩

/-- The arrays hold these segments in their first slots. -/
structure Chain.Lists (walk : WalkContext) (chain : Chain)
    (segments : List VringDesc) : Prop where
  iov : ∀ slot (inside : slot < segments.length),
    chain.iov slot = ⟨some segments[slot].addr, segments[slot].len⟩
  flags : walk.keepFlags = true → ∀ slot (inside : slot < segments.length),
    chain.flags slot = segments[slot].flags

theorem Chain.Extends.lists {walk : WalkContext} {chain next : Chain}
    {segments : List VringDesc} (extended : chain.Extends walk segments next)
    (first : chain.count = 0) : next.Lists walk segments := by
  constructor
  · intro slot inside
    have stored := @storeFrom_inside _ chain.iov 0 slot
      (segments.map fun segment => ⟨some segment.addr, segment.len⟩)
      (by rw [List.length_map]; exact inside)
    rw [extended.iov, first]
    rw [Nat.zero_add] at stored
    rw [stored, List.getElem_map]
  · intro keeps slot inside
    have stored := @storeFrom_inside _ chain.flags 0 slot
      (segments.map VringDesc.flags) (by rw [List.length_map]; exact inside)
    rw [extended.flags, if_pos keeps, first]
    rw [Nat.zero_add] at stored
    rw [stored, List.getElem_map]

/-- What holds of a call that finds a chain available: its return value, the
queue and the arrays, against the flattening from the published head. -/
structure TakesChain (walk : WalkContext) (deviceCaps : Nat) (vq : VqInfo)
    (head : Nat) (result : ChainResult) : Prop where
  advances : result.vq = { vq with lastAvail := (vq.lastAvail + 1) % 65536 }
  returns : ∀ n : Nat, 0 < n → (result.ret = n ↔
    ∃ segments, Flattens walk.ctx walk.memory deviceCaps vq.qsize
        (vq.desc.getD 0) head segments ∧
      (∀ segment, segment ∈ segments → segment.addr < walk.ctx.memSize) ∧
      segments.length = n ∧ n ≤ min walk.nIov vqMaxDescriptors)
  lists : 0 < result.ret → ∀ segments,
    Flattens walk.ctx walk.memory deviceCaps vq.qsize (vq.desc.getD 0) head
      segments →
    (segments.length : Int) = result.ret ∧ result.chain.Lists walk segments
  rejects : ¬0 < result.ret → result.ret = -1

theorem vqReturn_takesChain {walk : WalkContext} {deviceCaps head : Nat}
    {vq : VqInfo} {iov : Nat → IoVec} {flags : Nat → Nat} :
    TakesChain walk deviceCaps vq head
      (vqReturn { vq with lastAvail := (vq.lastAvail + 1) % 65536 } head
        (vqWalk walk deviceCaps vq.qsize (vq.desc.getD 0) vqMaxDescriptors
          head ⟨0, iov, flags, []⟩)) := by
  cases walked : vqWalk walk deviceCaps vq.qsize (vq.desc.getD 0)
      vqMaxDescriptors head ⟨0, iov, flags, []⟩ with
  | error failed =>
      have negative : ¬(0 : Int) < -1 := by decide
      refine ⟨rfl, ?_, fun positive => absurd positive negative,
        fun _ => rfl⟩
      intro n positive
      constructor
      · intro same
        have nonneg : (-1 : Int) = n := same
        omega
      · rintro ⟨segments, flattens, mapped, rfl, few⟩
        have recordable : Recordable walk.ctx walk.nIov 0 segments :=
          ⟨mapped, by omega, by omega⟩
        obtain ⟨next, complete, _⟩ :=
          @vqWalk_complete walk ⟨0, iov, flags, []⟩ deviceCaps vq.qsize
            (vq.desc.getD 0) vqMaxDescriptors head segments flattens
            recordable (by omega)
        rw [walked] at complete
        cases complete
  | ok next =>
      obtain ⟨segments, flattens, recordable, extended⟩ := vqWalk_sound walked
      have count : next.count = segments.length := by
        rw [extended.count, Nat.zero_add]
      have room := recordable.room
      have bounded := recordable.bounded
      refine ⟨rfl, ?_, ?_, ?_⟩
      · intro n positive
        constructor
        · intro same
          have length : (next.count : Int) = n := same
          exact ⟨segments, flattens, recordable.mapped, by omega, by omega⟩
        · rintro ⟨others, again, _, rfl, _⟩
          show (next.count : Int) = others.length
          rw [count, flattens.unique again]
      · intro _ others again
        rw [← flattens.unique again]
        refine ⟨?_, extended.lists rfl⟩
        show (segments.length : Int) = next.count
        rw [count]
      · intro negative
        have positive := flattens.length_pos
        have dead : ¬(0 : Int) < next.count := negative
        omega

/-- A returned chain lists the flattening from the published head. -/
theorem vqGetchain_lists {walk : WalkContext} {deviceCaps pidx : Nat}
    {vq : VqInfo} {iov : Nat → IoVec} {flags : Nat → Nat}
    (positive : 0 < (vqGetchain walk deviceCaps vq pidx iov flags).ret) :
    ∃ segments,
      Flattens walk.ctx walk.memory deviceCaps vq.qsize (vq.desc.getD 0)
          (vqGetchain walk deviceCaps vq pidx iov flags).idx segments ∧
        (vqGetchain walk deviceCaps vq pidx iov flags).ret =
          segments.length ∧
        (vqGetchain walk deviceCaps vq pidx iov flags).chain.Lists walk
          segments := by
  unfold vqGetchain at positive ⊢
  dsimp only at positive ⊢
  split at positive
  · exact absurd positive (Int.lt_irrefl 0)
  rw [if_neg ‹_›]
  split at positive
  · exact absurd positive (by decide : ¬(0 : Int) < -1)
  rw [if_neg ‹_›]
  cases walked : vqWalk walk deviceCaps vq.qsize (vq.desc.getD 0)
      vqMaxDescriptors
      (vq.availRing walk.memory (vq.lastAvail &&& (vq.qsize - 1)))
      ⟨0, iov, flags, []⟩ with
  | error failed =>
      rw [walked] at positive
      exact absurd positive (by decide : ¬(0 : Int) < -1)
  | ok next =>
      obtain ⟨segments, flattens, _, extended⟩ := vqWalk_sound walked
      have count : next.count = segments.length := by
        rw [extended.count, Nat.zero_add]
      refine ⟨segments, flattens, ?_, extended.lists rfl⟩
      show (next.count : Int) = segments.length
      rw [count]

/-- Every slot of a returned chain was translated. -/
theorem vqGetchain_mapped {walk : WalkContext} {deviceCaps pidx : Nat}
    {vq : VqInfo} {iov : Nat → IoVec} {flags : Nat → Nat}
    (positive : 0 < (vqGetchain walk deviceCaps vq pidx iov flags).ret)
    {slot : Nat}
    (inside : slot < (vqGetchain walk deviceCaps vq pidx iov flags).ret.toNat) :
    ((vqGetchain walk deviceCaps vq pidx iov flags).chain.iov slot).base ≠
      none := by
  obtain ⟨segments, _, length, lists⟩ := vqGetchain_lists positive
  rw [length, Int.toNat_natCast] at inside
  rw [lists.iov slot inside]
  exact Option.some_ne_none _

/-- The arrays as they were, from slot `n_iov` on. -/
def Chain.SameBehind (nIov : Nat) (iov : Nat → IoVec) (flags : Nat → Nat)
    (chain : Chain) : Prop :=
  ∀ slot, nIov ≤ slot → chain.iov slot = iov slot ∧
    chain.flags slot = flags slot

theorem sameBehind_kept (walk : WalkContext) (iov : Nat → IoVec)
    (flags : Nat → Nat) :
    KeptByWalk walk (Chain.SameBehind walk.nIov iov flags) := by
  refine ⟨fun _ _ _ same => same, ?_, fun _ same => same⟩
  intro chain vd room same slot behind
  have other : slot ≠ chain.count := by omega
  obtain ⟨iovSame, flagsSame⟩ := same slot behind
  constructor
  · show Function.update chain.iov chain.count _ slot = _
    rw [Function.update_of_ne other, iovSame]
  · show (if walk.keepFlags then Function.update chain.flags chain.count
      vd.flags else chain.flags) slot = _
    cases walk.keepFlags with
    | false => exact flagsSame
    | true =>
        rw [if_pos rfl, Function.update_of_ne other]
        exact flagsSame

/-- `vq_getchain` ends on every input, returns the flattening of the published
chain exactly when it has one that fits, and writes nothing behind the
arrays. -/
theorem vqGetchain_exact (walk : WalkContext) (deviceCaps : Nat)
    (vq : VqInfo) (pidx head : Nat) (iov : Nat → IoVec)
    (flags : Nat → Nat)
    (published : head =
      vq.availRing walk.memory (vq.lastAvail &&& (vq.qsize - 1))) :
    (∃ result,
      Leads (walkRound walk deviceCaps vq.qsize (vq.desc.getD 0))
        (.outer head ⟨0, iov, flags, []⟩) (.returned result) ∧
      (1 ≤ sub16 (vq.availIdx walk.memory) vq.lastAvail →
        sub16 (vq.availIdx walk.memory) vq.lastAvail ≤ vq.qsize →
        vqGetchain walk deviceCaps vq pidx iov flags =
          vqReturn { vq with lastAvail := (vq.lastAvail + 1) % 65536 } head
            result)) ∧
    (1 ≤ sub16 (vq.availIdx walk.memory) vq.lastAvail →
      sub16 (vq.availIdx walk.memory) vq.lastAvail ≤ vq.qsize →
      TakesChain walk deviceCaps vq head
        (vqGetchain walk deviceCaps vq pidx iov flags)) ∧
    Chain.SameBehind walk.nIov iov flags
      (vqGetchain walk deviceCaps vq pidx iov flags).chain := by
  have available : 1 ≤ sub16 (vq.availIdx walk.memory) vq.lastAvail →
      sub16 (vq.availIdx walk.memory) vq.lastAvail ≤ vq.qsize →
      vqGetchain walk deviceCaps vq pidx iov flags =
        vqReturn { vq with lastAvail := (vq.lastAvail + 1) % 65536 } head
          (vqWalk walk deviceCaps vq.qsize (vq.desc.getD 0) vqMaxDescriptors
            head ⟨0, iov, flags, []⟩) := by
    intro nonempty few
    unfold vqGetchain
    dsimp only
    rw [if_neg (by omega), if_neg (by omega), ← published]
    cases vqWalk walk deviceCaps vq.qsize (vq.desc.getD 0) vqMaxDescriptors
        head ⟨0, iov, flags, []⟩ with
    | error chain => rfl
    | ok chain => rfl
  refine ⟨⟨_, outer_leads (Nat.le_add_right _ _), available⟩, ?_, ?_⟩
  · intro nonempty few
    rw [available nonempty few]
    exact vqReturn_takesChain
  · exact vqGetchain_kept (sameBehind_kept walk iov flags)
      (fun _ _ => ⟨rfl, rfl⟩) deviceCaps vq pidx

/-- A direct descriptor followed by an indirect table of two: three slots. -/
def mixedMemory : Memory :=
  ((Memory.zero.store 64
    ((VringDesc.mk 256 24 vringDescFNext 1).bytes ++
      (VringDesc.mk 512 32 vringDescFIndirect 0).bytes)).store 128
    (le16 0 ++ le16 1)).store 512
    ((VringDesc.mk 1024 16 vringDescFNext 1).bytes ++
      (VringDesc.mk 2048 24 vringDescFWrite 0).bytes)

def mixedQueue : VqInfo where
  qsize := 2
  flags := vqAlloc
  lastAvail := 0
  saveUsed := 0
  msixIdx := virtioMsiNoVector
  pfn := 0
  desc := some 64
  avail := some 128
  used := some 160
  gpaDesc := (64, 0)
  gpaAvail := (128, 0)
  gpaUsed := (160, 0)
  enabled := true

def mixedWalk : WalkContext := ⟨⟨65536, 5⟩, mixedMemory, 4, true⟩

theorem vqGetchain_mixed :
    TakesChain mixedWalk (1 <<< virtioRingFIndirectDesc) mixedQueue 0
        (vqGetchain mixedWalk (1 <<< virtioRingFIndirectDesc) mixedQueue 0
          (fun _ => ⟨none, 0⟩) fun _ => 0) ∧
      (vqGetchain mixedWalk (1 <<< virtioRingFIndirectDesc) mixedQueue 0
        (fun _ => ⟨none, 0⟩) fun _ => 0).ret = 3 := by
  refine ⟨?_, by decide +kernel⟩
  have taken := vqGetchain_exact mixedWalk (1 <<< virtioRingFIndirectDesc)
    mixedQueue 0 0 (fun _ => ⟨none, 0⟩) (fun _ => 0) (by decide +kernel)
  exact taken.2.1 (by decide +kernel) (by decide +kernel)

end VirtioGpu.Virtio
