import VirtioGpu.Foundation.Slots
import VirtioGpu.Virtio.Chain

namespace VirtioGpu.Virtio

open Foundation

/-! Well-formed descriptor chains.  The flattening of a chain lists its real
descriptors, with indirect tables expanded in place; it says nothing about how
`vq_getchain` walks. -/

/-- The entries of the indirect table at `table`, from entry `next` on. -/
inductive TableFlattens (memory : Memory) (table size : Nat) :
    Nat → List VringDesc → Prop
  | last {next : Nat}
      (plain : (descAt memory table next).isIndirect = false)
      (final : (descAt memory table next).hasNext = false) :
      TableFlattens memory table size next [descAt memory table next]
  | more {next : Nat} {rest : List VringDesc}
      (plain : (descAt memory table next).isIndirect = false)
      (linked : (descAt memory table next).hasNext = true)
      (inside : (descAt memory table next).next < size)
      (tail : TableFlattens memory table size
        (descAt memory table next).next rest) :
      TableFlattens memory table size next (descAt memory table next :: rest)

/-- One entry of the queue's own table. -/
inductive EntryFlattens (ctx : Vmctx) (memory : Memory) (deviceCaps : Nat)
    (desc : VringDesc) : List VringDesc → Prop
  | direct (plain : desc.isIndirect = false) :
      EntryFlattens ctx memory deviceCaps desc [desc]
  | indirect {segments : List VringDesc}
      (marked : desc.isIndirect = true)
      (offered : deviceCaps.testBit virtioRingFIndirectDesc = true)
      (whole : desc.len % 16 = 0) (nonempty : 0 < desc.len)
      (mapped : desc.addr < ctx.memSize)
      (table : TableFlattens memory desc.addr (desc.len / 16) 0 segments) :
      EntryFlattens ctx memory deviceCaps desc segments

inductive Flattens (ctx : Vmctx) (memory : Memory)
    (deviceCaps qsize table : Nat) : Nat → List VringDesc → Prop
  | last {head : Nat} {segments : List VringDesc} (inside : head < qsize)
      (entry : EntryFlattens ctx memory deviceCaps (descAt memory table head)
        segments)
      (final : (descAt memory table head).hasNext = false) :
      Flattens ctx memory deviceCaps qsize table head segments
  | more {head : Nat} {segments rest : List VringDesc} (inside : head < qsize)
      (entry : EntryFlattens ctx memory deviceCaps (descAt memory table head)
        segments)
      (linked : (descAt memory table head).hasNext = true)
      (tail : Flattens ctx memory deviceCaps qsize table
        (descAt memory table head).next rest) :
      Flattens ctx memory deviceCaps qsize table head (segments ++ rest)

/-- The segments translate and there is room for them. -/
structure Recordable (ctx : Vmctx) (nIov count : Nat)
    (segments : List VringDesc) : Prop where
  mapped : ∀ segment, segment ∈ segments → segment.addr < ctx.memSize
  room : count + segments.length ≤ nIov
  bounded : count + segments.length ≤ vqMaxDescriptors

/-- A chain that has a flattening of recordable segments. -/
def WellFormed (ctx : Vmctx) (memory : Memory)
    (nIov deviceCaps qsize table head : Nat) : Prop :=
  ∃ segments, Flattens ctx memory deviceCaps qsize table head segments ∧
    Recordable ctx nIov 0 segments

theorem TableFlattens.length_pos {memory : Memory} {table size next : Nat}
    {segments : List VringDesc}
    (flattens : TableFlattens memory table size next segments) :
    0 < segments.length := by
  cases flattens with
  | last plain final => exact Nat.one_pos
  | more plain linked inside tail => exact Nat.succ_pos _

theorem EntryFlattens.length_pos {ctx : Vmctx} {memory : Memory}
    {deviceCaps : Nat} {desc : VringDesc} {segments : List VringDesc}
    (flattens : EntryFlattens ctx memory deviceCaps desc segments) :
    0 < segments.length := by
  cases flattens with
  | direct plain => exact Nat.one_pos
  | indirect marked offered whole nonempty mapped table =>
      exact table.length_pos

theorem Flattens.length_pos {ctx : Vmctx} {memory : Memory}
    {deviceCaps qsize table head : Nat} {segments : List VringDesc}
    (flattens : Flattens ctx memory deviceCaps qsize table head segments) :
    0 < segments.length := by
  cases flattens with
  | last inside entry final => exact entry.length_pos
  | more inside entry linked tail =>
      rw [List.length_append]
      exact Nat.add_pos_left entry.length_pos _

/-! Splitting what is recordable along the walk. -/

namespace Recordable

variable {ctx : Vmctx} {nIov count : Nat}

theorem append_iff {first second : List VringDesc} :
    Recordable ctx nIov count (first ++ second) ↔
      Recordable ctx nIov count first ∧
        Recordable ctx nIov (count + first.length) second := by
  constructor
  · rintro ⟨mapped, room, bounded⟩
    rw [List.length_append] at room bounded
    exact ⟨⟨fun segment member => mapped segment
        (List.mem_append_left second member), by omega, by omega⟩,
      ⟨fun segment member => mapped segment
        (List.mem_append_right first member), by omega, by omega⟩⟩
  · rintro ⟨⟨firstMapped, _, _⟩, ⟨secondMapped, room, bounded⟩⟩
    refine ⟨?_, ?_, ?_⟩
    · intro segment member
      rcases List.mem_append.mp member with earlier | later
      · exact firstMapped segment earlier
      · exact secondMapped segment later
    · rw [List.length_append]
      omega
    · rw [List.length_append]
      omega

theorem cons_iff {segment : VringDesc} {rest : List VringDesc} :
    Recordable ctx nIov count (segment :: rest) ↔
      Recordable ctx nIov count [segment] ∧
        Recordable ctx nIov (count + 1) rest :=
  @append_iff ctx nIov count [segment] rest

end Recordable

/-! The walk agrees with the flattening. -/

variable {walk : WalkContext} {chain next : Chain}

theorem translate_host (ctx : Vmctx) (addr len : Nat) :
    (translate ctx addr len).host =
      if addr < ctx.memSize then some addr else none := rfl

/-- The chain with one more segment recorded, before its count advances. -/
def Chain.record (walk : WalkContext) (chain : Chain) (vd : VringDesc) :
    Chain :=
  { chain.log (translate walk.ctx vd.addr vd.len) with
    iov := Function.update chain.iov chain.count ⟨some vd.addr, vd.len⟩
    flags :=
      if walk.keepFlags then Function.update chain.flags chain.count vd.flags
      else chain.flags }

/-- The arrays of `next` are those of `chain` with the segments written behind
its first `count` slots. -/
structure Chain.Extends (walk : WalkContext) (chain : Chain)
    (segments : List VringDesc) (next : Chain) : Prop where
  count : next.count = chain.count + segments.length
  iov : next.iov = storeFrom chain.iov chain.count
    (segments.map fun segment => ⟨some segment.addr, segment.len⟩)
  flags : next.flags =
    if walk.keepFlags then
      storeFrom chain.flags chain.count (segments.map VringDesc.flags)
    else
      chain.flags

theorem Chain.Extends.record (walk : WalkContext) (chain : Chain)
    (vd : VringDesc) :
    chain.Extends walk [vd] (chain.record walk vd).advance := by
  refine ⟨rfl, ?_, ?_⟩
  · rw [List.map_singleton, storeFrom_singleton]
    rfl
  · rw [List.map_singleton, storeFrom_singleton]
    rfl

theorem Chain.Extends.append {walk : WalkContext} {chain middle next : Chain}
    {first second : List VringDesc} (front : chain.Extends walk first middle)
    (back : middle.Extends walk second next) :
    chain.Extends walk (first ++ second) next := by
  refine ⟨?_, ?_, ?_⟩
  · rw [back.count, front.count, List.length_append, Nat.add_assoc]
  · rw [back.iov, front.iov, front.count, List.map_append, storeFrom_append,
      List.length_map]
  · rw [back.flags, front.flags, front.count, List.map_append,
      storeFrom_append, List.length_map]
    cases walk.keepFlags with
    | false => rfl
    | true => rfl

theorem Recordable.singleton_iff {ctx : Vmctx} {nIov count : Nat}
    {vd : VringDesc} :
    Recordable ctx nIov count [vd] ↔
      vd.addr < ctx.memSize ∧ count < nIov ∧ count < vqMaxDescriptors := by
  constructor
  · rintro ⟨mapped, room, bounded⟩
    exact ⟨mapped vd (List.mem_singleton.mpr rfl), room, bounded⟩
  · rintro ⟨mapped, room, bounded⟩
    refine ⟨?_, room, bounded⟩
    intro segment member
    cases List.mem_singleton.mp member
    exact mapped

theorem vqRecord_eq_ok_iff {vd : VringDesc} :
    vqRecord walk chain vd = .ok next ↔
      vd.addr < walk.ctx.memSize ∧ chain.count < walk.nIov ∧
        next = chain.record walk vd := by
  unfold vqRecord
  dsimp only
  rw [translate_host]
  cases Decidable.em (chain.count ≥ walk.nIov) with
  | inl full =>
      rw [if_pos full]
      exact ⟨nofun, fun both => absurd both.2.1 (Nat.not_lt.mpr full)⟩
  | inr room =>
      rw [if_neg room]
      cases Decidable.em (vd.addr < walk.ctx.memSize) with
      | inl mapped =>
          rw [if_pos mapped]
          constructor
          · intro recorded
            cases recorded
            exact ⟨mapped, Nat.not_le.mp room, rfl⟩
          · rintro ⟨_, _, rfl⟩
            rfl
      | inr unmapped =>
          rw [if_neg unmapped]
          exact ⟨nofun, fun both => absurd both.1 unmapped⟩

/-- One round of the inner loop that does not fail. -/
theorem vqIndirect_succ_eq_ok_iff {vindir nIndir rounds start : Nat}
    {desc : VringDesc} (here : desc = descAt walk.memory vindir start) :
    vqIndirect walk vindir nIndir (rounds + 1) start chain = .ok next ↔
      desc.isIndirect = false ∧
        Recordable walk.ctx walk.nIov chain.count [desc] ∧
        (desc.hasNext = false ∧ next = (chain.record walk desc).advance ∨
          desc.hasNext = true ∧ desc.next < nIndir ∧
            vqIndirect walk vindir nIndir rounds desc.next
              (chain.record walk desc).advance = .ok next) := by
  rw [vqIndirect]
  dsimp only
  rw [← here, Recordable.singleton_iff]
  cases desc.isIndirect with
  | true => simp
  | false =>
      cases recorded : vqRecord walk chain desc with
      | error failed =>
          have unrecorded : ¬(desc.addr < walk.ctx.memSize ∧
              chain.count < walk.nIov) := by
            rintro ⟨mapped, room⟩
            have taken := vqRecord_eq_ok_iff.mpr ⟨mapped, room, rfl⟩
            rw [recorded] at taken
            cases taken
          simp only [reduceCtorEq, if_false, Bool.false_eq_true, false_iff]
          rintro ⟨_, ⟨mapped, room, _⟩, _⟩
          exact unrecorded ⟨mapped, room⟩
      | ok taken =>
          obtain ⟨mapped, room, rfl⟩ := vqRecord_eq_ok_iff.mp recorded
          have count : (chain.record walk desc).advance.count =
              chain.count + 1 := rfl
          dsimp only
          rw [if_neg Bool.false_ne_true, count]
          cases Decidable.em (chain.count + 1 > vqMaxDescriptors) with
          | inl exceeded =>
              rw [if_pos exceeded]
              refine ⟨nofun, ?_⟩
              rintro ⟨_, ⟨_, _, bounded⟩, _⟩
              omega
          | inr bounded =>
              rw [if_neg bounded]
              have single : desc.addr < walk.ctx.memSize ∧
                  chain.count < walk.nIov ∧
                    chain.count < vqMaxDescriptors :=
                ⟨mapped, room, by omega⟩
              cases desc.hasNext with
              | false =>
                  simp only [Bool.not_false, if_true, Except.ok.injEq, single,
                    true_and, Bool.false_eq_true, false_and, or_false]
                  exact eq_comm
              | true =>
                  simp only [Bool.not_true, Bool.false_eq_true, if_false,
                    single, true_and, reduceCtorEq, false_and, false_or]
                  cases Decidable.em (desc.next ≥ nIndir) with
                  | inl outside =>
                      rw [if_pos outside]
                      exact ⟨nofun, fun both =>
                        absurd both.1 (Nat.not_lt.mpr outside)⟩
                  | inr inside =>
                      rw [if_neg inside]
                      exact ⟨fun walked => ⟨Nat.not_le.mp inside, walked⟩,
                        fun both => both.2⟩

theorem vqIndirect_sound {vindir nIndir rounds start : Nat}
    (walked : vqIndirect walk vindir nIndir rounds start chain = .ok next) :
    ∃ segments, TableFlattens walk.memory vindir nIndir start segments ∧
      Recordable walk.ctx walk.nIov chain.count segments ∧
        chain.Extends walk segments next := by
  induction rounds generalizing start chain with
  | zero => cases walked
  | succ rounds induction =>
      obtain ⟨plain, single, ⟨final, rfl⟩ | ⟨linked, inside, walked⟩⟩ :=
        (vqIndirect_succ_eq_ok_iff rfl).mp walked
      · exact ⟨_, .last plain final, single, .record walk chain _⟩
      · obtain ⟨rest, tail, recordable, extended⟩ := induction walked
        exact ⟨_, .more plain linked inside tail,
          Recordable.cons_iff.mpr ⟨single, recordable⟩,
          (Chain.Extends.record walk chain _).append extended⟩

theorem vqIndirect_complete {vindir nIndir rounds start : Nat}
    {segments : List VringDesc}
    (flattens : TableFlattens walk.memory vindir nIndir start segments)
    (recordable : Recordable walk.ctx walk.nIov chain.count segments)
    (enough : segments.length ≤ rounds) :
    ∃ next, vqIndirect walk vindir nIndir rounds start chain = .ok next ∧
      chain.Extends walk segments next := by
  induction flattens generalizing rounds chain with
  | last plain final =>
      cases rounds with
      | zero => cases enough
      | succ rounds =>
          exact ⟨_, (vqIndirect_succ_eq_ok_iff rfl).mpr
            ⟨plain, recordable, .inl ⟨final, rfl⟩⟩, .record walk chain _⟩
  | @more start rest plain linked inside tail induction =>
      cases rounds with
      | zero => cases enough
      | succ rounds =>
          obtain ⟨single, others⟩ := Recordable.cons_iff.mp recordable
          obtain ⟨next, walked, extended⟩ :=
            @induction (chain.record walk
              (descAt walk.memory vindir start)).advance rounds others
              (Nat.le_of_succ_le_succ enough)
          exact ⟨next, (vqIndirect_succ_eq_ok_iff rfl).mpr
            ⟨plain, single, .inr ⟨linked, inside, walked⟩⟩,
            (Chain.Extends.record walk chain _).append extended⟩

theorem and_fifteen (len : Nat) : len &&& 0xf = len % 16 :=
  Nat.and_two_pow_sub_one_eq_mod len 4

theorem badIndirectLength_iff (len : Nat) :
    (len &&& 0xf ≠ 0 ∨ len / 16 = 0) ↔ ¬(len % 16 = 0 ∧ 0 < len) := by
  rw [and_fifteen]
  omega

theorem vqDirect_sound {deviceCaps : Nat} {vdir : VringDesc}
    (bounded : chain.count < vqMaxDescriptors)
    (walked : vqDirect walk deviceCaps vdir chain = .ok next) :
    ∃ segments, EntryFlattens walk.ctx walk.memory deviceCaps vdir segments ∧
      Recordable walk.ctx walk.nIov chain.count segments ∧
        chain.Extends walk segments next := by
  unfold vqDirect at walked
  dsimp only at walked
  cases marked : vdir.isIndirect with
  | false =>
      rw [marked, if_pos (by decide)] at walked
      cases recorded : vqRecord walk chain vdir with
      | error failed =>
          rw [recorded] at walked
          cases walked
      | ok taken =>
          rw [recorded] at walked
          cases walked
          obtain ⟨mapped, room, rfl⟩ := vqRecord_eq_ok_iff.mp recorded
          exact ⟨[vdir], .direct marked,
            Recordable.singleton_iff.mpr ⟨mapped, room, bounded⟩,
            .record walk chain vdir⟩
  | true =>
      rw [marked, if_neg (by decide)] at walked
      cases offered : deviceCaps.testBit virtioRingFIndirectDesc with
      | false =>
          rw [offered, if_pos (by decide)] at walked
          cases walked
      | true =>
          rw [offered, if_neg (by decide)] at walked
          cases Decidable.em (vdir.len &&& 0xf ≠ 0 ∨ vdir.len / 16 = 0) with
          | inl bad =>
              rw [if_pos bad] at walked
              cases walked
          | inr good =>
              rw [if_neg good, translate_host] at walked
              rw [badIndirectLength_iff, not_not] at good
              cases Decidable.em (vdir.addr < walk.ctx.memSize) with
              | inr unmapped =>
                  rw [if_neg unmapped] at walked
                  cases walked
              | inl mapped =>
                  rw [if_pos mapped] at walked
                  obtain ⟨segments, table, recordable, extended⟩ :=
                    vqIndirect_sound walked
                  exact ⟨segments, .indirect marked offered good.1 good.2
                    mapped table, recordable,
                    ⟨extended.count, extended.iov, extended.flags⟩⟩

theorem vqDirect_complete {deviceCaps : Nat} {vdir : VringDesc}
    {segments : List VringDesc}
    (flattens : EntryFlattens walk.ctx walk.memory deviceCaps vdir segments)
    (recordable : Recordable walk.ctx walk.nIov chain.count segments) :
    ∃ next, vqDirect walk deviceCaps vdir chain = .ok next ∧
      chain.Extends walk segments next := by
  unfold vqDirect
  dsimp only
  cases flattens with
  | direct plain =>
      obtain ⟨mapped, room, _⟩ := Recordable.singleton_iff.mp recordable
      have recorded := vqRecord_eq_ok_iff.mpr ⟨mapped, room, rfl⟩
      rw [plain, if_pos (by decide), recorded]
      exact ⟨_, rfl, .record walk chain vdir⟩
  | indirect marked offered whole nonempty mapped table =>
      have good := mt (badIndirectLength_iff vdir.len).mp
        (not_not.mpr ⟨whole, nonempty⟩)
      rw [marked, if_neg (by decide), offered, if_neg (by decide),
        if_neg good, translate_host, if_pos mapped]
      have bounded := recordable.bounded
      obtain ⟨next, walked, extended⟩ := @vqIndirect_complete walk
        (chain.log (translate walk.ctx vdir.addr vdir.len)) vdir.addr
        (vdir.len / 16) (vqMaxDescriptors + 1) 0 segments table recordable
        (by omega)
      exact ⟨next, walked,
        ⟨extended.count, extended.iov, extended.flags⟩⟩

theorem vqWalk_sound {deviceCaps qsize table rounds head : Nat}
    (walked : vqWalk walk deviceCaps qsize table rounds head chain =
      .ok next) :
    ∃ segments, Flattens walk.ctx walk.memory deviceCaps qsize table head
        segments ∧
      Recordable walk.ctx walk.nIov chain.count segments ∧
        chain.Extends walk segments next := by
  induction rounds generalizing head chain with
  | zero => cases walked
  | succ rounds induction =>
      rw [vqWalk] at walked
      dsimp only at walked
      cases Decidable.em (chain.count ≥ vqMaxDescriptors) with
      | inl full =>
          rw [if_pos full] at walked
          cases walked
      | inr bounded =>
          rw [if_neg bounded] at walked
          cases Decidable.em (head ≥ qsize) with
          | inl outside =>
              rw [if_pos outside] at walked
              cases walked
          | inr inside =>
              rw [if_neg inside] at walked
              cases direct : vqDirect walk deviceCaps
                  (descAt walk.memory table head) chain with
              | error failed =>
                  rw [direct] at walked
                  cases walked
              | ok taken =>
                  rw [direct] at walked
                  obtain ⟨segments, entry, recordable, extended⟩ :=
                    vqDirect_sound (Nat.not_le.mp bounded) direct
                  dsimp only at walked
                  cases linked : (descAt walk.memory table head).hasNext with
                  | false =>
                      rw [linked, if_pos (by decide)] at walked
                      cases walked
                      exact ⟨segments, .last (Nat.not_le.mp inside) entry
                        linked, recordable, extended⟩
                  | true =>
                      rw [linked, if_neg (by decide)] at walked
                      obtain ⟨rest, tail, others, further⟩ := induction walked
                      rw [extended.count] at others
                      exact ⟨segments ++ rest, .more (Nat.not_le.mp inside)
                        entry linked tail,
                        Recordable.append_iff.mpr ⟨recordable, others⟩,
                        extended.append further⟩

theorem vqWalk_complete {deviceCaps qsize table rounds head : Nat}
    {segments : List VringDesc}
    (flattens : Flattens walk.ctx walk.memory deviceCaps qsize table head
      segments)
    (recordable : Recordable walk.ctx walk.nIov chain.count segments)
    (enough : segments.length ≤ rounds) :
    ∃ next, vqWalk walk deviceCaps qsize table rounds head chain = .ok next ∧
      chain.Extends walk segments next := by
  induction flattens generalizing rounds chain with
  | @last head segments inside entry final =>
      have positive := entry.length_pos
      cases rounds with
      | zero => omega
      | succ rounds =>
          obtain ⟨next, direct, extended⟩ :=
            vqDirect_complete entry recordable
          have bounded := recordable.bounded
          rw [vqWalk, if_neg (by omega), if_neg (Nat.not_le.mpr inside)]
          dsimp only
          rw [direct]
          dsimp only
          rw [final, if_pos (by decide)]
          exact ⟨next, rfl, extended⟩
  | @more head segments rest inside entry linked tail induction =>
      have positive := entry.length_pos
      rw [List.length_append] at enough
      cases rounds with
      | zero => omega
      | succ rounds =>
          obtain ⟨first, others⟩ := Recordable.append_iff.mp recordable
          obtain ⟨middle, direct, extended⟩ := vqDirect_complete entry first
          have bounded := first.bounded
          rw [← extended.count] at others
          obtain ⟨next, walked, further⟩ :=
            @induction middle rounds others (by omega)
          rw [vqWalk, if_neg (by omega), if_neg (Nat.not_le.mpr inside)]
          dsimp only
          rw [direct]
          dsimp only
          rw [linked, if_neg (by decide)]
          exact ⟨next, walked, extended.append further⟩

theorem vqGetchain_vq (walk : WalkContext) (deviceCaps : Nat) (vq : VqInfo)
    (pidx : Nat) (iov : Nat → IoVec) (flags : Nat → Nat) :
    (vqGetchain walk deviceCaps vq pidx iov flags).vq = vq ∨
      (vqGetchain walk deviceCaps vq pidx iov flags).vq =
        { vq with lastAvail := (vq.lastAvail + 1) % 65536 } := by
  unfold vqGetchain
  dsimp only
  split
  · exact .inl rfl
  · split
    · exact .inl rfl
    · split
      · exact .inr rfl
      · exact .inr rfl

/-- The chain `vq_getchain` would fetch next. -/
def VqInfo.NextWellFormed (vq : VqInfo) (walk : WalkContext)
    (deviceCaps : Nat) : Prop :=
  WellFormed walk.ctx walk.memory walk.nIov deviceCaps vq.qsize
    (vq.desc.getD 0)
    (vq.availRing walk.memory (vq.lastAvail &&& (vq.qsize - 1)))

/-- With a chain available, `vq_getchain` takes its head off the ring, and
returns a positive count exactly when the chain is well formed. -/
theorem vqGetchain_spec {deviceCaps pidx : Nat} {vq : VqInfo}
    {iov : Nat → IoVec} {flags : Nat → Nat}
    (available : sub16 (vq.availIdx walk.memory) vq.lastAvail ≠ 0)
    (few : sub16 (vq.availIdx walk.memory) vq.lastAvail ≤ vq.qsize) :
    (vqGetchain walk deviceCaps vq pidx iov flags).vq =
        { vq with lastAvail := (vq.lastAvail + 1) % 65536 } ∧
      (vqGetchain walk deviceCaps vq pidx iov flags).idx =
        vq.availRing walk.memory (vq.lastAvail &&& (vq.qsize - 1)) ∧
      (0 < (vqGetchain walk deviceCaps vq pidx iov flags).ret ↔
        vq.NextWellFormed walk deviceCaps) := by
  unfold vqGetchain VqInfo.NextWellFormed WellFormed
  dsimp only
  rw [if_neg available, if_neg (Nat.not_lt.mpr few)]
  cases walked : vqWalk walk deviceCaps vq.qsize (vq.desc.getD 0)
      vqMaxDescriptors
      (vq.availRing walk.memory (vq.lastAvail &&& (vq.qsize - 1)))
      ⟨0, iov, flags, []⟩ with
  | error failed =>
      refine ⟨rfl, rfl, ⟨fun positive => ?_, ?_⟩⟩
      · have negative : (0 : Int) < -1 := positive
        omega
      rintro ⟨segments, flattens, recordable⟩
      have bounded := recordable.bounded
      rw [Nat.zero_add] at bounded
      obtain ⟨next, complete, _⟩ :=
        @vqWalk_complete walk ⟨0, iov, flags, []⟩ deviceCaps vq.qsize
          (vq.desc.getD 0) vqMaxDescriptors _ segments flattens recordable
          bounded
      rw [walked] at complete
      cases complete
  | ok next =>
      obtain ⟨segments, flattens, recordable, extended⟩ := vqWalk_sound walked
      refine ⟨rfl, rfl,
        ⟨fun _ => ⟨segments, flattens, recordable⟩, fun _ => ?_⟩⟩
      have positive := flattens.length_pos
      show (0 : Int) < next.count
      rw [extended.count]
      omega

/-- With a chain available, `vq_getchain` does not return 0. -/
theorem vqGetchain_ret_pos {deviceCaps pidx : Nat} {vq : VqInfo}
    {iov : Nat → IoVec} {flags : Nat → Nat}
    (available : sub16 (vq.availIdx walk.memory) vq.lastAvail ≠ 0)
    (accepted : (vqGetchain walk deviceCaps vq pidx iov flags).ret ≠ -1) :
    0 < (vqGetchain walk deviceCaps vq pidx iov flags).ret := by
  unfold vqGetchain at accepted ⊢
  dsimp only at accepted ⊢
  rw [if_neg available] at accepted ⊢
  split at accepted
  · exact absurd rfl accepted
  · rw [if_neg ‹_›]
    cases walked : vqWalk walk deviceCaps vq.qsize (vq.desc.getD 0)
        vqMaxDescriptors
        (vq.availRing walk.memory (vq.lastAvail &&& (vq.qsize - 1)))
        ⟨0, iov, flags, []⟩ with
    | error failed =>
        rw [walked] at accepted
        exact absurd rfl accepted
    | ok next =>
        obtain ⟨segments, flattens, _, extended⟩ := vqWalk_sound walked
        have positive := flattens.length_pos
        show (0 : Int) < next.count
        rw [extended.count]
        omega

end VirtioGpu.Virtio
