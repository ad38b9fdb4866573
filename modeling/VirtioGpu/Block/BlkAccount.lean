import VirtioGpu.Block.BlkSystem
import VirtioGpu.Block.Occupancy
import VirtioGpu.Virtio.Flatten

namespace VirtioGpu.Block

open Foundation
open Virtio
open Function

/-! Every chain the device has taken is given back once or in somebody's
hands. -/

namespace Notifier

/-- There is a chain to fetch. -/
def hasMore : Notifier → Bool
  | .marking | .fetching => true
  | _ => false

/-- The driver is asked to notify. -/
def quiet : Notifier → Bool
  | .idle | .entered | .retesting => true
  | _ => false

def rests : Notifier → Bool
  | .idle => true
  | _ => false

end Notifier

structure BlkLayout (start : VqInfo) : Prop where
  ready : vqRingReady start = true
  shaped : start.Shaped
  few : start.qsize ≤ virtioBlkRingsz

structure BlkState.Invariant (start : VqInfo) (usedBase : Nat)
    (state : BlkState) : Prop where
  vq : ∃ saveUsed, state.vq = { start with
    lastAvail := (start.lastAvail + state.taken) % 65536
    saveUsed := saveUsed }
  sound : state.turnover.Sound start.qsize
  small : ∀ head ∈ state.published, head < start.qsize
  rings : RingsHold start start.lastAvail usedBase state.fifo state.memory
  kept : state.block.Kept
  loaded : state.block.queues.Loaded
  more : state.notifier.hasMore = true →
    state.taken < state.published.length
  quiet : state.notifier.quiet = true →
    usedFlags start state.memory &&& vringUsedFNoNotify = 0
  awake : state.notifier.rests = true → state.kicked = false →
    state.owing = false → state.taken = state.published.length

theorem BlkOpens.invariant {start : VqInfo} {usedBase : Nat}
    {state : BlkState} (opens : BlkOpens start usedBase state) :
    state.Invariant start usedBase := by
  have held : state.held = 0 := by
    simp only [BlkState.held, opens.notifier, opens.block, opens.finishing]
    rfl
  constructor
  · refine ⟨start.saveUsed, ?_⟩
    rw [opens.vq, opens.taken, Nat.add_zero,
      Nat.mod_eq_of_lt opens.lastAvail]
  · constructor
    · simp only [BlkState.turnover, held, opens.returned, opens.published,
        opens.taken, List.take_nil]
      rfl
    · exact Nat.le_of_eq (by simp [BlkState.turnover, opens.taken,
        opens.published])
    · simp [BlkState.turnover, opens.published]
    · simp [Turnover.outstanding, BlkState.turnover, held, opens.published]
  · rw [opens.published]
    intro head member
    cases member
  · constructor
    · simp [BlkState.fifo, opens.published, opens.availIdx,
        Nat.mod_eq_of_lt opens.lastAvail]
    · intro position head _ found
      rw [BlkState.fifo, opens.published] at found
      cases found
    · rw [opens.usedIdx, BlkState.fifo, opens.returned]
      exact (Nat.mod_eq_of_lt (opens.usedIdx ▸ Memory.load16_lt _ _)).symm
    · intro position head _ found
      rw [BlkState.fifo, opens.returned] at found
      cases found
  · rw [opens.block]
    exact initial_kept
  · rw [opens.block]
    exact initial_loaded
  · rw [opens.notifier]
    exact nofun
  · exact fun _ => opens.notify
  · intro _ _ _
    rw [opens.taken, opens.published]
    rfl

section Flags

variable {vq : VqInfo} {memory : Memory}

theorem usedFlags_agree {first second : Memory}
    (agree : Memory.AgreeOn vq.InUsed first second) :
    usedFlags vq first = usedFlags vq second := by
  apply Memory.load16_congr
  intro index bound
  apply agree
  unfold VqInfo.InUsed usedRingSize
  omega

theorem usedFlags_relchain (vq : VqInfo) (memory : Memory)
    (idx iolen : Nat) :
    usedFlags vq (vqRelchain vq memory idx iolen) = usedFlags vq memory := by
  unfold usedFlags vqRelchain VqInfo.usedElem
  rw [Memory.load16_store_outside _ (by rw [length_le16]; omega),
    Memory.load16_store_outside _ (by rw [length_le32]; omega),
    Memory.load16_store_outside _ (by rw [length_le32]; omega)]

theorem vqClearUsedRingFlags_clear (vq : VqInfo) (memory : Memory) :
    usedFlags vq (vqClearUsedRingFlags vq memory) &&& vringUsedFNoNotify =
      0 := by
  have bounded : usedFlags vq memory < 65536 := memory.load16_lt _
  unfold vqClearUsedRingFlags
  rw [usedFlags, Memory.load16_store_le16]
  have small : usedFlags vq memory &&& (65535 - vringUsedFNoNotify) <
      65536 := Nat.lt_of_le_of_lt Nat.and_le_left bounded
  rw [Nat.mod_eq_of_lt small, Nat.and_assoc]
  exact Nat.and_zero _

end Flags

section Steps

variable {device : BlkDevice} {start : VqInfo} {usedBase : Nat}
  {state : BlkState} (layout : BlkLayout start)
  (invariant : state.Invariant start usedBase)

include layout invariant

theorem BlkState.Invariant.hasDescs_iff :
    vqHasDescs state.vq state.memory = true ↔
      state.taken < state.published.length := by
  obtain ⟨saveUsed, same⟩ := invariant.vq
  have small := layout.shaped.qsize_lt
  have given := invariant.sound.given
  have room := invariant.sound.room
  have available := invariant.sound.available
  have index := invariant.rings.availIdx
  have ahead := invariant.rings.ahead_of_room layout.shaped given available
    room
  simp only [BlkState.turnover] at given room available
  simp only [BlkState.fifo] at index ahead
  rw [same]
  unfold vqHasDescs
  simp only [Bool.and_eq_true, Bool.not_eq_true', decide_eq_true_eq,
    decide_eq_false_iff_not]
  constructor
  · rintro ⟨⟨_, apart⟩, _⟩
    have away : (start.lastAvail + state.taken) % 65536 ≠
        start.availIdx state.memory := apart
    rw [index] at away
    rcases Nat.lt_or_eq_of_le available with less | equal
    · exact less
    · rw [equal] at away
      exact absurd rfl away
  · intro less
    refine ⟨⟨layout.ready, ?_⟩, ?_⟩
    · show (start.lastAvail + state.taken) % 65536 ≠
        start.availIdx state.memory
      rw [index]
      omega
    · show ¬sub16 (start.availIdx state.memory)
        ((start.lastAvail + state.taken) % 65536) > start.qsize
      rw [ahead]
      omega

/-- The chain that is fetched is the oldest one not yet taken. -/
theorem BlkState.Invariant.fetched (more : state.notifier.hasMore = true)
    (stack : BlkStack) :
    (blkFetch device state stack).vq = { state.vq with
        lastAvail := (start.lastAvail + (state.taken + 1)) % 65536 } ∧
      (blkFetch device state stack).vq.lastAvail ≠ state.vq.lastAvail ∧
      state.published[state.taken]? =
        some (blkFetch device state stack).idx := by
  obtain ⟨saveUsed, same⟩ := invariant.vq
  have less := invariant.more more
  have given := invariant.sound.given
  have room := invariant.sound.room
  have available := invariant.sound.available
  have ahead := invariant.rings.ahead_of_room layout.shaped given available
    room
  simp only [BlkState.turnover] at given room available
  simp only [BlkState.fifo] at ahead
  have last : state.vq.lastAvail =
      (start.lastAvail + state.taken) % 65536 := by rw [same]
  have waiting : sub16 (state.vq.availIdx state.memory)
      state.vq.lastAvail = state.published.length - state.taken := by
    rw [last, ← ahead, same]
    rfl
  have size : state.vq.qsize = start.qsize := by rw [same]
  obtain ⟨vq, idx, _⟩ := @vqGetchain_spec
    ⟨device.ctx, state.memory, blockifIovMax + 2, true⟩ device.deviceCaps
    state.vq.qsize state.vq stack.iov stack.flags
    (by
      show sub16 (state.vq.availIdx state.memory) _ ≠ 0
      rw [waiting]
      omega)
    (by
      show sub16 (state.vq.availIdx state.memory) _ ≤ _
      rw [waiting, size]
      omega)
  have advanced : (state.vq.lastAvail + 1) % 65536 =
      (start.lastAvail + (state.taken + 1)) % 65536 := by
    rw [last, Nat.mod_add_mod, Nat.add_assoc]
  refine ⟨?_, ?_, ?_⟩
  · rw [← advanced]
    exact vq
  · rw [show (blkFetch device state stack).vq = _ from vq]
    dsimp only
    omega
  · obtain ⟨head, found⟩ : ∃ head,
        state.published[state.taken]? = some head :=
      ⟨_, List.getElem?_eq_getElem less⟩
    have entry := invariant.rings.entries state.taken head given found
    rw [found, show (blkFetch device state stack).idx = _ from idx, last,
      size, layout.shaped.mask, same]
    exact congrArg some entry.symm

end Steps

/-! One lemma for each kind of step. -/

section Kinds

variable {start : VqInfo} {usedBase : Nat} {state : BlkState}
  (invariant : state.Invariant start usedBase)

include invariant

/-- The notified thread goes on with the same chain. -/
theorem BlkState.Invariant.move {notifier : Notifier}
    (hand : notifier.hand = state.notifier.hand)
    (more : notifier.hasMore = true → state.taken < state.published.length)
    (quiet : notifier.quiet = true →
      usedFlags start state.memory &&& vringUsedFNoNotify = 0)
    (awake : notifier.rests = true → state.kicked = false →
      state.owing = false → state.taken = state.published.length) :
    BlkState.Invariant start usedBase
      { state with notifier := notifier } := by
  have same : BlkState.turnover { state with notifier := notifier } =
      state.turnover := by
    simp only [BlkState.turnover, BlkState.held, hand]
  exact { invariant with
    sound := same ▸ invariant.sound
    more := more
    quiet := quiet
    awake := awake }

/-- A step between two places where nothing is said of the queue. -/
theorem BlkState.Invariant.proceed {notifier : Notifier}
    (hand : notifier.hand = state.notifier.hand)
    (busy : notifier.hasMore = false ∧ notifier.quiet = false ∧
      notifier.rests = false) :
    BlkState.Invariant start usedBase
      { state with notifier := notifier } := by
  apply invariant.move hand
  · rw [busy.1]
    exact nofun
  · rw [busy.2.1]
    exact nofun
  · rw [busy.2.2]
    exact nofun

/-- A store away from the rings. -/
theorem BlkState.Invariant.store (layout : BlkLayout start) {memory : Memory}
    (avail : Memory.AgreeOn start.InAvail memory state.memory)
    (used : Memory.AgreeOn start.InUsed memory state.memory) :
    BlkState.Invariant start usedBase { state with memory := memory } :=
  { invariant with
    rings := invariant.rings.frame layout.shaped avail used
    quiet := fun asked => by
      rw [usedFlags_agree used]
      exact invariant.quiet asked }

theorem BlkState.Invariant.storeBytes (layout : BlkLayout start)
    {address : Nat} {bytes : List UInt8}
    (apart : start.ApartFrom address bytes.length) :
    BlkState.Invariant start usedBase
      { state with memory := state.memory.store address bytes } := by
  obtain ⟨avail, used⟩ := @agreeOn_store start state.memory address bytes
    apart
  exact invariant.store layout avail used

/-- The threads of the context go on, with the same requests. -/
theorem BlkState.Invariant.among {block : BlockState}
    (accepted : block.accepted = state.block.accepted) (kept : block.Kept)
    (loaded : block.queues.Loaded) :
    BlkState.Invariant start usedBase { state with block := block } := by
  have same : BlkState.turnover { state with block := block } =
      state.turnover := by
    simp only [BlkState.turnover, BlkState.held, accepted]
  exact { invariant with
    sound := same ▸ invariant.sound
    kept := kept
    loaded := loaded }

omit invariant in
theorem vqEndchains_vq (vq : VqInfo) (memory : Memory) (negotiatedCaps : Nat)
    (usedAllAvail : Bool) :
    ∃ saveUsed, (vqEndchains vq memory negotiatedCaps usedAllAvail).1 =
      { vq with saveUsed := saveUsed } := by
  unfold vqEndchains
  split
  · exact ⟨vq.saveUsed, rfl⟩
  · exact ⟨_, rfl⟩

theorem BlkState.Invariant.published_of_held {head : Nat}
    (held : head ∈ state.held) : head ∈ state.published := by
  have account := invariant.sound.account
  have member : head ∈ (↑(state.published.take state.taken) :
      Multiset Nat) := by
    rw [← show _ = (↑(state.published.take state.taken) : Multiset Nat) from
      account]
    exact Multiset.mem_add.mpr (.inr held)
  exact List.mem_of_mem_take (Multiset.mem_coe.mp member)

/-- A chain in somebody's hands is given back. -/
theorem BlkState.Invariant.kept_by_giveBack (layout : BlkLayout start)
    {after : BlkState} {idx : Nat}
    (held : state.held = idx ::ₘ after.held)
    (vq : ∃ saveUsed, after.vq = { state.vq with saveUsed := saveUsed })
    (memory : after.memory = vqRelchain state.vq state.memory idx 1)
    (block : after.block = state.block)
    (published : after.published = state.published)
    (taken : after.taken = state.taken)
    (returned : after.returned = state.returned ++ [idx])
    (kicked : after.kicked = state.kicked)
    (owing : after.owing = state.owing)
    (notifier : after.notifier = state.notifier ∨
      after.notifier = .testing) :
    after.Invariant start usedBase := by
  obtain ⟨before, same⟩ := invariant.vq
  obtain ⟨saveUsed, saved⟩ := vq
  have member : idx ∈ state.held := by
    rw [held]
    exact Multiset.mem_cons_self idx _
  have small : idx < 65536 :=
    Nat.lt_trans (invariant.small idx (invariant.published_of_held member))
      layout.shaped.qsize_lt
  have relchain : after.memory = vqRelchain start state.memory idx 1 := by
    rw [memory, same]
    rfl
  have elsewhere : ∀ {place : Notifier → Bool}, place .testing = false →
      place after.notifier = true → place state.notifier = true := by
    intro place apart here
    cases notifier with
    | inl stays => rwa [stays] at here
    | inr moved =>
        rw [moved, apart] at here
        cases here
  refine ⟨⟨saveUsed, ?_⟩, ?_, ?_, ?_, ?_, ?_, ?_, ?_, ?_⟩
  · rw [saved, same, taken]
  · have step : Turnover.Step start.qsize state.turnover after.turnover := by
      have next : after.turnover = { state.turnover with
          held := after.held
          returned := state.turnover.returned ++ [idx] } := by
        simp only [BlkState.turnover, published, taken, returned]
      rw [next]
      exact .giveBack held
    exact invariant.sound.step step
  · rw [published]
    exact invariant.small
  · have next : after.fifo = { state.fifo with
        released := state.fifo.released ++ [idx] } := by
      simp only [BlkState.fifo, published, taken, returned]
    rw [next, relchain]
    exact invariant.rings.giveBack layout.shaped small
  · rw [block]
    exact invariant.kept
  · rw [block]
    exact invariant.loaded
  · intro here
    rw [taken, published]
    exact invariant.more (elsewhere rfl here)
  · intro here
    rw [relchain, usedFlags_relchain]
    exact invariant.quiet (elsewhere rfl here)
  · intro here
    rw [kicked, owing, taken, published]
    exact invariant.awake (elsewhere rfl here)

end Kinds

/-! The thread that was notified. -/

theorem BlkVerdict.hand_next (locals : BlkLocals) (verdict : BlkVerdict) :
    (verdict.next locals).hand = some locals.idx := by
  cases verdict <;> rfl

theorem BlkVerdict.busy_next (locals : BlkLocals) (verdict : BlkVerdict) :
    (verdict.next locals).hasMore = false ∧
      (verdict.next locals).quiet = false ∧
      (verdict.next locals).rests = false := by
  cases verdict <;> exact ⟨rfl, rfl, rfl⟩

section Notified

variable {device : BlkDevice} {start : VqInfo} {usedBase : Nat}
  {state after : BlkState} (layout : BlkLayout start)
  (invariant : state.Invariant start usedBase)

include layout invariant

theorem BlkState.Invariant.kept_by_fetch (here : state.notifier = .fetching)
    (stack : BlkStack) :
    (fetchAct device state stack).Invariant start usedBase := by
  obtain ⟨saveUsed, same⟩ := invariant.vq
  obtain ⟨vq, moved, oldest⟩ := @BlkState.Invariant.fetched device start
    usedBase state layout invariant (by rw [here]; rfl) stack
  have busy : (fetchAct device state stack).notifier.hand =
        some (blkFetch device state stack).idx ∧
      (fetchAct device state stack).notifier.hasMore = false ∧
      (fetchAct device state stack).notifier.quiet = false ∧
      (fetchAct device state stack).notifier.rests = false := by
    unfold fetchAct
    dsimp only
    split <;> exact ⟨rfl, rfl, rfl, rfl⟩
  have taken : (fetchAct device state stack).taken = state.taken + 1 :=
    if_neg moved
  have held : (fetchAct device state stack).held =
      (blkFetch device state stack).idx ::ₘ state.held := by
    simp only [BlkState.held, busy.1, here]
    simp [fetchAct, Notifier.hand, ← Multiset.singleton_add, add_assoc]
  refine ⟨⟨saveUsed, ?_⟩, ?_, invariant.small, ?_, invariant.kept,
    invariant.loaded, ?_, ?_, ?_⟩
  · rw [taken]
    refine Eq.trans vq ?_
    rw [same]
  · have next : (fetchAct device state stack).turnover =
        { state.turnover with
          taken := state.turnover.taken + 1
          held := (blkFetch device state stack).idx ::ₘ
            state.turnover.held } := by
      simp only [BlkState.turnover, held, taken]
      rfl
    rw [next]
    exact invariant.sound.step (.take oldest)
  · obtain ⟨availIdx, entries, usedIdx, stored⟩ := invariant.rings
    exact ⟨availIdx, entries, usedIdx, stored⟩
  · rw [busy.2.1]
    exact nofun
  · rw [busy.2.2.1]
    exact nofun
  · rw [busy.2.2.2]
    exact nofun

/-- There is room for the request in the notified thread's hand. -/
theorem BlkState.Invariant.room {idx : Nat}
    (hand : state.notifier.hand = some idx) :
    idx ∉ state.block.accepted ∧ state.block.queues.freeq ≠ [] := by
  have held : state.held = idx ::ₘ (state.block.accepted.val +
      ↑(state.finishing.map Prod.snd)) := by
    simp [BlkState.held, hand, ← Multiset.singleton_add, add_assoc]
  have distinct : state.held.Nodup := invariant.sound.held_nodup
  have bound : state.held.card ≤ start.qsize := invariant.sound.held_le
  rw [held] at distinct bound
  constructor
  · intro accepted
    have apart := (Multiset.nodup_cons.mp distinct).1
    exact apart (Multiset.mem_add.mpr (.inl accepted))
  · apply invariant.kept.room invariant.loaded
    have few := layout.few
    rw [Multiset.card_cons, Multiset.card_add] at bound
    unfold virtioBlkRingsz at few
    unfold blockifMaxreq
    show state.block.accepted.val.card + _ < _
    omega

theorem BlkState.Invariant.kept_by_submit {idx woken : Nat} {op : Blockop}
    {block : BlockState} (here : state.notifier = .submitting idx op)
    (acted : requestAct state.block ((state.ios idx).req idx) op woken =
      some block) :
    BlkState.Invariant start usedBase
      { state with block := block, notifier := .testing } := by
  have hand : state.notifier.hand = some idx := by
    rw [here]
    rfl
  obtain ⟨fresh, room⟩ := invariant.room layout hand
  have kept := invariant.kept.request acted
  have loaded := invariant.loaded.request invariant.kept room acted
  obtain ⟨be, threads, _, _, rfl⟩ := requestAct_cases invariant.kept room
    acted
  have same : BlkState.turnover { state with
      block := ⟨state.block.queues.enlist ((state.ios idx).req idx) op be,
        threads, insert idx state.block.accepted⟩
      notifier := .testing } = state.turnover := by
    simp only [BlkState.turnover, BlkState.held, here,
      Finset.insert_val_of_notMem fresh]
    simp [Notifier.hand, ← Multiset.singleton_add]
  exact { invariant with
    sound := same ▸ invariant.sound
    kept := kept
    loaded := loaded
    more := nofun
    quiet := nofun
    awake := nofun }

theorem BlkState.Invariant.kept_by_return {idx : Nat}
    (here : state.notifier = .returning idx) :
    BlkState.Invariant start usedBase
      { returnAct device state idx with notifier := .testing } := by
  have held : state.held = idx ::ₘ BlkState.held
      { returnAct device state idx with notifier := .testing } := by
    simp only [BlkState.held, here]
    simp [returnAct, Notifier.hand, ← Multiset.singleton_add, add_assoc]
  exact invariant.kept_by_giveBack layout held (vqEndchains_vq _ _ _ _) rfl rfl
    rfl rfl rfl rfl rfl (.inr rfl)

theorem BlkState.Invariant.kept_by_abort {idx : Nat}
    (here : state.notifier = .aborting idx) :
    (abortAct device state idx).Invariant start usedBase := by
  obtain ⟨saveUsed, same⟩ := invariant.vq
  have member : idx ∈ state.held := by
    simp [BlkState.held, here, Notifier.hand]
  have inside : idx < state.vq.qsize := by
    rw [same]
    exact invariant.small idx (invariant.published_of_held member)
  have held : state.held = idx ::ₘ
      (abortAct device state idx).held := by
    simp only [BlkState.held, here]
    simp [abortAct, Notifier.hand, ← Multiset.singleton_add, add_assoc]
  refine invariant.kept_by_giveBack layout held ?_ ?_ rfl rfl rfl
    (if_pos inside) rfl rfl (.inr rfl)
  · simp only [abortAct, virtioBlkAbort, if_pos inside]
    exact vqEndchains_vq _ _ _ _
  · simp only [abortAct, virtioBlkAbort, if_pos inside]

/-- The flags of the used ring are the device's. -/
theorem BlkState.Invariant.storeFlags {value : Nat} {notifier : Notifier}
    (hand : notifier.hand = state.notifier.hand)
    (more : notifier.hasMore = true → state.taken < state.published.length)
    (quiet : notifier.quiet = true →
      usedFlags start (state.memory.store (state.vq.used.getD 0)
        (le16 value)) &&& vringUsedFNoNotify = 0)
    (away : notifier.rests = false) :
    BlkState.Invariant start usedBase { state with
      memory := state.memory.store (state.vq.used.getD 0) (le16 value)
      notifier := notifier } := by
  obtain ⟨saveUsed, same⟩ := invariant.vq
  have turnover : BlkState.turnover { state with
      memory := state.memory.store (state.vq.used.getD 0) (le16 value)
      notifier := notifier } = state.turnover := by
    simp only [BlkState.turnover, BlkState.held, hand]
  have base : state.vq.used = start.used := by rw [same]
  exact { invariant with
    sound := turnover ▸ invariant.sound
    rings := by
      dsimp only
      rw [base]
      exact invariant.rings.storeFlags layout.shaped value
    more := more
    quiet := quiet
    awake := fun rests => by
      rw [away] at rests
      cases rests }

omit layout invariant in
theorem length_strncpy (source : List UInt8) (count : Nat) :
    (strncpy source count).length = count := by
  unfold strncpy
  rw [List.length_append, List.length_replicate, List.length_take]
  omega

theorem BlkState.Invariant.kept_by_identify {locals : BlkLocals}
    (here : state.notifier = .identifying locals)
    (apart : start.ApartFrom (locals.base 1) (locals.len 1)) :
    BlkState.Invariant start usedBase { state with
      memory := virtioBlkIdent device.blk state.memory locals
      notifier := .answering locals.idx 0 } := by
  have first := @BlkState.Invariant.storeBytes start usedBase state invariant
    layout (locals.base 1) (List.replicate (locals.len 1) 0)
    (by rwa [List.length_replicate])
  have shorter : start.ApartFrom (locals.base 1) (strncpy device.blk.ident
      (min (locals.len 1) device.blk.ident.length)).length :=
    apart.shrink (by
      rw [length_strncpy]
      exact Nat.min_le_left _ _)
  have second := first.storeBytes layout shorter
  apply second.proceed _ ⟨rfl, rfl, rfl⟩
  show _ = state.notifier.hand
  rw [here]
  rfl

/-- A test whether the available ring is empty. -/
theorem BlkState.Invariant.kept_by_test (filled empty : Notifier)
    (idle : state.notifier.hand = none) (handFilled : filled.hand = none)
    (handEmpty : empty.hand = none) (quietFilled : filled.quiet = false)
    (restsFilled : filled.rests = false) (moreEmpty : empty.hasMore = false)
    (quietEmpty : empty.quiet = true →
      usedFlags start state.memory &&& vringUsedFNoNotify = 0)
    (acted : (if vqHasDescs state.vq state.memory then
        some { state with notifier := filled }
      else some { state with notifier := empty }) = some after) :
    after.Invariant start usedBase := by
  have tested := invariant.hasDescs_iff layout
  split at acted
  · rename_i found
    cases acted
    apply invariant.move (handFilled.trans idle.symm)
    · exact fun _ => tested.mp found
    · rw [quietFilled]
      exact nofun
    · rw [restsFilled]
      exact nofun
  · rename_i nothing
    cases acted
    apply invariant.move (handEmpty.trans idle.symm)
    · rw [moreEmpty]
      exact nofun
    · exact quietEmpty
    · intro _ _ _
      have available : state.taken ≤ state.published.length :=
        invariant.sound.available
      have notLess : ¬state.taken < state.published.length :=
        fun less => nothing (tested.mpr less)
      omega

theorem BlkState.Invariant.kept_by_notify {stack : BlkStack} {woken : Nat}
    (behaves : BlkBehaves start state (.notify stack woken))
    (acted : notifyAct device state stack woken = some after) :
    after.Invariant start usedBase := by
  have quiet := invariant.quiet
  have more := invariant.more
  unfold BlkBehaves at behaves
  unfold notifyAct at acted
  cases here : state.notifier with
  | idle =>
      rw [here] at acted quiet
      obtain ⟨_, done⟩ := Option.ite_none_right_eq_some.mp acted
      cases done
      have entered := @BlkState.Invariant.move start usedBase state invariant
        .entered (by rw [here]; rfl) nofun quiet nofun
      exact { entered with awake := nofun }
  | entered =>
      rw [here] at acted quiet
      exact invariant.kept_by_test layout .marking .idle (by rw [here]; rfl)
        rfl rfl rfl rfl rfl quiet acted
  | marking =>
      rw [here] at acted more
      cases acted
      exact invariant.storeFlags layout (by rw [here]; rfl) more nofun rfl
  | fetching =>
      rw [here] at acted
      cases acted
      exact invariant.kept_by_fetch layout here stack
  | parsing locals =>
      rw [here] at acted
      cases acted
      have next := @BlkState.Invariant.proceed start usedBase state invariant
        ((virtioBlkParse device.blk (state.ios locals.idx) state.memory
          locals).2.next locals)
        (by
          rw [here]
          exact BlkVerdict.hand_next _ _)
        (BlkVerdict.busy_next _ _)
      exact { next with sound := next.sound }
  | checking locals op =>
      rw [here] at acted
      cases acted
      refine invariant.proceed ?_ (BlkVerdict.busy_next _ _)
      rw [here]
      exact BlkVerdict.hand_next _ _
  | identifying locals =>
      rw [here] at acted behaves
      cases acted
      exact invariant.kept_by_identify layout here behaves
  | submitting idx op =>
      rw [here] at acted
      obtain ⟨block, submitted, rfl⟩ := Option.map_eq_some_iff.mp acted
      exact invariant.kept_by_submit layout here submitted
  | answering idx err =>
      rw [here] at acted behaves
      cases acted
      have stored := @BlkState.Invariant.storeBytes start usedBase state
        invariant layout (state.ios idx).status [virtioBlkStatus err] behaves
      apply stored.proceed _ ⟨rfl, rfl, rfl⟩
      show _ = state.notifier.hand
      rw [here]
      rfl
  | returning idx =>
      rw [here] at acted
      cases acted
      exact invariant.kept_by_return layout here
  | aborting idx =>
      rw [here] at acted
      cases acted
      exact invariant.kept_by_abort layout here
  | testing =>
      rw [here] at acted
      exact invariant.kept_by_test layout .fetching .clearing
        (by rw [here]; rfl) rfl rfl rfl rfl rfl nofun acted
  | clearing =>
      rw [here] at acted
      cases acted
      obtain ⟨saveUsed, same⟩ := invariant.vq
      refine invariant.storeFlags layout (by rw [here]; rfl) nofun
        (fun _ => ?_) rfl
      have cleared := vqClearUsedRingFlags_clear state.vq state.memory
      rw [same] at cleared ⊢
      exact cleared
  | retesting =>
      rw [here] at acted quiet
      exact invariant.kept_by_test layout .marking .idle (by rw [here]; rfl)
        rfl rfl rfl rfl rfl quiet acted

/-! The driver and the threads of the context. -/

theorem BlkState.Invariant.kept_by_publish {heads : List Nat} {memory : Memory}
    (behaves : BlkBehaves start state (.publish heads memory)) :
    BlkState.Invariant start usedBase { state with
      memory := memory
      owing := state.owing || !heads.isEmpty
      published := state.published ++ heads } := by
  obtain ⟨publishes, distinct, small⟩ := behaves
  constructor
  · exact invariant.vq
  · exact invariant.sound.step (.publish publishes.room distinct)
  · intro head member
    rcases List.mem_append.mp member with earlier | now
    · exact invariant.small head earlier
    · exact small head now
  · exact invariant.rings.publish layout.shaped publishes
  · exact invariant.kept
  · exact invariant.loaded
  · intro here
    rw [List.length_append]
    exact Nat.lt_add_right _ (invariant.more here)
  · intro here
    rw [usedFlags_agree publishes.used]
    exact invariant.quiet here
  · intro here unkicked settled
    obtain ⟨looked, nothing⟩ := Bool.or_eq_false_iff.mp settled
    have unpublished : heads = [] := by
      simpa using nothing
    rw [unpublished, List.append_nil]
    exact invariant.awake here unkicked looked

omit layout in
theorem BlkState.Invariant.kept_by_look :
    (lookAct state).Invariant start usedBase := by
  obtain ⟨saveUsed, same⟩ := invariant.vq
  refine { invariant with sound := invariant.sound, awake := ?_ }
  intro here unkicked _
  obtain ⟨_, suppressed⟩ := Bool.or_eq_false_iff.mp unkicked
  have asked : state.notifier.quiet = true := by
    have rests : state.notifier.rests = true := here
    cases place : state.notifier with
    | idle => rfl
    | entered | marking | fetching | testing | clearing | retesting =>
        rw [place] at rests
        cases rests
    | parsing _ | identifying _ | returning _ | aborting _ =>
        rw [place] at rests
        cases rests
    | checking _ _ | submitting _ _ | answering _ _ =>
        rw [place] at rests
        cases rests
  have clear := invariant.quiet asked
  rw [same] at suppressed
  exact absurd clear (of_decide_eq_false suppressed)

theorem BlkState.Invariant.kept_by_callback {t : Nat} {err : Int}
    {memory : Memory}
    (behaves : BlkBehaves start state (.callback t err memory))
    (acted : doneAct state t err memory = some after) :
    after.Invariant start usedBase := by
  obtain ⟨avail, used, apart⟩ := behaves
  obtain ⟨head, serves, acted⟩ := Option.bind_eq_some_iff.mp acted
  obtain ⟨block, called, rfl⟩ := Option.map_eq_some_iff.mp acted
  have kept := invariant.kept.callback called
  have acts : blockAct state.block (.callback t) = some block := called
  have loaded := invariant.loaded.step invariant.kept rfl acts
  obtain ⟨be, here, rfl⟩ := callbackAct_cases called
  have busy := (invariant.kept.inHand here rfl).1
  unfold BlockState.serves at serves
  rw [here] at serves
  obtain ⟨req, request, rfl⟩ := Option.map_eq_some_iff.mp serves
  have holds : (state.block.queues.reqs be).holds = some req.address := by
    simp [BlockifElem.holds, busy, request]
  have member : req.address ∈ state.block.accepted :=
    (invariant.kept.custody.mem_iff _).mpr ⟨be, holds⟩
  have forgot : (state.block.queues.reqs be).forget state.block.accepted =
      state.block.accepted.erase req.address := by
    simp [BlockifElem.forget, request]
  have held : state.block.accepted.val =
      req.address ::ₘ (state.block.accepted.erase req.address).val :=
    (Multiset.cons_erase member).symm
  have moved := @BlkState.Invariant.store start usedBase state invariant
    layout memory avail used
  have clear : start.ApartFrom (state.ios req.address).status
      [virtioBlkStatus err].length :=
    apart req.address (by simp [BlockState.serves, here, request])
  have stored := moved.storeBytes layout clear
  have same : BlkState.turnover { state with
      block := ⟨state.block.queues.markDone be,
        state.block.threads.set t (.completing be),
        state.block.accepted.erase req.address⟩
      memory := storeStatus state req.address err memory
      finishing := (t, req.address) :: state.finishing } =
        state.turnover := by
    simp only [BlkState.turnover, BlkState.held]
    rw [held, List.map_cons, ← Multiset.cons_coe, Multiset.add_cons,
      Multiset.add_cons, Multiset.cons_add]
  rw [forgot] at kept loaded ⊢
  exact { stored with
    sound := same ▸ invariant.sound
    kept := kept
    loaded := loaded }

theorem BlkState.Invariant.kept_by_finish {t head : Nat}
    (member : (t, head) ∈ state.finishing) :
    BlkState.Invariant start usedBase
      { returnAct device state head with
        finishing := state.finishing.erase (t, head) } := by
  have order := (List.perm_cons_erase member).map Prod.snd
  have held : state.held = head ::ₘ BlkState.held
      { returnAct device state head with
        finishing := state.finishing.erase (t, head) } := by
    simp only [BlkState.held]
    rw [Multiset.coe_eq_coe.mpr order, List.map_cons, ← Multiset.cons_coe,
      Multiset.add_cons]
    rfl
  exact invariant.kept_by_giveBack layout held (vqEndchains_vq _ _ _ _) rfl rfl
    rfl rfl rfl rfl rfl (.inl rfl)

theorem BlkState.Invariant.step {label : BlkLabel}
    (behaves : BlkBehaves start state label)
    (acted : blkAct device state label = some after) :
    after.Invariant start usedBase := by
  cases label with
  | publish heads memory =>
      cases acted
      exact invariant.kept_by_publish layout behaves
  | look =>
      obtain ⟨_, done⟩ := Option.ite_none_right_eq_some.mp acted
      cases done
      exact invariant.kept_by_look
  | notify stack woken => exact invariant.kept_by_notify layout behaves acted
  | wake t =>
      obtain ⟨block, woke, rfl⟩ := Option.map_eq_some_iff.mp acted
      have kept := invariant.kept.step woke
      have loaded := invariant.loaded.step invariant.kept rfl woke
      obtain ⟨_, done⟩ := Option.ite_none_right_eq_some.mp woke
      cases done
      exact invariant.among rfl kept loaded
  | dequeue t =>
      obtain ⟨block, took, rfl⟩ := Option.map_eq_some_iff.mp acted
      have kept := invariant.kept.step took
      have loaded := invariant.loaded.step invariant.kept rfl took
      refine invariant.among ?_ kept loaded
      obtain ⟨_, ⟨_, rfl⟩ | ⟨be, _, _, rfl⟩⟩ := dequeueAct_cases took
      · rfl
      · rfl
  | callback t err memory =>
      exact invariant.kept_by_callback layout behaves acted
  | giveBack t head =>
      obtain ⟨member, done⟩ := Option.ite_none_right_eq_some.mp acted
      cases done
      exact invariant.kept_by_finish layout member
  | complete t =>
      obtain ⟨_, acted⟩ := Option.ite_none_left_eq_some.mp acted
      obtain ⟨block, completed, rfl⟩ := Option.map_eq_some_iff.mp acted
      have kept := invariant.kept.step completed
      have loaded := invariant.loaded.step invariant.kept rfl completed
      refine invariant.among ?_ kept loaded
      obtain ⟨be, _, rfl⟩ := completeAct_cases completed
      rfl

end Notified

/-- Every chain taken is given back once or in one hand, no more are out than
the ring has room for, the used ring tells which came back, an `ioreq` is used
for one chain at a time, and the context never refuses a request. -/
structure BlkState.Accounted (start : VqInfo) (usedBase : Nat)
    (state : BlkState) : Prop where
  account : ↑state.returned + state.held =
    (↑(state.published.take state.taken) : Multiset Nat)
  once : state.held.Nodup
  few : state.held.card ≤ start.qsize
  inside : ∀ head ∈ state.held, head < virtioBlkRingsz
  usedIdx : start.usedIdx state.memory =
    (usedBase + state.returned.length) % 65536
  stored : ∀ position head,
    state.returned.length ≤ position + start.qsize →
      state.returned[position]? = some head →
        state.memory.load32
          (start.usedElem ((usedBase + position) % start.qsize)) = head
  roomy : ∀ idx, state.notifier.hand = some idx →
    idx ∉ state.block.accepted ∧
      ∀ breq op, (blockifRequest state.block.queues breq op).1 = 0

/-- Steps of the device that leave the guest's buffers as they are. -/
inductive BlkAction where
  | notify
  | dequeue (t : Nat)
  | callback (t : Nat)
  | giveBack (t head : Nat)
  | complete (t : Nat)

def BlkAction.label (state : BlkState) : BlkAction → BlkLabel
  | .notify => .notify ⟨fun _ => ⟨none, 0⟩, fun _ => 0⟩ 0
  | .dequeue t => .dequeue t
  | .callback t => .callback t 0 state.memory
  | .giveBack t head => .giveBack t head
  | .complete t => .complete t

def BlkAction.clear (start : VqInfo) (state : BlkState) : BlkAction → Bool
  | .notify =>
      match state.notifier with
      | .identifying locals =>
          decide (start.ApartFrom (locals.base 1) (locals.len 1))
      | .answering idx _ =>
          decide (start.ApartFrom (state.ios idx).status 1)
      | _ => true
  | .callback t =>
      (state.block.serves t).all fun head =>
        decide (start.ApartFrom (state.ios head).status 1)
  | .dequeue _ | .giveBack _ _ | .complete _ => true

theorem BlkAction.behaves {start : VqInfo} {state : BlkState}
    {action : BlkAction} (clear : action.clear start state = true) :
    BlkBehaves start state (action.label state) := by
  cases action with
  | notify =>
      unfold BlkAction.clear at clear
      unfold BlkBehaves BlkAction.label
      cases place : state.notifier with
      | identifying locals =>
          rw [place] at clear
          exact of_decide_eq_true clear
      | answering idx err =>
          rw [place] at clear
          exact of_decide_eq_true clear
      | _ => trivial
  | callback t =>
      refine ⟨fun _ _ => rfl, fun _ _ => rfl, ?_⟩
      intro head serves
      have all : (state.block.serves t).all (fun head =>
          decide (start.ApartFrom (state.ios head).status 1)) = true := clear
      rw [serves] at all
      exact of_decide_eq_true all
  | dequeue t => trivial
  | giveBack t head => trivial
  | complete t => trivial

end VirtioGpu.Block
