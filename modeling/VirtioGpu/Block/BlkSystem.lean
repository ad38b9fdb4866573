import VirtioGpu.Block.VirtioBlk
import VirtioGpu.Block.Workers
import VirtioGpu.Foundation.Turnover
import VirtioGpu.Virtio.Rings

namespace VirtioGpu.Block

open Foundation
open Virtio
open Function

/-! The device with its driver: one thread runs `virtio_blk_notify`, eight
more serve the requests and give the chains back. -/

/-- Where the thread of `virtio_blk_notify` stands. -/
inductive Notifier where
  | idle
  | entered
  | marking
  | fetching
  | parsing (locals : BlkLocals)
  | checking (locals : BlkLocals) (op : Blockop)
  | identifying (locals : BlkLocals)
  | submitting (idx : Nat) (op : Blockop)
  | answering (idx : Nat) (err : Int)
  | returning (idx : Nat)
  | aborting (idx : Nat)
  | testing
  | clearing
  | retesting

def BlkVerdict.next (locals : BlkLocals) : BlkVerdict → Notifier
  | .abort => .aborting locals.idx
  | .done err => .answering locals.idx err
  | .ident => .identifying locals
  | .check op => .checking locals op
  | .submit op => .submitting locals.idx op

structure BlkDevice where
  blk : VirtioBlk
  ctx : Vmctx
  deviceCaps : Nat
  negotiatedCaps : Nat

/-- `finishing` has the threads in `virtio_blk_done` that have stored a
status, each with its chain.  `owing` says that the driver has published
chains and not yet looked at the flags. -/
structure BlkState where
  vq : VqInfo
  memory : Memory
  ios : Nat → VirtioBlkIoreq
  block : BlockState
  notifier : Notifier
  finishing : List (Nat × Nat)
  kicked : Bool
  owing : Bool
  published : List Nat
  taken : Nat
  returned : List Nat

/-- The arrays of `virtio_blk_proc` before they are filled. -/
structure BlkStack where
  iov : Nat → IoVec
  flags : Nat → Nat

inductive BlkLabel where
  | publish (heads : List Nat) (memory : Memory)
  | look
  | notify (stack : BlkStack) (woken : Nat)
  | wake (t : Nat)
  | dequeue (t : Nat)
  | callback (t : Nat) (err : Int) (memory : Memory)
  | giveBack (t head : Nat)
  | complete (t : Nat)

def blkFetch (device : BlkDevice) (state : BlkState) (stack : BlkStack) :
    ChainResult :=
  vqGetchain ⟨device.ctx, state.memory, blockifIovMax + 2, true⟩
    device.deviceCaps state.vq state.vq.qsize stack.iov stack.flags

/-- The beginning of `virtio_blk_proc`. -/
def fetchAct (device : BlkDevice) (state : BlkState) (stack : BlkStack) :
    BlkState :=
  let result := blkFetch device state stack
  { state with
    vq := result.vq
    taken :=
      if result.vq.lastAvail = state.vq.lastAvail then state.taken
      else state.taken + 1
    notifier :=
      if result.ret < 2 ∨ result.ret > blockifIovMax + 2 then
        .aborting result.idx
      else
        .parsing ⟨result.idx, result.ret.toNat, result.chain.iov,
          result.chain.flags⟩ }

/-- `io->status` is stored through. -/
def storeStatus (state : BlkState) (idx : Nat) (err : Int)
    (memory : Memory) : Memory :=
  memory.store (state.ios idx).status [virtioBlkStatus err]

/-- The chain is given back under the mutex. -/
def returnAct (device : BlkDevice) (state : BlkState) (idx : Nat) :
    BlkState :=
  let result := virtioBlkReturn state.vq state.memory device.negotiatedCaps
    idx
  { state with
    vq := result.1.1
    memory := result.2
    returned := state.returned ++ [idx] }

def abortAct (device : BlkDevice) (state : BlkState) (idx : Nat) :
    BlkState :=
  let result := virtioBlkAbort state.vq state.memory device.negotiatedCaps
    idx
  { state with
    vq := result.1.1
    memory := result.2
    returned :=
      if idx < state.vq.qsize then state.returned ++ [idx]
      else state.returned
    notifier := .testing }

/-- The next step of the thread that runs `virtio_blk_notify`. -/
def notifyAct (device : BlkDevice) (state : BlkState) (stack : BlkStack)
    (woken : Nat) : Option BlkState :=
  match state.notifier with
  | .idle =>
      if state.kicked then
        some { state with kicked := false, notifier := .entered }
      else none
  | .entered =>
      if vqHasDescs state.vq state.memory then
        some { state with notifier := .marking }
      else some { state with notifier := .idle }
  | .marking => some { state with
      memory := setNoNotify state.vq state.memory
      notifier := .fetching }
  | .fetching => some (fetchAct device state stack)
  | .parsing locals =>
      let parsed := virtioBlkParse device.blk (state.ios locals.idx)
        state.memory locals
      some { state with
        ios := update state.ios locals.idx parsed.1
        notifier := parsed.2.next locals }
  | .checking locals op => some { state with
      notifier :=
        (virtioBlkCheck device.blk state.memory locals op).next locals }
  | .identifying locals => some { state with
      memory := virtioBlkIdent device.blk state.memory locals
      notifier := .answering locals.idx 0 }
  | .submitting idx op =>
      (requestAct state.block ((state.ios idx).req idx) op woken).map
        fun block => { state with block := block, notifier := .testing }
  | .answering idx err => some { state with
      memory := storeStatus state idx err state.memory
      notifier := .returning idx }
  | .returning idx => some { returnAct device state idx with
      notifier := .testing }
  | .aborting idx => some (abortAct device state idx)
  | .testing =>
      if vqHasDescs state.vq state.memory then
        some { state with notifier := .fetching }
      else some { state with notifier := .clearing }
  | .clearing => some { state with
      memory := vqClearUsedRingFlags state.vq state.memory
      notifier := .retesting }
  | .retesting =>
      if vqHasDescs state.vq state.memory then
        some { state with notifier := .marking }
      else some { state with notifier := .idle }

/-- The chain of the request a thread has in `blockif_proc`. -/
def BlockState.serves (block : BlockState) (t : Nat) : Option Nat :=
  match block.threads[t]? with
  | some (.processing be) => (block.queues.reqs be).req.map (·.address)
  | _ => none

/-- `blockif_proc` moves data, which leaves `memory`, and calls
`virtio_blk_done`. -/
def doneAct (state : BlkState) (t : Nat) (err : Int) (memory : Memory) :
    Option BlkState :=
  (state.block.serves t).bind fun head =>
    (callbackAct state.block t).map fun block => { state with
      block := block
      memory := storeStatus state head err memory
      finishing := (t, head) :: state.finishing }

/-- The driver looks whether it has to notify. -/
def lookAct (state : BlkState) : BlkState :=
  { state with
    owing := false
    kicked := state.kicked ||
      decide (usedFlags state.vq state.memory &&& vringUsedFNoNotify = 0) }

def blkAct (device : BlkDevice) (state : BlkState) :
    BlkLabel → Option BlkState
  | .publish heads memory => some { state with
      memory := memory
      owing := state.owing || !heads.isEmpty
      published := state.published ++ heads }
  | .look => if state.owing then some (lookAct state) else none
  | .notify stack woken => notifyAct device state stack woken
  | .wake t => (blockAct state.block (.wake t)).map fun block =>
      { state with block := block }
  | .dequeue t => (blockAct state.block (.dequeue t)).map fun block =>
      { state with block := block }
  | .callback t err memory => doneAct state t err memory
  | .giveBack t head =>
      if (t, head) ∈ state.finishing then
        some { returnAct device state head with
          finishing := state.finishing.erase (t, head) }
      else none
  | .complete t =>
      if t ∈ state.finishing.map Prod.fst then none
      else (blockAct state.block (.complete t)).map fun block =>
        { state with block := block }

/-! What the driver promises. -/

def Notifier.hand : Notifier → Option Nat
  | .parsing locals | .checking locals _ | .identifying locals =>
      some locals.idx
  | .submitting idx _ | .answering idx _ | .returning idx | .aborting idx =>
      some idx
  | .idle | .entered | .marking | .fetching | .testing | .clearing
  | .retesting => none

namespace BlkState

/-- The chains taken and not yet given back: in the hand of the notified
thread, accepted by the context, or with their status stored. -/
def held (state : BlkState) : Multiset Nat :=
  ↑state.notifier.hand.toList + state.block.accepted.val +
    ↑(state.finishing.map Prod.snd)

def turnover (state : BlkState) : Turnover Nat where
  published := state.published
  taken := state.taken
  held := state.held
  returned := state.returned

def fifo (state : BlkState) : Fifo Nat where
  published := state.published
  consumed := state.taken
  released := state.returned

end BlkState

/-- The driver publishes chains that differ from all that are outstanding, and
the buffers the device writes do not touch the rings. -/
def BlkBehaves (start : VqInfo) (state : BlkState) : BlkLabel → Prop
  | .publish heads memory =>
      Publishes start start.lastAvail state.fifo heads state.memory memory ∧
        (state.turnover.outstanding + ↑heads).Nodup ∧
        ∀ head ∈ heads, head < start.qsize
  | .notify _ _ =>
      match state.notifier with
      | .identifying locals =>
          start.ApartFrom (locals.base 1) (locals.len 1)
      | .answering idx _ => start.ApartFrom (state.ios idx).status 1
      | _ => True
  | .callback t _ memory =>
      Memory.AgreeOn start.InAvail memory state.memory ∧
        Memory.AgreeOn start.InUsed memory state.memory ∧
        ∀ head, state.block.serves t = some head →
          start.ApartFrom (state.ios head).status 1
  | .look | .wake _ | .dequeue _ | .giveBack _ _ | .complete _ => True

/-- The queue is in use and empty, and nothing runs. -/
structure BlkOpens (start : VqInfo) (usedBase : Nat) (state : BlkState) :
    Prop where
  vq : state.vq = start
  ready : vqRingReady start = true
  shaped : start.Shaped
  few : start.qsize ≤ virtioBlkRingsz
  lastAvail : start.lastAvail < 65536
  availIdx : start.availIdx state.memory = start.lastAvail
  usedIdx : start.usedIdx state.memory = usedBase
  notify : usedFlags start state.memory &&& vringUsedFNoNotify = 0
  block : state.block = .initial
  notifier : state.notifier = .idle
  finishing : state.finishing = []
  published : state.published = []
  taken : state.taken = 0
  returned : state.returned = []

end VirtioGpu.Block
