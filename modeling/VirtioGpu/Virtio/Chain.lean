import VirtioGpu.Virtio.Ring
import Mathlib.Logic.Function.Basic

namespace VirtioGpu.Virtio

open Foundation

/-! Fetching a descriptor chain from the available ring. -/

structure IoVec where
  base : Option Nat
  len : Nat
  deriving Repr, DecidableEq

structure VringDesc where
  addr : Nat
  len : Nat
  flags : Nat
  next : Nat
  deriving Repr, DecidableEq

namespace VringDesc

def load (memory : Memory) (address : Nat) : VringDesc where
  addr := memory.load64 address
  len := memory.load32 (address + 8)
  flags := memory.load16 (address + 12)
  next := memory.load16 (address + 14)

def bytes (desc : VringDesc) : List UInt8 :=
  le64 desc.addr ++ le32 desc.len ++ le16 desc.flags ++ le16 desc.next

def hasNext (desc : VringDesc) : Bool :=
  decide (desc.flags &&& vringDescFNext ≠ 0)

def isIndirect (desc : VringDesc) : Bool :=
  decide (desc.flags &&& vringDescFIndirect ≠ 0)

end VringDesc

/-- The `index`-th entry of the descriptor table at `table`. -/
def descAt (memory : Memory) (table index : Nat) : VringDesc :=
  VringDesc.load memory (table + 16 * index)

/-- The arrays `vq_getchain` fills, its count `i`, and the translations made
on the way. -/
structure Chain where
  count : Nat
  iov : Nat → IoVec
  flags : Nat → Nat
  calls : List Translation

namespace Chain

def log (chain : Chain) (call : Translation) : Chain :=
  { chain with calls := chain.calls ++ [call] }

def advance (chain : Chain) : Chain :=
  { chain with count := chain.count + 1 }

end Chain

/-- What stays fixed while one chain is walked. -/
structure WalkContext where
  ctx : Vmctx
  memory : Memory
  nIov : Nat
  keepFlags : Bool

/-- An error result stands for the return value `-1`; it carries the arrays as
they were left. -/
def vqRecord (walk : WalkContext) (chain : Chain) (vd : VringDesc) :
    Except Chain Chain :=
  if chain.count ≥ walk.nIov then
    .error chain
  else
    let call := translate walk.ctx vd.addr vd.len
    match call.host with
    | none => .error (chain.log call)
    | some host =>
        .ok
          { chain.log call with
            iov := Function.update chain.iov chain.count ⟨some host, vd.len⟩
            flags :=
              if walk.keepFlags then
                Function.update chain.flags chain.count vd.flags
              else
                chain.flags }

def vqMaxDescriptors : Nat := 512

/-- The inner loop of `vq_getchain`.  Every round records one descriptor, so
`vqMaxDescriptors + 1` rounds reach the `loopy` exit. -/
def vqIndirect (walk : WalkContext) (vindir nIndir : Nat) :
    Nat → Nat → Chain → Except Chain Chain
  | 0, _, chain => .error chain
  | rounds + 1, next, chain =>
      let vp := descAt walk.memory vindir next
      if vp.isIndirect then
        .error chain
      else
        match vqRecord walk chain vp with
        | .error chain => .error chain
        | .ok chain =>
            let chain := chain.advance
            if chain.count > vqMaxDescriptors then
              .error chain
            else if !vp.hasNext then
              .ok chain
            else if vp.next ≥ nIndir then
              .error chain
            else
              vqIndirect walk vindir nIndir rounds vp.next chain

/-- One direct descriptor: recorded itself, or replaced by its indirect
table. -/
def vqDirect (walk : WalkContext) (deviceCaps : Nat) (vdir : VringDesc)
    (chain : Chain) : Except Chain Chain :=
  if !vdir.isIndirect then
    match vqRecord walk chain vdir with
    | .error chain => .error chain
    | .ok chain => .ok chain.advance
  else if !deviceCaps.testBit virtioRingFIndirectDesc then
    .error chain
  else
    let nIndir := vdir.len / 16
    if vdir.len &&& 0xf ≠ 0 ∨ nIndir = 0 then
      .error chain
    else
      let call := translate walk.ctx vdir.addr vdir.len
      match call.host with
      | none => .error (chain.log call)
      | some vindir =>
          vqIndirect walk vindir nIndir (vqMaxDescriptors + 1) 0
            (chain.log call)

/-- The outer loop of `vq_getchain`.  Every round records at least one
descriptor, so `vqMaxDescriptors` rounds exhaust the loop condition. -/
def vqWalk (walk : WalkContext) (deviceCaps qsize table : Nat) :
    Nat → Nat → Chain → Except Chain Chain
  | 0, _, chain => .error chain
  | rounds + 1, next, chain =>
      if chain.count ≥ vqMaxDescriptors then
        .error chain
      else if next ≥ qsize then
        .error chain
      else
        let vdir := descAt walk.memory table next
        match vqDirect walk deviceCaps vdir chain with
        | .error chain => .error chain
        | .ok chain =>
            if !vdir.hasNext then
              .ok chain
            else
              vqWalk walk deviceCaps qsize table rounds vdir.next chain

/-- Result of `vq_getchain`: the return value, `*pidx`, the queue and the
arrays afterwards. -/
structure ChainResult where
  ret : Int
  idx : Nat
  vq : VqInfo
  chain : Chain

def vqGetchain (walk : WalkContext) (deviceCaps : Nat) (vq : VqInfo)
    (pidx : Nat) (iov : Nat → IoVec) (flags : Nat → Nat) : ChainResult :=
  let chain : Chain := ⟨0, iov, flags, []⟩
  let idx := vq.lastAvail
  let ndesc := sub16 (vq.availIdx walk.memory) idx
  if ndesc = 0 then
    ⟨0, pidx, vq, chain⟩
  else if ndesc > vq.qsize then
    ⟨-1, pidx, vq, chain⟩
  else
    let head := vq.availRing walk.memory (idx &&& (vq.qsize - 1))
    let vq := { vq with lastAvail := (vq.lastAvail + 1) % 65536 }
    match vqWalk walk deviceCaps vq.qsize (vq.desc.getD 0) vqMaxDescriptors
        head chain with
    | .error chain => ⟨-1, head, vq, chain⟩
    | .ok chain => ⟨chain.count, head, vq, chain⟩

end VirtioGpu.Virtio
