import VirtioGpu.Backend.Rectangles
import VirtioGpu.Gpu.Footprint

namespace VirtioGpu.Backend

open Foundation
open Virtio
open Gpu

/-! One control command: its chain is loaded, handled and answered. -/

def execute (env : Env) (gpu : GpuState) (memory : Memory) (locals : Locals)
    (n : Nat) : Except Fault (Reply × Memory) := do
  let cmd ← loadCommand memory locals n
  let reply ← ctrlDispatch env gpu cmd memory
  let memory ← writeResponse memory cmd reply
  return (reply, memory)

/-- The bottom half serves a chain by executing its command. -/
theorem serveControl_execute (env : Env) (machine : Machine)
    (locals : Locals) (idx n : Nat) :
    ((serveControl env machine locals idx n).map fun served =>
        (served.1.device.gpu, served.1.memory)) =
      (execute env machine.device.gpu machine.memory locals n).map
        fun ran => (ran.1.gpu, ran.2) := by
  unfold serveControl execute
  cases loadCommand machine.memory locals n with
  | error fault => rfl
  | ok cmd =>
      simp only [bind, Except.bind]
      cases ctrlDispatch env machine.device.gpu cmd machine.memory with
      | error fault => rfl
      | ok reply =>
          dsimp only
          cases writeResponse machine.memory cmd reply with
          | error fault => rfl
          | ok memory => rfl

/-! Commands on one resource, executed. -/

theorem exitOf_onResource {cmd : Command} (onResource : OnResource cmd = true)
    (gpu : GpuState) (memory : Memory) (address : Nat) :
    (exitOf gpu cmd memory address).slot = responseSlot cmd ∧
      (exitOf gpu cmd memory address).size = CtrlHdr.size := by
  unfold OnResource at onResource
  unfold exitOf responseSlot
  cases code : CtrlCmd.ofCode cmd.hdr.type with
  | none =>
      rw [code] at onResource
      cases onResource
  | some command =>
      rw [code] at onResource
      cases command with
      | resourceCreate2d | resourceUnref | resourceAttachBacking
      | resourceDetachBacking | transferToHost2d => exact ⟨rfl, rfl⟩
      | resourceCreateBlob =>
          dsimp only
          split
          · exact ⟨rfl, rfl⟩
          · exact ⟨rfl, rfl⟩
      | getEdid | getDisplayInfo | setScanout | resourceFlush
      | setScanoutBlob | setModifier => cases onResource

/-- A command on one resource that a chain holds. -/
structure Holds (memory : Memory) (locals : Locals) (n : Nat)
    (cmd : Command) : Prop where
  loaded : loadCommand memory locals n = .ok cmd
  onResource : OnResource cmd = true

/-- The command did to its resource what its act says, and then stored its
response. -/
structure Executed (gpu : GpuState) (memory : Memory) (cmd : Command)
    (acted : RespType × Option View) (reply : Reply) (after : Memory) :
    Prop where
  does : Does gpu (touchedId cmd memory) acted reply
  elsewhere : ∀ location, ¬InResponse cmd location →
    after location = memory location

section Executions

variable {env : Env} {gpu : GpuState} {memory : Memory} {locals : Locals}
  {n : Nat} {cmd : Command}

theorem Holds.based (holds : Holds memory locals n cmd) :
    cmd.base 0 = .ok cmd.address := by
  obtain ⟨address, found, rfl⟩ := loadCommand_eq_ok holds.loaded
  simp only [Command.base, Command.address, found, Option.getD_some]

theorem Holds.follows (holds : Holds memory locals n cmd) {reply : Reply}
    (handled : ctrlDispatch env gpu cmd memory = .ok reply) :
    reply.slot = responseSlot cmd ∧
      reply.resp.bytes.length = CtrlHdr.size := by
  have follows := ctrlDispatch_follows env gpu cmd memory holds.based reply
    handled
  obtain ⟨slot, size⟩ := exitOf_onResource holds.onResource gpu memory
    cmd.address
  rw [Resp.length_bytes]
  exact ⟨follows.slot.trans slot, follows.size.trans size⟩

theorem Holds.executed (holds : Holds memory locals n cmd) {reply : Reply}
    {after : Memory}
    (ran : execute env gpu memory locals n = .ok (reply, after)) :
    ctrlDispatch env gpu cmd memory = .ok reply ∧
      writeResponse memory cmd reply = .ok after := by
  unfold execute at ran
  rw [holds.loaded] at ran
  obtain ⟨_, same, rest⟩ := bind_eq_ok ran
  cases same
  obtain ⟨other, handled, rest⟩ := bind_eq_ok rest
  obtain ⟨stored, written, rest⟩ := bind_eq_ok rest
  cases rest
  exact ⟨handled, written⟩

/-- Storing the response changes the response. -/
theorem store_elsewhere {reply : Reply} {base : Nat}
    (mapped : (cmd.iov (responseSlot cmd)).base = some base)
    (length : reply.resp.bytes.length = CtrlHdr.size) (location : Nat)
    (outside : ¬InResponse cmd location) :
    memory.store base reply.resp.bytes location = memory location := by
  apply Memory.store_outside
  rw [length]
  by_contra inside
  apply outside
  exact ⟨base, mapped, by omega, by dsimp only; omega⟩

theorem execute_acts (tidy : Tidy gpu) (fresh : env.Fresh gpu)
    (holds : Holds memory locals n cmd) {reply : Reply} {after : Memory}
    (ran : execute env gpu memory locals n = .ok (reply, after)) :
    ∃ acted, act env gpu.vmctx gpu.isBlobSupported cmd memory
        (gpu.view (touchedId cmd memory)) = .ok acted ∧
      Executed gpu memory cmd acted reply after ∧
      (cmd.iov (responseSlot cmd)).base ≠ none := by
  obtain ⟨handled, written⟩ := holds.executed ran
  obtain ⟨slot, length⟩ := holds.follows handled
  obtain ⟨base, based, rest⟩ := bind_eq_ok written
  cases rest
  rw [slot] at based
  have mapped := base_eq_ok based
  have does := @ctrlDispatch_does env gpu cmd memory tidy fresh holds.based
    holds.onResource
  rw [handled] at does
  generalize acted : act env gpu.vmctx gpu.isBlobSupported cmd memory
    (gpu.view (touchedId cmd memory)) = result at does
  cases does with
  | @done result _ related =>
      refine ⟨result, rfl, ⟨related, ?_⟩, ?_⟩
      · exact store_elsewhere mapped length
      · rw [mapped]
        exact Option.some_ne_none base

theorem execute_of_act (tidy : Tidy gpu) (fresh : env.Fresh gpu)
    (holds : Holds memory locals n cmd) {acted : RespType × Option View}
    (acts : act env gpu.vmctx gpu.isBlobSupported cmd memory
      (gpu.view (touchedId cmd memory)) = .ok acted)
    (mapped : (cmd.iov (responseSlot cmd)).base ≠ none) :
    ∃ reply after, execute env gpu memory locals n = .ok (reply, after) ∧
      Executed gpu memory cmd acted reply after := by
  obtain ⟨base, found⟩ := Option.ne_none_iff_exists'.mp mapped
  have does := @ctrlDispatch_does env gpu cmd memory tidy fresh holds.based
    holds.onResource
  rw [acts] at does
  obtain ⟨reply, handled, related⟩ := does.returns
  obtain ⟨slot, length⟩ := holds.follows handled
  refine ⟨reply, memory.store base reply.resp.bytes, ?_, related, ?_⟩
  · have written : writeResponse memory cmd reply =
        .ok (memory.store base reply.resp.bytes) := by
      unfold writeResponse Command.base
      rw [slot, found]
      rfl
    simp only [execute, holds.loaded, handled, written, bind, Except.bind,
      pure, Except.pure]
  · exact store_elsewhere found length

end Executions

/-! Two of them. -/

/-- Where the first command answers, neither the second one nor a backing is
read. -/
structure ResponseApart (gpu : GpuState) (writer reader : Command) : Prop where
  request : ∀ location, InResponse writer location →
    ¬InRequest reader location
  backing : ∀ r2d, r2d ∈ gpu.r2dList → ∀ location,
    InResponse writer location → ¬r2d.InBacking location

theorem size_le_requestLength (cmd : Command) :
    CtrlHdr.size ≤ requestLength cmd := by
  unfold requestLength
  split
  all_goals decide

section Pairs

variable {gpu : GpuState} {memory between : Memory} {writer reader : Command}
  {acted : RespType × Option View} {reply : Reply}

theorem Executed.request (executed : Executed gpu memory writer acted reply
      between) (apart : ResponseApart gpu writer reader) :
    Memory.AgreeOn (InRequest reader) memory between := by
  intro location inside
  refine (executed.elsewhere location ?_).symm
  intro answered
  exact apart.request location answered inside

theorem Executed.backing (executed : Executed gpu memory writer acted reply
      between) (apart : ResponseApart gpu writer reader) {resourceId : Nat}
    {view : View} (found : gpu.view resourceId = some view) :
    Memory.AgreeOn view.record.InBacking memory between := by
  intro location inside
  refine (executed.elsewhere location ?_).symm
  intro answered
  obtain ⟨r2d, listed, rfl⟩ := Option.map_eq_some_iff.mp found
  exact apart.backing r2d (List.mem_of_find?_eq_some listed) location answered
    inside

/-- A chain holds the same command after the other one has been answered. -/
theorem Executed.holds (executed : Executed gpu memory writer acted reply
      between) (apart : ResponseApart gpu writer reader) {locals : Locals}
    {n : Nat}
    (holds : Holds memory locals n reader) :
    Holds between locals n reader := by
  refine ⟨?_, holds.onResource⟩
  have agree := executed.request apart
  have loaded := holds.loaded
  obtain ⟨address, based, same⟩ := loadCommand_eq_ok loaded
  have here : reader.address = address := by
    rw [same]
    simp only [Command.address, based, Option.getD_some]
  have header : CtrlHdr.load memory address =
      CtrlHdr.load between address := by
    refine @CtrlHdr.load_congr memory between address (requestLength reader)
      ?_ (size_le_requestLength reader)
    intro location inside
    apply agree
    rw [← here] at inside
    exact .inl inside
  unfold loadCommand at loaded ⊢
  rw [based] at loaded ⊢
  rw [← loaded]
  dsimp only
  rw [header]

/-- The view the second command finds is the one it finds without the
first. -/
theorem Executed.view (executed : Executed gpu memory writer acted reply
      between) (apart : ResponseApart gpu writer reader)
    (different : touchedId writer memory ≠ touchedId reader memory) :
    reply.gpu.view (touchedId reader between) =
      gpu.view (touchedId reader memory) := by
  rw [← touchedId_congr (executed.request apart), executed.does.view,
    Function.update_of_ne different.symm]

/-- The second command acts as it does without the first. -/
theorem Executed.act_after (executed : Executed gpu memory writer acted reply
      between) (apart : ResponseApart gpu writer reader)
    (different : touchedId writer memory ≠ touchedId reader memory)
    (onResource : OnResource reader = true)
    (setup : SameSetup gpu reply.gpu) {alone behind : Env}
    (alike : alone.AnswersAlike behind) :
    act behind reply.gpu.vmctx reply.gpu.isBlobSupported reader between
        (reply.gpu.view (touchedId reader between)) =
      act alone gpu.vmctx gpu.isBlobSupported reader memory
        (gpu.view (touchedId reader memory)) := by
  rw [executed.view apart different, setup.vmctx, setup.isBlobSupported]
  symm
  exact act_congr alike onResource (executed.request apart) _ _
    fun view found => executed.backing apart found

end Pairs

/-- Both orders answer the same and leave the same table and scanouts. -/
structure SameOutcome (leftReply rightReply : Reply)
    (earlier later : Reply) : Prop where
  view : later.gpu.view = rightReply.gpu.view
  scanouts : later.gpu.scanouts = rightReply.gpu.scanouts
  leftType : later.resp.hdr.type = leftReply.resp.hdr.type
  rightType : earlier.resp.hdr.type = rightReply.resp.hdr.type

section Orders

variable {gpu : GpuState} {memory between after : Memory}
  {leftLocals rightLocals : Locals} {leftCount rightCount : Nat}
  {left right : Command} {leftReply rightReply : Reply}
  {leftEnv rightEnv earlierEnv laterEnv : Env}

theorem executed_tidy {env : Env} {locals : Locals} {n : Nat} {cmd : Command}
    {reply : Reply} (tidy : Tidy gpu) (fresh : env.Fresh gpu)
    (holds : Holds memory locals n cmd)
    (ran : execute env gpu memory locals n = .ok (reply, between)) :
    Tidy reply.gpu ∧ SameSetup gpu reply.gpu := by
  obtain ⟨handled, _⟩ := holds.executed ran
  have changed := (ctrlDispatch_changes env gpu cmd memory holds.based reply
    handled).gpu
  exact ⟨tidy.change fresh changed, changed.sameSetup⟩

theorem commute (tidy : Tidy gpu)
    (leftHolds : Holds memory leftLocals leftCount left)
    (rightHolds : Holds memory rightLocals rightCount right)
    (different : touchedId left memory ≠ touchedId right memory)
    (leftApart : ResponseApart gpu left right)
    (rightApart : ResponseApart gpu right left)
    (leftFresh : leftEnv.Fresh gpu) (rightFresh : rightEnv.Fresh leftReply.gpu)
    (leftRan : execute leftEnv gpu memory leftLocals leftCount =
      .ok (leftReply, between))
    (rightRan : execute rightEnv leftReply.gpu between rightLocals
      rightCount = .ok (rightReply, after))
    (rightAlike : rightEnv.AnswersAlike earlierEnv)
    (leftAlike : leftEnv.AnswersAlike laterEnv)
    (earlierFresh : earlierEnv.Fresh gpu) :
    ∃ earlier meantime,
      execute earlierEnv gpu memory rightLocals rightCount =
        .ok (earlier, meantime) ∧
      (laterEnv.Fresh earlier.gpu → ∃ later last,
        execute laterEnv earlier.gpu meantime leftLocals leftCount =
          .ok (later, last) ∧
        SameOutcome leftReply rightReply earlier later) := by
  obtain ⟨leftActed, leftActs, leftExecuted, leftMapped⟩ :=
    execute_acts tidy leftFresh leftHolds leftRan
  obtain ⟨leftTidy, leftSetup⟩ :=
    executed_tidy tidy leftFresh leftHolds leftRan
  obtain ⟨rightActed, rightActs, rightExecuted, rightMapped⟩ :=
    execute_acts leftTidy rightFresh (leftExecuted.holds leftApart rightHolds)
      rightRan
  rw [leftExecuted.act_after leftApart different rightHolds.onResource
    leftSetup rightAlike.symm] at rightActs
  obtain ⟨earlier, meantime, earlierRan, earlierExecuted⟩ :=
    execute_of_act tidy earlierFresh rightHolds rightActs rightMapped
  obtain ⟨earlierTidy, earlierSetup⟩ :=
    executed_tidy tidy earlierFresh rightHolds earlierRan
  refine ⟨earlier, meantime, earlierRan, fun laterFresh => ?_⟩
  rw [← earlierExecuted.act_after rightApart different.symm
    leftHolds.onResource earlierSetup leftAlike] at leftActs
  obtain ⟨later, last, laterRan, laterExecuted⟩ :=
    execute_of_act earlierTidy laterFresh
      (earlierExecuted.holds rightApart leftHolds) leftActs leftMapped
  refine ⟨later, last, laterRan, ?_, ?_, ?_, ?_⟩
  · rw [laterExecuted.does.view, earlierExecuted.does.view,
      rightExecuted.does.view, leftExecuted.does.view,
      ← touchedId_congr (earlierExecuted.request rightApart),
      ← touchedId_congr (leftExecuted.request leftApart),
      Function.update_comm different]
  · rw [laterExecuted.does.scanouts, earlierExecuted.does.scanouts,
      rightExecuted.does.scanouts, leftExecuted.does.scanouts]
  · exact laterExecuted.does.answers.trans leftExecuted.does.answers.symm
  · exact earlierExecuted.does.answers.trans rightExecuted.does.answers.symm

/-- In every state, two commands on different resources that are executed in
one order can be executed in the other, with the same outcome. -/
theorem reached_commute {state : Traced} (reached : backend.Reached state)
    (leftHolds : Holds memory leftLocals leftCount left)
    (rightHolds : Holds memory rightLocals rightCount right)
    (different : touchedId left memory ≠ touchedId right memory)
    (leftApart : ResponseApart state.machine.device.gpu left right)
    (rightApart : ResponseApart state.machine.device.gpu right left)
    (leftFresh : leftEnv.Fresh state.machine.device.gpu)
    (rightFresh : rightEnv.Fresh leftReply.gpu)
    (leftRan : execute leftEnv state.machine.device.gpu memory leftLocals
      leftCount = .ok (leftReply, between))
    (rightRan : execute rightEnv leftReply.gpu between rightLocals
      rightCount = .ok (rightReply, after))
    (rightAlike : rightEnv.AnswersAlike earlierEnv)
    (leftAlike : leftEnv.AnswersAlike laterEnv)
    (earlierFresh : earlierEnv.Fresh state.machine.device.gpu) :
    ∃ earlier meantime,
      execute earlierEnv state.machine.device.gpu memory rightLocals
          rightCount = .ok (earlier, meantime) ∧
      (laterEnv.Fresh earlier.gpu → ∃ later last,
        execute laterEnv earlier.gpu meantime leftLocals leftCount =
          .ok (later, last) ∧
        SameOutcome leftReply rightReply earlier later) :=
  commute (reached_wellSized reached).tidy leftHolds rightHolds different
    leftApart rightApart leftFresh rightFresh leftRan rightRan rightAlike
    leftAlike earlierFresh

end Orders

/-! Two resources, created in either order. -/

def twoRequests : Memory :=
  (Memory.zero.store 256 (createRequest 1 64 48)).store 4096
    (createRequest 2 32 16)

/-- A chain of a request at `base` and of a response behind it. -/
def chainAt (base : Nat) : Locals where
  iov := fun slot => ⟨some (base + 256 * slot), 64⟩
  flags := fun _ => 0
  iolen := 0

def createAt (base : Nat) : Command where
  hdr := CtrlHdr.load twoRequests base
  iov := (chainAt base).iov
  iovcnt := 2
  iolen := 0

theorem createAt_apart (gpu : GpuState) (empty : gpu.r2dList = [])
    {base other : Nat} (code : CtrlCmd.ofCode (createAt base).hdr.type =
      some .resourceCreate2d)
    (otherCode : CtrlCmd.ofCode (createAt other).hdr.type =
      some .resourceCreate2d)
    (far : base + 512 ≤ other ∨ other + 512 ≤ base) :
    ResponseApart gpu (createAt base) (createAt other) := by
  constructor
  · rintro location ⟨found, mapped, low, high⟩ inside
    have slot : responseSlot (createAt base) = 1 := by
      rw [responseSlot, code]
    have slots : gatheredSlots (createAt other) = [] := by
      rw [gatheredSlots, otherCode]
    have length : requestLength (createAt other) = 40 := by
      rw [requestLength, otherCode]
      rfl
    rw [slot] at mapped
    cases mapped
    rcases inside with ⟨start, finish⟩ | ⟨other, member, _⟩
    · rw [length] at finish
      have address : (createAt other).address = other := rfl
      have answered : location < base + 256 * 1 + 24 := high
      rw [address] at start finish
      omega
    · rw [slots] at member
      cases member
  · intro r2d listed
    rw [empty] at listed
    cases listed

theorem steady_answersAlike (first second : Nat) :
    (Env.steady first).AnswersAlike (Env.steady second) := by
  have succeeds : ∀ next, (Env.steady next).Succeeds :=
    fun _ => ⟨rfl, rfl, rfl, rfl, rfl, rfl⟩
  have opens : ∀ next, 0 ≤ (Env.steady next).udmabufFd ∧
      0 ≤ (Env.steady next).createList := by
    intro next
    dsimp only [Env.steady]
    omega
  exact (succeeds first).answersAlike (succeeds second) (opens first)
    (opens second)

/-- Two `CREATE_2D` requests on a fresh device. -/
theorem created_in_either_order :
    ∃ state leftReply rightReply earlier later,
      backend.Reached state ∧
      state.machine.device.gpu.r2dList = [] ∧
      leftReply.Answers .okNodata ∧ rightReply.Answers .okNodata ∧
      SameOutcome leftReply rightReply earlier later := by
  have starts : backend.initial
      ⟨initialMachine ⟨65536, 5⟩ true 2 Memory.zero, []⟩ :=
    ⟨_, true, 2, _, fun _ => rfl, by decide, rfl⟩
  obtain ⟨⟨leftReply, between⟩, leftRan, leftChecked⟩ := @Returns.of_any _ _
    (execute (Env.steady 0) (initialGpu ⟨65536, 5⟩ true 2) twoRequests
      (chainAt 256) 2)
    (fun ran => decide ((Env.steady 1).Fresh ran.1.gpu) &&
      decide (ran.1.Answers .okNodata) &&
      (execute (Env.steady 1) ran.1.gpu ran.2 (chainAt 4096) 2).toOption.any
        fun (next : Reply × Memory) => decide (next.1.Answers .okNodata))
    (by decide +kernel)
  obtain ⟨leftFacts, rightChecked⟩ := Bool.and_eq_true_iff.mp leftChecked
  obtain ⟨rightFresh, leftOk⟩ := Bool.and_eq_true_iff.mp leftFacts
  obtain ⟨⟨rightReply, after⟩, rightRan, rightOk⟩ :=
    Returns.of_any rightChecked
  obtain ⟨⟨other, _⟩, otherRan, laterFresh⟩ := @Returns.of_any _ _
    (execute (Env.steady 0) (initialGpu ⟨65536, 5⟩ true 2) twoRequests
      (chainAt 4096) 2)
    (fun ran => decide ((Env.steady 1).Fresh ran.1.gpu))
    (by decide +kernel)
  have leftCode : CtrlCmd.ofCode (createAt 256).hdr.type =
      some .resourceCreate2d := by decide +kernel
  have rightCode : CtrlCmd.ofCode (createAt 4096).hdr.type =
      some .resourceCreate2d := by decide +kernel
  obtain ⟨earlier, meantime, earlierRan, continues⟩ :=
    @reached_commute twoRequests between after (chainAt 256) (chainAt 4096)
      2 2 (createAt 256) (createAt 4096) leftReply rightReply (Env.steady 0)
      (Env.steady 1) (Env.steady 0) (Env.steady 1) _ (.initial starts)
      ⟨rfl, by rw [OnResource, leftCode]⟩
      ⟨rfl, by rw [OnResource, rightCode]⟩
      (by decide +kernel)
      (createAt_apart _ rfl leftCode rightCode (by decide))
      (createAt_apart _ rfl rightCode leftCode (by decide))
      (by decide) (of_decide_eq_true rightFresh) leftRan rightRan
      (steady_answersAlike 1 0) (steady_answersAlike 0 1) (by decide)
  have same := Except.ok.inj (earlierRan.symm.trans otherRan)
  rw [← congrArg Prod.fst same] at laterFresh
  obtain ⟨later, last, _, outcome⟩ := continues (of_decide_eq_true laterFresh)
  exact ⟨_, leftReply, rightReply, earlier, later, .initial starts, rfl,
    of_decide_eq_true leftOk, of_decide_eq_true rightOk, outcome⟩

end VirtioGpu.Backend
