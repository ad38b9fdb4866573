import VirtioGpu.Backend.BottomHalf
import VirtioGpu.Gpu.Exits

namespace VirtioGpu.Backend

open Foundation
open Virtio
open Gpu

/-! What every served control chain of a run has in common. -/

/-- The record of a chain whose command was loaded from its first descriptor
and handled by the dispatcher. -/
structure Service.Valid (service : Service) : Prop where
  nonempty : 1 ≤ service.cmd.iovcnt
  loaded : ∃ address, service.cmd.base 0 = .ok address ∧
    service.cmd.hdr = CtrlHdr.load service.memory address
  handled : ctrlDispatch service.env service.gpu service.cmd service.memory =
    .ok service.reply

/-- The address the request is loaded from. -/
def Service.address (service : Service) : Nat := service.cmd.address

def Service.exit (service : Service) : Exit :=
  exitOf service.gpu service.cmd service.memory service.address

theorem Service.Valid.follows {service : Service} (valid : service.Valid) :
    service.reply.Follows service.cmd service.exit := by
  obtain ⟨address, based, _⟩ := valid.loaded
  rw [Service.exit, Service.address, address_of_base based]
  exact ctrlDispatch_follows service.env service.gpu service.cmd
    service.memory based service.reply valid.handled

theorem loadCommand_eq_ok {memory : Memory} {locals : Locals} {n : Nat}
    {cmd : Command} (loaded : loadCommand memory locals n = .ok cmd) :
    ∃ address, (locals.iov 0).base = some address ∧
      cmd = ⟨CtrlHdr.load memory address, locals.iov, n, locals.iolen⟩ := by
  unfold loadCommand at loaded
  cases found : (locals.iov 0).base with
  | none =>
      rw [found] at loaded
      cases loaded
  | some address =>
      rw [found] at loaded
      cases loaded
      exact ⟨address, rfl, rfl⟩

/-- The record of the control chain a section serves. -/
structure Serves (env : Env) (before : Machine) (locals : Locals) (n : Nat)
    (service : Service) : Prop where
  environment : service.env = env
  gpu : service.gpu = before.device.gpu
  memory : service.memory = before.memory
  flags : service.flags = locals.flags
  iov : service.cmd.iov = locals.iov
  iovcnt : service.cmd.iovcnt = n
  iolen : service.cmd.iolen = locals.iolen
  loads : loadCommand before.memory locals n = .ok service.cmd
  handled : ctrlDispatch env before.device.gpu service.cmd before.memory =
    .ok service.reply
  valid : 1 ≤ n → service.Valid

/-- The sections of a bottom half: when each of them runs, and the machine and
the events it leaves. -/
inductive Section (env : Env) (before : Machine) :
    Machine → List Event → Prop
  | idle (task : before.task = .idle) : Section env before before []
  | more {queue : Queue} {locals : Locals}
      (task : before.task = .testing queue locals)
      (ready : vqHasDescs (before.device.queues queue) before.memory = true) :
      Section env before { before with task := .fetching queue locals } []
  | done {queue : Queue} {locals : Locals}
      (task : before.task = .testing queue locals)
      (drained :
        vqHasDescs (before.device.queues queue) before.memory = false) :
      Section env before { before with task := .ending queue } []
  | rejected {queue : Queue} {locals : Locals}
      (task : before.task = .fetching queue locals)
      (bad : (fetchOf before queue locals).result.ret ≤ 0) :
      Section env before
        { before with
          device := before.device.setQueue queue
            (fetchOf before queue locals).result.vq
          task := .idle }
        [.fetched (fetchOf before queue locals)]
  | accepted {queue : Queue} {locals : Locals}
      (task : before.task = .fetching queue locals)
      (good : 0 < (fetchOf before queue locals).result.ret) :
      Section env before
        { before with
          device := before.device.setQueue queue
            (fetchOf before queue locals).result.vq
          task := .serving queue
            { locals with
              iov := (fetchOf before queue locals).result.chain.iov
              flags := (fetchOf before queue locals).result.chain.flags }
            (fetchOf before queue locals).result.idx
            (fetchOf before queue locals).result.ret.toNat }
        [.fetched (fetchOf before queue locals)]
  | served {locals : Locals} {idx n : Nat} {service : Service}
      {memory : Memory}
      (task : before.task = .serving .control locals idx n)
      (serves : Serves env before locals n service)
      (written : writeResponse before.memory service.cmd service.reply =
        .ok memory) :
      Section env before
        { device := { before.device with gpu := service.reply.gpu }
          memory := memory
          task := .releasing .control
            { locals with iolen := service.reply.iolen } idx }
        [.served service]
  | servedCursor {locals : Locals} {idx n : Nat} {cmd : Command}
      {reply : CursorReply}
      (task : before.task = .serving .cursor locals idx n)
      (handled :
        cursorDispatch before.device.gpu cmd before.memory = .ok reply) :
      Section env before
        { before with
          device := { before.device with gpu := reply.gpu }
          task := .releasing .cursor locals idx }
        [.servedCursor before.device.gpu before.memory cmd reply]
  | released {queue : Queue} {locals : Locals} {idx : Nat}
      (task : before.task = .releasing queue locals idx) :
      Section env before (releaseChain before queue locals idx).1
        [.released queue idx locals.iolen]
  | ended {queue : Queue} {interrupt : Bool}
      (task : before.task = .ending queue) :
      Section env before (endChains before queue).1 [.ended queue interrupt]

theorem serveControl_section {env : Env} {before after : Machine}
    {locals : Locals} {idx n : Nat} {events : List Event}
    (task : before.task = .serving .control locals idx n)
    (stepped : serveControl env before locals idx n = .ok (after, events)) :
    Section env before after events := by
  unfold serveControl at stepped
  obtain ⟨cmd, loaded, stepped⟩ := bind_eq_ok stepped
  obtain ⟨reply, handled, stepped⟩ := bind_eq_ok stepped
  obtain ⟨memory, written, stepped⟩ := bind_eq_ok stepped
  cases stepped
  obtain ⟨address, found, rfl⟩ := loadCommand_eq_ok loaded
  let service : Service :=
    ⟨env, before.device.gpu, before.memory,
      ⟨CtrlHdr.load before.memory address, locals.iov, n, locals.iolen⟩,
      locals.flags, reply⟩
  have based : service.cmd.base 0 = .ok address := by
    unfold Command.base
    rw [show (service.cmd.iov 0).base = some address from found]
  apply @Section.served env before locals idx n service memory task
  · exact ⟨rfl, rfl, rfl, rfl, rfl, rfl, rfl, loaded, handled,
      fun nonempty => ⟨nonempty, ⟨address, based, rfl⟩, handled⟩⟩
  · exact written

theorem serveCursor_section {env : Env} {before after : Machine}
    {locals : Locals} {idx n : Nat} {events : List Event}
    (task : before.task = .serving .cursor locals idx n)
    (stepped : serveCursor before locals idx n = .ok (after, events)) :
    Section env before after events := by
  unfold serveCursor at stepped
  obtain ⟨cmd, _, stepped⟩ := bind_eq_ok stepped
  obtain ⟨reply, handled, stepped⟩ := bind_eq_ok stepped
  cases stepped
  exact .servedCursor task handled

theorem fetchChain_section {env : Env} {before : Machine} {queue : Queue}
    {locals : Locals} (task : before.task = .fetching queue locals) :
    Section env before (fetchChain before queue locals).1
      (fetchChain before queue locals).2 := by
  unfold fetchChain
  dsimp only
  split
  · exact .rejected task ‹_›
  · exact .accepted task (Int.not_le.mp ‹_›)

theorem bhStep_section {env : Env} {before after : Machine}
    {events : List Event} (stepped : bhStep env before = .ok (after, events)) :
    Section env before after events := by
  unfold bhStep at stepped
  cases task : before.task with
  | idle =>
      rw [task] at stepped
      cases stepped
      exact .idle task
  | testing queue locals =>
      rw [task] at stepped
      dsimp only at stepped
      cases ready : vqHasDescs (before.device.queues queue) before.memory with
      | true =>
          rw [ready] at stepped
          cases stepped
          exact .more task ready
      | false =>
          rw [ready] at stepped
          cases stepped
          exact .done task ready
  | fetching queue locals =>
      rw [task] at stepped
      cases stepped
      exact fetchChain_section task
  | serving queue locals idx n =>
      rw [task] at stepped
      cases queue with
      | control => exact serveControl_section task stepped
      | cursor => exact serveCursor_section task stepped
  | releasing queue locals idx =>
      rw [task] at stepped
      cases stepped
      exact .released task
  | ending queue =>
      rw [task] at stepped
      cases stepped
      exact .ended task

/-- A step of another thread leaves the bottom half where it stands and
records nothing about it. -/
theorem machineStep_elsewhere {before after : Machine} {label : Label}
    {events : List Event}
    (stepped : machineStep before label = .ok (after, events)) :
    (∃ env, label = .run env ∧ Section env before after events) ∨
      (∃ queue iov flags, label = .start queue iov flags ∧
        after = startBh before queue iov flags ∧ events = []) ∨
      (after.task = before.task ∧
        ∀ event, event ∈ events → ∃ calls, event = .mapped calls) := by
  cases label with
  | guest memory =>
      cases stepped
      exact .inr (.inr ⟨rfl, by simp⟩)
  | commonWrite offset size value =>
      obtain ⟨written, _, rest⟩ := bind_eq_ok stepped
      cases rest
      exact .inr (.inr ⟨rfl, by simp⟩)
  | deviceWrite offset size value =>
      obtain ⟨written, _, rest⟩ := bind_eq_ok stepped
      cases rest
      exact .inr (.inr ⟨rfl, by simp⟩)
  | hotplug =>
      cases stepped
      exact .inr (.inr ⟨rfl, by simp⟩)
  | start queue iov flags =>
      cases stepped
      exact .inr (.inl ⟨queue, iov, flags, rfl, rfl, rfl⟩)
  | run env => exact .inl ⟨env, rfl, bhStep_section stepped⟩

/-! The events of a run are those of chains that were really served. -/

/-- A chain in service has a descriptor. -/
def Task.Nonempty : Task → Prop
  | .serving _ _ _ n => 1 ≤ n
  | _ => True

structure Traced.Faithful (state : Traced) : Prop where
  task : state.machine.task.Nonempty
  served : ∀ service, Event.served service ∈ state.events → service.Valid

theorem Section.faithful {env : Env} {before after : Machine}
    {events : List Event} (nonempty : before.task.Nonempty)
    (ran : Section env before after events) :
    after.task.Nonempty ∧
      ∀ service, Event.served service ∈ events → service.Valid := by
  cases ran with
  | idle task => exact ⟨nonempty, by simp⟩
  | more task ready => exact ⟨trivial, by simp⟩
  | done task drained => exact ⟨trivial, by simp⟩
  | rejected task bad => exact ⟨trivial, by simp⟩
  | accepted task good =>
      refine ⟨?_, by simp⟩
      show 1 ≤ Int.toNat _
      omega
  | served task serves written =>
      rw [task] at nonempty
      refine ⟨trivial, ?_⟩
      intro service member
      cases List.mem_singleton.mp member
      exact serves.valid nonempty
  | servedCursor task handled => exact ⟨trivial, by simp⟩
  | released task => exact ⟨trivial, by simp⟩
  | ended task => exact ⟨trivial, by simp⟩

theorem startBh_nonempty {before : Machine} (nonempty : before.task.Nonempty)
    (queue : Queue) (iov : Nat → IoVec) (flags : Nat → Nat) :
    (startBh before queue iov flags).task.Nonempty := by
  unfold startBh
  cases task : before.task with
  | idle => trivial
  | testing _ _ | fetching _ _ | serving _ _ _ _ | releasing _ _ _
  | ending _ => exact nonempty

theorem machineStep_faithful {before after : Machine} {label : Label}
    {events : List Event} (nonempty : before.task.Nonempty)
    (stepped : machineStep before label = .ok (after, events)) :
    after.task.Nonempty ∧
      ∀ service, Event.served service ∈ events → service.Valid := by
  rcases machineStep_elsewhere stepped with
    ⟨env, _, ran⟩ | ⟨queue, iov, flags, _, rfl, rfl⟩ | ⟨task, mapped⟩
  · exact ran.faithful nonempty
  · exact ⟨startBh_nonempty nonempty queue iov flags, by simp⟩
  · refine ⟨by rw [task]; exact nonempty, ?_⟩
    intro service member
    obtain ⟨calls, other⟩ := mapped _ member
    cases other

theorem reached_faithful {state : Traced} (reached : backend.Reached state) :
    state.Faithful := by
  refine reached.invariant Traced.Faithful ?_ ?_
  · rintro state ⟨vmctx, isBlobSupported, scanoutNum, memory, _, _, rfl⟩
    exact ⟨trivial, by simp⟩
  · rintro before label after faithful ⟨_, machine, events, stepped, rfl⟩
    have step := machineStep_faithful faithful.task stepped
    refine ⟨step.1, ?_⟩
    intro service member
    rcases List.mem_append.mp member with earlier | now
    · exact faithful.served service earlier
    · exact step.2 service now

def Task.isIdle : Task → Bool
  | .idle => true
  | .testing _ _ | .fetching _ _ | .serving _ _ _ _ | .releasing _ _ _
  | .ending _ => false

theorem Task.eq_idle {task : Task} (idle : task.isIdle = true) :
    task = .idle := by
  cases task with
  | idle => rfl
  | testing _ _ | fetching _ _ | serving _ _ _ _ | releasing _ _ _
  | ending _ => cases idle

/-- An event that serves a chain with a decidable property. -/
def servesWith (check : Service → Bool) : Event → Bool
  | .served service => check service
  | .mapped _ | .fetched _ | .servedCursor _ _ _ _ | .released _ _ _
  | .ended _ _ => false

theorem exists_served {before : Traced} {labels : List Label}
    {check : Service → Bool} (starts : backend.initial before)
    (checked : (runLabels before labels).any
      (fun state => state.events.any (servesWith check)) = true) :
    ∃ state service, backend.Reached state ∧
      Event.served service ∈ state.events ∧ check service = true := by
  obtain ⟨state, reached, served⟩ := exists_reached starts checked
  obtain ⟨event, member, serves⟩ := List.any_eq_true.mp served
  cases event with
  | served service => exact ⟨state, service, reached, member, serves⟩
  | mapped _ | fetched _ | servedCursor _ _ _ _ | released _ _ _ | ended _ _ =>
      cases serves

/-- Guest memory with one chain on a ring of two: a request of `length` bytes
at 256 that starts with `hdr`, and a response descriptor at 512. -/
def oneCommand (hdr : CtrlHdr) (length : Nat) : Memory :=
  ((Memory.zero.store 64
    ((VringDesc.mk 256 length vringDescFNext 1).bytes ++
      (VringDesc.mk 512 24 vringDescFWrite 0).bytes)).store 128
    (le16 0 ++ le16 1 ++ le16 0)).store 256 hdr.bytes

/-- A device that has served the one command of `memory`. -/
def serveOne (memory : Memory) : Option Traced :=
  runLabels ⟨initialMachine ⟨4096, 0⟩ false 1 memory, []⟩
    (setUpQueue .control 2 64 128 160 ++ callBh (Env.steady 0) .control 3)

theorem oneCommand_initial (hdr : CtrlHdr) (length : Nat) :
    backend.initial
      ⟨initialMachine ⟨4096, 0⟩ false 1 (oneCommand hdr length), []⟩ :=
  ⟨_, false, 1, _, nofun, by decide, rfl⟩

end VirtioGpu.Backend
