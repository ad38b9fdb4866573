import Mathlib.Data.List.Forall2
import VirtioGpu.Backend.GpuRun
import VirtioGpu.Foundation.Simulation
import VirtioGpu.Gpu.Serving

namespace VirtioGpu.Backend

open Foundation
open Virtio
open Gpu

/-! Runs of the backend, seen by the driver and the display, are runs of a
device that has neither pointers nor counts. -/

/-- What is seen of one command: what it was given, what it answered and what
it had the display show. -/
inductive Sight where
  | served (env : Env) (cmd : Command) (memory : Memory) (outcome : Outcome)
  | pointed (cmd : Command) (memory : Memory) (shown : List Showing)

structure Exhibition where
  board : Board
  sights : List Sight

inductive BoardLabel where
  | serve (env : Env) (cmd : Command) (memory : Memory)
  | point (cmd : Command) (memory : Memory)
  | reset

def boardAct (state : Exhibition) : BoardLabel → Except Fault Exhibition
  | .serve env cmd memory => do
      let (board, outcome) ← state.board.serve env cmd memory
      return ⟨board, state.sights ++ [.served env cmd memory outcome]⟩
  | .point cmd memory => do
      let shown ← state.board.point cmd memory
      return ⟨state.board, state.sights ++ [.pointed cmd memory shown]⟩
  | .reset => return ⟨state.board.reset, state.sights⟩

def initialBoard (vmctx : Vmctx) (isBlobSupported : Bool)
    (scanoutNum : Nat) : Board where
  vmctx := vmctx
  isBlobSupported := isBlobSupported
  pictures := fun _ => none
  screens := List.replicate scanoutNum ⟨0, Rect.zero, false⟩
  vgaEnable := true

def boardSystem : TransitionSystem Exhibition BoardLabel where
  initial := fun state => ∃ vmctx isBlobSupported scanoutNum,
    (isBlobSupported = true → vmAllowDmabuf vmctx = true) ∧
      scanoutNum ≤ vdpyMaxNum ∧
      state = ⟨initialBoard vmctx isBlobSupported scanoutNum, []⟩
  step := fun before label after => boardAct before label = .ok after

/-! What an event shows. -/

inductive Event.Shows : Event → Sight → Prop
  | served {service : Service} {outcome : Outcome}
      (answers : service.reply.Answers outcome.type)
      (body : service.reply.resp.body = outcome.body)
      (shown : service.reply.display.map (showingOf service.gpu.images) =
        outcome.shown.map some) :
      Shows (.served service)
        (.served service.env service.cmd service.memory outcome)
  | pointed {gpu : GpuState} {memory : Memory} {cmd : Command}
      {reply : CursorReply} {shown : List Showing}
      (shows : reply.display.map (showingOf gpu.images) = shown.map some) :
      Shows (.servedCursor gpu memory cmd reply) (.pointed cmd memory shown)

def Event.isCommand : Event → Bool
  | .served _ | .servedCursor _ _ _ _ => true
  | .mapped _ | .fetched _ | .released _ _ _ | .ended _ _ => false

/-- The board is the device's, and the sights are what the commands of the
run have shown. -/
structure Traced.Mirrored (state : Traced) (shown : Exhibition) : Prop where
  board : state.machine.device.gpu.board = shown.board
  sights : List.Forall₂ Event.Shows (state.events.filter Event.isCommand)
    shown.sights

namespace Traced.Mirrored

variable {before : Traced} {shown : Exhibition} {machine : Machine}
  {events : List Event}

theorem sights_silent (mirrored : before.Mirrored shown)
    (silent : ∀ event, event ∈ events → event.isCommand = false) :
    List.Forall₂ Event.Shows
      ((before.events ++ events).filter Event.isCommand) shown.sights := by
  have uncommanded : events.filter Event.isCommand = [] := by
    apply List.filter_eq_nil_iff.mpr
    intro event member
    simp [silent event member]
  rw [List.filter_append, uncommanded, List.append_nil]
  exact mirrored.sights

/-- A step that serves no command and keeps the device shows nothing. -/
theorem silent (mirrored : before.Mirrored shown)
    (silent : ∀ event, event ∈ events → event.isCommand = false)
    (same : machine.device.gpu = before.machine.device.gpu) :
    Traced.Mirrored ⟨machine, before.events ++ events⟩ shown := by
  refine ⟨?_, mirrored.sights_silent silent⟩
  rw [same]
  exact mirrored.board

/-- A step that serves a command shows what that command shows. -/
theorem command (mirrored : before.Mirrored shown) {event : Event}
    {sight : Sight} {board : Board} (isCommand : event.isCommand = true)
    (shows : event.Shows sight)
    (same : machine.device.gpu.board = board) :
    Traced.Mirrored ⟨machine, before.events ++ [event]⟩
      ⟨board, shown.sights ++ [sight]⟩ := by
  refine ⟨same, ?_⟩
  dsimp only
  rw [List.filter_append, List.filter_cons_of_pos isCommand,
    List.filter_nil]
  exact List.rel_append mirrored.sights (.cons shows .nil)

end Traced.Mirrored

section Steps

variable {before : Traced} {shown : Exhibition} {after : Machine}
  {events : List Event} {env : Env}

/-- A section of a bottom half is a step of the board, or none of its
business. -/
theorem Section.mirrored (mirrored : before.Mirrored shown)
    (presentable : Presentable before.machine.device.gpu)
    (fresh : env.Fresh before.machine.device.gpu)
    (ran : Section env before.machine after events) :
    Traced.Mirrored ⟨after, before.events ++ events⟩ shown ∨
      ∃ label next, boardAct shown label = .ok next ∧
        Traced.Mirrored ⟨after, before.events ++ events⟩ next := by
  cases ran with
  | idle task | more task _ | done task _ =>
      refine .inl (mirrored.silent ?_ rfl)
      intro event member
      cases member
  | rejected task _ | accepted task _ | released task | ended task =>
      refine .inl (mirrored.silent ?_ rfl)
      intro event member
      cases List.mem_singleton.mp member
      rfl
  | @served locals idx n service memory task serves written =>
      obtain ⟨⟨board, outcome⟩, served, meets⟩ :=
        (presentable.serve_paired fresh
          (loadCommand_base serves.loads)).ensures _ serves.handled
      rw [← serves.gpu] at meets
      rw [mirrored.board, ← serves.environment, ← serves.memory] at served
      refine .inr ⟨.serve service.env service.cmd service.memory, _, ?_,
        mirrored.command rfl (.served meets.answers meets.body meets.shown)
          meets.board⟩
      unfold boardAct
      dsimp only
      rw [served]
      rfl
  | @servedCursor locals idx n cmd reply task handled =>
      obtain ⟨pointed, points, meets⟩ :=
        (presentable.point_paired cmd before.machine.memory).ensures _ handled
      rw [mirrored.board] at points
      refine .inr ⟨.point cmd before.machine.memory,
        ⟨shown.board, shown.sights ++ [.pointed cmd _ pointed]⟩, ?_,
        mirrored.command rfl (.pointed meets.shown) ?_⟩
      · unfold boardAct
        dsimp only
        rw [points]
        rfl
      · dsimp only
        rw [meets.kept]
        exact mirrored.board

theorem machineStep_mirrored {label : Label}
    (mirrored : before.Mirrored shown)
    (presentable : Presentable before.machine.device.gpu)
    (sound : label.Sound before.machine)
    (stepped : machineStep before.machine label = .ok (after, events)) :
    Traced.Mirrored ⟨after, before.events ++ events⟩ shown ∨
      ∃ label next, boardAct shown label = .ok next ∧
        Traced.Mirrored ⟨after, before.events ++ events⟩ next := by
  have quiet : ∀ event, event ∈ ([] : List Event) →
      event.isCommand = false := by
    intro event member
    cases member
  cases label with
  | guest memory =>
      cases stepped
      exact .inl (mirrored.silent quiet rfl)
  | commonWrite offset size value =>
      obtain ⟨written, ran, rest⟩ := bind_eq_ok stepped
      cases rest
      have mapped : ∀ event, event ∈ [Event.mapped written.2] →
          event.isCommand = false := by
        intro event member
        cases List.mem_singleton.mp member
        rfl
      rcases virtioCommonCfgWrite_gpu _ _ _ _ written ran with same | cleared
      · exact .inl (mirrored.silent mapped same)
      · refine .inr ⟨.reset, _, rfl, ?_, mirrored.sights_silent mapped⟩
        dsimp only
        rw [resetGpu_board cleared, mirrored.board]
  | deviceWrite offset size value =>
      obtain ⟨device, ran, rest⟩ := bind_eq_ok stepped
      cases rest
      exact .inl (mirrored.silent quiet
        (virtioDeviceCfgWrite_gpu _ _ _ _ device ran))
  | hotplug =>
      cases stepped
      exact .inl (mirrored.silent quiet rfl)
  | start queue iov flags =>
      cases stepped
      exact .inl (mirrored.silent quiet (startBh_gpu _ _ _ _))
  | run env =>
      exact (bhStep_section stepped).mirrored mirrored presentable sound

end Steps

theorem boardSystem_simulates :
    Simulation backend (fun _ _ => True) boardSystem fun state shown =>
      Presentable state.machine.device.gpu ∧ state.Mirrored shown := by
  refine ⟨?_, ?_⟩
  · rintro state ⟨vmctx, isBlobSupported, scanoutNum, memory, allowed, few,
      rfl⟩
    refine ⟨⟨initialBoard vmctx isBlobSupported scanoutNum, []⟩,
      ⟨vmctx, isBlobSupported, scanoutNum, allowed, few, rfl⟩,
      presentable_initial vmctx isBlobSupported scanoutNum, ?_, .nil⟩
    refine board_eq rfl rfl rfl ?_ rfl
    exact List.map_replicate
  · rintro before label after shown ⟨presentable, mirrored⟩ _
      ⟨sound, machine, events, stepped, rfl⟩
    have later : Presentable machine.device.gpu := by
      cases machineStep_gpu stepped with
      | kept same =>
          rw [same]
          exact presentable
      | command runs _ changed =>
          subst runs
          exact presentable.change sound changed
      | reset cleared => exact presentable.reset cleared
    rcases machineStep_mirrored mirrored presentable sound stepped with
      still | ⟨action, next, acted, follows⟩
    · exact .inl ⟨later, still⟩
    · exact .inr ⟨action, next, acted, later, follows⟩

/-- The board of a state: what it has shown so far, and that it will serve
whatever comes next as the device does. -/
structure Traced.Exhibits (state : Traced) (shown : Exhibition) : Prop where
  mirrored : state.Mirrored shown
  serves : ∀ env cmd memory, env.Fresh state.machine.device.gpu →
    cmd.base 0 = .ok cmd.address →
      Paired (Meets state.machine.device.gpu.images)
        (shown.board.serve env cmd memory)
        (ctrlDispatch env state.machine.device.gpu cmd memory)
  points : ∀ cmd memory, Paired (Points state.machine.device.gpu)
    (shown.board.point cmd memory)
    (cursorDispatch state.machine.device.gpu cmd memory)

theorem reached_exhibits {state : Traced} (reached : backend.Reached state) :
    ∃ shown, boardSystem.Reached shown ∧ state.Exhibits shown := by
  obtain ⟨shown, follows, presentable, mirrored⟩ :=
    boardSystem_simulates.reached reached
  refine ⟨shown, follows, mirrored, ?_, ?_⟩
  · intro env cmd memory fresh based
    rw [← mirrored.board]
    exact presentable.serve_paired fresh based
  · intro cmd memory
    rw [← mirrored.board]
    exact presentable.point_paired cmd memory

/-- An image is created, shown and flushed. -/
theorem flushed_image_exhibits :
    ∃ (state : Traced) (shown : Exhibition),
      boardSystem.Reached shown ∧ state.Exhibits shown ∧
      shown.sights.length = 3 := by
  obtain ⟨state, reached, checked⟩ :=
    @exists_serveRequests (fun _ _ _ _ => true) (fun _ _ _ _ => True)
      [createRequest 1 64 48, showRequest 1 64 48, flushRequest 1 64 48]
      (fun state => decide
        ((state.events.filter Event.isCommand).length = 3))
      (fun _ _ _ _ _ => trivial)
      (by decide +kernel)
  obtain ⟨shown, follows, exhibits⟩ :=
    reached_exhibits (reached.mono fun _ _ _ => trivial)
  refine ⟨state, shown, follows, exhibits, ?_⟩
  rw [← exhibits.mirrored.sights.length_eq]
  exact of_decide_eq_true checked

end VirtioGpu.Backend
