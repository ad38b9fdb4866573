import VirtioGpu.Backend.Commute
import VirtioGpu.Gpu.ShownSurface

namespace VirtioGpu.Backend

open Foundation
open Virtio
open Gpu

/-! A scanout and the resource it shows along a run that leaves both alone. -/

/-- The step neither resets the device nor serves a command that disturbs the
scanout or the resource. -/
def LeavesShown (scanoutId resourceId : Nat) (state : Traced)
    (label : Label) : Prop :=
  ¬label.Resets ∧
    commandsMeet (fun _ _ cmd memory =>
      ¬Disturbs scanoutId resourceId cmd memory) state label

/-- Flushes of the resource that reach the scanout update it with `surface`
alone, and flushes of other resources update no scanout that shows it. -/
structure FlushesMatch (gpu : GpuState) (scanoutId resourceId : Nat)
    (surface : Surface) : Prop where
  same : ∀ env cmd memory,
    CtrlCmd.ofCode cmd.hdr.type = some .resourceFlush →
    cmd.base 0 = .ok cmd.address →
    (ResourceFlush.load memory cmd.address).resourceId = resourceId →
    virtioGpuScanoutNeedsFlush (scanoutAt gpu scanoutId) resourceId
      (ResourceFlush.load memory cmd.address).r = true →
    Returns (ctrlDispatch env gpu cmd memory) fun reply =>
      ∀ updated, .surfaceUpdate scanoutId updated ∈ reply.display ↔
        updated = surface
  others : ∀ env cmd memory reply,
    CtrlCmd.ofCode cmd.hdr.type = some .resourceFlush →
    (ResourceFlush.load memory cmd.address).resourceId ≠ resourceId →
    ctrlDispatch env gpu cmd memory = .ok reply →
    ∀ other updated, .surfaceUpdate other updated ∈ reply.display →
      (scanoutAt gpu other).resourceId ≠ resourceId

theorem flushesMatch_of_displays {gpu : GpuState} {scanoutId resourceId : Nat}
    {surface : Surface} (tidy : Tidy gpu)
    (displays : Displays gpu scanoutId resourceId surface) :
    FlushesMatch gpu scanoutId resourceId surface := by
  refine ⟨?_, ?_⟩
  · intro env cmd memory code based named reaches
    exact displays.flushed tidy code based named reaches
  · intro env cmd memory reply code different ran other updated member shows
    apply different
    rw [← flush_names code reply ran other updated member]
    exact shows

/-- What every command that a run serves keeps holds along the run, and the
device stays tidy. -/
theorem tidy_along {start state : Traced} {Holds : GpuState → Prop}
    {Spares : Command → Memory → Prop}
    (keeps : ∀ {env gpu cmd memory}, Holds gpu → Tidy gpu → env.Fresh gpu →
      cmd.base 0 = .ok cmd.address → Spares cmd memory →
        Ensures (ctrlDispatch env gpu cmd memory) fun reply =>
          Holds reply.gpu)
    (tidy : Tidy start.machine.device.gpu)
    (holds : Holds start.machine.device.gpu)
    (reached : (backend.startingAt start).ReachedWhere
      (fun state label => ¬label.Resets ∧
        commandsMeet (fun _ _ cmd memory => Spares cmd memory) state label)
      state) :
    Tidy state.machine.device.gpu ∧ Holds state.machine.device.gpu := by
  refine reached.invariant (fun state => Tidy state.machine.device.gpu ∧
    Holds state.machine.device.gpu) ?_ ?_
  · rintro state rfl
    exact ⟨tidy, holds⟩
  · rintro before label after ⟨tidied, held⟩ ⟨kept, spared⟩
      ⟨sound, machine, events, stepped, rfl⟩
    rcases machineStep_dispatched stepped kept with same |
      ⟨env, cmd, reply, rfl, next, handled, same⟩
    · rw [show (Traced.mk machine _).machine = machine from rfl, same]
      exact ⟨tidied, held⟩
    · rw [show (Traced.mk machine _).machine = machine from rfl, same]
      have based := nextCommand_base next
      have changed := (ctrlDispatch_changes _ _ _ _ based reply handled).gpu
      exact ⟨tidied.change sound changed, keeps held tidied sound based
        (spared env cmd rfl next) reply handled⟩

/-- The command in service leaves the device of its reply, and tidy. -/
theorem served_tidy {before start : Traced} {env : Env} {cmd : Command}
    {reply : Reply} (reached : backend.Reached before)
    (stepped : backend.step before (.run env) start)
    (next : before.machine.nextCommand = some cmd)
    (handled : ctrlDispatch env before.machine.device.gpu cmd
      before.machine.memory = .ok reply) :
    start.machine.device.gpu = reply.gpu ∧ Tidy reply.gpu := by
  obtain ⟨sound, machine, events, ran, rfl⟩ := stepped
  obtain ⟨other, dispatched, same⟩ := (bhStep_section ran).dispatched next
  rw [handled] at dispatched
  cases dispatched
  exact ⟨same, (reached_wellSized reached).tidy.change sound
    (ctrlDispatch_changes _ _ _ _ (nextCommand_base next) reply handled).gpu⟩

/-- Along the run the device stays tidy and the scanout shows the same. -/
theorem displays_along {start state : Traced} {scanoutId resourceId : Nat}
    {surface : Surface} (tidy : Tidy start.machine.device.gpu)
    (displays : Displays start.machine.device.gpu scanoutId resourceId
      surface)
    (reached : (backend.startingAt start).ReachedWhere
      (LeavesShown scanoutId resourceId) state) :
    Tidy state.machine.device.gpu ∧
      Displays state.machine.device.gpu scanoutId resourceId surface :=
  @tidy_along _ _ (fun gpu => Displays gpu scanoutId resourceId surface) _
    (fun displays tidy fresh based spared =>
      displays.dispatched tidy fresh based spared)
    tidy displays reached

/-- `SET_SCANOUT` hands the display the surface that later flushes of the
resource update the scanout with. -/
theorem setScanout_flushesMatch {before start : Traced} {env : Env}
    {cmd : Command} {reply : Reply} {scanoutId resourceId : Nat}
    (reached : backend.Reached before)
    (stepped : backend.step before (.run env) start)
    (next : before.machine.nextCommand = some cmd)
    (sets : SetsScanout env before.machine.device.gpu cmd
      before.machine.memory scanoutId resourceId reply) :
    ∃ surface, reply.display = [.surfaceSet scanoutId (some surface)] ∧
      ∀ state, (backend.startingAt start).ReachedWhere
        (LeavesShown scanoutId resourceId) state →
          FlushesMatch state.machine.device.gpu scanoutId resourceId
            surface := by
  obtain ⟨surface, passed, displays⟩ :=
    sets.displays (nextCommand_base next)
  obtain ⟨same, tidy⟩ := served_tidy reached stepped next sets.handled
  refine ⟨surface, passed, fun state later => ?_⟩
  rw [← same] at tidy displays
  obtain ⟨tidied, shown⟩ := displays_along tidy displays later
  exact flushesMatch_of_displays tidied shown

/-- The `SET_SCANOUT` in service shows resource 1 on the first scanout. -/
def showsFirst (env : Env) (state : Traced) (cmd : Command) : Bool :=
  decide (CtrlCmd.ofCode cmd.hdr.type = some .setScanout) &&
    decide ((SetScanout.load state.machine.memory
      cmd.address).scanoutId = 0) &&
    decide ((SetScanout.load state.machine.memory
      cmd.address).resourceId = 1) &&
    (virtioGpuFindResource2d state.machine.device.gpu 1).any
      (fun r2d => !r2d.blob) &&
    (ctrlDispatch env state.machine.device.gpu cmd
      state.machine.memory).toOption.any
        fun (reply : Reply) => decide (reply.Answers .okNodata)

theorem setsScanout_of_shows {env : Env} {state : Traced} {cmd : Command}
    (shows : showsFirst env state cmd = true) :
    ∃ reply, SetsScanout env state.machine.device.gpu cmd
      state.machine.memory 0 1 reply := by
  simp only [showsFirst, Bool.and_eq_true, decide_eq_true_eq] at shows
  obtain ⟨⟨⟨⟨code, scanout⟩, resource⟩, plain⟩, ran⟩ := shows
  obtain ⟨r2d, found, pixels⟩ := (Option.any_eq_true _ _).mp plain
  obtain ⟨reply, handled, answers⟩ := Returns.of_any ran
  exact ⟨reply, code, scanout, resource, by decide,
    ⟨r2d, found, by simpa using pixels⟩, handled, of_decide_eq_true answers⟩

/-- Resource 1, of 64 by 48 pixels, on the first scanout. -/
theorem shown_resource_flushesMatch :
    ∃ before start cmd reply surface,
      backend.step before (.run (Env.steady 1)) start ∧
      before.machine.nextCommand = some cmd ∧
      reply.display = [.surfaceSet 0 (some surface)] ∧
      SetsScanout (Env.steady 1) before.machine.device.gpu cmd
        before.machine.memory 0 1 reply ∧
      ∀ state, (backend.startingAt start).ReachedWhere (LeavesShown 0 1)
        state → FlushesMatch state.machine.device.gpu 0 1 surface := by
  obtain ⟨before, reached, checked⟩ :=
    @exists_reached ⟨initialMachine ⟨65536, 5⟩ true 2 Memory.zero, []⟩
      (setUpQueue .control 2 64 128 160 ++
        requestLabels 0 [createRequest 1 64 48] ++
        .guest (requestMemory 1 (showRequest 1 64 48)) ::
          callBh (Env.steady 1) .control 2)
      (fun state =>
        state.machine.nextCommand.any (showsFirst (Env.steady 1) state) &&
          (runLabels state [.run (Env.steady 1)]).isSome)
      ⟨_, true, 2, _, fun _ => rfl, by decide, rfl⟩ (by decide +kernel)
  obtain ⟨serves, runs⟩ := Bool.and_eq_true_iff.mp checked
  obtain ⟨cmd, next, shows⟩ := (Option.any_eq_true _ _).mp serves
  obtain ⟨reply, sets⟩ := setsScanout_of_shows shows
  obtain ⟨start, ran⟩ := Option.isSome_iff_exists.mp runs
  have stepped := runLabels_singleton ran
  obtain ⟨surface, passed, along⟩ :=
    setScanout_flushesMatch reached stepped next sets
  exact ⟨before, start, cmd, reply, surface, stepped, next, passed, sets,
    along⟩

end VirtioGpu.Backend
