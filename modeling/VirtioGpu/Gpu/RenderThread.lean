import VirtioGpu.Foundation.Stores
import VirtioGpu.Foundation.Transition

namespace VirtioGpu.Gpu

open Foundation

/-! The registers of the Bochs display. -/

def virtioGpuVgaVbeSize : Nat := 22

/-- Compared with offsets in bytes, as are the other indices. -/
def vbeDispiIndexEnable : Nat := 4

def vbeDispiDisabled : Nat := 0

def vbeDispiEnabled : Nat := 1

def vberegsXres : Nat := 2

def vberegsYres : Nat := 4

def vberegsEnable : Nat := 8

def vberegsVirtWidth : Nat := 12

def vberegsXOffset : Nat := 16

def vberegsYOffset : Nat := 18

/-- `vberegs` as the memory that starts at it; `vgamode` is the one of
`gc_image`. -/
structure Vga where
  enable : Bool
  vberegs : Memory
  vgamode : Bool

/-- The cases of `vga_vbe_write` for `VBE_DISPI_INDEX_ENABLE`. -/
def vbeWriteEnable (vga : Vga) (value : Nat) : Vga :=
  let enabled := vga.vberegs.load16 vberegsEnable
  if value &&& vbeDispiEnabled ≠ 0 ∧ enabled &&& vbeDispiEnabled = 0 then
    { vga with
      vberegs := (((vga.vberegs.store vberegsVirtWidth (le16 0)).store
        vberegsXOffset (le16 0)).store vberegsYOffset (le16 0)).store
          vberegsEnable (le16 vbeDispiEnabled)
      enable := true }
  else if value &&& vbeDispiDisabled ≠ 0 ∧
      enabled &&& vbeDispiDisabled = 0 then
    { vga with
      vberegs := vga.vberegs.store vberegsEnable (le16 vbeDispiDisabled)
      enable := false }
  else vga

def vbeSwitchMode (vga : Vga) : Vga :=
  let xres := vga.vberegs.load16 vberegsXres
  let yres := vga.vberegs.load16 vberegsYres
  if vga.vgamode = false ∧ xres = 0 ∧ yres = 0 then
    { vga with vgamode := true }
  else if vga.vgamode ∧ xres ≠ 0 ∧ yres ≠ 0 then
    { vga with vgamode := false }
  else vga

def vgaVbeWrite (vga : Vga) (offset size value : Nat) : Vga :=
  if size = 1 ∨ size = 2 then
    let bytes := if size = 1 then [UInt8.ofNat value] else le16 value
    let stored := { vga with vberegs := vga.vberegs.store offset bytes }
    vbeSwitchMode (if offset = vbeDispiIndexEnable then
      vbeWriteEnable stored value else stored)
  else vga

/-! The thread that shows the framebuffer, and those who start and stop it. -/

/-- Before the last test of `vga.enable`, before the store of
`VGA_THREAD_EOL`, and behind it. -/
inductive RenderPhase where
  | rendering
  | leaving
  | ended
  deriving Repr, DecidableEq

def RenderPhase.live : RenderPhase → Bool
  | .ended => false
  | _ => true

inductive VgaThreadStatus where
  | eol
  | running
  deriving Repr, DecidableEq

/-- `threads` in the order of their creation; `restarting` counts the resets
and VBE writes before their locked section, `clearing` the scanout commands
between their test of `vga.enable` and their store. -/
structure RenderState where
  vga : Vga
  vgaThreadStatus : VgaThreadStatus
  threads : List RenderPhase
  restarting : Nat
  clearing : Nat

/-- At the end of `virtio_gpu_init`. -/
def RenderState.initial (vberegs : Memory) : RenderState where
  vga := ⟨true, vberegs, false⟩
  vgaThreadStatus := .running
  threads := [.rendering]
  restarting := 0
  clearing := 0

/-- `virtio_gpu_reset` before its locked section. -/
def virtioGpuReset (state : RenderState) : RenderState :=
  { state with
    vga := { state.vga with enable := true }
    restarting := state.restarting + 1 }

/-- `virtio_gpu_write` to a VBE register, before the locked section. -/
def virtioGpuWrite (state : RenderState) (offset size value : Nat) :
    RenderState :=
  { state with
    vga := vgaVbeWrite state.vga offset size value
    restarting := state.restarting +
      if offset = vbeDispiIndexEnable ∧ value &&& vbeDispiEnabled ≠ 0 then 1
      else 0 }

/-- The section under `vga_thread_mtx`, the same in both. -/
def startVgaThread (state : RenderState) : RenderState :=
  if state.vgaThreadStatus = .eol then
    { state with
      vgaThreadStatus := .running
      threads := state.threads ++ [.rendering]
      restarting := state.restarting - 1 }
  else
    { state with restarting := state.restarting - 1 }

/-- `while(gpu->vga.enable)`, left by `break` in VGA mode. -/
def testEnable (state : RenderState) (index : Nat) : RenderState :=
  { state with
    threads := state.threads.set index
      (if state.vga.enable && !state.vga.vgamode then .rendering
       else .leaving) }

/-- The thread's own section under `vga_thread_mtx`. -/
def storeEol (state : RenderState) (index : Nat) : RenderState :=
  { state with
    vgaThreadStatus := .eol
    threads := state.threads.set index .ended }

inductive RenderLabel where
  | reset
  | vbeWrite (offset size value : Nat)
  | restart
  | testScanout
  | clearScanout
  | threadTest (index : Nat)
  | threadEnd (index : Nat)
  deriving Repr, DecidableEq

def renderAct (state : RenderState) : RenderLabel → Option RenderState
  | .reset => some (virtioGpuReset state)
  | .vbeWrite offset size value =>
      if offset < virtioGpuVgaVbeSize then
        some (virtioGpuWrite state offset size value)
      else none
  | .restart =>
      if 0 < state.restarting then some (startVgaThread state) else none
  | .testScanout =>
      if state.vga.enable then
        some { state with clearing := state.clearing + 1 }
      else some state
  | .clearScanout =>
      if 0 < state.clearing then
        some { state with
          vga := { state.vga with enable := false }
          clearing := state.clearing - 1 }
      else none
  | .threadTest index =>
      if state.threads[index]? = some .rendering then
        some (testEnable state index)
      else none
  | .threadEnd index =>
      if state.threads[index]? = some .leaving then
        some (storeEol state index)
      else none

def renderSystem : TransitionSystem RenderState RenderLabel where
  initial := fun state => ∃ vberegs, state = .initial vberegs
  step := fun before label after => renderAct before label = some after

/-- No party is in the middle of its steps. -/
def RenderState.Quiet (state : RenderState) : Prop :=
  state.restarting = 0 ∧ state.clearing = 0 ∧
    RenderPhase.leaving ∉ state.threads

structure RenderState.Served (state : RenderState) : Prop where
  one : state.threads.countP RenderPhase.live ≤ 1
  shown : state.Quiet → state.vga.enable = true →
    RenderPhase.rendering ∈ state.threads

/-- The last party under way starts no thread, although `vga.enable` is true,
because the thread that found it false has not yet said so. -/
def DropsStart (state : RenderState) (label : RenderLabel) : Prop :=
  label = .restart ∧ state.vga.enable = true ∧
    RenderPhase.leaving ∈ state.threads ∧ state.restarting = 1 ∧
    state.clearing = 0

instance (state : RenderState) (label : RenderLabel) :
    Decidable (DropsStart state label) := by
  unfold DropsStart
  infer_instance

section Render

variable {state before after : RenderState} {label : RenderLabel}

/-! Never two. -/

/-- The status word knows how many threads there are. -/
def RenderState.Counted (state : RenderState) : Prop :=
  state.threads.countP RenderPhase.live =
    match state.vgaThreadStatus with
    | .running => 1
    | .eol => 0

theorem countP_set_live {threads : List RenderPhase} {index : Nat}
    {phase : RenderPhase} (here : threads[index]? = some phase)
    (live : phase.live = true) (next : RenderPhase) :
    (threads.set index next).countP RenderPhase.live + 1 =
      threads.countP RenderPhase.live + if next.live then 1 else 0 := by
  obtain ⟨bound, same⟩ := List.getElem?_eq_some_iff.mp here
  have counted : 0 < threads.countP RenderPhase.live :=
    List.countP_pos_iff.mpr ⟨phase, List.mem_of_getElem? here, live⟩
  rw [List.countP_set bound, same, live, if_pos rfl]
  omega

theorem initial_counted (vberegs : Memory) :
    (RenderState.initial vberegs).Counted := rfl

theorem RenderState.Counted.kept_by_start (counted : state.Counted) :
    (startVgaThread state).Counted := by
  unfold startVgaThread
  split
  · rename_i ended
    rw [Counted, ended] at counted
    show (state.threads ++ [RenderPhase.rendering]).countP
      RenderPhase.live = 1
    rw [List.countP_append, counted]
    rfl
  · exact counted

theorem RenderState.Counted.kept_by_test {index : Nat}
    (counted : state.Counted) (here : state.threads[index]? = some .rendering) :
    (testEnable state index).Counted := by
  have same := countP_set_live here rfl
    (if state.vga.enable && !state.vga.vgamode then .rendering
     else .leaving)
  have live : RenderPhase.live
      (if state.vga.enable && !state.vga.vgamode then .rendering
       else .leaving) = true := by
    split <;> rfl
  rw [live, if_pos rfl] at same
  exact (Nat.succ.inj same).trans counted

theorem RenderState.Counted.kept_by_ending {index : Nat}
    (counted : state.Counted) (here : state.threads[index]? = some .leaving) :
    (storeEol state index).Counted := by
  have same := countP_set_live here rfl .ended
  have most : state.threads.countP RenderPhase.live ≤ 1 := by
    rw [counted]
    split <;> omega
  show (state.threads.set index .ended).countP RenderPhase.live = 0
  simp only [RenderPhase.live, Bool.false_eq_true, if_false] at same
  omega

theorem RenderState.Counted.step (counted : before.Counted)
    (acted : renderAct before label = some after) : after.Counted := by
  cases label with
  | reset =>
      cases acted
      exact counted
  | vbeWrite offset size value =>
      obtain ⟨_, done⟩ := Option.ite_none_right_eq_some.mp acted
      cases done
      exact counted
  | restart =>
      obtain ⟨_, done⟩ := Option.ite_none_right_eq_some.mp acted
      cases done
      exact counted.kept_by_start
  | testScanout =>
      simp only [renderAct] at acted
      split at acted <;> (cases acted; exact counted)
  | clearScanout =>
      obtain ⟨_, done⟩ := Option.ite_none_right_eq_some.mp acted
      cases done
      exact counted
  | threadTest index =>
      obtain ⟨here, done⟩ := Option.ite_none_right_eq_some.mp acted
      cases done
      exact counted.kept_by_test here
  | threadEnd index =>
      obtain ⟨here, done⟩ := Option.ite_none_right_eq_some.mp acted
      cases done
      exact counted.kept_by_ending here

/-! Never a lost start. -/

/-- Whoever set `vga.enable` has still to start the thread, or it runs. -/
def RenderState.Attended (state : RenderState) : Prop :=
  state.vga.enable = true →
    RenderPhase.rendering ∈ state.threads ∨ 0 < state.restarting ∨
      0 < state.clearing

theorem mem_set_of_ne {threads : List RenderPhase} {index : Nat}
    {phase other next : RenderPhase} (member : phase ∈ threads)
    (here : threads[index]? = some other) (apart : phase ≠ other) :
    phase ∈ threads.set index next := by
  obtain ⟨place, there⟩ := List.mem_iff_getElem?.mp member
  refine List.mem_iff_getElem?.mpr ⟨place, ?_⟩
  rw [List.getElem?_set_ne, there]
  intro same
  rw [same, there] at here
  exact apart (Option.some.inj here)

theorem vbeSwitchMode_enable (vga : Vga) :
    (vbeSwitchMode vga).enable = vga.enable := by
  simp only [vbeSwitchMode]
  split
  · rfl
  · split <;> rfl

theorem vbeWriteEnable_enable {vga : Vga} {value : Nat}
    (enabled : (vbeWriteEnable vga value).enable = true) :
    vga.enable = true ∨ value &&& vbeDispiEnabled ≠ 0 := by
  simp only [vbeWriteEnable] at enabled
  split at enabled
  · rename_i wanted
    exact .inr wanted.1
  · split at enabled
    · cases enabled
    · exact .inl enabled

/-- Only an enable write sets `vga.enable`. -/
theorem vgaVbeWrite_enable {vga : Vga} {offset size value : Nat}
    (enabled : (vgaVbeWrite vga offset size value).enable = true) :
    vga.enable = true ∨
      offset = vbeDispiIndexEnable ∧ value &&& vbeDispiEnabled ≠ 0 := by
  simp only [vgaVbeWrite, apply_ite Vga.enable,
    vbeSwitchMode_enable] at enabled
  split at enabled
  · split at enabled
    · rename_i index
      exact (vbeWriteEnable_enable enabled).imp_right (⟨index, ·⟩)
    · exact .inl enabled
  · exact .inl enabled

theorem initial_attended (vberegs : Memory) :
    (RenderState.initial vberegs).Attended :=
  fun _ => .inl List.mem_cons_self

theorem RenderState.Attended.kept_by_vbeWrite (attended : state.Attended)
    (offset size value : Nat) :
    (virtioGpuWrite state offset size value).Attended := by
  intro enabled
  cases vgaVbeWrite_enable enabled with
  | inl before =>
      cases attended before with
      | inl shown => exact .inl shown
      | inr busy =>
          refine .inr (busy.imp_left fun owed => ?_)
          exact Nat.lt_of_lt_of_le owed (Nat.le_add_right _ _)
  | inr wanted =>
      refine .inr (.inl ?_)
      show 0 < state.restarting + if _ then 1 else 0
      rw [if_pos wanted]
      exact Nat.succ_pos _

theorem exists_live (counted : state.Counted)
    (status : state.vgaThreadStatus = .running) :
    RenderPhase.rendering ∈ state.threads ∨
      RenderPhase.leaving ∈ state.threads := by
  rw [RenderState.Counted, status] at counted
  have positive : 0 < state.threads.countP RenderPhase.live :=
    counted ▸ Nat.one_pos
  obtain ⟨phase, member, live⟩ := List.countP_pos_iff.mp positive
  cases phase with
  | rendering => exact .inl member
  | leaving => exact .inr member
  | ended => cases live

theorem RenderState.Counted.start_attended (counted : state.Counted)
    (begun : 0 < state.restarting) (kept : ¬DropsStart state .restart) :
    (startVgaThread state).Attended := by
  unfold startVgaThread
  split
  · exact fun _ => .inl
      (List.mem_append_right _ (List.mem_singleton.mpr rfl))
  · rename_i status
    intro enabled
    have running : state.vgaThreadStatus = .running := by
      revert status
      cases state.vgaThreadStatus <;> simp
    cases exists_live counted running with
    | inl shown => exact .inl shown
    | inr leaving =>
        have others : state.restarting ≠ 1 ∨ 0 < state.clearing := by
          by_contra alone
          simp only [not_or, not_not, Nat.not_lt, Nat.le_zero] at alone
          exact kept ⟨rfl, enabled, leaving, alone⟩
        exact .inr (others.imp_left fun more =>
          Nat.sub_pos_of_lt (Nat.lt_of_le_of_ne begun more.symm))

theorem RenderState.Attended.kept_by_test {index : Nat}
    (attended : state.Attended) (linear : state.vga.vgamode = false)
    (here : state.threads[index]? = some .rendering) :
    (testEnable state index).Attended := by
  intro enabled
  change state.vga.enable = true at enabled
  have kept : (testEnable state index).threads = state.threads := by
    simp only [testEnable, enabled, linear, Bool.not_false, Bool.and_self,
      if_true]
    obtain ⟨bound, same⟩ := List.getElem?_eq_some_iff.mp here
    rw [← same, List.set_getElem_self]
  rw [kept]
  exact attended enabled

theorem RenderState.Attended.kept_by_ending {index : Nat}
    (attended : state.Attended)
    (here : state.threads[index]? = some .leaving) :
    (storeEol state index).Attended := by
  intro enabled
  apply (attended enabled).imp_left
  intro shown
  exact mem_set_of_ne shown here (by decide)

theorem RenderState.Attended.step (attended : before.Attended)
    (counted : before.Counted) (linear : before.vga.vgamode = false)
    (kept : ¬DropsStart before label)
    (acted : renderAct before label = some after) : after.Attended := by
  cases label with
  | reset =>
      cases acted
      exact fun _ => .inr (.inl (Nat.succ_pos _))
  | vbeWrite offset size value =>
      obtain ⟨_, done⟩ := Option.ite_none_right_eq_some.mp acted
      cases done
      exact attended.kept_by_vbeWrite offset size value
  | restart =>
      obtain ⟨begun, done⟩ := Option.ite_none_right_eq_some.mp acted
      cases done
      exact counted.start_attended begun kept
  | testScanout =>
      simp only [renderAct] at acted
      split at acted
      · cases acted
        exact fun _ => .inr (.inr (Nat.succ_pos _))
      · cases acted
        exact attended
  | clearScanout =>
      obtain ⟨_, done⟩ := Option.ite_none_right_eq_some.mp acted
      cases done
      intro enabled
      cases enabled
  | threadTest index =>
      obtain ⟨here, done⟩ := Option.ite_none_right_eq_some.mp acted
      cases done
      exact attended.kept_by_test linear here
  | threadEnd index =>
      obtain ⟨here, done⟩ := Option.ite_none_right_eq_some.mp acted
      cases done
      exact attended.kept_by_ending here

theorem RenderState.Counted.one (counted : state.Counted) :
    state.threads.countP RenderPhase.live ≤ 1 := by
  rw [counted]
  split <;> omega

theorem RenderState.Attended.served (attended : state.Attended)
    (counted : state.Counted) : state.Served where
  one := counted.one
  shown := by
    intro quiet enabled
    rcases attended enabled with shown | restarting | clearing
    · exact shown
    · exact absurd quiet.1 (Nat.ne_of_gt restarting)
    · exact absurd quiet.2.1 (Nat.ne_of_gt clearing)

/-- In any order of steps, also those that drop a start. -/
theorem renderSystem_counted (reached : renderSystem.Reached state) :
    state.Counted := by
  apply TransitionSystem.Reached.invariant RenderState.Counted _ _ reached
  · rintro _ ⟨vberegs, rfl⟩
    exact initial_counted vberegs
  · exact fun _ _ _ counted acted => counted.step acted

/-- A dropped start is lost as soon as the old thread has ended. -/
theorem DropsStart.lost {index : Nat} (counted : state.Counted)
    (drops : DropsStart state .restart)
    (here : state.threads[index]? = some .leaving) :
    ¬(storeEol (startVgaThread state) index).Served := by
  obtain ⟨_, enabled, leaving, restarting, clearing⟩ := drops
  have running : state.vgaThreadStatus ≠ .eol := by
    intro ended
    rw [RenderState.Counted, ended] at counted
    exact absurd rfl (List.countP_eq_zero.mp counted _ leaving)
  have started : startVgaThread state =
      { state with restarting := state.restarting - 1 } := if_neg running
  have dead : (state.threads.set index .ended).countP
      RenderPhase.live = 0 := counted.kept_by_ending here
  have unrendering : ∀ phase ∈ state.threads.set index .ended,
      ¬phase.live = true := List.countP_eq_zero.mp dead
  rw [started]
  intro served
  have quiet : RenderState.Quiet (storeEol
      { state with restarting := state.restarting - 1 } index) := by
    refine ⟨?_, clearing, fun member => unrendering _ member rfl⟩
    show state.restarting - 1 = 0
    rw [restarting]
  exact unrendering _ (served.shown quiet enabled) rfl

end Render

/-- In linear-framebuffer mode, with no start dropped. -/
theorem renderSystem_served {state : RenderState}
    (reached : renderSystem.ReachedWhere (fun before label =>
      before.vga.vgamode = false ∧ ¬DropsStart before label) state) :
    state.Served := by
  have both : state.Counted ∧ state.Attended := by
    apply TransitionSystem.ReachedWhere.invariant
      (fun state => state.Counted ∧ state.Attended) _ _ reached
    · rintro _ ⟨vberegs, rfl⟩
      exact ⟨initial_counted vberegs, initial_attended vberegs⟩
    · intro before label after holds allowed acted
      exact ⟨holds.1.step acted,
        holds.2.step holds.1 allowed.1 allowed.2 acted⟩
  exact both.2.served both.1

/-- A scanout command stops the thread, and a VBE write starts another. -/
theorem renderSystem_served_again :
    ∃ state, renderSystem.ReachedWhere (fun before label =>
        before.vga.vgamode = false ∧ ¬DropsStart before label) state ∧
      state.threads = [.ended, .rendering] ∧ state.Served := by
  obtain ⟨state, reached, checked⟩ :=
    @TransitionSystem.exists_reachedWhere _ _ renderSystem
      (fun before label =>
        before.vga.vgamode = false ∧ ¬DropsStart before label) _
      renderAct (.initial Memory.zero)
      [.testScanout, .clearScanout, .threadTest 0, .threadEnd 0,
        .vbeWrite 4 2 1, .restart, .threadTest 1]
      (fun state => state.threads == [.ended, .rendering])
      (fun acted => acted) ⟨Memory.zero, rfl⟩ (by decide)
  exact ⟨state, reached, eq_of_beq checked, renderSystem_served reached⟩

/-- The thread has found the flag cleared, but is still there when a reset
asks for one. -/
theorem droppedStart_unserved :
    ∃ state, renderSystem.ReachedWhere
        (fun before _ => before.vga.vgamode = false) state ∧
      state.Quiet ∧ state.vga.enable = true ∧ ¬state.Served := by
  obtain ⟨state, reached, checked⟩ :=
    @TransitionSystem.exists_reachedWhere _ _ renderSystem
      (fun before _ => before.vga.vgamode = false) _
      renderAct (.initial Memory.zero)
      [.testScanout, .clearScanout, .threadTest 0, .reset, .restart,
        .threadEnd 0]
      (fun state => decide (state.vga.enable = true ∧
        state.restarting = 0 ∧ state.clearing = 0 ∧
        state.threads = [.ended]))
      (fun acted => acted) ⟨Memory.zero, rfl⟩ (by decide)
  obtain ⟨enabled, restarting, clearing, threads⟩ := of_decide_eq_true checked
  have quiet : state.Quiet := by
    refine ⟨restarting, clearing, ?_⟩
    rw [threads]
    decide
  refine ⟨state, reached, quiet, enabled, fun served => ?_⟩
  have shown := served.shown quiet enabled
  rw [threads] at shown
  revert shown
  decide

end VirtioGpu.Gpu
