import VirtioGpu.Backend.Doorbell
import VirtioGpu.Foundation.Worklist

namespace VirtioGpu.Vdpy

open Foundation
open Gpu (Fault)

/-! The bottom halves of the display thread: submitters and the timer put them
on `request_list`, the thread runs them.  Every section under `vdisplay_mutex`
is one step. -/

def acrnBhPending : Nat := 1 <<< 0

def acrnBhDone : Nat := 1 <<< 1

def acrnBhFree : Nat := 1 <<< 2

/-- Where the display thread stands between two sections: before it locks the
mutex, or in `pthread_cond_wait` without or with a signal. -/
inductive DisplayThread where
  | polling
  | waiting
  | signalled
  deriving Repr, DecidableEq

/-- `bhFlags` holds the `bh_flag` of every allocated `vdpy_display_bh`, by its
address; `accepted` and `ran` record the submissions that put a bottom half on
the list and the callbacks. -/
structure Display where
  bhFlags : Nat → Option Nat
  requestList : List Nat
  uiTimerBh : Nat
  isActive : Bool
  nConnect : Nat
  thread : DisplayThread
  accepted : List Nat
  ran : List Nat

def loadFlag (bhFlags : Nat → Option Nat) (bh : Nat) : Except Fault Nat :=
  match bhFlags bh with
  | none => .error .useAfterFree
  | some flag => .ok flag

/-- The neighbour on the list whose link a list operation writes. -/
def touch (bhFlags : Nat → Option Nat) : Option Nat → Except Fault Unit
  | none => .ok ()
  | some bh => do
      let _ ← loadFlag bhFlags bh
      return ()

def tailqInsertTail (display : Display) (bh : Nat) :
    Except Fault Display := do
  touch display.bhFlags display.requestList.getLast?
  return { display with
    requestList := display.requestList ++ [bh]
    accepted := display.accepted ++ [bh] }

/-- `pthread_cond_signal` wakes a thread that waits. -/
def DisplayThread.signal : DisplayThread → DisplayThread
  | .polling => .polling
  | .waiting | .signalled => .signalled

def Display.signal (display : Display) : Display :=
  { display with thread := display.thread.signal }

/-- The section that `vdpy_submit_bh` and the timer share. -/
def submitSection (display : Display) (bh : Nat) :
    Except Fault (Display × Bool) := do
  let flag ← loadFlag display.bhFlags bh
  if flag &&& acrnBhPending = 0 then
    let bhFlags :=
      Function.update display.bhFlags bh (some (flag ||| acrnBhPending))
    let marked := { display with bhFlags := bhFlags }
    let inserted ← tailqInsertTail marked bh
    return (inserted.signal, true)
  else
    return (display.signal, false)

def vdpySubmitBh (display : Display) (handle bh : Nat) :
    Except Fault (Display × Bool) :=
  if handle ≠ display.nConnect then .ok (display, false)
  else if !display.isActive then .ok (display, false)
  else submitSection display bh

/-- `locked` when `pthread_mutex_trylock` fails. -/
def vdpySdlUiTimer (display : Display) (locked : Bool) :
    Except Fault Display :=
  if locked then
    .ok display
  else do
    let submitted ← submitSection display display.uiTimerBh
    return submitted.1

/-- A bottom half after its callback: freed, or left to its submitter. -/
def afterRun (flag : Nat) : Option Nat :=
  if flag &&& acrnBhFree ≠ 0 then none else some acrnBhDone

/-- The loop of the display thread; a callback submits nothing, so the list
holds at the end of the loop what it held at its start. -/
def runRequests (bhFlags : Nat → Option Nat) :
    List Nat → Except Fault (Nat → Option Nat)
  | [] => .ok bhFlags
  | bh :: rest => do
      touch bhFlags (some bh)
      touch bhFlags rest.head?
      let flag ← loadFlag bhFlags bh
      runRequests (Function.update bhFlags bh (afterRun flag)) rest

/-- One section of `vdpy_sdl_display_thread`. -/
def displayIteration (display : Display) : Except Fault Display :=
  match display.thread, display.requestList with
  | .waiting, _ => .ok display
  | .polling, [] =>
      if display.isActive then .ok { display with thread := .waiting }
      else .ok display
  | _, requests => do
      let bhFlags ← runRequests display.bhFlags requests
      return { display with
        bhFlags := bhFlags
        requestList := []
        ran := display.ran ++ requests
        thread := .polling }

/-- What the parties do: a submitter allocates a bottom half or submits one,
the timer expires, the display thread runs on or wakes up unasked. -/
inductive Section where
  | create (bh flag : Nat)
  | submit (handle bh : Nat)
  | timer (locked : Bool)
  | iterate
  | wake

inductive SectionStep (before : Display) : Section → Display → Prop
  | create {bh flag : Nat} (unused : before.bhFlags bh = none)
      (idle : flag &&& acrnBhPending = 0) :
      SectionStep before (.create bh flag)
        { before with bhFlags := Function.update before.bhFlags bh (some flag) }
  | submit {handle bh : Nat} {after : Display} {accepted : Bool}
      (ran : vdpySubmitBh before handle bh = .ok (after, accepted)) :
      SectionStep before (.submit handle bh) after
  | timer {locked : Bool} {after : Display}
      (ran : vdpySdlUiTimer before locked = .ok after) :
      SectionStep before (.timer locked) after
  | iterate {after : Display} (ran : displayIteration before = .ok after) :
      SectionStep before .iterate after
  | wake (waiting : before.thread = .waiting) :
      SectionStep before .wake { before with thread := .signalled }

/-- The display is active; no bottom half is submitted yet. -/
def bottomHalves : TransitionSystem Display Section where
  initial := fun display => display.requestList = [] ∧
    display.accepted = [] ∧ display.ran = [] ∧ display.isActive = true ∧
    display.thread = .polling ∧ display.bhFlags display.uiTimerBh = some 0 ∧
    ∀ bh flag, display.bhFlags bh = some flag → flag &&& acrnBhPending = 0
  step := SectionStep

/-! Memory accesses. -/

theorem loadFlag_of_some {bhFlags : Nat → Option Nat} {bh flag : Nat}
    (allocated : bhFlags bh = some flag) : loadFlag bhFlags bh = .ok flag := by
  unfold loadFlag
  rw [allocated]

theorem touch_ok {bhFlags : Nat → Option Nat} {other : Option Nat}
    (live : ∀ bh, other = some bh → bhFlags bh ≠ none) :
    touch bhFlags other = .ok () := by
  cases other with
  | none => rfl
  | some bh =>
      obtain ⟨flag, allocated⟩ := Option.ne_none_iff_exists'.mp (live bh rfl)
      unfold touch
      dsimp only
      rw [loadFlag_of_some allocated]
      rfl

/-! The list and the flags. -/

def Display.work (display : Display) : Worklist Nat :=
  ⟨display.accepted, display.ran, display.requestList⟩

/-- The bottom half is allocated and its flag says that it is pending. -/
def IsPending (bhFlags : Nat → Option Nat) (bh : Nat) : Prop :=
  ∃ flag, bhFlags bh = some flag ∧ flag &&& acrnBhPending ≠ 0

theorem isPending_iff {bhFlags : Nat → Option Nat} {bh flag : Nat}
    (allocated : bhFlags bh = some flag) :
    IsPending bhFlags bh ↔ flag &&& acrnBhPending ≠ 0 := by
  unfold IsPending
  rw [allocated]
  simp

theorem isPending_update_of_ne {bhFlags : Nat → Option Nat} {bh other : Nat}
    (flag : Option Nat) (different : other ≠ bh) :
    IsPending (Function.update bhFlags bh flag) other ↔
      IsPending bhFlags other := by
  unfold IsPending
  rw [Function.update_of_ne different]

theorem or_pending (flag : Nat) :
    (flag ||| acrnBhPending) &&& acrnBhPending ≠ 0 := by
  rw [Nat.and_or_distrib_right]
  intro zero
  have both := Nat.or_eq_zero_iff.mp zero
  exact absurd both.2 (by decide)

theorem or_pending_free (flag : Nat) :
    (flag ||| acrnBhPending) &&& acrnBhFree = flag &&& acrnBhFree := by
  rw [Nat.and_or_distrib_right]
  exact Nat.or_zero _

structure Sound (display : Display) : Prop where
  work : display.work.Sound
  listed : ∀ bh, bh ∈ display.requestList ↔ IsPending display.bhFlags bh
  timer : ∃ flag, display.bhFlags display.uiTimerBh = some flag ∧
    flag &&& acrnBhFree = 0
  awake : display.requestList ≠ [] → display.thread ≠ .waiting
  active : display.isActive = true

theorem Sound.live {display : Display} (sound : Sound display) {bh : Nat}
    (member : bh ∈ display.requestList) : display.bhFlags bh ≠ none := by
  obtain ⟨flag, allocated, _⟩ := (sound.listed bh).mp member
  rw [allocated]
  exact Option.some_ne_none flag

theorem DisplayThread.signal_ne_waiting (thread : DisplayThread) :
    thread.signal ≠ .waiting := by
  cases thread with
  | polling | waiting | signalled => decide

/-- What a submission of an allocated bottom half does. -/
inductive Submission (display : Display) (bh flag : Nat) :
    Display → Bool → Prop
  | repeated (present : bh ∈ display.requestList) :
      Submission display bh flag display.signal false
  | inserted (absent : bh ∉ display.requestList) :
      Submission display bh flag
        { display with
          bhFlags := Function.update display.bhFlags bh
            (some (flag ||| acrnBhPending))
          requestList := display.requestList ++ [bh]
          accepted := display.accepted ++ [bh] }.signal true

theorem submitSection_submission {display : Display} (sound : Sound display)
    {bh flag : Nat} (allocated : display.bhFlags bh = some flag) :
    Returns (submitSection display bh) fun submitted =>
      Submission display bh flag submitted.1 submitted.2 := by
  have listed := (sound.listed bh).trans (isPending_iff allocated)
  unfold submitSection
  rw [loadFlag_of_some allocated]
  by_cases pending : flag &&& acrnBhPending = 0
  · have absent : bh ∉ display.requestList := by
      rw [listed]
      exact not_not_intro pending
    have last : touch (Function.update display.bhFlags bh
        (some (flag ||| acrnBhPending))) display.requestList.getLast? =
          .ok () := by
      apply touch_ok
      intro other final
      have member := List.mem_of_getLast? final
      have different : other ≠ bh := by
        rintro rfl
        exact absent member
      rw [Function.update_of_ne different]
      exact sound.live member
    refine ⟨(_, true), ?_, .inserted absent⟩
    show (if flag &&& acrnBhPending = 0 then _ else _) = _
    rw [if_pos pending]
    unfold tailqInsertTail
    rw [last]
    rfl
  · refine ⟨(_, false), ?_, .repeated (listed.mpr pending)⟩
    show (if flag &&& acrnBhPending = 0 then _ else _) = _
    rw [if_neg pending]
    rfl

namespace Submission

variable {display after : Display} {bh flag : Nat} {accepted : Bool}

theorem work (submission : Submission display bh flag after accepted) :
    after.work = display.work.submit bh := by
  unfold Worklist.submit
  cases submission with
  | repeated present =>
      rw [if_pos (show bh ∈ display.work.waiting from present)]
      rfl
  | inserted absent =>
      rw [if_neg (show bh ∉ display.work.waiting from absent)]
      rfl

theorem accepted_iff (submission : Submission display bh flag after accepted) :
    accepted = true ↔ bh ∉ display.requestList := by
  cases submission with
  | repeated present => simp [present]
  | inserted absent => simp [absent]

theorem sound (submission : Submission display bh flag after accepted)
    (sound : Sound display) (allocated : display.bhFlags bh = some flag) :
    Sound after := by
  have work := sound.work.kept_by_submit bh
  rw [← submission.work] at work
  cases submission with
  | repeated present =>
      exact ⟨work, sound.listed, sound.timer,
        fun _ => DisplayThread.signal_ne_waiting _, sound.active⟩
  | inserted absent =>
      refine ⟨work, fun other => ?_, ?_,
        fun _ => DisplayThread.signal_ne_waiting _, sound.active⟩
      · show other ∈ display.requestList ++ [bh] ↔ IsPending
          (Function.update display.bhFlags bh
            (some (flag ||| acrnBhPending))) other
        by_cases same : other = bh
        · rw [same, isPending_iff (Function.update_self _ _ _)]
          simp [or_pending]
        · rw [isPending_update_of_ne _ same, ← sound.listed]
          simp [same]
      · obtain ⟨timerFlag, timer, kept⟩ := sound.timer
        show ∃ flag', Function.update display.bhFlags bh
          (some (flag ||| acrnBhPending)) display.uiTimerBh = some flag' ∧ _
        by_cases same : display.uiTimerBh = bh
        · refine ⟨flag ||| acrnBhPending, ?_, ?_⟩
          · rw [same, Function.update_self]
          · rw [same] at timer
            have equal := Option.some.inj (timer.symm.trans allocated)
            rw [or_pending_free, ← equal]
            exact kept
        · refine ⟨timerFlag, ?_, kept⟩
          rw [Function.update_of_ne same]
          exact timer

end Submission

/-! The display thread. -/

theorem afterRun_not_pending {flag remaining : Nat}
    (after : afterRun flag = some remaining) :
    remaining &&& acrnBhPending = 0 := by
  unfold afterRun at after
  split at after
  · cases after
  · cases after
    rfl

theorem runRequests_returns {bhFlags : Nat → Option Nat}
    {requests : List Nat}
    (live : ∀ bh, bh ∈ requests → bhFlags bh ≠ none)
    (once : requests.Nodup) :
    Returns (runRequests bhFlags requests) fun after =>
      ∀ bh, after bh =
        if bh ∈ requests then (bhFlags bh).bind afterRun
        else bhFlags bh := by
  induction requests generalizing bhFlags with
  | nil => exact ⟨bhFlags, rfl, fun bh => by simp⟩
  | cons bh rest induction =>
      obtain ⟨absent, later⟩ := List.nodup_cons.mp once
      obtain ⟨flag, allocated⟩ :=
        Option.ne_none_iff_exists'.mp (live bh List.mem_cons_self)
      have self : touch bhFlags (some bh) = .ok () := by
        apply touch_ok
        rintro other ⟨⟩
        exact live bh List.mem_cons_self
      have next : touch bhFlags rest.head? = .ok () := by
        apply touch_ok
        intro other first
        exact live other (List.mem_cons_of_mem _ (List.mem_of_head? first))
      have others : ∀ other, other ∈ rest → Function.update bhFlags bh
          (afterRun flag) other = bhFlags other := by
        intro other member
        apply Function.update_of_ne
        rintro rfl
        exact absent member
      obtain ⟨after, ran, flags⟩ :=
        @induction (Function.update bhFlags bh (afterRun flag))
          (fun other member => by
            rw [others other member]
            exact live other (List.mem_cons_of_mem _ member)) later
      refine ⟨after, ?_, fun other => ?_⟩
      · unfold runRequests
        rw [self, next, loadFlag_of_some allocated]
        exact ran
      · rw [flags]
        by_cases same : other = bh
        · rw [same, if_neg absent, Function.update_self,
            if_pos List.mem_cons_self, allocated]
          rfl
        · rw [Function.update_of_ne same]
          simp [same]

/-- What a section of the display thread does. -/
inductive Iteration (display : Display) : Display → Prop
  | blocked (waiting : display.thread = .waiting) : Iteration display display
  | slept (empty : display.requestList = []) :
      Iteration display { display with thread := .waiting }
  | drained {bhFlags : Nat → Option Nat}
      (flags : ∀ bh, bhFlags bh =
        if bh ∈ display.requestList then (display.bhFlags bh).bind afterRun
        else display.bhFlags bh) :
      Iteration display
        { display with
          bhFlags := bhFlags
          requestList := []
          ran := display.ran ++ display.requestList
          thread := .polling }

theorem displayIteration_iteration {display : Display}
    (sound : Sound display) :
    Returns (displayIteration display) (Iteration display) := by
  obtain ⟨bhFlags, ran, flags⟩ :=
    runRequests_returns (fun bh => sound.live) sound.work.once
  unfold displayIteration
  cases thread : display.thread with
  | waiting => exact ⟨display, rfl, .blocked thread⟩
  | polling =>
      cases requests : display.requestList with
      | nil =>
          refine ⟨_, ?_, .slept requests⟩
          dsimp only
          rw [if_pos sound.active, requests]
      | cons bh rest =>
          refine ⟨_, ?_, .drained flags⟩
          have served : runRequests display.bhFlags (bh :: rest) =
              .ok bhFlags := by
            rw [← requests]
            exact ran
          dsimp only
          rw [served, requests]
          rfl
  | signalled =>
      refine ⟨_, ?_, .drained flags⟩
      have served : runRequests display.bhFlags display.requestList =
          .ok bhFlags := ran
      dsimp only
      rw [served]
      rfl

namespace Iteration

variable {display after : Display}

theorem sound (iteration : Iteration display after) (sound : Sound display) :
    Sound after := by
  cases iteration with
  | blocked waiting => exact sound
  | slept empty =>
      exact ⟨sound.work, sound.listed, sound.timer,
        fun more => absurd empty more, sound.active⟩
  | drained flags =>
      refine ⟨sound.work.kept_by_drain, fun bh => ?_, ?_,
        fun more => absurd rfl more, sound.active⟩
      · refine iff_of_false List.not_mem_nil ?_
        rintro ⟨flag, allocated, pending⟩
        have equal := (flags bh).symm.trans allocated
        split at equal
        · obtain ⟨flag, _, after⟩ := Option.bind_eq_some_iff.mp equal
          exact pending (afterRun_not_pending after)
        · rename_i absent
          exact absent ((sound.listed bh).mpr ⟨flag, equal, pending⟩)
      · obtain ⟨flag, timer, kept⟩ := sound.timer
        have after := flags display.uiTimerBh
        rw [timer] at after
        split at after
        · refine ⟨acrnBhDone, ?_, by decide⟩
          refine after.trans ?_
          show afterRun flag = _
          unfold afterRun
          rw [if_neg (not_not_intro kept)]
        · exact ⟨flag, after, kept⟩

/-- A thread that does not wait runs the whole list. -/
theorem runs_all (iteration : Iteration display after)
    (awake : display.thread ≠ .waiting) (more : display.requestList ≠ []) :
    after.work = display.work.drain ∧
      ∀ bh flag, bh ∈ display.requestList → display.bhFlags bh = some flag →
        after.bhFlags bh = afterRun flag := by
  cases iteration with
  | blocked waiting => exact absurd waiting awake
  | slept empty => exact absurd empty more
  | drained flags =>
      refine ⟨rfl, fun bh flag member allocated => ?_⟩
      refine (flags bh).trans ?_
      rw [if_pos member, allocated]
      rfl

theorem unallocated (iteration : Iteration display after) {bh : Nat}
    (free : display.bhFlags bh = none) : after.bhFlags bh = none := by
  cases iteration with
  | blocked | slept => exact free
  | drained flags =>
      refine (flags bh).trans ?_
      rw [free]
      split
      · rfl
      · rfl

theorem grows (iteration : Iteration display after) :
    display.accepted <+: after.accepted ∧ display.ran <+: after.ran := by
  cases iteration with
  | blocked | slept => exact ⟨List.prefix_refl _, List.prefix_refl _⟩
  | drained flags => exact ⟨List.prefix_refl _, List.prefix_append _ _⟩

end Iteration

/-! Steps. -/

theorem Submission.grows {display after : Display} {bh flag : Nat}
    {accepted : Bool} (submission : Submission display bh flag after accepted) :
    display.accepted <+: after.accepted ∧ display.ran <+: after.ran := by
  cases submission with
  | repeated => exact ⟨List.prefix_refl _, List.prefix_refl _⟩
  | inserted => exact ⟨List.prefix_append _ _, List.prefix_refl _⟩

theorem Submission.unallocated {display after : Display}
    {bh other flag : Nat} {accepted : Bool}
    (submission : Submission display bh flag after accepted)
    (allocated : display.bhFlags bh = some flag)
    (free : display.bhFlags other = none) : after.bhFlags other = none := by
  cases submission with
  | repeated => exact free
  | inserted =>
      have different : other ≠ bh := by
        rintro rfl
        rw [allocated] at free
        cases free
      exact (Function.update_of_ne different _ _).trans free

theorem vdpySubmitBh_current {display : Display} (sound : Sound display)
    (bh : Nat) :
    vdpySubmitBh display display.nConnect bh = submitSection display bh := by
  unfold vdpySubmitBh
  rw [if_neg (not_not_intro rfl), sound.active]
  rfl

theorem vdpySubmitBh_eq_ok {display after : Display} {handle bh : Nat}
    {accepted : Bool} (sound : Sound display)
    (ran : vdpySubmitBh display handle bh = .ok (after, accepted)) :
    handle ≠ display.nConnect ∧ after = display ∨
      ∃ flag, display.bhFlags bh = some flag ∧
        Submission display bh flag after accepted := by
  by_cases current : handle = display.nConnect
  · rw [current, vdpySubmitBh_current sound] at ran
    cases allocated : display.bhFlags bh with
    | none =>
        unfold submitSection loadFlag at ran
        rw [allocated] at ran
        cases ran
    | some flag =>
        obtain ⟨submitted, same, submission⟩ :=
          submitSection_submission sound allocated
        cases same.symm.trans ran
        exact .inr ⟨flag, rfl, submission⟩
  · unfold vdpySubmitBh at ran
    rw [if_pos current] at ran
    cases ran
    exact .inl ⟨current, rfl⟩

/-- What a step does; every access is to an allocated bottom half. -/
inductive Change (display : Display) : Section → Display → Prop
  | kept {label : Section} : Change display label display
  | created {bh flag : Nat} (unused : display.bhFlags bh = none)
      (idle : flag &&& acrnBhPending = 0) :
      Change display (.create bh flag)
        { display with
          bhFlags := Function.update display.bhFlags bh (some flag) }
  | submitted {label : Section} {bh flag : Nat} {after : Display}
      {accepted : Bool} (allocated : display.bhFlags bh = some flag)
      (submission : Submission display bh flag after accepted) :
      Change display label after
  | iterated {after : Display} (iteration : Iteration display after) :
      Change display .iterate after
  | woken : Change display .wake { display with thread := .signalled }

theorem SectionStep.change {display after : Display} {label : Section}
    (sound : Sound display) (stepped : SectionStep display label after) :
    Change display label after := by
  cases stepped with
  | create unused idle => exact .created unused idle
  | submit ran =>
      rcases vdpySubmitBh_eq_ok sound ran with
        ⟨_, rfl⟩ | ⟨flag, allocated, submission⟩
      · exact .kept
      · exact .submitted allocated submission
  | @timer locked after ran =>
      obtain ⟨flag, timer, _⟩ := sound.timer
      obtain ⟨submitted, same, submission⟩ :=
        submitSection_submission sound timer
      cases locked with
      | true =>
          cases ran
          exact .kept
      | false =>
          unfold vdpySdlUiTimer at ran
          rw [same] at ran
          cases ran
          exact .submitted timer submission
  | iterate ran =>
      obtain ⟨after, same, iteration⟩ := displayIteration_iteration sound
      cases same.symm.trans ran
      exact .iterated iteration
  | wake waiting => exact .woken

namespace Change

variable {display after : Display} {label : Section}

theorem sound (change : Change display label after) (sound : Sound display) :
    Sound after := by
  cases change with
  | kept => exact sound
  | @created bh flag unused idle =>
      refine ⟨sound.work, fun other => ?_, ?_, sound.awake, sound.active⟩
      · show other ∈ display.requestList ↔
          IsPending (Function.update display.bhFlags bh (some flag)) other
        by_cases same : other = bh
        · rw [same, isPending_iff (Function.update_self _ _ _)]
          refine iff_of_false (fun member => sound.live member unused) ?_
          exact not_not_intro idle
        · rw [isPending_update_of_ne _ same, sound.listed]
      · obtain ⟨timerFlag, timer, kept⟩ := sound.timer
        refine ⟨timerFlag, ?_, kept⟩
        refine (Function.update_of_ne ?_ _ _).trans timer
        intro same
        rw [same, unused] at timer
        cases timer
  | submitted allocated submission =>
      exact submission.sound sound allocated
  | iterated iteration => exact iteration.sound sound
  | woken =>
      exact ⟨sound.work, sound.listed, sound.timer,
        fun _ => DisplayThread.noConfusion, sound.active⟩

theorem grows (change : Change display label after) :
    display.accepted <+: after.accepted ∧ display.ran <+: after.ran := by
  cases change with
  | kept | created | woken =>
      exact ⟨List.prefix_refl _, List.prefix_refl _⟩
  | submitted allocated submission => exact submission.grows
  | iterated iteration => exact iteration.grows

theorem unallocated (change : Change display label after) {bh : Nat}
    (free : display.bhFlags bh = none)
    (fresh : ∀ flag, label ≠ .create bh flag) : after.bhFlags bh = none := by
  cases change with
  | kept | woken => exact free
  | created unused idle =>
      refine (Function.update_of_ne ?_ _ _).trans free
      rintro rfl
      exact fresh _ rfl
  | submitted allocated submission =>
      exact submission.unallocated allocated free
  | iterated iteration => exact iteration.unallocated free

end Change

/-! Runs. -/

theorem reached_sound {display : Display}
    (reached : bottomHalves.Reached display) : Sound display := by
  refine reached.invariant Sound ?_ ?_
  · rintro start ⟨empty, accepted, ran, active, thread, timer, idle⟩
    refine ⟨⟨?_, ?_⟩, fun bh => ?_, ⟨0, timer, rfl⟩, ?_, active⟩
    · show start.accepted = start.ran ++ start.requestList
      rw [accepted, ran, empty]
      rfl
    · show start.requestList.Nodup
      rw [empty]
      exact List.nodup_nil
    · rw [empty]
      refine iff_of_false List.not_mem_nil ?_
      rintro ⟨flag, allocated, pending⟩
      exact pending (idle bh flag allocated)
    · exact fun more => absurd empty more
  · intro before label after sound stepped
    exact (SectionStep.change sound stepped).sound sound

/-- No kick is lost and none is run twice.  The fields from `submitted` on are
about the next section; every section of the timer and of the display thread
returns, so none of them meets freed memory. -/
structure KicksKept (display : Display) : Prop where
  listed : ∀ bh, bh ∈ display.requestList ↔ IsPending display.bhFlags bh
  once : display.requestList.Nodup
  inOrder : display.accepted = display.ran ++ display.requestList
  counted : ∀ bh, display.accepted.count bh =
    display.ran.count bh + if bh ∈ display.requestList then 1 else 0
  awake : display.requestList ≠ [] → display.thread ≠ .waiting
  submitted : ∀ bh, display.bhFlags bh ≠ none →
    Returns (vdpySubmitBh display display.nConnect bh) fun result =>
      (result.2 = true ↔ bh ∉ display.requestList) ∧
        result.1.accepted =
          display.accepted ++ (if result.2 = true then [bh] else []) ∧
        result.1.ran = display.ran ∧ bh ∈ result.1.requestList
  expired : ∀ locked, Returns (vdpySdlUiTimer display locked) fun after =>
    locked = false → display.uiTimerBh ∈ after.requestList
  iterated : Returns (displayIteration display) fun after =>
    display.requestList ≠ [] →
      after.requestList = [] ∧
        after.ran = display.ran ++ display.requestList ∧
        ∀ bh flag, bh ∈ display.requestList →
          display.bhFlags bh = some flag → flag &&& acrnBhFree ≠ 0 →
          after.bhFlags bh = none
  histories : ∀ label after, bottomHalves.step display label after →
    display.accepted <+: after.accepted ∧ display.ran <+: after.ran
  untouched : ∀ label after, bottomHalves.step display label after →
    ∀ bh, display.bhFlags bh = none → (∀ flag, label ≠ .create bh flag) →
      after.bhFlags bh = none ∧ bh ∉ after.requestList

theorem Sound.kicksKept {display : Display} (sound : Sound display) :
    KicksKept display where
  listed := sound.listed
  once := sound.work.once
  inOrder := sound.work.inOrder
  counted := sound.work.count
  awake := sound.awake
  submitted := by
    intro bh live
    obtain ⟨flag, allocated⟩ := Option.ne_none_iff_exists'.mp live
    obtain ⟨⟨after, accepted⟩, ran, submission⟩ :=
      submitSection_submission sound allocated
    have work := submission.work
    have listed : after.requestList = (display.work.submit bh).waiting :=
      congrArg Worklist.waiting work
    refine ⟨(after, accepted), (vdpySubmitBh_current sound bh).trans ran,
      submission.accepted_iff, ?_, ?_, ?_⟩
    · refine (congrArg Worklist.accepted work).trans ?_
      rw [Worklist.accepted_submit]
      cases submission with
      | repeated present =>
          rw [if_pos (show bh ∈ display.work.waiting from present)]
          rfl
      | inserted absent =>
          rw [if_neg (show bh ∉ display.work.waiting from absent)]
          rfl
    · exact (congrArg Worklist.served work).trans
        (Worklist.served_submit _ bh)
    · dsimp only
      rw [listed]
      exact Worklist.mem_submit _ bh
  expired := by
    intro locked
    obtain ⟨flag, timer, _⟩ := sound.timer
    cases locked with
    | true => exact ⟨display, rfl, fun unlocked => by cases unlocked⟩
    | false =>
        obtain ⟨⟨after, accepted⟩, ran, submission⟩ :=
          submitSection_submission sound timer
        refine ⟨after, ?_, fun _ => ?_⟩
        · unfold vdpySdlUiTimer
          rw [ran]
          rfl
        · have listed := congrArg Worklist.waiting submission.work
          have member := Worklist.mem_submit display.work display.uiTimerBh
          rw [← listed] at member
          exact member
  iterated := by
    obtain ⟨after, ran, iteration⟩ := displayIteration_iteration sound
    refine ⟨after, ran, fun more => ?_⟩
    obtain ⟨work, flags⟩ := iteration.runs_all (sound.awake more) more
    refine ⟨congrArg Worklist.waiting work, congrArg Worklist.served work,
      fun bh flag member allocated free => ?_⟩
    rw [flags bh flag member allocated]
    exact if_pos free
  histories := fun _ _ stepped => (SectionStep.change sound stepped).grows
  untouched := by
    intro label after stepped bh free fresh
    have change := SectionStep.change sound stepped
    have still := change.unallocated free fresh
    exact ⟨still, fun member => (change.sound sound).live member still⟩

/-- Whatever the interleaving, no kick is lost and none is run twice. -/
theorem reached_kicksKept {display : Display}
    (reached : bottomHalves.Reached display) : KicksKept display :=
  (reached_sound reached).kicksKept

/-! Concrete runs. -/

def performSection (display : Display) : Section → Option Display
  | .create bh flag =>
      if display.bhFlags bh = none ∧ flag &&& acrnBhPending = 0 then
        some { display with
          bhFlags := Function.update display.bhFlags bh (some flag) }
      else
        none
  | .submit handle bh =>
      (vdpySubmitBh display handle bh).toOption.map Prod.fst
  | .timer locked => (vdpySdlUiTimer display locked).toOption
  | .iterate => (displayIteration display).toOption
  | .wake =>
      if display.thread = .waiting then
        some { display with thread := .signalled }
      else
        none

theorem performSection_step {display after : Display} {label : Section}
    (performed : performSection display label = some after) :
    SectionStep display label after := by
  cases label with
  | create bh flag =>
      unfold performSection at performed
      dsimp only at performed
      split at performed
      · rename_i both
        cases performed
        exact .create both.1 both.2
      · cases performed
  | submit handle bh =>
      obtain ⟨⟨next, accepted⟩, ran, rfl⟩ :=
        Option.map_eq_some_iff.mp performed
      exact .submit (ok_of_toOption ran)
  | timer locked => exact .timer (ok_of_toOption performed)
  | iterate => exact .iterate (ok_of_toOption performed)
  | wake =>
      unfold performSection at performed
      dsimp only at performed
      split at performed
      · rename_i waiting
        cases performed
        exact .wake waiting
      · cases performed

/-- The timer has the address 0, two bottom halves of the device the addresses
1 and 2. -/
def freshDisplay : Display where
  bhFlags := fun bh => if bh < 3 then some 0 else none
  requestList := []
  uiTimerBh := 0
  isActive := true
  nConnect := 1
  thread := .polling
  accepted := []
  ran := []

theorem freshDisplay_initial : bottomHalves.initial freshDisplay := by
  refine ⟨rfl, rfl, rfl, rfl, rfl, rfl, fun bh flag allocated => ?_⟩
  change (if bh < 3 then some 0 else none) = some flag at allocated
  split at allocated
  · cases allocated
    rfl
  · cases allocated

/-- A kick repeated while it is pending and one that comes later, beside a
bottom half that is freed. -/
theorem repeated_kicks_kept :
    ∃ display, bottomHalves.Reached display ∧ display.ran = [2, 3, 0] ∧
      display.requestList = [2] ∧ display.bhFlags 3 = none ∧
      KicksKept display := by
  obtain ⟨display, performed, checked⟩ := (Option.any_eq_true _ _).mp
    (show ([Section.iterate, .submit 1 2, .create 3 acrnBhFree, .submit 1 3,
        .submit 1 2, .timer false, .iterate, .timer true,
          .submit 1 2].foldlM performSection freshDisplay).any
            (fun display => decide (display.ran = [2, 3, 0]) &&
              decide (display.requestList = [2]) &&
              decide (display.bhFlags 3 = none)) = true
      by decide)
  simp only [Bool.and_eq_true, decide_eq_true_eq] at checked
  have reached : bottomHalves.Reached display :=
    TransitionSystem.ReachedWhere.foldlM
      (fun reached here => .step reached trivial (performSection_step here))
      (.initial freshDisplay_initial) performed
  exact ⟨display, reached, checked.1.1, checked.1.2, checked.2,
    reached_kicksKept reached⟩

/-! The requests of the device, among those of the display. -/

/-- A submission does to the bottom halves of the two queues what the model of
the device's threads says. -/
theorem vdpySubmitBh_requests {display after : Display} {bh : Nat}
    {accepted : Bool} (sound : Sound display)
    (queueOf : Nat → Option Virtio.Queue) {queue : Virtio.Queue}
    (owner : ∀ other, queueOf other = some queue ↔ other = bh)
    (ran : vdpySubmitBh display display.nConnect bh = .ok (after, accepted)) :
    after.requestList.filterMap queueOf =
      Backend.vdpySubmitBh true (display.requestList.filterMap queueOf)
        queue := by
  have member : queue ∈ display.requestList.filterMap queueOf ↔
      bh ∈ display.requestList := by
    rw [List.mem_filterMap]
    constructor
    · rintro ⟨other, listed, same⟩
      rw [← (owner other).mp same]
      exact listed
    · exact fun listed => ⟨bh, listed, (owner bh).mpr rfl⟩
  rcases vdpySubmitBh_eq_ok sound ran with
    ⟨wrong, _⟩ | ⟨flag, allocated, submission⟩
  · exact absurd rfl wrong
  · unfold Backend.vdpySubmitBh
    cases submission with
    | repeated present =>
        have contained := member.mpr present
        simp only [Bool.true_and, Bool.not_eq_true', List.contains_eq_mem]
        rw [if_neg (by simpa using contained)]
        rfl
    | inserted absent =>
        have missing := mt member.mp absent
        simp only [Bool.true_and, Bool.not_eq_true', List.contains_eq_mem]
        rw [if_pos (by simpa using missing)]
        show (display.requestList ++ [bh]).filterMap queueOf = _
        rw [List.filterMap_append]
        congr 1
        exact List.filterMap_cons_some ((owner bh).mpr rfl)

end VirtioGpu.Vdpy
