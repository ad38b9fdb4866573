import VirtioGpu.Backend.Header
import VirtioGpu.Foundation.Files

namespace VirtioGpu.Backend

open Foundation
open Virtio

/-! `vos_backend_init`: the event loop, a descriptor for each interrupt, the
shared memory, an event for each descriptor, and the device. -/

def maxIrqs : Nat := 8

/-- What each step meets. The kernel gives out no descriptor twice while it is
open. -/
structure InitAnswers where
  meventInit : Bool
  eventfd : Nat → Except Errno Nat
  openRet : Int
  openErrno : Int
  nrVecs : Int
  meventAdd : Nat → Bool
  vdevInit : Int
  vmctx : Vmctx
  isBlobSupported : Bool
  scanoutNum : Nat
  memory : Memory
  identity : Identity
  pciVdev : GpuConfig
  distinct : ∀ first second fd, eventfd first = .ok fd →
    eventfd second = .ok fd → first = second

/-- `evt_fds` and `mevents`, and behind them the descriptors that are open and
the events that the loop watches, each named by its interrupt. -/
structure BackendInit where
  evtFds : Nat → Int
  mevents : Nat → Bool
  openFds : List Int
  registered : List Nat

def BackendInit.zero : BackendInit := ⟨fun _ => 0, fun _ => false, [], []⟩

def BackendInit.createEventfd (answers : InitAnswers) (init : BackendInit)
    (index : Nat) : Except (Int × BackendInit) BackendInit :=
  match answers.eventfd index with
  | .ok fd =>
      .ok { init with
        evtFds := Function.update init.evtFds index fd
        openFds := fd :: init.openFds }
  | .error errno =>
      .error (errno, { init with
        evtFds := Function.update init.evtFds index (-1) })

/-- The first rounds of the loop that fills `evt_fds`. -/
def createEventfds (answers : InitAnswers) :
    Nat → Except (Int × BackendInit) BackendInit
  | 0 => .ok .zero
  | count + 1 =>
      (createEventfds answers count).bind fun init =>
        init.createEventfd answers count

def BackendInit.addMevent (answers : InitAnswers) (init : BackendInit)
    (index : Nat) : Except BackendInit BackendInit :=
  if (index : Int) < answers.nrVecs then
    if answers.meventAdd index then
      .ok { init with
        mevents := Function.update init.mevents index true
        registered := index :: init.registered }
    else
      .error init
  else
    .ok { init with
      evtFds := Function.update init.evtFds index 0
      openFds := init.openFds.filter (· ≠ init.evtFds index) }

/-- The first rounds of the loop that fills `mevents`. -/
def addMevents (answers : InitAnswers) (init : BackendInit) :
    Nat → Except BackendInit BackendInit
  | 0 => .ok init
  | count + 1 =>
      (addMevents answers init count).bind fun init =>
        init.addMevent answers count

/-- The loop at `deregister_mevents`. -/
def BackendInit.deleteMevents (init : BackendInit) : Nat → BackendInit
  | 0 => init
  | count + 1 =>
      let init := init.deleteMevents count
      if init.mevents count then
        { init with registered := init.registered.filter (· ≠ count) }
      else
        init

/-- The loop at `close_evt_fds`. -/
def BackendInit.closeEvtFds (init : BackendInit) : Nat → BackendInit
  | 0 => init
  | count + 1 =>
      let init := init.closeEvtFds count
      if init.evtFds count ≠ 0 then
        { init with
          openFds := init.openFds.filter (· ≠ init.evtFds count) }
      else
        init

/-- `shared` is the region behind `virtio_header`, once it is filled in. -/
structure InitOutcome where
  ret : Int
  init : BackendInit
  shared : Option Shared
  vdevInited : Bool
  msixEnabled : Bool

def BackendInit.closed (init : BackendInit) (ret : Int) : InitOutcome :=
  ⟨ret, init.closeEvtFds maxIrqs, none, false, false⟩

def BackendInit.deregistered (init : BackendInit) (ret : Int) :
    InitOutcome :=
  (init.deleteMevents maxIrqs).closed ret

def InitAnswers.shared (answers : InitAnswers) : Shared :=
  vosBackendInit answers.vmctx answers.isBlobSupported answers.scanoutNum
    answers.memory answers.identity answers.pciVdev

/-- The call of `vos_backend_init`, with every step that can fail. -/
def vosBackendInitCall (answers : InitAnswers) : InitOutcome :=
  if answers.meventInit = false then ⟨-1, .zero, none, false, false⟩
  else
    match createEventfds answers maxIrqs with
    | .error (ret, init) => init.closed ret
    | .ok init =>
        if answers.openRet < 0 then init.closed answers.openErrno
        else
          match addMevents answers init maxIrqs with
          | .error init => init.deregistered answers.openRet
          | .ok init =>
              if answers.vdevInit ≠ 0 then init.deregistered (-1)
              else ⟨0, init, some answers.shared, true, true⟩

/-! Which step fails. -/

inductive InitStep where
  | meventInit
  | eventfd (index : Nat)
  | shmemOpen
  | meventAdd (index : Nat)
  | vdevInit
  deriving Repr, DecidableEq

def InitAnswers.refusesEventfd (answers : InitAnswers) (index : Nat) :
    Bool :=
  match answers.eventfd index with
  | .ok _ => false
  | .error _ => true

def InitAnswers.refusesMevent (answers : InitAnswers) (index : Nat) : Bool :=
  (index : Int) < answers.nrVecs ∧ answers.meventAdd index = false

def InitAnswers.firstFailure (answers : InitAnswers) : Option InitStep :=
  if answers.meventInit = false then some .meventInit
  else
    match (List.range maxIrqs).find? answers.refusesEventfd with
    | some index => some (.eventfd index)
    | none =>
        if answers.openRet < 0 then some .shmemOpen
        else
          match (List.range maxIrqs).find? answers.refusesMevent with
          | some index => some (.meventAdd index)
          | none => if answers.vdevInit ≠ 0 then some .vdevInit else none

def InitAnswers.header (answers : InitAnswers) : List UInt8 :=
  initialHeader answers.identity answers.shared.device.cfg

structure AllOrNothing (answers : InitAnswers) (outcome : InitOutcome) :
    Prop where
  returns : outcome.ret = 0 ↔ answers.firstFailure = none
  all : answers.firstFailure = none → outcome.vdevInited = true ∧
    outcome.msixEnabled = true ∧
    outcome.shared = some answers.shared ∧
    answers.shared.memory.read 0 answers.header.length = answers.header
  nothing : answers.firstFailure ≠ none →
    outcome.init.openFds = [] ∧ outcome.init.registered = []

/-- The failing step has an error to return, and no descriptor that is still
open has the number 0. -/
def InitAnswers.CleanAt (answers : InitAnswers) : InitStep → Prop
  | .meventInit => True
  | .eventfd index =>
      ∀ earlier < index, answers.eventfd earlier ≠ .ok 0
  | .shmemOpen => answers.openErrno ≠ 0 ∧
      ∀ index < maxIrqs, answers.eventfd index ≠ .ok 0
  | .meventAdd _ => answers.openRet ≠ 0 ∧
      ∀ index < maxIrqs, answers.eventfd index ≠ .ok 0
  | .vdevInit => ∀ index < maxIrqs, (index : Int) < answers.nrVecs →
      answers.eventfd index ≠ .ok 0

/-! The descriptors that are open after a part of the call. -/

structure BackendInit.Holds (answers : InitAnswers) (held : Nat → Prop)
    (init : BackendInit) : Prop where
  opened : ∀ fd, fd ∈ init.openFds ↔
    ∃ index n, held index ∧ answers.eventfd index = .ok n ∧ fd = n
  stored : ∀ index n, held index → answers.eventfd index = .ok n →
    init.evtFds index = n
  known : ∀ index, held index → index < maxIrqs

/-- An event is in `mevents` as long as it is registered. -/
def BackendInit.Tracked (init : BackendInit) : Prop :=
  ∀ index ∈ init.registered, index < maxIrqs ∧ init.mevents index = true

variable {answers : InitAnswers} {init : BackendInit}

theorem closeEvtFds_rest (count : Nat) :
    (init.closeEvtFds count).evtFds = init.evtFds ∧
      (init.closeEvtFds count).registered = init.registered := by
  induction count with
  | zero => exact ⟨rfl, rfl⟩
  | succ count induction =>
      unfold BackendInit.closeEvtFds
      dsimp only
      split
      · exact induction
      · exact induction

theorem mem_closeEvtFds (fd : Int) (count : Nat) :
    fd ∈ (init.closeEvtFds count).openFds ↔ fd ∈ init.openFds ∧
      ∀ index < count, init.evtFds index ≠ 0 → fd ≠ init.evtFds index := by
  induction count with
  | zero => simp [BackendInit.closeEvtFds]
  | succ count induction =>
      unfold BackendInit.closeEvtFds
      dsimp only
      rw [(closeEvtFds_rest count).1, Nat.forall_lt_succ_right, ← and_assoc,
        ← induction]
      split
      · rename_i nonzero
        rw [List.mem_filter, decide_eq_true_iff]
        exact and_congr_right fun _ =>
          ⟨fun other _ => other, fun other => other nonzero⟩
      · rename_i zero
        exact (and_iff_left fun nonzero => absurd nonzero zero).symm

/-- Everything is closed but a descriptor with the number 0. -/
theorem BackendInit.Holds.closed_iff {held : Nat → Prop}
    (holds : init.Holds answers held) :
    (init.closeEvtFds maxIrqs).openFds = [] ↔
      ∀ index, held index → answers.eventfd index ≠ .ok 0 := by
  rw [List.eq_nil_iff_forall_not_mem]
  constructor
  · intro nonzero index within zero
    apply nonzero 0
    rw [mem_closeEvtFds]
    exact ⟨(holds.opened 0).mpr ⟨index, 0, within, zero, rfl⟩,
      fun _ _ nonzero => nonzero.symm⟩
  · intro nonzero fd member
    rw [mem_closeEvtFds] at member
    obtain ⟨opened, others⟩ := member
    obtain ⟨index, n, within, created, same⟩ := (holds.opened fd).mp opened
    have stored := holds.stored index n within created
    apply others index (holds.known index within)
    · intro zero
      have first : n = 0 := by
        rw [stored] at zero
        exact Int.natCast_eq_zero.mp zero
      exact nonzero index within (first ▸ created)
    · rw [same, stored]

theorem deleteMevents_rest (count : Nat) :
    (init.deleteMevents count).mevents = init.mevents ∧
      (init.deleteMevents count).evtFds = init.evtFds ∧
      (init.deleteMevents count).openFds = init.openFds := by
  induction count with
  | zero => exact ⟨rfl, rfl, rfl⟩
  | succ count induction =>
      unfold BackendInit.deleteMevents
      dsimp only
      split
      · exact induction
      · exact induction

theorem mem_deleteMevents (index count : Nat) :
    index ∈ (init.deleteMevents count).registered ↔
      index ∈ init.registered ∧
        ¬(index < count ∧ init.mevents index = true) := by
  induction count with
  | zero => simp [BackendInit.deleteMevents]
  | succ count induction =>
      unfold BackendInit.deleteMevents
      dsimp only
      rw [(deleteMevents_rest count).1, Nat.lt_succ_iff_lt_or_eq]
      split
      · rename_i present
        rw [List.mem_filter, decide_eq_true_iff, induction]
        by_cases last : index = count
        · simp [last, present]
        · simp [last]
      · rename_i absent
        rw [induction]
        by_cases last : index = count
        · simp [last, absent]
        · simp [last]

theorem BackendInit.Tracked.deleted (tracked : init.Tracked) :
    (init.deleteMevents maxIrqs).registered = [] := by
  rw [List.eq_nil_iff_forall_not_mem]
  intro index member
  rw [mem_deleteMevents] at member
  exact member.2 (tracked index member.1)

/-! The two loops. -/

theorem find?_range_succ (refuses : Nat → Bool) (count : Nat) :
    (List.range (count + 1)).find? refuses =
      ((List.range count).find? refuses).or
        (if refuses count then some count else none) := by
  rw [List.range_succ, List.find?_append]
  cases refusal : refuses count with
  | true => simp [refusal]
  | false => simp [refusal]

/-- The first descriptors are there and nothing is registered. -/
structure BackendInit.Created (answers : InitAnswers) (count : Nat)
    (init : BackendInit) : Prop where
  opened : ∀ fd, fd ∈ init.openFds ↔
    ∃ index n, index < count ∧ answers.eventfd index = .ok n ∧ fd = n
  stored : ∀ index n, index < count → answers.eventfd index = .ok n →
    init.evtFds index = n
  bare : init.registered = []

theorem BackendInit.Created.holds {count : Nat}
    (created : init.Created answers count)
    (few : count ≤ maxIrqs) : init.Holds answers (· < count) where
  opened := created.opened
  stored := created.stored
  known := fun _ below => Nat.lt_of_lt_of_le below few

theorem BackendInit.Created.next {count fd : Nat}
    (created : init.Created answers count)
    (answer : answers.eventfd count = .ok fd) :
    BackendInit.Created answers (count + 1)
      { init with
        evtFds := Function.update init.evtFds count fd
        openFds := fd :: init.openFds } where
  opened := by
    intro other
    rw [List.mem_cons, created.opened]
    constructor
    · intro member
      cases member with
      | inl new => exact ⟨count, fd, Nat.lt_succ_self count, answer, new⟩
      | inr old =>
          obtain ⟨index, n, below, found, same⟩ := old
          exact ⟨index, n, Nat.lt_succ_of_lt below, found, same⟩
    · intro member
      obtain ⟨index, n, below, found, same⟩ := member
      cases Nat.lt_succ_iff_lt_or_eq.mp below with
      | inl earlier => exact .inr ⟨index, n, earlier, found, same⟩
      | inr last =>
          rw [last, answer] at found
          cases found
          exact .inl same
  stored := by
    intro index n below found
    cases Nat.lt_succ_iff_lt_or_eq.mp below with
    | inl earlier =>
        exact (Function.update_of_ne (Nat.ne_of_lt earlier) _ _).trans
          (created.stored index n earlier found)
    | inr last =>
        rw [last, answer] at found
        cases found
        rw [last]
        exact Function.update_self _ _ _
  bare := created.bare

/-- The error stored in `evt_fds` is no descriptor. -/
theorem BackendInit.Created.refused {count : Nat}
    (created : init.Created answers count)
    (value : Int) :
    BackendInit.Created answers count
      { init with evtFds := Function.update init.evtFds count value } where
  opened := created.opened
  stored := by
    intro index n below found
    exact (Function.update_of_ne (Nat.ne_of_lt below) _ _).trans
      (created.stored index n below found)
  bare := created.bare

/-- The loop ends at the first descriptor refused, with its error. -/
theorem createEventfds_cases (answers : InitAnswers) (count : Nat) :
    ((List.range count).find? answers.refusesEventfd = none ∧
      ∃ init, createEventfds answers count = .ok init ∧
        init.Created answers count) ∨
    ∃ index init, (List.range count).find? answers.refusesEventfd =
        some index ∧ index < count ∧
      (∃ errno : Errno, createEventfds answers count =
        .error (errno, init)) ∧ init.Created answers index := by
  induction count with
  | zero =>
      exact .inl ⟨rfl, .zero, rfl, by simp [BackendInit.zero], by simp, rfl⟩
  | succ count induction =>
      rw [find?_range_succ, createEventfds]
      cases induction with
      | inl all =>
          obtain ⟨unrefused, init, ran, created⟩ := all
          rw [unrefused, ran]
          unfold InitAnswers.refusesEventfd Except.bind
            BackendInit.createEventfd
          dsimp only
          cases answer : answers.eventfd count with
          | ok fd => exact .inl ⟨rfl, _, rfl, created.next answer⟩
          | error errno =>
              exact .inr ⟨count, _, rfl, Nat.lt_succ_self count,
                ⟨errno, rfl⟩, created.refused (-1)⟩
      | inr stopped =>
          obtain ⟨index, init, found, below, ⟨errno, ran⟩, created⟩ :=
            stopped
          rw [found, ran]
          exact .inr ⟨index, init, rfl, Nat.lt_succ_of_lt below,
            ⟨errno, rfl⟩, created⟩

/-- The descriptors that are open after a part of the second loop. -/
def Kept (answers : InitAnswers) (count index : Nat) : Prop :=
  index < maxIrqs ∧ (index < count → (index : Int) < answers.nrVecs)

theorem BackendInit.Holds.congr {first second : Nat → Prop}
    (holds : init.Holds answers first)
    (same : ∀ index, first index ↔ second index) :
    init.Holds answers second := by
  have equal : first = second := funext fun index => propext (same index)
  exact equal ▸ holds

/-- A descriptor without a vector is closed. -/
theorem BackendInit.Holds.close {held : Nat → Prop} {count fd : Nat}
    (holds : init.Holds answers held) (within : held count)
    (answer : answers.eventfd count = .ok fd) :
    BackendInit.Holds answers (fun index => held index ∧ index ≠ count)
      { init with
        evtFds := Function.update init.evtFds count 0
        openFds := init.openFds.filter (· ≠ init.evtFds count) } where
  opened := by
    intro other
    have stored := holds.stored count fd within answer
    rw [List.mem_filter, decide_eq_true_iff, holds.opened, stored]
    constructor
    · intro member
      obtain ⟨⟨index, n, held, found, same⟩, differs⟩ := member
      refine ⟨index, n, ⟨held, fun last => differs ?_⟩, found, same⟩
      rw [last, answer] at found
      cases found
      exact same
    · intro member
      obtain ⟨index, n, ⟨held, differs⟩, found, same⟩ := member
      refine ⟨⟨index, n, held, found, same⟩, fun equal => differs ?_⟩
      have number : n = fd := Int.natCast_inj.mp (same.symm.trans equal)
      exact answers.distinct index count fd (number ▸ found) answer
  stored := by
    intro index n within found
    exact (Function.update_of_ne within.2 _ _).trans
      (holds.stored index n within.1 found)
  known := fun index within => holds.known index within.1

theorem BackendInit.Tracked.add (tracked : init.Tracked) {count : Nat}
    (below : count < maxIrqs) :
    BackendInit.Tracked { init with
      mevents := Function.update init.mevents count true
      registered := count :: init.registered } := by
  intro index member
  cases List.mem_cons.mp member with
  | inl last =>
      rw [last]
      exact ⟨below, Function.update_self _ _ _⟩
  | inr earlier =>
      obtain ⟨known, present⟩ := tracked index earlier
      refine ⟨known, ?_⟩
      by_cases last : index = count
      · rw [last]
        exact Function.update_self _ _ _
      · exact (Function.update_of_ne last _ _).trans present

/-- What one round of the second loop does. -/
inductive Round (answers : InitAnswers) (init : BackendInit) (count : Nat) :
    Bool → Except BackendInit BackendInit → Prop
  | add (vector : (count : Int) < answers.nrVecs) :
      Round answers init count false (.ok { init with
        mevents := Function.update init.mevents count true
        registered := count :: init.registered })
  | refuse (vector : (count : Int) < answers.nrVecs) :
      Round answers init count true (.error init)
  | close (beyond : ¬(count : Int) < answers.nrVecs) :
      Round answers init count false (.ok { init with
        evtFds := Function.update init.evtFds count 0
        openFds := init.openFds.filter (· ≠ init.evtFds count) })

theorem addMevent_round (answers : InitAnswers) (init : BackendInit)
    (count : Nat) :
    Round answers init count (answers.refusesMevent count)
      (init.addMevent answers count) := by
  unfold InitAnswers.refusesMevent BackendInit.addMevent
  by_cases vector : (count : Int) < answers.nrVecs
  · cases answers.meventAdd count with
    | true =>
        simp only [vector, Bool.true_eq_false, and_false, decide_false,
          if_true]
        exact .add vector
    | false =>
        simp only [vector, and_self, decide_true, if_true,
          Bool.false_eq_true, if_false]
        exact .refuse vector
  · simp only [vector, false_and, decide_false, if_false]
    exact .close vector

theorem kept_succ {count index : Nat}
    (vector : (count : Int) < answers.nrVecs) :
    Kept answers count index ↔ Kept answers (count + 1) index := by
  unfold Kept
  constructor
  · intro kept
    refine ⟨kept.1, fun below => ?_⟩
    cases Nat.lt_succ_iff_lt_or_eq.mp below with
    | inl earlier => exact kept.2 earlier
    | inr last => exact last ▸ vector
  · intro kept
    exact ⟨kept.1, fun below => kept.2 (by omega)⟩

theorem kept_succ_of_beyond {count index : Nat}
    (beyond : ¬(count : Int) < answers.nrVecs) :
    Kept answers count index ∧ index ≠ count ↔
      Kept answers (count + 1) index := by
  unfold Kept
  constructor
  · intro kept
    exact ⟨kept.1.1, fun below => kept.1.2 (by omega)⟩
  · intro kept
    refine ⟨⟨kept.1, fun below => kept.2 (by omega)⟩, fun last => ?_⟩
    exact beyond (last ▸ kept.2 (by omega))

/-- The second loop ends at the first event refused. -/
theorem addMevents_cases {count : Nat} (few : count ≤ maxIrqs)
    (all : ∀ index < maxIrqs, ∃ fd, answers.eventfd index = .ok fd)
    (holds : init.Holds answers (· < maxIrqs))
    (bare : init.registered = []) :
    ((List.range count).find? answers.refusesMevent = none ∧
      ∃ after, addMevents answers init count = .ok after ∧
        after.Holds answers (Kept answers count) ∧ after.Tracked) ∨
    ∃ index after, (List.range count).find? answers.refusesMevent =
        some index ∧ addMevents answers init count = .error after ∧
      (index : Int) < answers.nrVecs ∧
      after.Holds answers (Kept answers index) ∧ after.Tracked := by
  induction count with
  | zero =>
      refine .inl ⟨rfl, init, rfl, holds.congr ?_, ?_⟩
      · intro index
        exact (and_iff_left fun below => absurd below (by omega)).symm
      · intro index member
        rw [bare] at member
        cases member
  | succ count induction =>
      rw [find?_range_succ, addMevents]
      cases induction (by omega) with
      | inr stopped =>
          obtain ⟨index, after, found, ran, vector, held, tracked⟩ := stopped
          rw [found, ran]
          exact .inr ⟨index, after, rfl, rfl, vector, held, tracked⟩
      | inl through =>
          obtain ⟨unrefused, after, ran, held, tracked⟩ := through
          rw [unrefused, ran]
          dsimp only [Except.bind]
          have round := addMevent_round answers after count
          generalize answers.refusesMevent count = refusal at round
          generalize after.addMevent answers count = result at round
          cases round with
          | add vector =>
              have more := held.congr fun _ => kept_succ vector
              exact .inl ⟨rfl, _, rfl,
                ⟨more.opened, more.stored, more.known⟩,
                tracked.add (by omega)⟩
          | refuse vector =>
              exact .inr ⟨count, after, rfl, rfl, vector, held, tracked⟩
          | close beyond =>
              obtain ⟨fd, answer⟩ := all count (by omega)
              have within : Kept answers count count :=
                ⟨by omega, fun below => absurd below (Nat.lt_irrefl count)⟩
              exact .inl ⟨rfl, _, rfl, (held.close within answer).congr
                fun _ => kept_succ_of_beyond beyond, tracked⟩

/-! The whole call. -/

theorem BackendInit.Holds.deleteMevents {held : Nat → Prop}
    (holds : init.Holds answers held) (count : Nat) :
    (init.deleteMevents count).Holds answers held where
  opened := by
    rw [(deleteMevents_rest count).2.2]
    exact holds.opened
  stored := by
    rw [(deleteMevents_rest count).2.1]
    exact holds.stored
  known := holds.known

/-- The ways through the call, by the step that fails. A part of it that
failed leaves `init` to be cleaned up. -/
inductive InitPath (answers : InitAnswers) :
    Option InitStep → InitOutcome → Prop
  | unpolled :
      InitPath answers (some .meventInit) ⟨-1, .zero, none, false, false⟩
  | failed {step : InitStep} {init : BackendInit} {ret : Int}
      {held : Nat → Prop} (holds : init.Holds answers held)
      (bare : init.registered = [])
      (clean : (ret ≠ 0 ∧ ∀ index, held index →
        answers.eventfd index ≠ .ok 0) ↔ answers.CleanAt step) :
      InitPath answers (some step) (init.closed ret)
  | done (init : BackendInit) :
      InitPath answers none ⟨0, init, some answers.shared, true, true⟩

theorem created_of_accepted
    (accepted : (List.range maxIrqs).find? answers.refusesEventfd = none) :
    ∀ index < maxIrqs, ∃ fd, answers.eventfd index = .ok fd := by
  intro index below
  have accepts := List.find?_eq_none.mp accepted index
    (List.mem_range.mpr below)
  unfold InitAnswers.refusesEventfd at accepts
  cases answer : answers.eventfd index with
  | ok fd => exact ⟨fd, rfl⟩
  | error errno =>
      rw [answer] at accepts
      exact absurd rfl accepts

theorem vosBackendInitCall_path (answers : InitAnswers) :
    InitPath answers answers.firstFailure (vosBackendInitCall answers) := by
  unfold vosBackendInitCall InitAnswers.firstFailure
  by_cases polled : answers.meventInit = false
  · rw [if_pos polled, if_pos polled]
    exact .unpolled
  rw [if_neg polled, if_neg polled]
  cases createEventfds_cases answers maxIrqs with
  | inr stopped =>
      obtain ⟨index, init, found, below, ⟨errno, ran⟩, created⟩ := stopped
      rw [found, ran]
      exact .failed (created.holds (by omega)) created.bare
        (and_iff_right (Int.ne_of_gt errno.property))
  | inl through =>
      obtain ⟨accepted, init, ran, created⟩ := through
      have holds := created.holds (Nat.le_refl maxIrqs)
      rw [accepted, ran]
      dsimp only
      by_cases unopened : answers.openRet < 0
      · rw [if_pos unopened, if_pos unopened]
        exact .failed holds created.bare Iff.rfl
      rw [if_neg unopened, if_neg unopened]
      cases addMevents_cases (Nat.le_refl maxIrqs)
          (created_of_accepted accepted) holds created.bare with
      | inr stopped =>
          obtain ⟨index, after, found, ran, vector, held, tracked⟩ := stopped
          rw [found, ran]
          have whole := @BackendInit.Holds.congr answers _ _
            (fun other => other < maxIrqs) (held.deleteMevents maxIrqs)
            fun other => and_iff_left fun below => by omega
          exact .failed whole tracked.deleted Iff.rfl
      | inl added =>
          obtain ⟨unrefused, after, ran, held, tracked⟩ := added
          rw [unrefused, ran]
          dsimp only
          by_cases unready : answers.vdevInit ≠ 0
          · rw [if_pos unready, if_pos unready]
            refine .failed (held.deleteMevents maxIrqs) tracked.deleted
              ((and_iff_right (by decide)).trans ?_)
            exact forall_congr' fun index =>
              ⟨fun safe below vector => safe ⟨below, fun _ => vector⟩,
                fun safe kept => safe kept.1 (kept.2 kept.1)⟩
          · rw [if_neg unready, if_neg unready]
            exact .done after

/-- Initialisation is all or nothing just when the first step that fails, if
one does, is one that the call cleans up after. -/
theorem vosBackendInitCall_allOrNothing_iff (answers : InitAnswers) :
    AllOrNothing answers (vosBackendInitCall answers) ↔
      ∀ step, answers.firstFailure = some step → answers.CleanAt step := by
  have path := vosBackendInitCall_path answers
  generalize reported : answers.firstFailure = failure at path
  generalize vosBackendInitCall answers = outcome at path
  cases path with
  | unpolled =>
      refine iff_of_true ?_ fun step same => by
        cases same
        trivial
      exact {
        returns := by simp [reported]
        all := by simp [reported]
        nothing := fun _ => ⟨rfl, rfl⟩ }
  | failed holds bare clean =>
      simp only [Option.some.injEq, forall_eq']
      rw [← clean, ← holds.closed_iff]
      constructor
      · intro outcome
        have fails : answers.firstFailure ≠ none := by simp [reported]
        exact ⟨fun zero => fails (outcome.returns.mp zero),
          (outcome.nothing fails).1⟩
      · intro cleaned
        exact {
          returns := by simp [reported, BackendInit.closed, cleaned.1]
          all := by simp [reported]
          nothing := fun _ =>
            ⟨cleaned.2, (closeEvtFds_rest maxIrqs).2.trans bare⟩ }
  | done init =>
      refine iff_of_true ?_ fun step same => by cases same
      exact {
        returns := by simp [reported]
        all := fun _ => ⟨rfl, rfl, rfl, Memory.read_store _ _ _⟩
        nothing := by simp [reported] }

/-- Descriptors from 5 on, eight vectors, and an epoll instance that takes only
the first of them. -/
def secondEventRefused : InitAnswers where
  meventInit := true
  eventfd := fun index => .ok (index + 5)
  openRet := 0
  openErrno := 0
  nrVecs := 8
  meventAdd := fun index => index == 0
  vdevInit := 0
  vmctx := ⟨4096, 0⟩
  isBlobSupported := false
  scanoutNum := 1
  memory := Memory.zero
  identity := ⟨0, 0, 0⟩
  pciVdev := ⟨0, 0, 0, 0⟩
  distinct := fun first second fd used again => by
    cases used
    cases again
    rfl

theorem refused_event_returns_zero :
    secondEventRefused.firstFailure = some (.meventAdd 1) ∧
      (vosBackendInitCall secondEventRefused).ret = 0 ∧
      (vosBackendInitCall secondEventRefused).vdevInited = false ∧
      ¬AllOrNothing secondEventRefused
        (vosBackendInitCall secondEventRefused) := by
  have fails : secondEventRefused.firstFailure = some (.meventAdd 1) := by
    decide
  have zero : (vosBackendInitCall secondEventRefused).ret = 0 := by
    decide
  refine ⟨fails, zero, by decide, fun outcome => ?_⟩
  rw [outcome.returns.mp zero] at fails
  cases fails

end VirtioGpu.Backend
