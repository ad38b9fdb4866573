import VirtioGpu.Foundation.Ledger

namespace VirtioGpu.Client

open Foundation

/-! The life of the display client, from the commands that Android delivers to
the calls of `start`, `stop` and `term`. -/

/-- How far `start` gets. -/
inductive StartAnswer where
  | socketFails
  | bindFails
  | eventfdFails
  | succeeds
  deriving Repr, DecidableEq

/-- `client_sock` and `exit_fd`, each the number of the resource it holds, and
whether `work_tid` holds a thread, which is joinable until `term` joins it. -/
structure DisplayClient where
  clientSock : Option Nat
  forceExit : Bool
  exitFd : Option Nat
  workTid : Bool
  deriving Repr, DecidableEq

inductive Misuse where
  | replacesWorker
  | revivesWorker
  | joinsNoWorker
  deriving Repr, DecidableEq

/-- The client with what it opened and closed, and what it did wrong; a run
halts when the destructor of a joinable thread or a call on a null pointer
ends the process. -/
structure Session where
  client : DisplayClient
  ledger : Ledger
  misuses : List Misuse
  halted : Bool
  deriving Repr, DecidableEq

def Session.initial : Session :=
  ⟨⟨none, false, none, false⟩, .empty, [], false⟩

/-- `force_exit = false`, read by any worker that has not been joined. -/
def Session.clearExit (session : Session) : Session :=
  { session with
    client := { session.client with forceExit := false }
    misuses := session.misuses ++
      if session.client.workTid && session.client.forceExit then
        [.revivesWorker]
      else [] }

/-- `work_tid = make_shared<thread>(work_thread, this)`. -/
def Session.spawn (session : Session) : Session :=
  { session with
    client := { session.client with workTid := true }
    misuses := session.misuses ++
      if session.client.workTid then [.replacesWorker] else []
    halted := session.client.workTid }

def Session.openSock (session : Session) : Session :=
  { session with
    client := { session.client with clientSock := some session.ledger.fresh }
    ledger := session.ledger.acquire }

def Session.openExit (session : Session) : Session :=
  { session with
    client := { session.client with exitFd := some session.ledger.fresh }
    ledger := session.ledger.acquire }

def Session.closeSock (session : Session) : Session :=
  { session with
    client := { session.client with clientSock := none }
    ledger := session.ledger.closeSome session.client.clientSock }

def Session.start (session : Session) : StartAnswer → Session
  | .socketFails =>
      { session with client := { session.client with clientSock := none } }
  | .bindFails => session.openSock.closeSock
  | .eventfdFails =>
      let session := session.openSock.clearExit
      { session with client := { session.client with exitFd := none } }
  | .succeeds => session.openSock.clearExit.openExit.spawn

/-- `hotplug` and the write to `exit_fd` change nothing here. -/
def Session.stop (session : Session) : Session :=
  { session with client := { session.client with forceExit := true } }

def Session.term (session : Session) : Session :=
  if session.client.workTid = false then
    { session with
      misuses := session.misuses ++ [.joinsNoWorker]
      halted := true }
  else
    let joined := { session with
      client := { session.client with workTid := false }
      ledger := session.ledger.closeSome session.client.exitFd }
    joined.closeSock

/-- The commands that `engine_handle_cmd` has a use for, with the answers that
a `start` gets. -/
inductive AppCmd where
  | start
  | resume (answer : StartAnswer)
  | pause
  | stop
  deriving Repr, DecidableEq

def engineHandleCmd (session : Session) (cmd : AppCmd) : Session :=
  if session.halted then session
  else
    match cmd with
    | .start => session
    | .resume answer => session.start answer
    | .pause => session.stop
    | .stop => session.term

/-- A round from START to STOP, one RESUME and PAUSE for each answer. -/
def roundCmds (answers : List StartAnswer) : List AppCmd :=
  .start :: (answers.flatMap fun answer => [.resume answer, .pause]) ++
    [.stop]

def runRounds (rounds : List (List StartAnswer)) : Session :=
  (rounds.flatMap roundCmds).foldl engineHandleCmd .initial

structure Session.LivesWell (session : Session) : Prop where
  workers : session.misuses = []
  closes : ∀ id < session.ledger.opened,
    session.ledger.closes.count id = 1

/-- Failures of `socket` and `bind` first, then one success as the last. -/
def Orderly : List StartAnswer → Prop
  | [] => False
  | answer :: rest =>
      match answer with
      | .socketFails | .bindFails => Orderly rest
      | .eventfdFails => False
      | .succeeds => rest = []

section Sessions

variable {session : Session}

/-! Between rounds, and after failures of `start`. -/

structure Session.Idle (session : Session) : Prop where
  running : session.halted = false
  right : session.misuses = []
  free : session.client.workTid = false
  bare : session.client.clientSock = none
  settled : session.ledger.Settled

theorem initial_idle : Session.initial.Idle :=
  ⟨rfl, rfl, rfl, rfl, Ledger.settled_empty⟩

theorem Session.Idle.livesWell (idle : session.Idle) :
    session.LivesWell where
  workers := idle.right
  closes := fun _ below => idle.settled.once below

theorem Session.Idle.socketFails (idle : session.Idle) :
    (session.start .socketFails).stop.Idle :=
  ⟨idle.running, idle.right, idle.free, rfl, idle.settled⟩

theorem Session.Idle.bindFails (idle : session.Idle) :
    (session.start .bindFails).stop.Idle :=
  ⟨idle.running, idle.right, idle.free, rfl, idle.settled.acquire_close⟩

/-! Something went wrong that no later command repairs. -/

/-- A resource that the client no longer knows is never closed. -/
def Session.Leaks (session : Session) (id : Nat) : Prop :=
  session.ledger.Outstanding id ∧ session.client.clientSock ≠ some id ∧
    session.client.exitFd ≠ some id

def Session.Spoilt (session : Session) : Prop :=
  session.misuses ≠ [] ∨ ∃ id, session.Leaks id

theorem Session.Spoilt.not_livesWell (spoilt : session.Spoilt) :
    ¬session.LivesWell := by
  intro well
  cases spoilt with
  | inl misused => exact misused well.workers
  | inr leak =>
      obtain ⟨id, outstanding, _⟩ := leak
      exact outstanding.unsettled (well.closes id outstanding.1)

theorem misused_append {misuses more : List Misuse}
    (misused : misuses ≠ []) : misuses ++ more ≠ [] :=
  List.append_ne_nil_of_left_ne_nil misused more

theorem Session.Leaks.closeSock {id : Nat} (leaks : session.Leaks id) :
    session.closeSock.Leaks id := by
  constructor
  · exact leaks.1.closeSome leaks.2.1
  · exact ⟨(Option.some_ne_none id).symm, leaks.2.2⟩

/-- Every `start` forgets the socket that the client held before. -/
theorem Session.start_leaks {id : Nat}
    (outstanding : session.ledger.Outstanding id)
    (apart : session.client.exitFd ≠ some id) (answer : StartAnswer) :
    (session.start answer).Leaks id := by
  have opened : session.openSock.Leaks id := by
    constructor
    · exact outstanding.acquire
    · exact ⟨fun same => outstanding.ne_fresh (Option.some.inj same).symm,
        apart⟩
  cases answer with
  | socketFails => exact ⟨outstanding, (Option.some_ne_none id).symm, apart⟩
  | bindFails => exact opened.closeSock
  | eventfdFails => exact ⟨opened.1, opened.2.1, (Option.some_ne_none id).symm⟩
  | succeeds =>
      constructor
      · exact opened.1.acquire
      · exact ⟨opened.2.1,
          fun same => opened.1.ne_fresh (Option.some.inj same).symm⟩

theorem Session.Leaks.term {id : Nat} (leaks : session.Leaks id) :
    session.term.Leaks id := by
  unfold Session.term
  split
  · exact leaks
  · refine Session.Leaks.closeSock ⟨?_, leaks.2⟩
    exact leaks.1.closeSome leaks.2.2

theorem start_misused (answer : StartAnswer)
    (misused : session.misuses ≠ []) :
    (session.start answer).misuses ≠ [] := by
  cases answer with
  | socketFails => exact misused
  | bindFails => exact misused
  | eventfdFails => exact misused_append misused
  | succeeds => exact misused_append (misused_append misused)

theorem term_misused (misused : session.misuses ≠ []) :
    session.term.misuses ≠ [] := by
  unfold Session.term
  split
  · exact misused_append misused
  · exact misused

theorem Session.Spoilt.kept_by_handle (spoilt : session.Spoilt) (cmd : AppCmd) :
    (engineHandleCmd session cmd).Spoilt := by
  unfold engineHandleCmd
  split
  · exact spoilt
  · cases cmd with
    | start => exact spoilt
    | pause => exact spoilt
    | resume answer =>
        cases spoilt with
        | inl misused => exact .inl (start_misused answer misused)
        | inr leak =>
            obtain ⟨id, leaks⟩ := leak
            exact .inr ⟨id, start_leaks leaks.1 leaks.2.2 answer⟩
    | stop =>
        cases spoilt with
        | inl misused => exact .inl (term_misused misused)
        | inr leak =>
            obtain ⟨id, leaks⟩ := leak
            exact .inr ⟨id, leaks.term⟩

theorem Session.Spoilt.kept_by_run (spoilt : session.Spoilt)
    (cmds : List AppCmd) :
    (cmds.foldl engineHandleCmd session).Spoilt := by
  induction cmds generalizing session with
  | nil => exact spoilt
  | cons cmd rest induction => exact induction (spoilt.kept_by_handle cmd)

/-! One round after another. -/

/-- What is left of a round after its START. -/
def restCmds (answers : List StartAnswer) : List AppCmd :=
  (answers.flatMap fun answer => [.resume answer, .pause]) ++ [.stop]

theorem foldl_pair (running : session.halted = false)
    (answer : StartAnswer)
    (ran : (session.start answer).halted = false)
    (answers : List StartAnswer) :
    (restCmds (answer :: answers)).foldl engineHandleCmd session =
      (restCmds answers).foldl engineHandleCmd
        (session.start answer).stop := by
  simp [restCmds, engineHandleCmd, running, ran]

theorem foldl_stop (running : session.halted = false) :
    (restCmds []).foldl engineHandleCmd session = session.term := by
  simp [restCmds, engineHandleCmd, running]

/-- A session whose client still holds the socket `id`. -/
structure Session.Holds (session : Session) (id : Nat) : Prop where
  running : session.halted = false
  outstanding : session.ledger.Outstanding id
  apart : session.client.exitFd ≠ some id

theorem Session.Holds.more {id : Nat} (holds : session.Holds id)
    (answer : StartAnswer) (answers : List StartAnswer) :
    ((restCmds (answer :: answers)).foldl engineHandleCmd
      session).Spoilt := by
  have leaks := start_leaks holds.outstanding holds.apart answer
  have handled : engineHandleCmd session (.resume answer) =
      session.start answer := by
    simp [engineHandleCmd, holds.running]
  have spoilt : (engineHandleCmd session (.resume answer)).Spoilt := by
    rw [handled]
    exact .inr ⟨id, leaks⟩
  exact spoilt.kept_by_run (.pause :: restCmds answers)

theorem Session.Idle.eventfdFails (idle : session.Idle) :
    (session.start .eventfdFails).stop.Holds session.ledger.fresh :=
  ⟨idle.running, idle.settled.outstanding_fresh,
    (Option.some_ne_none _).symm⟩

theorem Session.Idle.succeeds (idle : session.Idle) :
    (session.start .succeeds).stop.Holds session.ledger.fresh where
  running := idle.free
  outstanding := idle.settled.outstanding_fresh.acquire
  apart := fun same => absurd (Option.some.inj same) (Nat.succ_ne_self _)

theorem term_joinsNoWorker (free : session.client.workTid = false) :
    session.term.Spoilt := by
  refine .inl ?_
  simp [Session.term, free]

theorem Session.Idle.served (idle : session.Idle) :
    (session.start .succeeds).stop.term.Idle := by
  have joined : (session.start .succeeds).stop.client.workTid = true := rfl
  have right : (session.start .succeeds).misuses = [] := by
    simp [Session.start, Session.spawn, Session.openExit, Session.clearExit,
      Session.openSock, idle.right, idle.free]
  simp only [Session.term, joined, Bool.true_eq_false, if_false]
  constructor
  · exact idle.free
  · exact right
  · rfl
  · rfl
  · exact idle.settled.acquire_acquire_close

theorem Session.Idle.round (idle : session.Idle)
    (answers : List StartAnswer) :
    let later := (restCmds answers).foldl engineHandleCmd session
    (Orderly answers → later.Idle) ∧
      (¬Orderly answers → later.Spoilt) := by
  intro later
  induction answers generalizing session with
  | nil =>
      refine ⟨False.elim, fun _ => ?_⟩
      show ((restCmds []).foldl engineHandleCmd session).Spoilt
      rw [foldl_stop idle.running]
      exact term_joinsNoWorker idle.free
  | cons answer rest induction =>
      cases answer with
      | socketFails =>
          have step := induction idle.socketFails
          rwa [← foldl_pair idle.running .socketFails idle.running] at step
      | bindFails =>
          have step := induction idle.bindFails
          rwa [← foldl_pair idle.running .bindFails idle.running] at step
      | eventfdFails =>
          refine ⟨False.elim, fun _ => ?_⟩
          show ((restCmds _).foldl engineHandleCmd session).Spoilt
          rw [foldl_pair idle.running .eventfdFails idle.running]
          cases rest with
          | nil =>
              rw [foldl_stop idle.eventfdFails.running]
              exact term_joinsNoWorker idle.free
          | cons next more => exact idle.eventfdFails.more next more
      | succeeds =>
          have pair := foldl_pair idle.running .succeeds idle.free rest
          show (rest = [] → ((restCmds _).foldl engineHandleCmd
              session).Idle) ∧
            (¬rest = [] → ((restCmds _).foldl engineHandleCmd
              session).Spoilt)
          rw [pair]
          cases rest with
          | nil =>
              rw [foldl_stop idle.succeeds.running]
              exact ⟨fun _ => idle.served, fun more => absurd rfl more⟩
          | cons next more =>
              refine ⟨fun empty => ?_, fun _ => idle.succeeds.more next more⟩
              cases empty

theorem foldl_round (running : session.halted = false)
    (answers : List StartAnswer) :
    (roundCmds answers).foldl engineHandleCmd session =
      (restCmds answers).foldl engineHandleCmd session := by
  simp [roundCmds, restCmds, engineHandleCmd, running]

theorem Session.Idle.rounds (idle : session.Idle)
    (rounds : List (List StartAnswer)) :
    ((rounds.flatMap roundCmds).foldl engineHandleCmd session).LivesWell ↔
      ∀ answers ∈ rounds, Orderly answers := by
  induction rounds generalizing session with
  | nil =>
      constructor
      · intro _ answers member
        cases member
      · exact fun _ => idle.livesWell
  | cons answers rest induction =>
      have one := idle.round answers
      rw [List.forall_mem_cons, List.flatMap_cons, List.foldl_append,
        foldl_round idle.running]
      by_cases orderly : Orderly answers
      · rw [induction (one.1 orderly)]
        exact (and_iff_right orderly).symm
      · have spoilt := (one.2 orderly).kept_by_run (rest.flatMap roundCmds)
        constructor
        · exact fun well => absurd well spoilt.not_livesWell
        · exact fun both => absurd both.1 orderly

end Sessions

/-- The client lives well exactly if in every round the calls of `start` fail
at `socket` or `bind` until one succeeds, which is the last. -/
theorem runRounds_livesWell_iff (rounds : List (List StartAnswer)) :
    (runRounds rounds).LivesWell ↔ ∀ answers ∈ rounds, Orderly answers :=
  initial_idle.rounds rounds

/-- Two pairs of RESUME and PAUSE: the second `start` replaces the worker
that nobody joined. -/
theorem secondResume_livesBadly :
    ¬(runRounds [[.succeeds, .succeeds]]).LivesWell ∧
      (runRounds [[.succeeds, .succeeds]]).misuses =
        [.revivesWorker, .replacesWorker] ∧
      (runRounds [[]]).misuses = [.joinsNoWorker] := by
  refine ⟨fun well => ?_, by decide, by decide⟩
  have workers := well.workers
  revert workers
  decide

end VirtioGpu.Client
