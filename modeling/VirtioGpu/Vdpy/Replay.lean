import VirtioGpu.Vdpy.Wire

namespace VirtioGpu.Vdpy

open Foundation

/-! The control ranges of the two threads. -/

namespace DisplayPc

def locked : DisplayPc → Bool
  | modifierHeader _ | modifierBody _ | surfaceHeader _ | surfaceBody _
  | surfaceFd _ | updateHeader | unlock => true
  | idle | storeModifier _ | storeFlag _ | lockModifier _ | lockSurface _
  | lockUpdate => false

def stage : DisplayPc → Stage
  | modifierBody _ => .modifier
  | surfaceBody surf => .surface surf
  | surfaceFd surf => .descriptor surf
  | modifierHeader _ | surfaceHeader _ | updateHeader | unlock | idle
  | storeModifier _ | storeFlag _ | lockModifier _ | lockSurface _
  | lockUpdate => .whole

/-- The modifier that is set but not yet sent. -/
def announced : DisplayPc → Option Nat
  | storeModifier modifier | storeFlag modifier | lockModifier modifier
  | modifierHeader modifier | modifierBody modifier => some modifier
  | idle | lockSurface _ | surfaceHeader _ | surfaceBody _ | surfaceFd _
  | lockUpdate | updateHeader | unlock => none

/-- The modifier and its flag are not yet both written. -/
def storing : DisplayPc → Bool
  | storeModifier _ | storeFlag _ => true
  | idle | lockModifier _ | modifierHeader _ | modifierBody _ | lockSurface _
  | surfaceHeader _ | surfaceBody _ | surfaceFd _ | lockUpdate | updateHeader
  | unlock => false

end DisplayPc

namespace ServerPc

def locked : ServerPc → Bool
  | closePrevious _ | install _ | testModifier | replayHeader | replayBody
  | close | unlock => true
  | idle | lockAccept _ | lockClose => false

def stage : ServerPc → Stage
  | replayBody => .modifier
  | idle | lockAccept _ | closePrevious _ | install _ | testModifier
  | replayHeader | lockClose | close | unlock => .whole

/-- The connection that is accepted but not yet the client's. -/
def pending : ServerPc → Option Nat
  | lockAccept newClientSock | closePrevious newClientSock
  | install newClientSock => newClientSock
  | idle | testModifier | replayHeader | replayBody | lockClose | close
  | unlock => none

def replaying : ServerPc → Bool
  | replayHeader | replayBody => true
  | idle | lockAccept _ | closePrevious _ | install _ | testModifier
  | lockClose | close | unlock => false

end ServerPc

/-! The connections. -/

structure Traffic (accepted : Nat) (wires : Nat → List Sent)
    (clientSock pending : Option Nat) (stage : Stage) : Prop where
  bounded : ∀ connection, clientSock = some connection → connection < accepted
  untouched : ∀ connection, accepted ≤ connection → wires connection = []
  waiting : ∀ connection, pending = some connection →
    connection < accepted ∧ wires connection = [] ∧
      clientSock ≠ some connection
  current : ∀ connection, clientSock = some connection →
    Wire (wires connection) stage
  others : ∀ connection, clientSock ≠ some connection →
    Wire (wires connection) .whole

namespace Traffic

variable {accepted connection : Nat} {wires : Nat → List Sent}
variable {clientSock pending : Option Nat} {stage next : Stage}

theorem whole (traffic : Traffic accepted wires clientSock pending .whole)
    (connection : Nat) : Wire (wires connection) .whole := by
  by_cases held : clientSock = some connection
  · exact traffic.current connection held
  · exact traffic.others connection held

theorem wire (traffic : Traffic accepted wires clientSock pending stage)
    (connection : Nat) : ∃ stage, Wire (wires connection) stage := by
  by_cases held : clientSock = some connection
  · exact ⟨stage, traffic.current connection held⟩
  · exact ⟨.whole, traffic.others connection held⟩

theorem kept_by_push {part : Sent}
    (traffic : Traffic accepted wires (some connection) pending stage)
    (grown : Wire (wires connection ++ [part]) next) :
    Traffic accepted (Function.update wires connection
      (wires connection ++ [part])) (some connection) pending next where
  bounded := traffic.bounded
  untouched := by
    intro later above
    have distinct : later ≠ connection := by
      have := traffic.bounded connection rfl
      omega
    rw [Function.update_of_ne distinct]
    exact traffic.untouched later above
  waiting := by
    intro fresh waits
    obtain ⟨below, empty, other⟩ := traffic.waiting fresh waits
    have distinct : fresh ≠ connection := by
      rintro rfl
      exact other rfl
    rw [Function.update_of_ne distinct]
    exact ⟨below, empty, other⟩
  current := by
    intro held same
    cases same
    rw [Function.update_self]
    exact grown
  others := by
    intro other apart
    have distinct : other ≠ connection := by
      rintro rfl
      exact apart rfl
    rw [Function.update_of_ne distinct]
    exact traffic.others other apart

/-- Without a client the stage says nothing. -/
theorem anyStage (traffic : Traffic accepted wires none pending stage)
    (next : Stage) : Traffic accepted wires none pending next where
  bounded := traffic.bounded
  untouched := traffic.untouched
  waiting := traffic.waiting
  current := by
    intro connection held
    cases held
  others := traffic.others

theorem kept_by_close
    (traffic : Traffic accepted wires clientSock pending .whole) :
    Traffic accepted wires none pending .whole where
  bounded := by
    intro connection held
    cases held
  untouched := traffic.untouched
  waiting := by
    intro connection waits
    obtain ⟨below, empty, _⟩ := traffic.waiting connection waits
    exact ⟨below, empty, (Option.some_ne_none connection).symm⟩
  current := by
    intro connection held
    cases held
  others := fun connection _ => traffic.whole connection

theorem kept_by_install (traffic : Traffic accepted wires none pending .whole) :
    Traffic accepted wires pending none .whole where
  bounded := by
    intro connection held
    exact (traffic.waiting connection held).1
  untouched := traffic.untouched
  waiting := by
    intro connection waits
    cases waits
  current := by
    intro connection _
    exact traffic.others connection (Option.some_ne_none _).symm
  others := by
    intro connection _
    exact traffic.others connection (Option.some_ne_none connection).symm

theorem kept_by_accept
    (traffic : Traffic accepted wires clientSock none stage) :
    Traffic (accepted + 1) wires clientSock (some accepted) stage where
  bounded := by
    intro connection held
    exact Nat.lt_succ_of_lt (traffic.bounded connection held)
  untouched := by
    intro connection above
    exact traffic.untouched connection (Nat.le_of_succ_le above)
  waiting := by
    intro connection waits
    cases waits
    have empty := traffic.untouched accepted (Nat.le_refl accepted)
    refine ⟨Nat.lt_succ_self accepted, empty, ?_⟩
    intro held
    exact Nat.lt_irrefl accepted (traffic.bounded accepted held)
  current := traffic.current
  others := traffic.others

end Traffic

/-! What holds between any two steps. -/

namespace Clients

/-- The stage of the client's connection is that of the thread which holds the
mutex. -/
def stage (clients : Clients) : Stage :=
  match clients.clientMutex with
  | none => .whole
  | some .display => clients.display.stage
  | some .server => clients.server.stage

/-- What a new client is told. -/
def stored (clients : Clients) : Option Nat :=
  if clients.setModifier then some clients.modifier else none

end Clients

structure Safe (clients : Clients) : Prop where
  displayHolds : clients.clientMutex = some .display ↔
    clients.display.locked = true
  serverHolds : clients.clientMutex = some .server ↔
    clients.server.locked = true
  traffic : Traffic clients.accepted clients.wires clients.clientSock
    clients.server.pending clients.stage
  announcing : ∀ modifier, clients.display.announced = some modifier →
    clients.latest = some modifier
  flagging : ∀ modifier, clients.display = .storeFlag modifier →
    clients.modifier = modifier
  memory : clients.display.storing = false → clients.stored = clients.latest
  untold : clients.server = .testModifier → ∀ connection,
    clients.clientSock = some connection → clients.wires connection = []
  flagged : clients.server.replaying = true → clients.setModifier = true
  known : clients.display.announced = none →
    clients.server ≠ .testModifier → clients.server.replaying = false →
      ∀ connection, clients.clientSock = some connection →
        lastModifier (clients.wires connection) = clients.latest

theorem safe_fresh : Safe freshClients where
  displayHolds := by simp [freshClients, DisplayPc.locked]
  serverHolds := by simp [freshClients, ServerPc.locked]
  traffic := {
    bounded := by simp [freshClients]
    untouched := by simp [freshClients]
    waiting := by simp [freshClients, ServerPc.pending]
    current := by simp [freshClients]
    others := fun _ _ => .nil }
  announcing := by simp [freshClients, DisplayPc.announced]
  flagging := by simp [freshClients]
  memory := fun _ => rfl
  untold := by simp [freshClients]
  flagged := by simp [freshClients, ServerPc.replaying]
  known := by simp [freshClients]

namespace Clients

variable (clients : Clients) (piece : Piece)

@[simp] theorem push_modifier :
    (clients.push piece).modifier = clients.modifier := by
  unfold push
  split <;> rfl

@[simp] theorem push_setModifier :
    (clients.push piece).setModifier = clients.setModifier := by
  unfold push
  split <;> rfl

@[simp] theorem push_clientSock :
    (clients.push piece).clientSock = clients.clientSock := by
  unfold push
  split <;> rfl

@[simp] theorem push_clientMutex :
    (clients.push piece).clientMutex = clients.clientMutex := by
  unfold push
  split <;> rfl

@[simp] theorem push_display :
    (clients.push piece).display = clients.display := by
  unfold push
  split <;> rfl

@[simp] theorem push_server :
    (clients.push piece).server = clients.server := by
  unfold push
  split <;> rfl

@[simp] theorem push_accepted :
    (clients.push piece).accepted = clients.accepted := by
  unfold push
  split <;> rfl

@[simp] theorem push_latest :
    (clients.push piece).latest = clients.latest := by
  unfold push
  split <;> rfl

theorem push_none {clients : Clients} (absent : clients.clientSock = none) :
    clients.push piece = clients := by
  simp only [push, absent]

theorem push_wire {clients : Clients} {connection : Nat}
    (held : clients.clientSock = some connection) :
    (clients.push piece).wires connection =
      clients.wires connection ++ [⟨piece, clients.latest⟩] := by
  simp only [push, held, Function.update_self]

theorem lock_eq_some {clients locked : Clients} {holder : Holder} :
    clients.lock holder = some locked ↔ clients.clientMutex = none ∧
      { clients with clientMutex := some holder } = locked := by
  simp [lock]

/-- A step that waits for a condition. -/
theorem ready {after result : Clients} {waits : Prop} [Decidable waits]
    (stepped : (if waits then some result else none) = some after) :
    waits ∧ result = after := by
  obtain ⟨met, same⟩ := Option.ite_none_right_eq_some.1 stepped
  exact ⟨met, Option.some.inj same⟩

end Clients

namespace Traffic

theorem pushed {clients : Clients} {piece : Piece} {pending : Option Nat}
    {stage next : Stage} (traffic : Traffic clients.accepted clients.wires
      clients.clientSock pending stage)
    (grown : ∀ connection, clients.clientSock = some connection →
      Wire (clients.wires connection) stage →
        Wire (clients.wires connection ++ [⟨piece, clients.latest⟩]) next) :
    Traffic clients.accepted (clients.push piece).wires clients.clientSock
      pending next := by
  cases held : clients.clientSock with
  | none =>
      rw [held] at traffic
      rw [Clients.push_none piece held]
      exact traffic.anyStage next
  | some connection =>
      rw [held] at traffic
      simp only [Clients.push, held]
      exact traffic.kept_by_push
        (grown connection held (traffic.current connection rfl))

end Traffic

/-! One step of the display thread. -/

theorem DisplayPc.quiet {display : DisplayPc} (locked : display.locked = true) :
    display.storing = false ∧ ∀ modifier, display ≠ .storeFlag modifier := by
  cases display with
  | modifierHeader _ | modifierBody _ | surfaceHeader _ | surfaceBody _
  | surfaceFd _ | updateHeader | unlock => exact ⟨rfl, by simp⟩
  | idle | storeModifier _ | storeFlag _ | lockModifier _ | lockSurface _
  | lockUpdate => cases locked

theorem DisplayPc.settled {display : DisplayPc}
    (silent : display.announced = none) : display.storing = false := by
  cases display with
  | storeModifier _ | storeFlag _ => cases silent
  | idle | lockModifier _ | modifierHeader _ | modifierBody _ | lockSurface _
  | surfaceHeader _ | surfaceBody _ | surfaceFd _ | lockUpdate | updateHeader
  | unlock => rfl

theorem ServerPc.quiet {server : ServerPc} (outside : server.locked ≠ true) :
    server ≠ .testModifier ∧ server.replaying = false := by
  cases server with
  | idle | lockAccept _ | lockClose => exact ⟨by simp, rfl⟩
  | closePrevious _ | install _ | testModifier | replayHeader | replayBody
  | close | unlock => exact absurd rfl outside

namespace Safe

variable {clients after : Clients}

theorem outside (safe : Safe clients)
    (held : clients.display.locked = true) :
    clients.server ≠ .testModifier ∧ clients.server.replaying = false := by
  apply ServerPc.quiet
  intro inside
  have twice := (safe.displayHolds.2 held).symm.trans
    (safe.serverHolds.2 inside)
  cases twice

theorem kept_by_displaySends (safe : Safe clients) {piece : Piece}
    {next : DisplayPc} (held : clients.display.locked = true)
    (holding : next.locked = true)
    (announced : ∀ modifier, next.announced = some modifier →
      clients.display.announced = some modifier)
    (grown : ∀ connection, clients.clientSock = some connection →
      Wire (clients.wires connection) clients.display.stage →
        Wire (clients.wires connection ++ [⟨piece, clients.latest⟩])
          next.stage)
    (known : next.announced = none → ∀ connection,
      clients.clientSock = some connection → lastModifier
        (clients.wires connection ++ [⟨piece, clients.latest⟩]) =
          clients.latest) :
    Safe { clients.push piece with display := next } := by
  have mutex := safe.displayHolds.2 held
  obtain ⟨untested, unreplayed⟩ := safe.outside held
  have stage : clients.stage = clients.display.stage := by
    simp only [Clients.stage, mutex]
  have traffic := safe.traffic
  rw [stage] at traffic
  constructor
  · simp [mutex, holding]
  · simpa using safe.serverHolds
  · simpa [Clients.stage, mutex] using traffic.pushed grown
  · intro modifier same
    simpa using safe.announcing modifier (announced modifier same)
  · intro modifier same
    exact absurd same ((DisplayPc.quiet holding).2 modifier)
  · intro _
    simpa [Clients.stored] using safe.memory (DisplayPc.quiet held).1
  · simp [untested]
  · simp [unreplayed]
  · intro quiet _ _ connection held
    simp only [Clients.push_clientSock, Clients.push_latest] at held ⊢
    rw [Clients.push_wire piece held]
    exact known quiet connection held

/-- Without a client nothing is sent. -/
theorem kept_by_displaySkips (safe : Safe clients) {next : DisplayPc}
    (absent : clients.clientSock = none)
    (held : clients.display.locked = true) (holding : next.locked = true)
    (silent : next.announced = none) :
    Safe { clients with display := next } := by
  have skipped : Safe
      { clients.push (.header .setModifier) with display := next } := by
    apply safe.kept_by_displaySends held holding
    · intro modifier same
      rw [silent] at same
      cases same
    · intro connection client
      rw [absent] at client
      cases client
    · intro _ connection client
      rw [absent] at client
      cases client
  rwa [Clients.push_none _ absent] at skipped

theorem kept_by_displayLocks (safe : Safe clients)
    (free : clients.clientMutex = none) {next : DisplayPc}
    (holding : next.locked = true) (whole : next.stage = .whole)
    (announced : next.announced = clients.display.announced)
    (stored : clients.display.storing = false) :
    Safe { clients with clientMutex := some .display, display := next } where
  displayHolds := by simp [holding]
  serverHolds := by simpa [free] using safe.serverHolds
  traffic := by
    have traffic := safe.traffic
    simp only [Clients.stage, free] at traffic
    simpa only [Clients.stage, whole] using traffic
  announcing := by
    intro modifier same
    exact safe.announcing modifier (announced.symm.trans same)
  flagging := by
    intro modifier same
    exact absurd same ((DisplayPc.quiet holding).2 modifier)
  memory := fun _ => safe.memory stored
  untold := safe.untold
  flagged := safe.flagged
  known := by
    intro quiet
    exact safe.known (announced.symm.trans quiet)

theorem kept_by_displayUnlocks (safe : Safe clients)
    (unlocks : clients.display = .unlock) :
    Safe { clients.unlock with display := .idle } := by
  have held : clients.display.locked = true := by
    rw [unlocks]
    rfl
  have mutex := safe.displayHolds.2 held
  have traffic := safe.traffic
  simp only [Clients.stage, mutex, unlocks] at traffic
  exact { safe with
    displayHolds := by simp [Clients.unlock, DisplayPc.locked]
    serverHolds := by simpa [Clients.unlock, mutex] using safe.serverHolds
    traffic := traffic
    announcing := by simp [DisplayPc.announced]
    flagging := by simp
    memory := fun _ => safe.memory (DisplayPc.quiet held).1
    known := fun _ => safe.known (by rw [unlocks]; rfl) }

/-- The sends of the display thread that are no modifier. -/
theorem kept_by_displaySendsOther (safe : Safe clients) {piece : Piece}
    {next : DisplayPc} (held : clients.display.locked = true)
    (holding : next.locked = true)
    (other : Sent.modifier? ⟨piece, clients.latest⟩ = none)
    (quiet : clients.display.announced = none)
    (silent : next.announced = none)
    (grown : ∀ connection, clients.clientSock = some connection →
      lastModifier (clients.wires connection) = clients.latest →
      Wire (clients.wires connection) clients.display.stage →
        Wire (clients.wires connection ++ [⟨piece, clients.latest⟩])
          next.stage) :
    Safe { clients.push piece with display := next } := by
  have known := safe.known quiet (safe.outside held).1 (safe.outside held).2
  apply safe.kept_by_displaySends held holding
  · intro modifier same
    rw [silent] at same
    cases same
  · intro connection client wire
    exact grown connection client (known connection client) wire
  · intro _ connection client
    rw [lastModifier_other _ other]
    exact known connection client

theorem kept_by_displayStep (safe : Safe clients)
    (stepped : displayStep clients = some after) : Safe after := by
  obtain ⟨stored, setModifier, clientSock, clientMutex, display, server,
    accepted, wires, latest⟩ := clients
  cases display with
  | idle => cases stepped
  | storeModifier modifier =>
      cases stepped
      exact { safe with
        flagging := fun _ same => DisplayPc.storeFlag.inj same
        memory := Bool.noConfusion }
  | storeFlag modifier =>
      cases stepped
      exact { safe with
        flagging := by simp
        memory := by
          intro _
          have written : stored = modifier := safe.flagging modifier rfl
          have set : latest = some modifier := safe.announcing modifier rfl
          simp [Clients.stored, written, set]
        flagged := fun _ => rfl }
  | lockModifier _ | lockSurface _ | lockUpdate =>
      obtain ⟨locked, acquired, rfl⟩ := Option.map_eq_some_iff.1 stepped
      obtain ⟨free, rfl⟩ := Clients.lock_eq_some.1 acquired
      exact safe.kept_by_displayLocks free rfl rfl rfl rfl
  | modifierHeader modifier =>
      cases clientSock with
      | none =>
          cases stepped
          exact safe.kept_by_displaySkips rfl rfl rfl rfl
      | some connection =>
          cases stepped
          apply safe.kept_by_displaySends rfl rfl
          · intro value same
            exact same
          · intro connection _ wire
            exact wire.modifierHeader latest
          · intro quiet
            cases quiet
  | modifierBody modifier =>
      cases stepped
      apply safe.kept_by_displaySends rfl rfl
      · intro value same
        cases same
      · intro connection _ wire
        exact wire.modifierBody modifier latest
      · intro _ connection _
        rw [lastModifier_modifier]
        exact (safe.announcing modifier rfl).symm
  | surfaceHeader surf =>
      cases clientSock with
      | none =>
          cases stepped
          exact safe.kept_by_displaySkips rfl rfl rfl rfl
      | some connection =>
          cases stepped
          apply safe.kept_by_displaySendsOther rfl rfl rfl rfl rfl
          intro connection _ known wire
          exact wire.surfaceHeader surf known
  | surfaceBody surf =>
      cases stepped
      apply safe.kept_by_displaySendsOther rfl rfl rfl rfl rfl
      intro connection _ _ wire
      exact wire.surfaceBody latest
  | surfaceFd surf =>
      cases stepped
      apply safe.kept_by_displaySendsOther rfl rfl rfl rfl rfl
      intro connection _ _ wire
      exact wire.descriptor latest
  | updateHeader =>
      cases stepped
      apply safe.kept_by_displaySendsOther rfl rfl rfl rfl rfl
      intro connection _ _ wire
      exact wire.update latest
  | unlock =>
      cases stepped
      exact safe.kept_by_displayUnlocks rfl

/-! One step of the server thread. -/

theorem kept_by_serverLocks (safe : Safe clients)
    (free : clients.clientMutex = none) {next : ServerPc}
    (holding : next.locked = true) (whole : next.stage = .whole)
    (pending : next.pending = clients.server.pending)
    (tested : next ≠ .testModifier) (quiet : next.replaying = false) :
    Safe { clients with clientMutex := some .server, server := next } where
  displayHolds := by simpa [free] using safe.displayHolds
  serverHolds := by simp [holding]
  traffic := by
    have traffic := safe.traffic
    simp only [Clients.stage, free, ← pending] at traffic
    simpa only [Clients.stage, whole] using traffic
  announcing := safe.announcing
  flagging := safe.flagging
  memory := safe.memory
  untold := fun testing => absurd testing tested
  flagged := fun replays => absurd (quiet.symm.trans replays) Bool.noConfusion
  known := by
    intro silent _ _
    have outside : clients.server.locked ≠ true := by
      intro inside
      have taken := safe.serverHolds.2 inside
      rw [free] at taken
      cases taken
    exact safe.known silent (ServerPc.quiet outside).1
      (ServerPc.quiet outside).2

theorem kept_by_serverUnlocks (safe : Safe clients)
    (unlocks : clients.server = .unlock) :
    Safe { clients.unlock with server := .idle } := by
  have held : clients.server.locked = true := by
    rw [unlocks]
    rfl
  have mutex := safe.serverHolds.2 held
  have traffic := safe.traffic
  simp only [Clients.stage, mutex, unlocks] at traffic
  exact { safe with
    displayHolds := by simpa [Clients.unlock, mutex] using safe.displayHolds
    serverHolds := by simp [Clients.unlock, ServerPc.locked]
    traffic := traffic
    untold := by simp
    flagged := Bool.noConfusion
    known := fun silent _ _ => safe.known silent (by simp [unlocks])
      (by rw [unlocks]; rfl) }

theorem kept_by_serverSends (safe : Safe clients) {piece : Piece}
    (next : ServerPc) (held : clients.server.locked = true)
    (holding : next.locked = true)
    (settled : next.pending = clients.server.pending)
    (tested : next ≠ .testModifier)
    (flagged : next.replaying = true → clients.setModifier = true)
    (grown : ∀ connection, clients.clientSock = some connection →
      Wire (clients.wires connection) clients.server.stage →
        Wire (clients.wires connection ++ [⟨piece, clients.latest⟩])
          next.stage)
    (known : clients.display.announced = none → next.replaying = false →
      ∀ connection, clients.clientSock = some connection → lastModifier
        (clients.wires connection ++ [⟨piece, clients.latest⟩]) =
          clients.latest) :
    Safe { clients.push piece with server := next } := by
  have mutex := safe.serverHolds.2 held
  have stage : clients.stage = clients.server.stage := by
    simp only [Clients.stage, mutex]
  have traffic := safe.traffic
  rw [stage, ← settled] at traffic
  constructor
  · simpa using safe.displayHolds
  · simp [mutex, holding]
  · simpa [Clients.stage, mutex] using traffic.pushed grown
  · simpa using safe.announcing
  · simpa using safe.flagging
  · simpa [Clients.stored] using safe.memory
  · exact fun testing => absurd testing tested
  · simpa using flagged
  · intro silent _ quiet connection client
    simp only [Clients.push_clientSock, Clients.push_latest,
      Clients.push_display] at client silent ⊢
    rw [Clients.push_wire piece client]
    exact known silent quiet connection client

theorem kept_by_serverStep (safe : Safe clients)
    (stepped : serverStep clients = some after) : Safe after := by
  obtain ⟨stored, setModifier, clientSock, clientMutex, display, server,
    accepted, wires, latest⟩ := clients
  cases server with
  | idle => cases stepped
  | lockAccept _ | lockClose =>
      obtain ⟨locked, acquired, rfl⟩ := Option.map_eq_some_iff.1 stepped
      obtain ⟨free, rfl⟩ := Clients.lock_eq_some.1 acquired
      exact safe.kept_by_serverLocks free rfl rfl rfl (by simp) rfl
  | closePrevious newClientSock =>
      cases stepped
      cases safe.serverHolds.2 rfl
      exact { safe with
        traffic := safe.traffic.kept_by_close
        untold := by simp
        known := by simp }
  | install newClientSock =>
      cases stepped
      cases safe.serverHolds.2 rfl
      exact { safe with
        traffic := safe.traffic.kept_by_close.kept_by_install
        untold := fun _ connection client =>
          (safe.traffic.waiting connection client).2.1
        known := fun _ tested => absurd rfl tested }
  | testModifier =>
      cases setModifier with
      | true =>
          cases stepped
          exact { safe with
            untold := by simp
            flagged := fun _ => rfl
            known := by simp [ServerPc.replaying] }
      | false =>
          cases stepped
          exact { safe with
            untold := by simp
            known := by
              intro silent _ _ connection client
              have empty : wires connection = [] :=
                safe.untold rfl connection client
              have unset : none = latest :=
                safe.memory (DisplayPc.settled silent)
              show lastModifier (wires connection) = latest
              rw [empty, lastModifier_nil, unset] }
  | replayHeader =>
      cases clientSock with
      | none =>
          cases stepped
          cases safe.serverHolds.2 rfl
          exact { safe with
            untold := by simp
            flagged := Bool.noConfusion
            known := by simp }
      | some connection =>
          cases stepped
          apply safe.kept_by_serverSends .replayBody rfl rfl rfl (by simp)
          · exact safe.flagged
          · intro connection _ wire
            exact wire.modifierHeader latest
          · intro _ quiet
            cases quiet
  | replayBody =>
      cases stepped
      apply safe.kept_by_serverSends .unlock rfl rfl rfl (by simp)
      · intro replays
        cases replays
      · intro connection _ wire
        exact wire.modifierBody stored latest
      · intro silent _ connection _
        rw [lastModifier_modifier]
        have set : setModifier = true := safe.flagged rfl
        have written := safe.memory (DisplayPc.settled silent)
        simpa [Clients.stored, set] using written
  | close =>
      cases stepped
      cases safe.serverHolds.2 rfl
      exact { safe with
        traffic := safe.traffic.kept_by_close
        untold := by simp
        known := by simp }
  | unlock =>
      cases stepped
      exact safe.kept_by_serverUnlocks rfl

/-! The calls, and what the server thread is woken for. -/

theorem kept_by_setModifier (safe : Safe clients)
    (idle : clients.display = .idle) (modifier : Nat) :
    Safe (vdpySetModifier clients 0 modifier) := by
  obtain ⟨stored, setModifier, clientSock, clientMutex, display, server,
    accepted, wires, latest⟩ := clients
  cases idle
  exact { safe with
    announcing := fun _ same => same
    flagging := by
      intro value same
      cases same
    memory := Bool.noConfusion
    known := by
      intro silent
      cases silent }

theorem kept_by_displayCalls (safe : Safe clients)
    (idle : clients.display = .idle) {next : DisplayPc}
    (outside : next.locked = false) (whole : next.stage = .whole)
    (silent : next.announced = none) :
    Safe { clients with display := next } where
  displayHolds := by
    rw [outside]
    simpa [idle, DisplayPc.locked] using safe.displayHolds
  serverHolds := safe.serverHolds
  traffic := by
    have traffic := safe.traffic
    simp only [Clients.stage, idle, DisplayPc.stage] at traffic
    simpa only [Clients.stage, whole] using traffic
  announcing := by simp [silent]
  flagging := by
    rintro modifier rfl
    cases silent
  memory := fun _ => safe.memory (by rw [idle]; rfl)
  untold := safe.untold
  flagged := safe.flagged
  known := fun _ => safe.known (by rw [idle]; rfl)

/-- A connection, a failed `accept` or a hangup waits for the mutex. -/
theorem kept_by_serverWakes (safe : Safe clients)
    (idle : clients.server = .idle) {next : ServerPc} {accepted : Nat}
    (outside : next.locked = false)
    (whole : next.stage = .whole)
    (traffic : Traffic accepted clients.wires clients.clientSock next.pending
      clients.stage) :
    Safe { clients with accepted := accepted, server := next } := by
  have quiet : next ≠ .testModifier ∧ next.replaying = false := by
    apply ServerPc.quiet
    simp [outside]
  exact { safe with
    serverHolds := by
      rw [outside]
      simpa [idle, ServerPc.locked] using safe.serverHolds
    traffic := by
      simp only [Clients.stage, idle, ServerPc.stage] at traffic
      simpa only [Clients.stage, whole] using traffic
    untold := fun testing => absurd testing quiet.1
    flagged := by simp [quiet.2]
    known := fun silent _ _ => safe.known silent (by simp [idle])
      (by rw [idle]; rfl) }

theorem kept_by_happen (safe : Safe clients) {event : Event}
    (stepped : happen clients event = some after) : Safe after := by
  cases event with
  | setModifier modifier =>
      obtain ⟨idle, rfl⟩ := Clients.ready stepped
      exact safe.kept_by_setModifier idle modifier
  | surfaceSet surf =>
      obtain ⟨idle, rfl⟩ := Clients.ready stepped
      unfold vdpySurfaceSet
      split
      · exact safe
      · split
        · exact safe
        · exact safe.kept_by_displayCalls idle rfl rfl rfl
  | surfaceUpdate surf =>
      obtain ⟨idle, rfl⟩ := Clients.ready stepped
      unfold vdpySurfaceUpdate
      split
      · exact safe
      · split
        · exact safe
        · exact safe.kept_by_displayCalls idle rfl rfl rfl
  | display => exact safe.kept_by_displayStep stepped
  | accept =>
      obtain ⟨idle, rfl⟩ := Clients.ready stepped
      have traffic := safe.traffic
      rw [idle] at traffic
      exact safe.kept_by_serverWakes idle rfl rfl traffic.kept_by_accept
  | acceptFails =>
      obtain ⟨idle, rfl⟩ := Clients.ready stepped
      have traffic := safe.traffic
      rw [idle] at traffic
      exact safe.kept_by_serverWakes idle rfl rfl traffic
  | hangup =>
      obtain ⟨⟨idle, _⟩, rfl⟩ := Clients.ready stepped
      have traffic := safe.traffic
      rw [idle] at traffic
      exact safe.kept_by_serverWakes idle rfl rfl traffic
  | server => exact safe.kept_by_serverStep stepped

/-! What a client is promised, in every run. -/

theorem modifierKnown (safe : Safe clients) : ModifierKnown clients where
  modifier := by
    intro connection before latest after split
    obtain ⟨stage, wire⟩ := safe.traffic.wire connection
    exact wire.known split
  contiguous := by
    intro connection before latest after split
    by_cases free : clients.clientMutex = none
    · have traffic := safe.traffic
      simp only [Clients.stage, free] at traffic
      obtain ⟨surf, front⟩ := (traffic.whole connection).follows split
      refine ⟨surf, take_prefix_of_left front, fun _ => ?_⟩
      rw [Stage.left, List.append_nil] at front
      exact take_eq_of_prefix front
    · obtain ⟨stage, wire⟩ := safe.traffic.wire connection
      obtain ⟨surf, front⟩ := wire.follows split
      exact ⟨surf, take_prefix_of_left front,
        fun released => absurd released free⟩
  bodies := by
    intro connection before value latest after split
    obtain ⟨stage, wire⟩ := safe.traffic.wire connection
    exact wire.body split

end Safe

theorem safe_of_reached {clients : Clients}
    (reached : displayServer.Reached clients) : Safe clients := by
  apply TransitionSystem.ReachedWhere.invariant Safe _ _ reached
  · rintro state rfl
    exact safe_fresh
  · intro before event after safe _ stepped
    exact safe.kept_by_happen stepped

/-- On every connection and at every surface on it, the last modifier received
is the one last set, and the message is contiguous. -/
theorem reached_modifierKnown {clients : Clients}
    (reached : displayServer.Reached clients) : ModifierKnown clients :=
  (safe_of_reached reached).modifierKnown

/-- The modifier 5 is written while a client is accepted, and 7 while the next
client is told it. -/
def reconnectEvents : List Event :=
  [.accept, .setModifier 5, .server, .display, .display, .server, .server,
    .server, .server, .server, .server, .display, .display, .display, .display,
    .accept, .setModifier 7, .server, .server, .server, .server, .server,
    .display, .server, .display, .server, .display, .display, .display,
    .display, .surfaceSet (some ⟨.dmabuf, 9, []⟩), .display, .display,
    .display, .display, .display]

def piecesOn (clients : Clients) (connection : Nat) : List Piece :=
  (clients.wires connection).map Sent.piece

theorem reconnect_told : ∃ clients, displayServer.Reached clients ∧
    piecesOn clients 0 = [.header .setModifier, .modifier 5,
      .header .setModifier, .modifier 5] ∧
    piecesOn clients 1 = [.header .setModifier, .modifier 7,
      .header .setModifier, .modifier 7, .header .surfaceSet,
      .surface ⟨.dmabuf, 9, []⟩, .descriptor 9] ∧
    ModifierKnown clients := by
  obtain ⟨clients, happened, checked⟩ := (Option.any_eq_true _ _).mp
    (show (reconnectEvents.foldlM happen freshClients).any (fun clients =>
        decide (piecesOn clients 0 = [.header .setModifier, .modifier 5,
          .header .setModifier, .modifier 5]) &&
        decide (piecesOn clients 1 = [.header .setModifier, .modifier 7,
          .header .setModifier, .modifier 7, .header .surfaceSet,
          .surface ⟨.dmabuf, 9, []⟩, .descriptor 9])) = true
      by decide +kernel)
  simp only [Bool.and_eq_true, decide_eq_true_eq] at checked
  have reached : displayServer.Reached clients :=
    TransitionSystem.ReachedWhere.foldlM
      (fun reached here => .step reached trivial here) (.initial rfl) happened
  exact ⟨clients, reached, checked.1, checked.2,
    reached_modifierKnown reached⟩

end VirtioGpu.Vdpy
