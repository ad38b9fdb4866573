import VirtioGpu.Foundation.Transition
import Mathlib.Data.List.Basic
import Mathlib.Logic.Function.Basic

namespace VirtioGpu.Vdpy

open Foundation

/-! The display thread, which announces modifiers and surfaces, beside the
server thread, which accepts and closes clients.  A step is one access to what
they share; every send succeeds in full. -/

inductive DpyEvtType where
  | surfaceSet
  | surfaceUpdate
  | setModifier
  deriving Repr, DecidableEq

inductive SurfaceType where
  | pixman
  | dmabuf
  deriving Repr, DecidableEq

structure Surface where
  surfType : SurfaceType
  dmabufFd : Nat
  fields : List UInt8
  deriving Repr, DecidableEq

/-- The parts of a message: its header, its body, or its descriptor. -/
inductive Piece where
  | header (eType : DpyEvtType)
  | modifier (value : Nat)
  | surface (surf : Surface)
  | descriptor (fd : Nat)
  deriving Repr, DecidableEq

/-- A part on a connection, with the value last passed to `vdpy_set_modifier`
when it was sent.  The display thread makes one call after the other, so for a
surface this is the value before its `vdpy_surface_set`. -/
structure Sent where
  piece : Piece
  latest : Option Nat
  deriving Repr, DecidableEq

inductive Holder where
  | display
  | server
  deriving Repr, DecidableEq

/-- What the display thread does next. -/
inductive DisplayPc where
  | idle
  | storeModifier (modifier : Nat)
  | storeFlag (modifier : Nat)
  | lockModifier (modifier : Nat)
  | modifierHeader (modifier : Nat)
  | modifierBody (modifier : Nat)
  | lockSurface (surf : Surface)
  | surfaceHeader (surf : Surface)
  | surfaceBody (surf : Surface)
  | surfaceFd (surf : Surface)
  | lockUpdate
  | updateHeader
  | unlock
  deriving Repr, DecidableEq

/-- What the server thread does next; `none` stands for the socket `-1`. -/
inductive ServerPc where
  | idle
  | lockAccept (newClientSock : Option Nat)
  | closePrevious (newClientSock : Option Nat)
  | install (newClientSock : Option Nat)
  | testModifier
  | replayHeader
  | replayBody
  | lockClose
  | close
  | unlock
  deriving Repr, DecidableEq

/-- `wires` holds what was sent on each connection, `accepted` counts the
connections; `latest` remembers the value last passed to
`vdpy_set_modifier`. -/
structure Clients where
  modifier : Nat
  setModifier : Bool
  clientSock : Option Nat
  clientMutex : Option Holder
  display : DisplayPc
  server : ServerPc
  accepted : Nat
  wires : Nat → List Sent
  latest : Option Nat

namespace Clients

/-- A part is sent on the current connection. -/
def push (clients : Clients) (piece : Piece) : Clients :=
  match clients.clientSock with
  | none => clients
  | some connection => { clients with
      wires := Function.update clients.wires connection
        (clients.wires connection ++ [⟨piece, clients.latest⟩]) }

/-- `pthread_mutex_lock` returns once the mutex is free. -/
def lock (clients : Clients) (holder : Holder) : Option Clients :=
  if clients.clientMutex = none then
    some { clients with clientMutex := some holder }
  else
    none

def unlock (clients : Clients) : Clients :=
  { clients with clientMutex := none }

end Clients

/-! The display thread. -/

def vscrsNum : Nat := 1

def vdpySetModifier (clients : Clients) (scanoutId modifier : Nat) : Clients :=
  if scanoutId ≥ vscrsNum then
    { clients with latest := some modifier }
  else
    { clients with
      latest := some modifier
      display := .storeModifier modifier }

def vdpySurfaceSet (clients : Clients) (surf : Option Surface) : Clients :=
  match surf with
  | none => clients
  | some surf =>
      if surf.surfType ≠ .dmabuf then clients
      else { clients with display := .lockSurface surf }

def vdpySurfaceUpdate (clients : Clients) (surf : Option Surface) : Clients :=
  match surf with
  | none => clients
  | some surf =>
      if surf.surfType ≠ .dmabuf then clients
      else { clients with display := .lockUpdate }

/-- `client_send` and `client_send_fd` return at once without a client. -/
def displayStep (clients : Clients) : Option Clients :=
  match clients.display with
  | .idle => none
  | .storeModifier modifier => some { clients with
      modifier := modifier
      display := .storeFlag modifier }
  | .storeFlag modifier => some { clients with
      setModifier := true
      display := .lockModifier modifier }
  | .lockModifier modifier => (clients.lock .display).map fun locked =>
      { locked with display := .modifierHeader modifier }
  | .modifierHeader modifier =>
      if clients.clientSock = none then
        some { clients with display := .unlock }
      else
        some { clients.push (.header .setModifier) with
          display := .modifierBody modifier }
  | .modifierBody modifier =>
      some { clients.push (.modifier modifier) with display := .unlock }
  | .lockSurface surf => (clients.lock .display).map fun locked =>
      { locked with display := .surfaceHeader surf }
  | .surfaceHeader surf =>
      if clients.clientSock = none then
        some { clients with display := .surfaceFd surf }
      else
        some { clients.push (.header .surfaceSet) with
          display := .surfaceBody surf }
  | .surfaceBody surf =>
      some { clients.push (.surface surf) with display := .surfaceFd surf }
  | .surfaceFd surf =>
      some { clients.push (.descriptor surf.dmabufFd) with display := .unlock }
  | .lockUpdate => (clients.lock .display).map fun locked =>
      { locked with display := .updateHeader }
  | .updateHeader =>
      some { clients.push (.header .surfaceUpdate) with display := .unlock }
  | .unlock => some { clients.unlock with display := .idle }

/-! The server thread. -/

def serverStep (clients : Clients) : Option Clients :=
  match clients.server with
  | .idle => none
  | .lockAccept newClientSock => (clients.lock .server).map fun locked =>
      { locked with server := .closePrevious newClientSock }
  | .closePrevious newClientSock => some { clients with
      clientSock := none
      server := .install newClientSock }
  | .install newClientSock => some { clients with
      clientSock := newClientSock
      server := .testModifier }
  | .testModifier =>
      if clients.setModifier then
        some { clients with server := .replayHeader }
      else
        some { clients with server := .unlock }
  | .replayHeader =>
      if clients.clientSock = none then
        some { clients with server := .unlock }
      else
        some { clients.push (.header .setModifier) with server := .replayBody }
  | .replayBody =>
      some { clients.push (.modifier clients.modifier) with server := .unlock }
  | .lockClose => (clients.lock .server).map fun locked =>
      { locked with server := .close }
  | .close => some { clients with
      clientSock := none
      server := .unlock }
  | .unlock => some { clients.unlock with server := .idle }

/-! Both threads.  A call of the display thread is one for the scanout 0; an
accepted connection is a new one, and `accept` may fail. -/

inductive Event where
  | setModifier (modifier : Nat)
  | surfaceSet (surf : Option Surface)
  | surfaceUpdate (surf : Option Surface)
  | display
  | accept
  | acceptFails
  | hangup
  | server

def happen (clients : Clients) : Event → Option Clients
  | .setModifier modifier =>
      if clients.display = .idle then some (vdpySetModifier clients 0 modifier)
      else none
  | .surfaceSet surf =>
      if clients.display = .idle then some (vdpySurfaceSet clients surf)
      else none
  | .surfaceUpdate surf =>
      if clients.display = .idle then some (vdpySurfaceUpdate clients surf)
      else none
  | .display => displayStep clients
  | .accept =>
      if clients.server = .idle then
        some { clients with
          accepted := clients.accepted + 1
          server := .lockAccept (some clients.accepted) }
      else
        none
  | .acceptFails =>
      if clients.server = .idle then
        some { clients with server := .lockAccept none }
      else
        none
  | .hangup =>
      if clients.server = .idle ∧ clients.clientSock ≠ none then
        some { clients with server := .lockClose }
      else
        none
  | .server => serverStep clients

def freshClients : Clients where
  modifier := 0
  setModifier := false
  clientSock := none
  clientMutex := none
  display := .idle
  server := .idle
  accepted := 0
  wires := fun _ => []
  latest := none

def displayServer : TransitionSystem Clients Event where
  initial := fun clients => clients = freshClients
  step := fun before event after => happen before event = some after

/-! What a client is promised. -/

def Sent.modifier? (sent : Sent) : Option Nat :=
  match sent.piece with
  | .modifier value => some value
  | .header _ | .surface _ | .descriptor _ => none

/-- The value of the last modifier that was received. -/
def lastModifier (received : List Sent) : Option Nat :=
  (received.filterMap Sent.modifier?).getLast?

/-- On every connection and for every surface on it: the last modifier received
before is the one last set, and the body and the descriptor follow the header
directly, at the latest when the mutex is free.  A modifier follows its
header. -/
structure ModifierKnown (clients : Clients) : Prop where
  modifier : ∀ connection before latest after, clients.wires connection =
    before ++ ⟨.header .surfaceSet, latest⟩ :: after →
      lastModifier before = latest
  contiguous : ∀ connection before latest after, clients.wires connection =
    before ++ ⟨.header .surfaceSet, latest⟩ :: after →
      ∃ surf, (after.map Sent.piece).take 2 <+:
          [.surface surf, .descriptor surf.dmabufFd] ∧
        (clients.clientMutex = none → (after.map Sent.piece).take 2 =
          [.surface surf, .descriptor surf.dmabufFd])
  bodies : ∀ connection before value latest after,
    clients.wires connection = before ++ ⟨.modifier value, latest⟩ :: after →
      before.getLast?.map Sent.piece = some (.header .setModifier)

end VirtioGpu.Vdpy
