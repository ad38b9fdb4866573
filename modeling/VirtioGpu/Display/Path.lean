import VirtioGpu.Backend.Exhibition
import VirtioGpu.Client.Film

namespace VirtioGpu.Display

open Foundation
open Gpu hiding Surface
open Backend hiding Event
open Vdpy
open Client

/-! The way of a picture: from the commands of the driver through the display
thread, the server and its connections to what the clients show.  There is one
screen. -/

/-- The structure that a surface of the device is handed over as; for an update
only its type and descriptor are filled in. -/
def recordOf : Gpu.Surface → SurfaceRecord
  | .pixman format rect stride _ _ =>
      ⟨1, .ofNat format, .ofNat rect.x, .ofNat rect.y, .ofNat rect.width,
        .ofNat rect.height, 0, .ofNat stride, 0, 0, 0, 0⟩
  | .dmabuf rect stride fd fourcc offset =>
      ⟨.ofNat surfaceDmabuf, 0, .ofNat rect.x, .ofNat rect.y,
        .ofNat rect.width, .ofNat rect.height, 0, .ofNat stride, 0,
        .ofInt fd, .ofNat fourcc, .ofNat offset⟩
  | .dmabufUpdate fd =>
      ⟨.ofNat surfaceDmabuf, 0, 0, 0, 0, 0, 0, 0, 0, .ofInt fd, 0, 0⟩

/-! One call of the display thread. -/

/-- A modifier for a scanout from `2^31` on would be written outside the
screens. -/
def present (clients : Clients) : DisplayCall → Option Clients
  | .surfaceSet _ surface =>
      some (vdpySurfaceSet clients
        (surface.map fun surface => (recordOf surface).surface))
  | .surfaceUpdate _ surface =>
      some (vdpySurfaceUpdate clients (some (recordOf surface).surface))
  | .setModifier scanoutId modifier =>
      if scanoutId ≥ 2147483648 then none
      else if scanoutId ≥ vscrsNum then some clients
      else some (vdpySetModifier clients scanoutId modifier)
  | .cursorDefine _ _ _ _ _ _ _ _ | .cursorMove _ _ _ => some clients

/-- The announcement a call makes. -/
def announce : DisplayCall → Option Announcement
  | .surfaceSet _ (some surface) =>
      if (recordOf surface).surface.surfType = .dmabuf then
        some (.surface (recordOf surface).surface)
      else none
  | .surfaceSet _ none => none
  | .surfaceUpdate _ surface =>
      if (recordOf surface).surface.surfType = .dmabuf then some .update
      else none
  | .setModifier scanoutId modifier =>
      if scanoutId < vscrsNum then some (.modifier modifier) else none
  | .cursorDefine _ _ _ _ _ _ _ _ | .cursorMove _ _ _ => none

/-- What the display thread is about to announce. -/
def unsaid : DisplayPc → Option Announcement
  | .storeModifier modifier | .storeFlag modifier | .lockModifier modifier
  | .modifierHeader modifier => some (.modifier modifier)
  | .lockSurface surf | .surfaceHeader surf => some (.surface surf)
  | .lockUpdate | .updateHeader => some .update
  | .idle | .modifierBody _ | .surfaceBody _ | .surfaceFd _ | .unlock => none

/-- What a step puts on the connection: the header of a message, or the next
part of the message under way. -/
inductive Transmission where
  | begins (announcement : Announcement)
  | continues (announcement : Announcement)

def displayTransmits : DisplayPc → Option Transmission
  | .modifierHeader modifier => some (.begins (.modifier modifier))
  | .modifierBody modifier => some (.continues (.modifier modifier))
  | .surfaceHeader surf => some (.begins (.surface surf))
  | .surfaceBody surf | .surfaceFd surf => some (.continues (.surface surf))
  | .updateHeader => some (.begins .update)
  | .idle | .storeModifier _ | .storeFlag _ | .lockModifier _
  | .lockSurface _ | .lockUpdate | .unlock => none

/-- The server reads the modifier only when it sends the body, so what it will
be is foretold with the header. -/
def serverTransmits (foretold modifier : Nat) :
    ServerPc → Option Transmission
  | .replayHeader => some (.begins (.modifier foretold))
  | .replayBody => some (.continues (.modifier modifier))
  | .idle | .lockAccept _ | .closePrevious _ | .install _ | .testModifier
  | .lockClose | .close | .unlock => none

def sendingMessage {peer : Peer} : Sending peer → Option (Message peer)
  | .idle => none
  | .header message _ | .body message _ | .descriptor message => some message

/-- One call that sends a whole part. -/
def sendPart (channel : Channel .client) : Option (Channel .client) :=
  perform channel (.send (.moved channel.sending.requested))

def transmit (channel : Channel .client) (errno : Vdpy.Errno) :
    Transmission → Option (Channel .client)
  | .begins announcement => do
      let issued ← perform channel
        (.issue (structSurface.message announcement) errno)
      sendPart issued
  | .continues announcement =>
      if sendingMessage channel.sending =
          some (structSurface.message announcement) then
        sendPart channel
      else
        none

/-! The whole path. -/

/-- The device with the events of its run; the calls it owes the display and
those it has made; the two threads of the server; and for every connection its
stream, the client at its end and how much was said before that came. -/
structure Path where
  traced : Traced
  owed : List DisplayCall
  made : List DisplayCall
  clients : Clients
  channels : Nat → Channel .client
  viewers : Nat → Viewer
  joined : Nat → Nat

inductive PathLabel where
  | backend (label : Backend.Label) (after : Traced)
  | call
  | display (errno : Vdpy.Errno)
  | server (errno : Vdpy.Errno) (foretold : Nat)
  | knock (event : Vdpy.Event)
  | wake (connection : Nat) (errno : Vdpy.Errno)
  | recv (connection : Nat) (answer : Vdpy.Answer) (viewed : ViewerAnswer)
  | closeWindow (connection : Nat)

def eventCalls : Backend.Event → List DisplayCall
  | .served service => service.reply.display
  | .servedCursor _ _ _ reply => reply.display
  | .mapped _ | .fetched _ | .released _ _ _ | .ended _ _ => []

def isRun : Backend.Label → Bool
  | .run _ => true
  | .guest _ | .commonWrite _ _ _ | .deviceWrite _ _ _ | .hotplug
  | .start _ _ _ => false

/-- Clients come and go while the server thread waits. -/
def isKnock : Vdpy.Event → Bool
  | .accept | .acceptFails | .hangup => true
  | .setModifier _ | .surfaceSet _ | .surfaceUpdate _ | .display
  | .server => false

/-- The file that `recvmsg` brings; `recv` brings none. -/
def arrivedFile (channel : Channel .client) (answer : Vdpy.Answer) :
    Option UInt32 :=
  match channel.receiving with
  | .descriptor _ =>
      ((channel.wire.take answer.count).findSome? Cell.fd).map UInt32.ofNat
  | .idle | .header _ | .body _ _ | .crashed | .closed => none

/-- The client handles a message when it is complete. -/
def watch (before after : Channel .client) (file : Option UInt32)
    (viewed : ViewerAnswer) (viewer : Viewer) : Viewer :=
  match after.dispatched.drop before.dispatched.length with
  | [] => viewer
  | (eType, body) :: _ => viewer.handle eType body file viewed

namespace Path

def setChannel (path : Path) (connection : Nat)
    (channel : Channel .client) : Path :=
  { path with
    channels := Function.update path.channels connection channel }

def setViewer (path : Path) (connection : Nat) (viewer : Viewer) : Path :=
  { path with viewers := Function.update path.viewers connection viewer }

/-- A thread of the server goes on; what it sends is for the client it has
now. -/
def proceed (path : Path) (clients : Clients) (errno : Vdpy.Errno)
    (transmission : Option Transmission) : Option Path :=
  match path.clients.clientSock, transmission with
  | some connection, some transmission =>
      (transmit (path.channels connection) errno transmission).map
        fun channel => { path.setChannel connection channel with
          clients := clients }
  | none, _ | _, none => some { path with clients := clients }

/-- How much has been said; what the display thread is about to say is not
yet. -/
def said (path : Path) : Nat :=
  (path.made.filterMap announce).length -
    (unsaid path.clients.display).toList.length

/-- A client is there from the step that makes it the server's. -/
def joins (path : Path) : Nat → Nat :=
  match path.clients.server with
  | .install (some connection) =>
      Function.update path.joined connection path.said
  | .install none | .idle | .lockAccept _ | .closePrevious _ | .testModifier
  | .replayHeader | .replayBody | .lockClose | .close | .unlock =>
      path.joined

/-- What a thread of a client receives, and what it does then. -/
def deliver (path : Path) (connection : Nat) (answer : Vdpy.Answer)
    (viewed : ViewerAnswer) (channel : Channel .client) : Path :=
  (path.setChannel connection channel).setViewer connection
    (watch (path.channels connection) channel
      (arrivedFile (path.channels connection) answer) viewed
      (path.viewers connection))

/-- The display thread runs the bottom halves and makes their calls, so that it
starts a section when all calls of the last one are made. -/
def act (path : Path) : PathLabel → Option Path
  | .backend label after =>
      if isRun label = true ∧ (path.owed ≠ [] ∨ path.clients.display ≠ .idle)
      then none
      else some { path with
        traced := after
        owed := path.owed ++
          (after.events.drop path.traced.events.length).flatMap eventCalls }
  | .call =>
      match path.owed with
      | [] => none
      | call :: rest =>
          if path.clients.display = .idle then
            (present path.clients call).map fun clients => { path with
              owed := rest
              made := path.made ++ [call]
              clients := clients }
          else none
  | .display errno => do
      let clients ← displayStep path.clients
      path.proceed clients errno (displayTransmits path.clients.display)
  | .server errno foretold => do
      let clients ← serverStep path.clients
      let after ← path.proceed clients errno
        (serverTransmits foretold path.clients.modifier path.clients.server)
      return { after with joined := path.joins }
  | .knock event =>
      if isKnock event then
        (happen path.clients event).map fun clients =>
          { path with clients := clients }
      else none
  | .wake connection errno =>
      (perform (path.channels connection) (.wake errno)).map
        (path.setChannel connection)
  | .recv connection answer viewed =>
      (perform (path.channels connection) (.recv answer)).map
        (path.deliver connection answer viewed)
  | .closeWindow connection =>
      some (path.setViewer connection (path.viewers connection).terminate)

end Path

/-- The steps of the device are its own, and the system of the client keeps its
promises. -/
def PathLabel.Sound (path : Path) : PathLabel → Prop
  | .backend label after => Backend.backend.step path.traced label after
  | .recv connection _ viewed => (path.viewers connection).Obliges viewed
  | .call | .display _ | .server _ _ | .knock _ | .wake _ _
  | .closeWindow _ => True

def displayPath : TransitionSystem Path PathLabel where
  initial := fun path =>
    Backend.backend.initial path.traced ∧
      path.traced.machine.device.gpu.scanouts.length = vscrsNum ∧
      path.owed = [] ∧ path.made = [] ∧ path.clients = freshClients ∧
      (∀ index, (connection .client).initial (path.channels index)) ∧
      (path.viewers = fun _ => .initial) ∧ path.joined = fun _ => 0
  step := fun before label after =>
    label.Sound before ∧ before.act label = some after

/-- A call that receives anything receives all it asks for. -/
def ReceivesWhole (path : Path) : PathLabel → Prop
  | .recv connection answer _ =>
      MovesWhole (path.channels connection) (.recv answer)
  | .backend _ _ | .call | .display _ | .server _ _ | .knock _ | .wake _ _
  | .closeWindow _ => True

end VirtioGpu.Display
