import VirtioGpu.Vdpy.Calls
import VirtioGpu.Vdpy.Framing

namespace VirtioGpu.Vdpy

open Foundation

/-! The receive loops of the display server, the control server and the client,
against every byte that a peer can send. -/

def dpyEventSurfaceUpdate : Nat := 0x101

def dpyEventSetModifier : Nat := 0x102

def dpyEventDisplayInfo : Nat := 0x105

def dpyEventStartCast : Nat := 0x107

def dpyEventStopCast : Nat := 0x108

/-- `SURFACE_DMABUF` of `enum surface_type`. -/
def surfaceDmabuf : Nat := 2

/-- `sizeof(struct display_info)`. -/
def displayInfoSize : Nat := 16

/-- `sizeof(int)`. -/
def intSize : Nat := 4

/-- `sizeof(struct surface)`, with the descriptor at 40. -/
def surfaceSize : Nat := 56

def dmabufFdOffset : Nat := 40

/-- `sizeof(uint64_t)`. -/
def modifierSize : Nat := 8

inductive Effect where
  | setInfo (xoff yoff width height : Nat)
  | triger
  | closeClient
  | startCast
  | stopCast
  | surfaceSet (surf : List UInt8)
  | surfaceUpdate
  | setModifier (modifier : Nat)
  deriving Repr, DecidableEq

/-- What a handler reads, the first `used` bytes of `buf`, and what it does. -/
structure Handled where
  used : Nat
  effects : List Effect
  deriving Repr, DecidableEq

def Handled.ignored : Handled := ⟨0, []⟩

/-- `vdpy_display_server_thread`, `vdpy_control_server_thread` and
`DisplayClient::work_thread`. -/
inductive Thread where
  | displayServer
  | controlServer
  | client
  deriving Repr, DecidableEq

/-- A thread, and whether `triger` and `renderer` are set. -/
structure EventLoop where
  thread : Thread
  triger : Bool
  renderer : Bool
  deriving Repr, DecidableEq

def EventLoop.trigers (eventLoop : EventLoop) : List Effect :=
  if eventLoop.triger then [.triger] else []

/-! The handlers. -/

def wordAt (buf : List UInt8) (offset : Nat) : Nat :=
  wordOf ((buf.drop offset).take 4)

def handleDisplayInfo (buf : List UInt8) : Handled :=
  ⟨displayInfoSize, [.setInfo (wordAt buf 0) (wordAt buf 4) (wordAt buf 8)
    (wordAt buf 12)]⟩

def handleHotplug (eventLoop : EventLoop) (buf : List UInt8) : Handled :=
  ⟨intSize, eventLoop.trigers ++
    if wordAt buf 0 = 0 then [.closeClient] else []⟩

/-- `Renderer::vdpy_surface_set` copies the structure of a dmabuf, and leaves
any other surface alone. -/
def rendererSurfaceSet (buf : List UInt8) : Handled :=
  if wordAt buf 0 = surfaceDmabuf then
    ⟨surfaceSize, [.surfaceSet (buf.take surfaceSize)]⟩
  else
    ⟨intSize, []⟩

def rendererSetModifier (buf : List UInt8) : Handled :=
  ⟨modifierSize, [.setModifier (wordOf (buf.take modifierSize))]⟩

def handleDisplayEvent (eventLoop : EventLoop) (eType : Nat)
    (buf : List UInt8) : Handled :=
  if eType = dpyEventDisplayInfo then handleDisplayInfo buf
  else if eType = dpyEventHotplug then handleHotplug eventLoop buf
  else .ignored

def handleControlEvent (eventLoop : EventLoop) (eType : Nat) : Handled :=
  if eType = dpyEventStartCast then ⟨0, [.startCast]⟩
  else if eType = dpyEventStopCast then
    ⟨0, eventLoop.trigers ++ [.stopCast]⟩
  else .ignored

def handleClientEvent (eventLoop : EventLoop) (eType : Nat)
    (buf : List UInt8) : Handled :=
  if eventLoop.renderer = false then .ignored
  else if eType = dpyEventSurfaceSet then rendererSurfaceSet buf
  else if eType = dpyEventSurfaceUpdate then ⟨0, [.surfaceUpdate]⟩
  else if eType = dpyEventSetModifier then rendererSetModifier buf
  else .ignored

def handleEvent (eventLoop : EventLoop) (eType : Nat) (buf : List UInt8) :
    Handled :=
  match eventLoop.thread with
  | .displayServer => handleDisplayEvent eventLoop eType buf
  | .controlServer => handleControlEvent eventLoop eType
  | .client => handleClientEvent eventLoop eType buf

/-- The client reads a descriptor before it handles a surface. -/
def EventLoop.readsFd (eventLoop : EventLoop) (eType : Nat) : Bool :=
  eventLoop.thread = .client ∧ eType = dpyEventSurfaceSet

/-! The loops. -/

/-- Where a thread is: without a client, in `epoll_wait`, in `_recv` for the
header or the body, in `recv_fd`, or past the end of `buf`. -/
inductive LoopPhase where
  | unconnected
  | waiting
  | header (got : List UInt8) (errno : Nat)
  | body (header : DpyEvtHeader) (payload : List UInt8) (errno : Nat)
  | descriptor (header : DpyEvtHeader) (payload : List UInt8)
  | overrun (header : DpyEvtHeader) (payload : List UInt8)
  deriving Repr, DecidableEq

/-- The bytes stored for the message under way. -/
def LoopPhase.stored : LoopPhase → List UInt8
  | .unconnected | .waiting | .header _ _ => []
  | .body _ payload _ | .descriptor _ payload | .overrun _ payload => payload

/-- A message that got to its handler, with the bytes received for it. -/
structure Received where
  eType : Nat
  payload : List UInt8
  handled : Handled
  deriving Repr, DecidableEq

structure Receiver where
  phase : LoopPhase
  buf : List UInt8
  messages : List Received
  deriving Repr, DecidableEq

/-- What a call of `recv` returns, with the bytes it stores. -/
inductive Reception where
  | failed (errno : Nat)
  | got (bytes : List UInt8)
  deriving Repr, DecidableEq

def Reception.bytes : Reception → List UInt8
  | .failed _ => []
  | .got bytes => bytes

def Reception.result : Reception → CallResult
  | .failed errno => .failed errno
  | .got bytes => .moved bytes.length

def Receiver.handle (eventLoop : EventLoop) (receiver : Receiver)
    (eType : Nat) (payload : List UInt8) : Receiver :=
  let handled := handleEvent eventLoop eType receiver.buf
  { receiver with
    phase :=
      if .closeClient ∈ handled.effects then .unconnected else .waiting
    messages := receiver.messages ++ [⟨eType, payload, handled⟩] }

def Receiver.complete (eventLoop : EventLoop) (receiver : Receiver)
    (header : DpyEvtHeader) (payload : List UInt8) : Receiver :=
  if eventLoop.readsFd header.eType then
    { receiver with phase := .descriptor header payload }
  else
    receiver.handle eventLoop header.eType payload

/-- `e_size > 0`. -/
def DpyEvtHeader.Sized (header : DpyEvtHeader) : Prop :=
  0 < header.eSize ∧ header.eSize < 2147483648

instance (header : DpyEvtHeader) : Decidable header.Sized :=
  inferInstanceAs (Decidable (_ ∧ _))

def Receiver.accept (eventLoop : EventLoop) (receiver : Receiver)
    (header : DpyEvtHeader) (errno : Nat) : Receiver :=
  if header.eMagic ≠ displayMagicCode then
    { receiver with phase := .waiting }
  else if header.Sized then
    { receiver with phase := .body header [] errno }
  else
    receiver.complete eventLoop header []

/-- One `recv` of the header. -/
def Receiver.recvHeader (eventLoop : EventLoop) (receiver : Receiver)
    (got : List UInt8) (errno : Nat) (answer : Reception) : Receiver :=
  match transferCall headerSize ⟨got.length, errno⟩ answer.result with
  | .ok transfer =>
      { receiver with
        phase := .header (got ++ answer.bytes) transfer.errno }
  | .error result =>
      if result.ret ≠ headerSize then { receiver with phase := .waiting }
      else
        receiver.accept eventLoop
          (DpyEvtHeader.parse (got ++ answer.bytes)) result.left.errno

/-- One `recv` of the body, for which `buf` has only 256 bytes. -/
def Receiver.recvBody (eventLoop : EventLoop) (receiver : Receiver)
    (header : DpyEvtHeader) (payload : List UInt8) (errno : Nat)
    (answer : Reception) : Receiver :=
  let later := payload ++ answer.bytes
  if bufSize < later.length then
    { receiver with phase := .overrun header later }
  else
    let stored := { receiver with
      buf := overwrite receiver.buf payload.length answer.bytes }
    match transferCall header.eSize ⟨payload.length, errno⟩
        answer.result with
    | .ok transfer =>
        { stored with phase := .body header later transfer.errno }
    | .error result =>
        if result.ret ≠ header.eSize then { stored with phase := .waiting }
        else stored.complete eventLoop header later

/-- What `recv_fd` returns is stored in the surface. -/
def Receiver.recvFd (eventLoop : EventLoop) (receiver : Receiver)
    (header : DpyEvtHeader) (payload : List UInt8) :
    Option Nat → Receiver
  | none => { receiver with phase := .waiting }
  | some fd =>
      { receiver with
        buf := overwrite receiver.buf dmabufFdOffset
          (wordBytes 4 fd) }.handle eventLoop header.eType payload

inductive LoopAction where
  | connect
  | hangup
  | wake (errno : Nat)
  | recv (answer : Reception)
  | recvFd (fd : Option Nat)
  deriving Repr, DecidableEq

/-- A server takes a new client in the place of the one it has, and drops it
when it hangs up; a thread looks for a header with the `errno` that its
earlier calls left. -/
def Receiver.act (eventLoop : EventLoop) (receiver : Receiver) :
    LoopAction → Option Receiver
  | .connect =>
      if receiver.phase = .unconnected ∨
          (receiver.phase = .waiting ∧ eventLoop.thread ≠ .client) then
        some { receiver with phase := .waiting }
      else
        none
  | .hangup =>
      if receiver.phase = .waiting ∧ eventLoop.thread ≠ .client then
        some { receiver with phase := .unconnected }
      else
        none
  | .wake errno =>
      if receiver.phase = .waiting then
        some { receiver with phase := .header [] errno }
      else
        none
  | .recv answer =>
      match receiver.phase with
      | .header got errno =>
          if answer.bytes.length ≤ headerSize - got.length then
            some (receiver.recvHeader eventLoop got errno answer)
          else
            none
      | .body header payload errno =>
          if answer.bytes.length ≤ header.eSize - payload.length then
            some (receiver.recvBody eventLoop header payload errno answer)
          else
            none
      | _ => none
  | .recvFd fd =>
      match receiver.phase with
      | .descriptor header payload =>
          some (receiver.recvFd eventLoop header payload fd)
      | _ => none

/-- The stack may hold anything in `buf` before the first message. -/
def receiveLoop (eventLoop : EventLoop) :
    TransitionSystem Receiver LoopAction where
  initial := fun receiver => receiver.buf.length = bufSize ∧
    receiver.phase = .unconnected ∧ receiver.messages = []
  step := fun before action after =>
    before.act eventLoop action = some after

end VirtioGpu.Vdpy
