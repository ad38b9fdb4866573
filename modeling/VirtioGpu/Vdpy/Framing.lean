import VirtioGpu.Foundation.Transition
import VirtioGpu.Foundation.Words
import VirtioGpu.Vdpy.Socket

namespace VirtioGpu.Vdpy

open Foundation

/-! Messages of the display protocol on one connection, one socket call at a
time. -/

def displayMagicCode : Nat := 0x5566

def dpyEventSurfaceSet : Nat := 0x100

def dpyEventHotplug : Nat := 0x106

/-- The fields are words; `e_size` is positive below `2^31`. -/
structure DpyEvtHeader where
  eType : Nat
  eMagic : Nat
  eSize : Nat
  deriving Repr, DecidableEq

def DpyEvtHeader.bytes (header : DpyEvtHeader) : List UInt8 :=
  wordBytes 4 header.eType ++
    (wordBytes 4 header.eMagic ++ wordBytes 4 header.eSize)

def DpyEvtHeader.parse (bytes : List UInt8) : DpyEvtHeader where
  eType := wordOf (bytes.take 4)
  eMagic := wordOf ((bytes.drop 4).take 4)
  eSize := wordOf ((bytes.drop 8).take 4)

def headerSize : Nat := 12

/-- `char buf[256]` of both receive loops. -/
def bufSize : Nat := 256

/-- The words of `rdata` that go with a descriptor. -/
def rdataSize : Nat := 16

/-- The side that receives. -/
inductive Peer where
  | client
  | server
  deriving Repr, DecidableEq

/-- The client's loop reads a descriptor after a surface. -/
def Peer.carriesFd (peer : Peer) (eType : Nat) : Bool :=
  peer = .client ∧ eType = dpyEventSurfaceSet

/-- The server's loop closes the connection when the display is unplugged. -/
def Peer.closes (peer : Peer) (eType : Nat) (buf : List UInt8) : Bool :=
  peer = .server ∧ eType = dpyEventHotplug ∧ wordOf (buf.take 4) = 0

/-- What `client_send` (with `client_send_fd` for a surface) or `hotplug` is
given. -/
structure Message (peer : Peer) where
  eType : Nat
  body : List UInt8
  fd : Option Nat
  eType_lt : eType < 2147483648
  fits : body.length ≤ bufSize
  carries : fd.isSome = peer.carriesFd eType
  hotplugs : peer = .server → body.length = 4
  deriving DecidableEq

/-- A byte on the wire; a descriptor goes with the first byte of its
`sendmsg`. -/
structure Cell where
  byte : UInt8
  fd : Option Nat
  deriving Repr, DecidableEq

def plainCells (bytes : List UInt8) : List Cell :=
  bytes.map fun byte => ⟨byte, none⟩

def descriptorCells (fd : Nat) : List Cell :=
  ⟨0, some fd⟩ :: plainCells (List.replicate (rdataSize - 1) 0)

namespace Message

variable {peer : Peer}

def header (message : Message peer) : DpyEvtHeader :=
  ⟨message.eType, displayMagicCode, message.body.length⟩

def content (message : Message peer) : Nat × List UInt8 :=
  (message.eType, message.body)

def closes (message : Message peer) : Bool :=
  peer.closes message.eType message.body

def descriptor (message : Message peer) : List Cell :=
  match message.fd with
  | none => []
  | some fd => descriptorCells fd

def encode (message : Message peer) : List Cell :=
  plainCells message.header.bytes ++
    (plainCells message.body ++ message.descriptor)

end Message

/-- The sender: in `_send` for the header or the body, or in `sendmsg`. -/
inductive Sending (peer : Peer) where
  | idle
  | header (message : Message peer) (moved : Nat)
  | body (message : Message peer) (moved : Nat)
  | descriptor (message : Message peer)
  deriving DecidableEq

/-- The receiver: in `epoll_wait`, in `_recv` for the header or the body, in
`recvmsg`, past the end of `buf`, or done with the connection. -/
inductive Receiving where
  | idle
  | header (got : List UInt8)
  | body (header : DpyEvtHeader) (moved : Nat)
  | descriptor (header : DpyEvtHeader)
  | crashed
  | closed
  deriving DecidableEq

/-- A call of `_send` or `_recv` that returned. -/
structure Call where
  len : Nat
  ret : Int
  moved : Nat
  deriving Repr, DecidableEq

/-- The connection, with records of the messages issued and dispatched, of the
returned calls and of the positions in the stream where a header was looked
for. -/
structure Channel (peer : Peer) where
  sending : Sending peer
  sendErrno : Errno
  wire : List Cell
  receiving : Receiving
  recvErrno : Errno
  buf : List UInt8
  issued : List (Message peer)
  dispatched : List (Nat × List UInt8)
  calls : List Call
  consumed : Nat
  parsedAt : List Nat

section Channel

variable {peer : Peer}

/-! The sender. -/

/-- `client_send_fd` follows whatever `client_send` returned. -/
def afterBody (message : Message peer) : Sending peer :=
  if message.fd.isSome then .descriptor message else .idle

def afterHeader (message : Message peer) (ret : Int) : Sending peer :=
  if ret ≠ headerSize then afterBody message
  else if message.body ≠ [] then .body message 0
  else afterBody message

def sendRound (channel : Channel peer) (bytes : List UInt8) (moved : Nat)
    (answer : Answer) (goOn : Nat → Sending peer)
    (next : Int → Sending peer) : Option (Channel peer) :=
  if answer.Fits (bytes.length - moved) then
    let sent := { channel with
      wire := channel.wire ++
        plainCells ((bytes.drop moved).take answer.count) }
    match transferRound bytes.length moved channel.sendErrno answer with
    | .again moved errno =>
        some { sent with sending := goOn moved, sendErrno := errno }
    | .returned ret moved errno =>
        some { sent with
          sending := next ret
          sendErrno := errno
          calls := channel.calls ++ [⟨bytes.length, ret, moved⟩] }
  else
    none

def sendStep (channel : Channel peer) (answer : Answer) :
    Option (Channel peer) :=
  match channel.sending with
  | .idle => none
  | .header message moved =>
      sendRound channel message.header.bytes moved answer (.header message)
        (afterHeader message)
  | .body message moved =>
      sendRound channel message.body moved answer (.body message)
        fun _ => afterBody message
  | .descriptor message =>
      if answer.Fits rdataSize then
        match answer with
        | .again => some channel
        | .moved count => some { channel with
            wire := channel.wire ++ message.descriptor.take count
            sending := .idle }
      else
        none

/-! The receiver. -/

def dispatch (channel : Channel peer) (header : DpyEvtHeader) :
    Channel peer :=
  { channel with
    dispatched := channel.dispatched ++
      [(header.eType, channel.buf.take header.eSize)]
    receiving :=
      if peer.closes header.eType channel.buf then .closed else .idle }

/-- The receiver has the whole message. -/
def received (channel : Channel peer) (header : DpyEvtHeader) :
    Channel peer :=
  if peer.carriesFd header.eType then
    { channel with receiving := .descriptor header }
  else
    dispatch channel header

def checkHeader (channel : Channel peer) (header : DpyEvtHeader) :
    Channel peer :=
  if header.eMagic ≠ displayMagicCode then
    { channel with receiving := .idle }
  else if 0 < header.eSize ∧ header.eSize < 2147483648 then
    if header.eSize ≤ bufSize then
      { channel with receiving := .body header 0 }
    else
      { channel with receiving := .crashed }
  else
    received channel { header with eSize := 0 }

/-- The cells that a call takes from the wire. -/
def takeCells (channel : Channel peer) (count : Nat) : Channel peer :=
  { channel with
    wire := channel.wire.drop count
    consumed := channel.consumed + count }

def recvRound (channel : Channel peer) (len moved : Nat) (answer : Answer)
    (goOn : Nat → Receiving)
    (next : Channel peer → Channel peer) : Channel peer :=
  match transferRound len moved channel.recvErrno answer with
  | .again moved errno =>
      { channel with receiving := goOn moved, recvErrno := errno }
  | .returned ret moved errno =>
      let returned := { channel with
        recvErrno := errno
        calls := channel.calls ++ [⟨len, ret, moved⟩] }
      if ret ≠ len then { returned with receiving := .idle }
      else next returned

def overwrite (buf : List UInt8) (position : Nat) (bytes : List UInt8) :
    List UInt8 :=
  buf.take position ++ (bytes ++ buf.drop (position + bytes.length))

def recvStep (channel : Channel peer) (answer : Answer) :
    Option (Channel peer) :=
  let cells := channel.wire.take answer.count
  let bytes := cells.map Cell.byte
  let taken := takeCells channel answer.count
  match channel.receiving with
  | .idle | .crashed | .closed => none
  | .header got =>
      if answer.Fits (min (headerSize - got.length) channel.wire.length) then
        some (recvRound taken headerSize got.length answer
          (fun _ => .header (got ++ bytes))
          fun returned =>
            checkHeader returned (DpyEvtHeader.parse (got ++ bytes)))
      else
        none
  | .body header moved =>
      if answer.Fits (min (header.eSize - moved) channel.wire.length) then
        let filled := { taken with buf := overwrite channel.buf moved bytes }
        some (recvRound filled header.eSize moved answer (.body header)
          fun returned => received returned header)
      else
        none
  | .descriptor header =>
      if answer.Fits (min rdataSize channel.wire.length) then
        match answer with
        | .again => some channel
        | .moved _ =>
            if cells.any fun cell => cell.fd.isSome then
              some (dispatch taken header)
            else
              some { taken with receiving := .idle }
      else
        none

/-! Both sides together. -/

inductive Action (peer : Peer) where
  | issue (message : Message peer) (errno : Errno)
  | send (answer : Answer)
  | wake (errno : Errno)
  | recv (answer : Answer)

/-- A thread that starts a message brings the `errno` its earlier calls left;
`epoll_wait` returns while there is something to read. -/
def perform (channel : Channel peer) : Action peer → Option (Channel peer)
  | .issue message errno =>
      if channel.sending = .idle then
        some { channel with
          sending := .header message 0
          sendErrno := errno
          issued := channel.issued ++ [message] }
      else
        none
  | .send answer => sendStep channel answer
  | .wake errno =>
      if channel.receiving = .idle ∧ channel.wire ≠ [] then
        some { channel with
          receiving := .header []
          recvErrno := errno
          parsedAt := channel.parsedAt ++ [channel.consumed] }
      else
        none
  | .recv answer => recvStep channel answer

end Channel

def connection (peer : Peer) :
    TransitionSystem (Channel peer) (Action peer) where
  initial := fun channel => ∃ sendErrno recvErrno buf, buf.length = bufSize ∧
    channel =
      { sending := .idle
        sendErrno := sendErrno
        wire := []
        receiving := .idle
        recvErrno := recvErrno
        buf := buf
        issued := []
        dispatched := []
        calls := []
        consumed := 0
        parsedAt := [] }
  step := fun before action after => perform before action = some after

/-! What the protocol is to keep. -/

def encodeAll {peer : Peer} (messages : List (Message peer)) : List Cell :=
  messages.flatMap Message.encode

/-- Where the messages begin in the stream. -/
def boundaries {peer : Peer} (messages : List (Message peer)) : List Nat :=
  (List.range (messages.length + 1)).map fun count =>
    (encodeAll (messages.take count)).length

/-- No further byte is sent or received. -/
def Settled {peer : Peer} (channel : Channel peer) : Prop :=
  channel.sending = .idle ∧ (channel.wire = [] ∨
    channel.receiving = .closed ∨ channel.receiving = .crashed)

/-- The dispatched messages are the issued ones in order, all of them once
nothing is under way; headers are looked for only where messages begin; and
`_send` and `_recv` return the full length just when they moved it. -/
structure FramesKept {peer : Peer} (channel : Channel peer) : Prop where
  inOrder : channel.dispatched <+: channel.issued.map Message.content
  complete : Settled channel →
    channel.dispatched = channel.issued.map Message.content
  aligned : ∀ position, position ∈ channel.parsedAt →
    position ∈ boundaries channel.issued
  returns : ∀ call, call ∈ channel.calls →
    (call.ret = call.len ↔ call.moved = call.len)

/-- What a socket call is asked to move. -/
def Sending.requested {peer : Peer} : Sending peer → Nat
  | .idle => 0
  | .header _ moved => headerSize - moved
  | .body message moved => message.body.length - moved
  | .descriptor _ => rdataSize

def Receiving.requested : Receiving → Nat
  | .idle | .crashed | .closed => 0
  | .header got => headerSize - got.length
  | .body evtHdr moved => evtHdr.eSize - moved
  | .descriptor _ => rdataSize

/-- Every call that moves anything moves all it is asked to, and no message
follows one that makes the server close the connection. -/
def MovesWhole {peer : Peer} (channel : Channel peer) : Action peer → Prop
  | .issue _ _ => ∀ message, message ∈ channel.issued → message.closes = false
  | .send (.moved count) => count = channel.sending.requested
  | .recv (.moved count) => count = channel.receiving.requested
  | .send .again | .recv .again | .wake _ => True

/-! Encodings. -/

@[simp] theorem length_plainCells (bytes : List UInt8) :
    (plainCells bytes).length = bytes.length :=
  List.length_map _

@[simp] theorem bytes_plainCells (bytes : List UInt8) :
    (plainCells bytes).map Cell.byte = bytes := by
  unfold plainCells
  rw [List.map_map]
  exact List.map_id _

@[simp] theorem length_headerBytes (header : DpyEvtHeader) :
    header.bytes.length = headerSize := by
  simp [DpyEvtHeader.bytes, headerSize]

theorem parse_bytes {header : DpyEvtHeader} (eType : header.eType < 2 ^ 32)
    (eMagic : header.eMagic < 2 ^ 32) (eSize : header.eSize < 2 ^ 32) :
    DpyEvtHeader.parse header.bytes = header := by
  have word : ∀ value, value < 2 ^ 32 →
      wordOf (wordBytes 4 value) = value := by
    intro value small
    rw [wordOf_wordBytes]
    exact Nat.mod_eq_of_lt small
  unfold DpyEvtHeader.parse DpyEvtHeader.bytes
  rw [List.take_left' (length_wordBytes 4 _),
    List.drop_left' (length_wordBytes 4 _),
    List.take_left' (length_wordBytes 4 _),
    show (8 : Nat) = 4 + 4 from rfl, ← List.drop_drop,
    List.drop_left' (length_wordBytes 4 _),
    List.drop_left' (length_wordBytes 4 _),
    List.take_of_length_le (Nat.le_of_eq (length_wordBytes 4 _)),
    word _ eType, word _ eMagic, word _ eSize]

theorem descriptorCells_length (fd : Nat) :
    (descriptorCells fd).length = rdataSize := by
  simp [descriptorCells, rdataSize]

namespace Message

variable {peer : Peer} (message : Message peer)

theorem parse_header :
    DpyEvtHeader.parse message.header.bytes = message.header := by
  have small := message.fits
  apply parse_bytes
  · exact Nat.lt_trans message.eType_lt (by decide)
  · exact (by decide : displayMagicCode < 2 ^ 32)
  · exact Nat.lt_of_le_of_lt small (by decide)

theorem closes_of_body {buf : List UInt8}
    (filled : buf.take message.body.length = message.body) :
    peer.closes message.eType buf = message.closes := by
  unfold closes Peer.closes
  cases peer with
  | client => rfl
  | server =>
      have four := message.hotplugs rfl
      rw [four] at filled
      rw [filled, List.take_of_length_le (Nat.le_of_eq four)]

end Message

section Encodings

variable {peer : Peer}

theorem encodeAll_cons (message : Message peer)
    (rest : List (Message peer)) :
    encodeAll (message :: rest) = plainCells message.header.bytes ++
      (plainCells message.body ++ (message.descriptor ++ encodeAll rest)) := by
  simp [encodeAll, Message.encode]

theorem encodeAll_append (first second : List (Message peer)) :
    encodeAll (first ++ second) = encodeAll first ++ encodeAll second :=
  List.flatMap_append

theorem boundaries_of_prefix {first issued : List (Message peer)}
    (initial : first <+: issued) :
    (encodeAll first).length ∈ boundaries issued := by
  refine List.mem_map.mpr ⟨first.length, ?_, ?_⟩
  · rw [List.mem_range]
    exact Nat.lt_succ_of_le initial.length_le
  · rw [← List.prefix_iff_eq_take.mp initial]

theorem boundaries_append {issued : List (Message peer)} {position : Nat}
    (later : List (Message peer)) (inside : position ∈ boundaries issued) :
    position ∈ boundaries (issued ++ later) := by
  obtain ⟨count, _, rfl⟩ := List.mem_map.mp inside
  apply boundaries_of_prefix
  exact (List.take_prefix _ _).trans (List.prefix_append _ _)

end Encodings

end VirtioGpu.Vdpy
