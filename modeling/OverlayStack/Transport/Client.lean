import OverlayStack.Transport.Settings
import OverlayStack.Transport.SocketTable
import OverlayStack.Transport.Uplink

/-!
# Clients

A client connects its sockets to servers and sends them streams of bytes.  A stream is cut into
segments, of which at most a window is in flight; when the oldest one stays unacknowledged for too
long, everything in flight is sent again.

Connecting and disconnecting take time: the request is sent until it is answered or the attempts are
used up.  Such a call is a value, a `Handshake`, that is advanced when time has passed or when the
state of the socket has changed.  Time is given to every operation in milliseconds, and so is what
the link below says to each segment.

## Main definitions

* `Transport.ClientConnection`, `Transport.Client` — the state of one socket and of all sockets.
* `Client.send`, `Client.handle`, `Client.pollTimer` — sending, receiving and sending again.
* `Transport.Handshake`, `Client.connect`, `Client.disconnect`, `Client.advance` — calls that wait.
-/

namespace OverlayStack.Transport

/-- The state of one socket of a client. -/
structure ClientConnection where
  /-- The node of the server. -/
  serverNode : NodeId := 0
  /-- The port of the server. -/
  serverPort : UInt32 := 0
  /-- The state of the connection. -/
  status : Status := .closed
  /-- The position of the next segment in the stream. -/
  nextSeq : UInt32 := 0
  /-- The segments that are not acknowledged. -/
  buffer : SendBuffer := {}
  /-- Whether the connection counts on a timer to send segments again. -/
  timerRunning : Bool := false
  /-- How many timers of the socket have been started and have not stopped. -/
  timers : Nat := 0

/-- The sockets of a client. -/
structure Client where
  /-- The limits and times. -/
  settings : Settings
  sockets : SocketTable ClientConnection

/-- The calls that wait for an answer. -/
inductive HandshakeKind where
  /-- Waits for the answer to a request to connect. -/
  | connect
  /-- Waits for the answer to a request to disconnect. -/
  | disconnect
  deriving DecidableEq, Repr

/-- A call that waits for an answer. -/
structure Handshake where
  socket : SocketId
  /-- What it waits for. -/
  kind : HandshakeKind
  /-- The node of the server. -/
  node : NodeId
  /-- The request, which is the same in every attempt. -/
  request : Segment
  /-- How often the request was sent. -/
  attempts : Nat := 0
  /-- When it was last sent. -/
  lastSent : Nat := 0

namespace HandshakeKind

/-- The state of the socket while the call waits. -/
def waitingStatus : HandshakeKind → Status
  | connect => .synSent
  | disconnect => .finWait

/-- How long the call waits for the answer to one attempt. -/
def timeout (s : Settings) : HandshakeKind → Nat
  | connect => s.synTimeout
  | disconnect => s.finTimeout

/-- How many attempts the call makes. -/
def maxAttempts (s : Settings) : HandshakeKind → Nat
  | connect => s.synAttempts
  | disconnect => s.finAttempts

end HandshakeKind

/-- Where a call that waits has got to. -/
inductive HandshakeState where
  /-- It still waits. -/
  | waiting (h : Handshake)
  /-- It has returned. -/
  | finished (result : Except Error Unit)

/-- What advancing a call does. -/
structure Advance where
  /-- The client after it. -/
  client : Client
  /-- The requests that were sent. -/
  sent : Outgoing
  /-- Where the call has got to. -/
  state : HandshakeState

namespace ClientConnection

/-- The connection with nothing left to send. -/
def drained (c : ClientConnection) : ClientConnection :=
  { c with buffer := {} }

/-- The connection after its end. -/
def ended (c : ClientConnection) : ClientConnection :=
  { c.drained with status := .closed }

/-- The segments that carry some bytes from a position on, and the position after them. -/
def segmentsOf (sourcePort destPort : UInt32) (seq : UInt32) :
    List Bytes → List Segment × UInt32
  | [] => ([], seq)
  | piece :: rest =>
    let (segments, last) :=
      segmentsOf sourcePort destPort (seq + UInt32.ofNat piece.length) rest
    (Segment.dataOf sourcePort destPort seq piece :: segments, last)

/-- The connection with more bytes to send, in segments of at most a given length. -/
def enqueue (c : ClientConnection) (port : UInt32) (maxSegment : Nat) (data : Bytes) :
    ClientConnection :=
  let (segments, nextSeq) := segmentsOf port c.serverPort c.nextSeq (Bytes.chunks maxSegment data)
  { c with buffer := c.buffer.pushAll segments, nextSeq }

/-- The connection with a timer, which it needs if it has anything to send. -/
def withTimer (c : ClientConnection) : ClientConnection :=
  if c.buffer.isEmpty || c.timerRunning then c
  else { c with timerRunning := true, timers := c.timers + 1 }

/-- The connection after as much was sent as the window allows, with what was sent and the reason if
the link below refused a segment. -/
def transmit (c : ClientConnection) (window now : Nat) (refuse : Refusal Error) :
    ClientConnection × Outgoing × Option Error :=
  let (buffer, sent, e) := c.buffer.transmit window now refuse
  ({ c with buffer }, sent.map fun s => (c.serverNode, s), e)

end ClientConnection

/-- The result of an operation that may have been refused. -/
def resultOf : Option Error → Except Error Unit
  | none => .ok ()
  | some e => .error e

namespace Client

/-- A client without sockets. -/
def start (s : Settings) : Except Settings.Error Client :=
  s.validate.map fun () => ⟨s, SocketTable.free s.maxConnections⟩

/-- The client with the state of one socket set. -/
def set (c : Client) (id : SocketId) (x : ClientConnection) : Client :=
  { c with sockets := c.sockets.set id x }

/-- The state of the connection of a socket. -/
def status (c : Client) (id : SocketId) : Except Error Status :=
  (c.sockets.require id).map fun s => s.state.status

/-- The number of segments of a socket that are not acknowledged. -/
def pending (c : Client) (id : SocketId) : Except Error Nat :=
  (c.sockets.require id).map fun s => s.state.buffer.length

/-- Opens a socket with a given port. -/
def openSocket (c : Client) (port : UInt32) : Except Error (SocketId × Client) :=
  (c.sockets.openSocket port {}).map fun (id, sockets) => (id, { c with sockets })

/-- Closes a socket, which is not to have a connection. -/
def close (c : Client) (id : SocketId) : Except Error Client := do
  let s ← c.sockets.require id
  if s.state.status = .closed then
    return { c with sockets := c.sockets.close id }
  else throw (.invalidState id s.state.status .closed)

/-- Queues bytes for the server and sends what the window allows.  What was refused stays queued. -/
def send (c : Client) (id : SocketId) (data : Bytes) (now : Nat) (refuse : Refusal Error) :
    Effect Client Unit :=
  match c.sockets.require id with
  | .error e => Effect.fail c e
  | .ok s =>
    if s.state.status = .connected then
      let ready := (s.state.enqueue s.port c.settings.maxSegment data).withTimer
      let (x, sent, e) := ready.transmit c.settings.window now refuse
      ⟨c.set id x, sent, resultOf e⟩
    else Effect.fail c (.invalidState id s.state.status .connected)

/-! ### Calls that wait -/

/-- Begins to connect a socket to a server. -/
def connect (c : Client) (id : SocketId) (node : NodeId) (port : UInt32) :
    Except Error (Client × Handshake) := do
  let s ← c.sockets.require id
  if s.state.status = .closed then
    let request := Segment.synOf s.port port s.state.nextSeq
    let x := { s.state with
      serverNode := node
      serverPort := port
      nextSeq := s.state.nextSeq + 1
      status := .synSent }
    return (c.set id x, { socket := id, kind := .connect, node, request })
  else throw (.invalidState id s.state.status .closed)

/-- Begins to disconnect a socket from its server. -/
def disconnect (c : Client) (id : SocketId) : Except Error (Client × Handshake) := do
  let s ← c.sockets.require id
  if s.state.status = .connected then
    let request := Segment.finOf s.port s.state.serverPort s.state.nextSeq
    let x := { s.state with
      nextSeq := s.state.nextSeq + 1
      status := .finWait }
    return (c.set id x,
      { socket := id, kind := .disconnect, node := s.state.serverNode, request })
  else throw (.invalidState id s.state.status .connected)

/-- The connection that a call belongs to. -/
def connectionOf (c : Client) (h : Handshake) : ClientConnection :=
  ((c.sockets.socket? h.socket).map (·.state)).getD {}

/-- Ends a call.  `timedOut` says that the last attempt was not answered. -/
def finish (c : Client) (h : Handshake) (timedOut : Bool) : Client × Except Error Unit :=
  let x := c.connectionOf h
  match h.kind with
  | .connect =>
    if timedOut then
      (c.set h.socket { x with status := .closed },
        .error (.connectTimeout h.socket h.attempts h.node h.request.destPort))
    else if x.status = .connected then (c, .ok ())
    else (c, .error (.connectionLost h.socket x.status))
  | .disconnect =>
    (c.set h.socket x.ended,
      if timedOut then .error (.disconnectTimeout h.socket h.attempts) else .ok ())

/-- Ends a call whose request was refused. -/
def refused (c : Client) (h : Handshake) : Client :=
  let x := c.connectionOf h
  match h.kind with
  | .connect => c.set h.socket { x with status := .closed }
  | .disconnect => c.set h.socket x.ended

/-- Advances a call as far as it gets at the given time: it returns if the socket is in another
state, sends the request if it is time for the next attempt, gives up if all attempts are used up,
and waits otherwise.  The next request is the `n`-th segment of the operation. -/
def advanceFrom (c : Client) (h : Handshake) (now : Nat) (refuse : Refusal Error) (n : Nat) :
    Advance :=
  if (c.connectionOf h).status = h.kind.waitingStatus then
    if h.attempts = 0 ∨ h.kind.timeout c.settings ≤ now - h.lastSent then
      if _hmax : h.kind.maxAttempts c.settings ≤ h.attempts then
        let (c, result) := c.finish h true
        ⟨c, [], .finished result⟩
      else
        match refuse n h.request with
        | some e => ⟨c.refused h, [], .finished (.error e)⟩
        | none =>
          let next :=
            c.advanceFrom { h with attempts := h.attempts + 1, lastSent := now } now refuse (n + 1)
          { next with sent := (h.node, h.request) :: next.sent }
    else ⟨c, [], .waiting h⟩
  else
    let (c, result) := c.finish h false
    ⟨c, [], .finished result⟩
termination_by h.kind.maxAttempts c.settings - h.attempts
decreasing_by omega

/-- Advances a call as far as it gets at the given time. -/
def advance (c : Client) (h : Handshake) (now : Nat) (refuse : Refusal Error) : Advance :=
  c.advanceFrom h now refuse 0

/-- When a call that waits is to be advanced, if nothing happens before. -/
def deadline (c : Client) (h : Handshake) : Nat :=
  h.lastSent + h.kind.timeout c.settings

/-! ### Segments from the link below -/

/-- The socket that a segment belongs to. -/
def lookup (c : Client) (segment : Segment) : Option (SocketId × Socket ClientConnection) :=
  c.sockets.find? fun s =>
    s.port == segment.destPort && s.state.status != .closed &&
      s.state.serverPort == segment.sourcePort

/-- Handles a segment.  Segments that belong to no socket are ignored. -/
def handle (c : Client) (segment : Segment) (now : Nat) (refuse : Refusal Error) :
    Effect Client Unit :=
  match c.lookup segment with
  | none => Effect.quiet c (.ok ())
  | some (id, s) =>
    match s.state.status, segment.kind with
    | .synSent, .synAck => Effect.quiet (c.set id { s.state with status := .connected }) (.ok ())
    | .finWait, .finAck => Effect.quiet (c.set id { s.state with status := .closed }) (.ok ())
    | .connected, .dataAck =>
      let (buffer, removed) := s.state.buffer.acknowledge segment.ack
      let x := { s.state with buffer }
      if removed = 0 then Effect.quiet (c.set id x) (.ok ())
      else
        let (x, sent, e) := x.transmit c.settings.window now refuse
        ⟨c.set id x, sent, resultOf e⟩
    | .connected, .synAck => Effect.quiet c (.ok ())
    | _, .dataAck => Effect.quiet c (.ok ())
    | status, kind => Effect.fail c (.protocolViolation s.port status kind)

/-- The client after the loss of the link below: no socket has a connection any more. -/
def linkLost (c : Client) : Client :=
  { c with sockets := c.sockets.map ClientConnection.ended }

/-! ### Sending again -/

/-- One look of a timer at its socket.  A timer stops if there is no connection or nothing to send.
Otherwise it sends everything in flight again if the oldest segment has been there for too long. -/
def pollTimer (c : Client) (id : SocketId) (now : Nat) (refuse : Refusal Error) :
    Effect Client Unit :=
  match c.sockets.socket? id with
  | none => Effect.quiet c (.ok ())
  | some s =>
    if s.state.timers = 0 then Effect.quiet c (.ok ())
    else if s.state.status ≠ .connected ∨ s.state.buffer.isEmpty then
      Effect.quiet (c.set id { s.state with timerRunning := false, timers := s.state.timers - 1 })
        (.ok ())
    else if s.state.buffer.isTimedOut c.settings.dataTimeout now then
      let (buffer, sent, e) := s.state.buffer.retransmit now refuse
      ⟨c.set id { s.state with buffer },
        sent.map fun segment => (s.state.serverNode, segment), resultOf e⟩
    else Effect.quiet c (.ok ())

end Client

end OverlayStack.Transport
