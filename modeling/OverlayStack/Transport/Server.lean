import OverlayStack.Transport.Settings
import OverlayStack.Transport.SocketTable
import OverlayStack.Transport.Uplink

/-!
# Servers

A server accepts connections on its sockets and collects the stream of bytes that a client sends.  A
piece of the stream is taken only if it is the next one and there is room for it; in any case the
client is told what the next one is.  After the client has asked to disconnect, a socket stays for
some time in a state in which it still answers.

Accepting and receiving take time.  Such a call is a value, a `ServerCall`, that is looked at when
the state of the socket has changed.

## Main definitions

* `Transport.ServerConnection`, `Transport.Server` — the state of one socket and of all sockets.
* `Server.handle`, `Server.sweep` — what segments and time do to sockets.
* `Transport.ServerCall`, `Server.listen`, `Server.receive`, `Server.poll` — calls that wait.
-/

namespace OverlayStack.Transport

/-- The state of one socket of a server. -/
structure ServerConnection where
  /-- The node of the client. -/
  clientNode : NodeId := 0
  /-- The port of the client. -/
  clientPort : UInt32 := 0
  /-- The state of the connection. -/
  status : Status := .closed
  /-- The position in the stream of the next byte. -/
  expected : UInt32 := 0
  /-- The bytes that have arrived and were not yet read. -/
  buffer : Bytes := []
  /-- When the client first asked to disconnect. -/
  closeWaitSince : Option Nat := none
  deriving DecidableEq

/-- The sockets of a server. -/
structure Server where
  /-- The limits and times. -/
  settings : Settings
  sockets : SocketTable ServerConnection

/-- The calls that wait for something to happen. -/
inductive ServerCall where
  /-- Waits for a client. -/
  | accept (id : SocketId)
  /-- Waits for a number of bytes. -/
  | receive (id : SocketId) (length : Nat)

/-- What a call returns that has waited. -/
inductive ServerAnswer where
  /-- The node and the port of the client. -/
  | accepted (node : NodeId) (port : UInt32)
  /-- The bytes. -/
  | received (data : Bytes)
  deriving DecidableEq

namespace ServerConnection

/-- The connection after the client has asked for it.  The stream starts anew behind the number of
the request. -/
def restarted (c : ServerConnection) (source : NodeId) (segment : Segment) : ServerConnection :=
  { c with
    clientNode := source
    clientPort := segment.sourcePort
    expected := segment.seq + 1
    buffer := []
    closeWaitSince := none }

/-- Whether a piece of the stream is the next one and fits. -/
def accepts (c : ServerConnection) (capacity : Nat) (segment : Segment) : Bool :=
  segment.seq == c.expected && c.buffer.length + segment.payload.length ≤ capacity

/-- The connection after a piece of the stream has arrived, which is taken or not. -/
def absorb (c : ServerConnection) (capacity : Nat) (segment : Segment) : ServerConnection :=
  if c.accepts capacity segment then
    { c with
      buffer := c.buffer ++ segment.payload
      expected := c.expected + UInt32.ofNat segment.payload.length }
  else c

theorem status_absorb (c : ServerConnection) (capacity : Nat) (segment : Segment) :
    (c.absorb capacity segment).status = c.status := by
  unfold absorb
  split <;> rfl

/-- The connection after the client was told that it may disconnect. -/
def leaving (c : ServerConnection) (now : Nat) : ServerConnection :=
  if c.status = .connected then { c with status := .closeWait, closeWaitSince := some now } else c

/-- The connection after its end. -/
def ended (c : ServerConnection) : ServerConnection :=
  { c with status := .closed, closeWaitSince := none }

/-- Whether the connection has answered the client's requests to disconnect for long enough. -/
def isExpired (c : ServerConnection) (timeout now : Nat) : Bool :=
  match c.status, c.closeWaitSince with
  | .closeWait, some since => timeout ≤ now - since
  | _, _ => false

end ServerConnection

namespace Server

/-- A server without sockets. -/
def start (s : Settings) : Except Settings.Error Server :=
  s.validate.map fun () => ⟨s, SocketTable.free s.maxConnections⟩

/-- The server with the state of one socket set. -/
def set (s : Server) (id : SocketId) (x : ServerConnection) : Server :=
  { s with sockets := s.sockets.set id x }

/-- The state of the connection of a socket. -/
def status (s : Server) (id : SocketId) : Except Error Status :=
  (s.sockets.require id).map fun socket => socket.state.status

/-- Opens a socket with a given port. -/
def openSocket (s : Server) (port : UInt32) : Except Error (SocketId × Server) :=
  (s.sockets.openSocket port {}).map fun (id, sockets) => (id, { s with sockets })

/-- Closes a socket, which is not to have a connection, or one that the client has left. -/
def close (s : Server) (id : SocketId) : Except Error Server := do
  let socket ← s.sockets.require id
  let status := socket.state.status
  if status = .closed ∨ status = .closeWait then
    return { s with sockets := s.sockets.close id }
  else throw (.invalidState id status .closed)

/-! ### Calls that wait -/

/-- Begins to wait for a client. -/
def listen (s : Server) (id : SocketId) : Except Error (Server × ServerCall) := do
  let socket ← s.sockets.require id
  if socket.state.status = .closed then
    return (s.set id { socket.state with status := .listening }, .accept id)
  else throw (.invalidState id socket.state.status .closed)

/-- Begins to wait for a number of bytes. -/
def receive (s : Server) (id : SocketId) (length : Nat) : Except Error ServerCall := do
  let socket ← s.sockets.require id
  if s.settings.receiveCapacity < length then
    throw (.requestTooLarge length s.settings.receiveCapacity)
  else if socket.state.status = .connected then
    return .receive id length
  else throw (.invalidState id socket.state.status .connected)

/-- Looks at a call that waits.  If it can return now, the result has the server after it and what
it returns. -/
def poll (s : Server) (call : ServerCall) : Option (Server × Except Error ServerAnswer) :=
  match call with
  | .accept id =>
    let x := ((s.sockets.socket? id).map (·.state)).getD {}
    if x.status = .listening then none
    else if x.status = .closed then some (s, .error (.connectionLost id x.status))
    else some (s, .ok (.accepted x.clientNode x.clientPort))
  | .receive id length =>
    let x := ((s.sockets.socket? id).map (·.state)).getD {}
    if length ≤ x.buffer.length then
      some (s.set id { x with buffer := x.buffer.drop length },
        .ok (.received (x.buffer.take length)))
    else if x.status = .connected then none
    else some (s, .error (.connectionLost id x.status))

/-! ### Segments from the link below -/

/-- The socket that a segment belongs to. -/
def lookup (s : Server) (segment : Segment) : Option (SocketId × Socket ServerConnection) :=
  s.sockets.find? fun socket => socket.port == segment.destPort

/-- Sends an answer to a segment.  The socket is in one state if the link below takes the answer and
in another if it does not. -/
def answer (s : Server) (id : SocketId) (source : NodeId) (reply : Segment)
    (refuse : Refusal Error) (taken refused : ServerConnection) : Effect Server Unit :=
  match refuse 0 reply with
  | none => ⟨s.set id taken, [(source, reply)], .ok ()⟩
  | some e => ⟨s.set id refused, [], .error e⟩

/-- Handles a segment from a node.  Segments that belong to no socket, or to one without a
connection, are ignored. -/
def handle (s : Server) (source : NodeId) (segment : Segment) (now : Nat)
    (refuse : Refusal Error) : Effect Server Unit :=
  match s.lookup segment with
  | none => Effect.quiet s (.ok ())
  | some (id, socket) =>
    let x := socket.state
    match x.status, segment.kind with
    | .closed, _ => Effect.quiet s (.ok ())
    | .listening, .syn | .connected, .syn =>
      let y := x.restarted source segment
      s.answer id source (segment.reply .synAck y.expected) refuse { y with status := .connected } y
    | .connected, .fin | .closeWait, .fin =>
      s.answer id source (segment.reply .finAck x.expected) refuse (x.leaving now) x
    | .connected, .data =>
      let y := x.absorb s.settings.receiveCapacity segment
      s.answer id source (segment.reply .dataAck y.expected) refuse y y
    | status, kind => Effect.fail s (.protocolViolation socket.port status kind)

/-- The server after the sockets whose clients have left long enough ago have given up their
connections. -/
def sweep (s : Server) (now : Nat) : Server :=
  { s with sockets := s.sockets.map fun x =>
      if x.isExpired s.settings.closeWait now then x.ended else x }

/-- The server after the loss of the link below: no socket has a connection any more. -/
def linkLost (s : Server) : Server :=
  { s with sockets := s.sockets.map ServerConnection.ended }

end Server

end OverlayStack.Transport
