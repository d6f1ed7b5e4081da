import OverlayStack.Node
import OverlayStack.Wire.Segment

/-!
# States and errors of sockets

## Main definitions

* `Transport.Status` — the states that a socket goes through.
* `Transport.Error` — why a call on a socket can fail.
* `Transport.Error.code` — the number by which callers tell the errors apart.
-/

namespace OverlayStack.Transport

/-- The number of a socket: its place in the table of sockets. -/
abbrev SocketId := Nat

/-- The states that a socket goes through. -/
inductive Status where
  /-- There is no connection. -/
  | closed
  /-- A server waits for a client. -/
  | listening
  /-- A client has asked for a connection. -/
  | synSent
  /-- There is a connection. -/
  | connected
  /-- A client has asked to end the connection. -/
  | finWait
  /-- The client of a server has asked to end the connection. -/
  | closeWait
  deriving DecidableEq, Repr

namespace Status

/-- The name of a state. -/
def name : Status → String
  | closed => "CLOSED"
  | listening => "LISTENING"
  | synSent => "SYN-SENT"
  | connected => "CONNECTED"
  | finWait => "FIN-WAIT"
  | closeWait => "CLOSE-WAIT"

/-- All states. -/
def all : List Status :=
  [closed, listening, synSent, connected, finWait, closeWait]

/-- The state of a given name. -/
def ofName? (name : String) : Option Status :=
  all.find? fun s => s.name == name

end Status

/-- Why a call on a socket, or the handling of a segment, can fail. -/
inductive Error where
  /-- All sockets are in use. -/
  | noSlotAvailable (max : Nat)
  /-- Another socket has the port. -/
  | portInUse (port : UInt32) (id : SocketId)
  /-- There is no socket of that number. -/
  | noSuchSocket (id : SocketId)
  /-- The socket is not in the state that the call needs. -/
  | invalidState (id : SocketId) (status expected : Status)
  /-- No request to connect was answered. -/
  | connectTimeout (id : SocketId) (attempts : Nat) (node : NodeId) (port : UInt32)
  /-- No request to disconnect was answered. -/
  | disconnectTimeout (id : SocketId) (attempts : Nat)
  /-- The connection ended during the call. -/
  | connectionLost (id : SocketId) (status : Status)
  /-- A single call asks for more bytes than a socket holds. -/
  | requestTooLarge (requested capacity : Nat)
  /-- A segment does not fit the state of its socket. -/
  | protocolViolation (port : UInt32) (status : Status) (kind : SegmentKind)
  /-- The link below cannot be used any more. -/
  | transportClosed (reason : String)
  deriving DecidableEq, Repr

namespace Error

/-- The wording of an error. -/
def message : Error → String
  | noSlotAvailable max => s!"No free connection slot. max connections: {max}"
  | portInUse port id => s!"Port {port} is already used by socket (id={id})."
  | noSuchSocket id => s!"No stcp socket for id={id}."
  | invalidState id status expected =>
    s!"Socket (id={id}) is {status.name} but {expected.name} is required."
  | connectTimeout id attempts node port =>
    s!"Connect failed after {attempts} SYN attempts. socket id: {id} server: {node}:{port}"
  | disconnectTimeout id attempts =>
    s!"Disconnect failed after {attempts} FIN attempts. socket id: {id}"
  | connectionLost id status => s!"Connection lost. socket id: {id} status: {status.name}"
  | requestTooLarge requested capacity =>
    s!"Requested {requested} bytes but the receive buffer holds at most {capacity}."
  | protocolViolation port status kind =>
    s!"Unexpected {kind.name} segment while {status.name}. port: {port}"
  | transportClosed reason => s!"Link to the routing layer is closed. {reason}"

/-- The number by which callers tell the errors apart. -/
def code : Error → Int
  | noSuchSocket _ => -2
  | invalidState _ _ _ => -3
  | _ => -1

end Error

end OverlayStack.Transport
