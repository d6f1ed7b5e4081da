import OverlayStack.Transport.Server

/-!
# Hosts of servers

A host runs a server over a link.  It knows the time, what the link still takes, and the calls that
wait, and it performs commands one after another.  A call is known by the number of its command and
is looked at after every command; calls that are ready at the same time return in the order in which
they were begun.

## Main definitions

* `Transport.ServerHost` — a server, its link, the time, and the calls that wait.
* `ServerHost.handle`, `ServerHost.arrive`, `ServerHost.sweep` — what segments and time do.
* `ServerHost.pollCalls` — calls that wait.
* `Transport.ServerCommand`, `ServerHost.step` — commands, and what they do.
-/

namespace OverlayStack.Transport

/-- A server with the link below it and the calls that wait. -/
structure ServerHost where
  server : Server
  link : Uplink
  /-- The time. -/
  now : Nat := 0
  /-- How many commands were performed. -/
  commands : Nat := 0
  /-- The calls that wait, with the numbers of their commands, in the order in which they were
  begun. -/
  calls : List (Nat × ServerCall) := []

/-- What a host can be told. -/
inductive ServerCommand where
  /-- Opens a socket. -/
  | openSocket (port : UInt32)
  /-- Closes a socket. -/
  | close (id : SocketId)
  /-- Asks for the state of a socket. -/
  | status (id : SocketId)
  /-- Waits for a client. -/
  | accept (id : SocketId)
  /-- Waits for a number of bytes. -/
  | receive (id : SocketId) (length : Nat)
  /-- Handles a segment and reports errors. -/
  | handle (source : NodeId) (segment : Segment)
  /-- A segment arrives from the link, or is dropped on its way. -/
  | arrive (segment : Option (NodeId × Segment))
  /-- Looks for sockets that their clients have left. -/
  | sweep
  /-- The link takes a number of segments and then no more. -/
  | limit (allowance : Option Nat)
  /-- The link is lost. -/
  | loseLink

/-- What a host says to a command. -/
inductive ServerReply where
  /-- There is nothing to say. -/
  | nothing
  /-- It is done. -/
  | done
  /-- The call waits. -/
  | started
  /-- The number of the new socket. -/
  | socket (id : SocketId)
  /-- The state of the socket. -/
  | status (s : Status)
  /-- It cannot be done. -/
  | failed (e : Error)

/-- What a command does. -/
structure ServerStep where
  /-- The host after it. -/
  host : ServerHost
  /-- What the host says. -/
  reply : ServerReply
  /-- The segments that were sent. -/
  sent : Outgoing := []
  /-- The calls that have returned, with the numbers of their commands. -/
  returned : List (Nat × Except Error ServerAnswer) := []

namespace ServerHost

/-- Handles a segment from a node. -/
def handle (h : ServerHost) (source : NodeId) (segment : Segment) : Effect ServerHost Unit :=
  let e := h.server.handle source segment h.now h.link.refusal
  ⟨{ h with server := e.state, link := h.link.after e.sent.length }, e.sent, e.result⟩

/-- The host after its server has looked for sockets that their clients have left. -/
def sweep (h : ServerHost) : ServerHost :=
  { h with server := h.server.sweep h.now }

/-- The host after a segment has arrived from the link, and what it sends.  An error costs no more
than the segment, and nothing arrives from a link that is lost. -/
def arrive (h : ServerHost) (source : NodeId) (segment : Segment) : ServerHost × Outgoing :=
  if h.link.isUp then
    let e := h.handle source segment
    (e.state.sweep, e.sent)
  else (h, [])

/-- The host after the loss of the link. -/
def loseLink (h : ServerHost) : ServerHost :=
  if h.link.isUp then { h with server := h.server.linkLost, link := h.link.lose } else h

/-! ### Calls that wait -/

/-- The host after some calls were looked at, of which it keeps those that still wait, with what the
others return. -/
def pollEach (h : ServerHost) :
    List (Nat × ServerCall) → ServerHost × List (Nat × Except Error ServerAnswer)
  | [] => ({ h with calls := [] }, [])
  | (number, call) :: rest =>
    match h.server.poll call with
    | none =>
      let (h, returned) := h.pollEach rest
      ({ h with calls := (number, call) :: h.calls }, returned)
    | some (server, result) =>
      let (h, returned) := ({ h with server } : ServerHost).pollEach rest
      (h, (number, result) :: returned)

/-- The host after all calls were looked at, and what the calls return that do not wait any more. -/
def pollCalls (h : ServerHost) : ServerHost × List (Nat × Except Error ServerAnswer) :=
  h.pollEach h.calls

/-! ### Commands -/

/-- Performs a command that begins a call on a socket.  If the socket is in the state that the call
needs, the call is begun in any case, and may return an error later. -/
def beginCall (h : ServerHost) (id : SocketId) (needed : Status)
    (call : Except Error (Server × ServerCall)) : ServerStep :=
  match call, h.server.status id with
  | .ok (server, call), _ =>
    { host := { h with server, calls := h.calls ++ [(h.commands, call)] }, reply := .started }
  | .error e, .ok status =>
    if status = needed then
      { host := h, reply := .started, returned := [(h.commands, .error e)] }
    else { host := h, reply := .failed e }
  | .error e, .error _ => { host := h, reply := .failed e }

/-- Performs a command, without looking at calls. -/
def perform (h : ServerHost) : ServerCommand → ServerStep
  | .openSocket port =>
    match h.server.openSocket port with
    | .error e => { host := h, reply := .failed e }
    | .ok (id, server) => { host := { h with server }, reply := .socket id }
  | .close id =>
    match h.server.close id with
    | .error e => { host := h, reply := .failed e }
    | .ok server => { host := { h with server }, reply := .done }
  | .status id =>
    match h.server.status id with
    | .error e => { host := h, reply := .failed e }
    | .ok s => { host := h, reply := .status s }
  | .accept id => h.beginCall id .closed (h.server.listen id)
  | .receive id length =>
    h.beginCall id .connected ((h.server.receive id length).map fun call => (h.server, call))
  | .handle source segment =>
    let e := h.handle source segment
    match e.result with
    | .ok () => { host := e.state, reply := .done, sent := e.sent }
    | .error x => { host := e.state, reply := .failed x, sent := e.sent }
  | .arrive none => { host := h, reply := .nothing }
  | .arrive (some (source, segment)) =>
    let (h, sent) := h.arrive source segment
    { host := h, reply := .nothing, sent }
  | .sweep => { host := h.sweep, reply := .nothing }
  | .limit allowance => { host := { h with link := { h.link with allowance } }, reply := .nothing }
  | .loseLink => { host := h.loseLink, reply := .nothing }

/-- Performs a command, and looks at all calls that wait. -/
def step (h : ServerHost) (c : ServerCommand) : ServerStep :=
  let r := h.perform c
  let (host, returned) := r.host.pollCalls
  { host := { host with commands := h.commands + 1 }
    reply := r.reply
    sent := r.sent
    returned := returned ++ r.returned }

end ServerHost

end OverlayStack.Transport
