import OverlayStack.Transport.Client
import OverlayStack.Transport.Loopback
import OverlayStack.Transport.Server

/-!
# A client and a server on one link

The joint state of a client, a server, the link between them, and the calls that wait at either end.
Everything that can happen is an `Event`, so that a run is a list of events.  The link keeps the
order of messages and may lose or damage any of them.

## Main definitions

* `Transport.Session` — the joint state.
* `Transport.Event` — what can happen.
* `Session.step`, `Session.run` — the state after an event, and after a list of events.
-/

namespace OverlayStack.Transport

/-- The joint state of a client and a server on one link. -/
structure Session where
  /-- The client, on side `a` of the link. -/
  client : Client
  /-- The server, on side `b` of the link. -/
  server : Server
  link : Loopback
  /-- The client's calls that wait. -/
  handshakes : List Handshake := []
  /-- The server's calls that wait. -/
  serverCalls : List ServerCall := []
  /-- What the client's calls have returned, latest first. -/
  clientLog : List (Except Error Unit) := []
  /-- What the server's calls have returned, latest first. -/
  serverLog : List (Except Error ServerAnswer) := []
  /-- The time. -/
  now : Nat := 0

/-- What can happen to a client and a server on one link. -/
inductive Event where
  /-- Time passes. -/
  | pass (time : Nat)
  /-- The client begins to connect. -/
  | connect (id : SocketId) (node : NodeId) (port : UInt32)
  /-- The client begins to disconnect. -/
  | disconnect (id : SocketId)
  /-- The client sends bytes. -/
  | send (id : SocketId) (data : Bytes)
  /-- A call of the client that waits is advanced. -/
  | advance (place : Nat)
  /-- A timer of the client looks at its socket. -/
  | timer (id : SocketId)
  /-- The server begins to wait for a client. -/
  | listen (id : SocketId)
  /-- The server begins to wait for bytes. -/
  | receive (id : SocketId) (length : Nat)
  /-- A call of the server that waits is looked at. -/
  | poll (place : Nat)
  /-- The server looks for sockets that their clients have left. -/
  | sweep
  /-- The next message to the client arrives, or does not. -/
  | toClient (outcome : Outcome)
  /-- The next message to the server arrives, or does not. -/
  | toServer (outcome : Outcome)

/-- The link takes every segment. -/
def neverRefused : Refusal Error := fun _ _ => none

namespace Session

/-- A client and a server that have not yet done anything, at two nodes. -/
def start (client : Client) (server : Server) (clientNode serverNode : NodeId) : Session :=
  { client, server, link := Loopback.pair clientNode serverNode }

/-- The session with segments on their way from a side. -/
def post (s : Session) (side : Side) (sent : Outgoing) : Session :=
  { s with link := sent.foldl (fun l e => l.post side e.2) s.link }

/-- The session after an operation of the client. -/
def afterClient (s : Session) (e : Effect Client Unit) : Session :=
  { s with client := e.state }.post .a e.sent

/-- The session after an operation of the server. -/
def afterServer (s : Session) (e : Effect Server Unit) : Session :=
  { s with server := e.state }.post .b e.sent

/-- The session after the client has begun a call, or has failed to. -/
def begin (s : Session) (call : Except Error (Client × Handshake)) : Session :=
  match call with
  | .error e => { s with clientLog := .error e :: s.clientLog }
  | .ok (client, h) => { s with client, handshakes := s.handshakes ++ [h] }

/-- The session after a call of the client was advanced. -/
def advance (s : Session) (place : Nat) : Session :=
  match s.handshakes[place]? with
  | none => s
  | some h =>
    let r := s.client.advance h s.now neverRefused
    let s := { s with client := r.client }.post .a r.sent
    match r.state with
    | .waiting h => { s with handshakes := s.handshakes.set place h }
    | .finished result =>
      { s with
        handshakes := s.handshakes.eraseIdx place
        clientLog := result :: s.clientLog }

/-- The session after a call of the server was looked at. -/
def poll (s : Session) (place : Nat) : Session :=
  match s.serverCalls[place]? with
  | none => s
  | some call =>
    match s.server.poll call with
    | none => s
    | some (server, result) =>
      { s with
        server
        serverCalls := s.serverCalls.eraseIdx place
        serverLog := result :: s.serverLog }

/-- The next message on a side with what became of it, and the session without the message. -/
def arrival (s : Session) (side : Side) (outcome : Outcome) : Delivery × Session :=
  let e := s.link.endAt side
  match e.inbox with
  | [] => (.dropped, s)
  | (source, bs) :: inbox =>
    (Delivery.ofWire outcome source bs, { s with link := s.link.setEnd side { e with inbox } })

/-- The session after an event. -/
def step (s : Session) : Event → Session
  | .pass time => { s with now := s.now + time }
  | .connect id node port => s.begin (s.client.connect id node port)
  | .disconnect id => s.begin (s.client.disconnect id)
  | .send id data =>
    let e := s.client.send id data s.now neverRefused
    { s.afterClient e with clientLog := e.result :: s.clientLog }
  | .advance place => s.advance place
  | .timer id => s.afterClient (s.client.pollTimer id s.now neverRefused)
  | .listen id =>
    match s.server.listen id with
    | .error e => { s with serverLog := .error e :: s.serverLog }
    | .ok (server, call) => { s with server, serverCalls := s.serverCalls ++ [call] }
  | .receive id length =>
    match s.server.receive id length with
    | .error e => { s with serverLog := .error e :: s.serverLog }
    | .ok call => { s with serverCalls := s.serverCalls ++ [call] }
  | .poll place => s.poll place
  | .sweep => { s with server := s.server.sweep s.now }
  | .toClient outcome =>
    match s.arrival .a outcome with
    | (.dropped, s) => s
    | (.segment _ segment, s) => s.afterClient (s.client.handle segment s.now neverRefused)
  | .toServer outcome =>
    match s.arrival .b outcome with
    | (.dropped, s) => s
    | (.segment source segment, s) =>
      s.afterServer (s.server.handle source segment s.now neverRefused)

/-- The session after some events. -/
def run (s : Session) (events : List Event) : Session :=
  events.foldl step s

@[simp] theorem run_nil (s : Session) : s.run [] = s := rfl

@[simp] theorem run_cons (s : Session) (e : Event) (events : List Event) :
    s.run (e :: events) = (s.step e).run events := rfl

theorem run_append (s : Session) (first second : List Event) :
    s.run (first ++ second) = (s.run first).run second := by
  simp [run, List.foldl_append]

end Session

end OverlayStack.Transport
