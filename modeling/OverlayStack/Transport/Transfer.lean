import OverlayStack.Transport.Session

/-!
# Transfers

A transfer is the whole life of one connection: the server waits for the client, the client connects
and sends some pieces of data, the server reads pieces of given lengths as soon as they are there,
the client waits until everything is acknowledged, disconnects, and both close their sockets.
Messages that are on their way arrive before time passes, and each end of the link draws what
happens to them from its impairment.

## Main definitions

* `Transport.Transfer` — a transfer on its way: a session, and the reads that have not begun.
* `Transfer.turn`, `Transfer.go` — what happens next, and what happens until some goal is reached.
* `Transfer.report` — a whole transfer, and what its calls have returned.
-/

namespace OverlayStack.Transport

/-- What happens to the next message on a side by the impairment of that end, and the session with
the dice after the throw. -/
def Session.draw (s : Session) (side : Side) : Outcome × Session :=
  let e := s.link.endAt side
  match e.impairment, e.inbox with
  | some i, (_, bs) :: _ =>
    let (o, i) := i.draw bs
    (o, { s with link := s.link.setEnd side { e with impairment := some i } })
  | _, _ => (.delivered, s)

/-- A transfer on its way. -/
structure Transfer where
  session : Session
  /-- The lengths of the reads that have not begun. -/
  reads : List Nat

/-- What to transfer. -/
structure TransferPlan where
  /-- The node of the client. -/
  clientNode : NodeId := 1
  /-- The port of the client. -/
  clientPort : UInt32 := 87
  /-- The node of the server. -/
  serverNode : NodeId := 2
  /-- The port of the server. -/
  serverPort : UInt32 := 88
  /-- The pieces that the client sends. -/
  sends : List Bytes
  /-- The lengths of the pieces that the server reads. -/
  reads : List Nat
  /-- Where the dice of both ends start, if the link is impaired. -/
  seed : Option UInt64 := none

/-- What the calls of a transfer have returned. -/
structure TransferReport where
  /-- What the client's calls have returned, in order: connecting, sending, disconnecting. -/
  clientCalls : List (Except Error Unit)
  /-- What the server's calls have returned, in order: accepting, receiving. -/
  serverCalls : List (Except Error ServerAnswer)
  /-- How many segments the client had left before it disconnected. -/
  pending : Except Error Nat
  /-- The state of the client's socket before it was closed. -/
  clientStatus : Except Error Status
  /-- The state of the server's socket before it was closed. -/
  serverStatus : Except Error Status
  /-- What closing the client's socket has returned. -/
  clientClose : Except Error Unit
  /-- What closing the server's socket has returned. -/
  serverClose : Except Error Unit

namespace Transfer

/-- The session after the server was given the chance to read, and the reads that have not begun. -/
def serve (s : Session) : List Nat → Transfer
  | [] => ⟨s.poll 0, []⟩
  | length :: reads =>
    let s := s.poll 0
    if s.serverCalls.isEmpty then serve (s.step (.receive 0 length)) reads
    else ⟨s, length :: reads⟩

/-- The transfer after the next thing has happened: a message arrives, or, if there is none, time
passes until the client has something to do. -/
def turn (t : Transfer) : Transfer :=
  let s := t.session
  if !s.link.atB.inbox.isEmpty then
    let (outcome, s) := s.draw .b
    serve (s.run [.toServer outcome, .sweep]) t.reads
  else if !s.link.atA.inbox.isEmpty then
    let (outcome, s) := s.draw .a
    { t with session := s.run [.toClient outcome, .advance 0] }
  else
    match s.handshakes with
    | h :: _ => { t with session := s.run [.pass (s.client.deadline h - s.now), .advance 0] }
    | [] => { t with session := s.run [.pass (max 1 s.client.settings.dataTimeout), .timer 0] }

/-- The transfer when a goal is reached, or after a number of turns. -/
def go (t : Transfer) (goal : Session → Bool) : Nat → Transfer
  | 0 => t
  | turns + 1 => if goal t.session then t else t.turn.go goal turns

/-- How many turns a goal may take. -/
def turnLimit : Nat := 1000000

/-- The transfer after some events at the client. -/
def act (t : Transfer) (events : List Event) : Transfer :=
  { t with session := t.session.run events }

/-- The client waits for nothing. -/
def isIdle (s : Session) : Bool :=
  s.handshakes.isEmpty

/-- The client has nothing left to send. -/
def isDrained (s : Session) : Bool :=
  match s.client.pending 0 with
  | .ok n => n == 0
  | .error _ => true

/-- A client and a server with one open socket each, and the link between them. -/
def opened (settings : Settings) (plan : TransferPlan) : Except Settings.Error Session := do
  let client ← Client.start settings
  let server ← Server.start settings
  let client := match client.openSocket plan.clientPort with
    | .ok (_, client) => client
    | .error _ => client
  let server := match server.openSocket plan.serverPort with
    | .ok (_, server) => server
    | .error _ => server
  let s := Session.start client server plan.clientNode plan.serverNode
  let link := match plan.seed with
    | none => s.link
    | some seed =>
      (s.link.impair .a (Impairment.ofRate settings.lossRate seed)).impair .b
        (Impairment.ofRate settings.lossRate (seed + 1))
  return { s with link }

/-- The result of closing a socket. -/
def closed {σ : Type} (result : Except Error σ) : Except Error Unit :=
  result.map fun _ => ()

/-- A whole transfer, and what its calls have returned. -/
def report (settings : Settings) (plan : TransferPlan) :
    Except Settings.Error TransferReport := do
  let session ← opened settings plan
  let begun : Transfer := ⟨session, plan.reads⟩
  let connected :=
    (begun.act [.listen 0, .connect 0 plan.serverNode plan.serverPort, .advance 0]).go
      isIdle turnLimit
  let sent := (connected.act (plan.sends.map (.send 0))).go isDrained turnLimit
  let done := (sent.act [.disconnect 0, .advance 0]).go isIdle turnLimit
  let last := done.session
  return {
    clientCalls := last.clientLog.reverse
    serverCalls := last.serverLog.reverse
    pending := sent.session.client.pending 0
    clientStatus := last.client.status 0
    serverStatus := last.server.status 0
    clientClose := closed (last.client.close 0)
    serverClose := closed (last.server.close 0) }

end Transfer

end OverlayStack.Transport
