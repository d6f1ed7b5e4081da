import OverlayStack.Transport.Client

/-!
# Hosts of clients

A host runs a client over a link.  It knows the time, what the link still takes, and the calls that
wait, and it performs commands one after another.  A call is known by the number of its command and
is advanced after every command; calls that are ready at the same time return in the order in which
they were begun.

## Main definitions

* `Transport.ClientHost` — a client, its link, the time, and the calls that wait.
* `ClientHost.send`, `ClientHost.handle`, `ClientHost.arrive` — operations on the link.
* `ClientHost.advanceCalls`, `ClientHost.await` — calls that wait.
* `ClientHost.pollTimers`, `ClientHost.resend` — segments that are sent again as time passes.
* `Transport.ClientCommand`, `ClientHost.step` — commands, and what they do.
-/

namespace OverlayStack.Transport

/-- A client with the link below it and the calls that wait. -/
structure ClientHost where
  client : Client
  link : Uplink
  /-- The time. -/
  now : Nat := 0
  /-- How many commands were performed. -/
  commands : Nat := 0
  /-- The calls that wait, with the numbers of their commands, in the order in which they were
  begun. -/
  calls : List (Nat × Handshake) := []
  /-- The numbers of the segments that were sent again since a segment was last handled. -/
  resent : List UInt32 := []

/-- How long a call may keep its caller waiting. -/
inductive Patience where
  /-- The caller goes on, and the call returns later. -/
  | background
  /-- The caller waits for the end.  If there is a reply, it arrives as soon as the call has made a
  number of attempts. -/
  | untilDone (reply : Option (Nat × Segment))

/-- What a host can be told. -/
inductive ClientCommand where
  /-- Opens a socket. -/
  | openSocket (port : UInt32)
  /-- Closes a socket. -/
  | close (id : SocketId)
  /-- Asks for the state of a socket. -/
  | status (id : SocketId)
  /-- Asks how many segments of a socket are not acknowledged. -/
  | pending (id : SocketId)
  /-- Connects a socket to a server. -/
  | connect (id : SocketId) (node : NodeId) (port : UInt32) (patience : Patience)
  /-- Disconnects a socket from its server. -/
  | disconnect (id : SocketId) (patience : Patience)
  /-- Sends bytes. -/
  | send (id : SocketId) (data : Bytes)
  /-- Handles a segment and reports errors. -/
  | handle (segment : Segment)
  /-- A segment arrives from the link, or is dropped on its way. -/
  | arrive (segment : Option Segment)
  /-- The link takes a number of segments and then no more. -/
  | limit (allowance : Option Nat)
  /-- The link is lost. -/
  | loseLink
  /-- Time passes until at least a number of segments were sent again. -/
  | resend (count : Nat)

/-- What a host says to a command. -/
inductive ClientAnswer where
  /-- There is nothing to say. -/
  | nothing
  /-- It is done. -/
  | done
  /-- The call waits. -/
  | started
  /-- The number of the new socket. -/
  | socket (id : SocketId)
  /-- The state of the socket. -/
  | status (s : Status)
  /-- A number of segments. -/
  | count (n : Nat)
  /-- The numbers of segments that were sent again. -/
  | resent (seqs : List UInt32)
  /-- It cannot be done. -/
  | failed (e : Error)

/-- The answer to a command that only succeeds or fails. -/
def ClientAnswer.ofResult : Except Error Unit → ClientAnswer
  | .ok () => done
  | .error e => failed e

/-- What a command does. -/
structure ClientStep where
  /-- The host after it. -/
  host : ClientHost
  /-- What the host says. -/
  answer : ClientAnswer
  /-- The segments that were sent, but for those that timers have sent again. -/
  sent : Outgoing
  /-- The calls that have returned, with the numbers of their commands. -/
  returned : List (Nat × Except Error Unit) := []

namespace ClientHost

/-- The host after an operation of the client. -/
def after {ρ : Type} (h : ClientHost) (e : Effect Client ρ) : Effect ClientHost ρ :=
  ⟨{ h with client := e.state, link := h.link.after e.sent.length }, e.sent, e.result⟩

/-- Sends bytes. -/
def send (h : ClientHost) (id : SocketId) (data : Bytes) : Effect ClientHost Unit :=
  h.after (h.client.send id data h.now h.link.refusal)

/-- Handles a segment. -/
def handle (h : ClientHost) (segment : Segment) : Effect ClientHost Unit :=
  h.after (h.client.handle segment h.now h.link.refusal)

/-- The host after a segment has arrived from the link, and what it sends.  An error costs no more
than the segment, and nothing arrives from a link that is lost. -/
def arrive (h : ClientHost) (segment : Segment) : ClientHost × Outgoing :=
  if h.link.isUp then
    let e := h.handle segment
    (e.state, e.sent)
  else (h, [])

/-- The host after the loss of the link. -/
def loseLink (h : ClientHost) : ClientHost :=
  if h.link.isUp then { h with client := h.client.linkLost, link := h.link.lose } else h

/-! ### Calls that wait -/

/-- The host after a call was advanced, what it sends, and where the call has got to. -/
def advance (h : ClientHost) (call : Handshake) : ClientHost × Outgoing × HandshakeState :=
  let a := h.client.advance call h.now h.link.refusal
  ({ h with client := a.client, link := h.link.after a.sent.length }, a.sent, a.state)

/-- The host after some calls were advanced, of which it keeps those that still wait, with what it
sends and what the others return. -/
def advanceEach (h : ClientHost) :
    List (Nat × Handshake) → ClientHost × Outgoing × List (Nat × Except Error Unit)
  | [] => ({ h with calls := [] }, [], [])
  | (number, call) :: rest =>
    let (h, sent, state) := h.advance call
    let (h, more, returned) := h.advanceEach rest
    match state with
    | .waiting call => ({ h with calls := (number, call) :: h.calls }, sent ++ more, returned)
    | .finished result => (h, sent ++ more, (number, result) :: returned)

/-- The host after all calls were advanced, what it sends, and what the calls return that do not
wait any more. -/
def advanceCalls (h : ClientHost) : ClientHost × Outgoing × List (Nat × Except Error Unit) :=
  h.advanceEach h.calls

/-- Advances one call until it returns.  While it waits, time passes; but as soon as `reply` has as
many attempts as it asks for, its segment arrives instead.  After the given number of steps the call
gives up. -/
def awaitFor (h : ClientHost) (call : Handshake) (reply : Option (Nat × Segment)) :
    Nat → Effect ClientHost Unit
  | 0 =>
    let (client, result) := h.client.finish call true
    ⟨{ h with client }, [], result⟩
  | steps + 1 =>
    let (h, sent, state) := h.advance call
    match state with
    | .finished result => ⟨h, sent, result⟩
    | .waiting call =>
      let later : ClientHost := { h with now := max h.now (h.client.deadline call) }
      let next : Effect ClientHost Unit := match reply with
        | none => later.awaitFor call none steps
        | some (attempt, segment) =>
          if attempt ≤ call.attempts then
            let (h, answers) := h.arrive segment
            let next := h.awaitFor call none steps
            { next with sent := answers ++ next.sent }
          else later.awaitFor call reply steps
      { next with sent := sent ++ next.sent }

/-- Advances a new call until it returns.  Every attempt takes one step, and so do the arrival of
the reply and the end. -/
def await (h : ClientHost) (call : Except Error (Client × Handshake))
    (reply : Option (Nat × Segment)) : Effect ClientHost Unit :=
  match call with
  | .error e => Effect.fail h e
  | .ok (client, handshake) =>
    ({ h with client } : ClientHost).awaitFor handshake reply
      (handshake.kind.maxAttempts client.settings + 2)

/-! ### Sending again -/

/-- The host after the timers of some sockets have looked at them once, and what they send. -/
def pollTimersOf (h : ClientHost) : List SocketId → ClientHost × Outgoing
  | [] => (h, [])
  | id :: rest =>
    let e := h.after (h.client.pollTimer id h.now h.link.refusal)
    let (h, sent) := e.state.pollTimersOf rest
    (h, e.sent ++ sent)

/-- The host after all timers have looked at their sockets once, and what they send. -/
def pollTimers (h : ClientHost) : ClientHost × Outgoing :=
  h.pollTimersOf (h.client.sockets.sockets.map (·.1))

/-- The host after a time in which everything in flight becomes due. -/
def waitForTimers (h : ClientHost) : ClientHost :=
  { h with now := h.now + max 1 h.client.settings.dataTimeout }

/-- The host after the timers have sent at least `count` segments, if they have anything to send,
and what they have sent. -/
def resend (h : ClientHost) (count : Nat) : ClientHost × Outgoing :=
  match count with
  | 0 => (h, [])
  | count + 1 =>
    match h.waitForTimers.pollTimers with
    | (h, []) => (h, [])
    | (h, s :: sent) =>
      let (h, more) := h.resend (count - sent.length)
      (h, s :: sent ++ more)
termination_by count
decreasing_by omega

/-! ### Commands -/

/-- Performs a command that begins a call. -/
def beginCall (h : ClientHost) (call : Except Error (Client × Handshake)) :
    Patience → ClientStep
  | .untilDone reply =>
    let e := h.await call reply
    ⟨e.state, .ofResult e.result, e.sent, []⟩
  | .background =>
    match call with
    | .error e => ⟨h, .failed e, [], []⟩
    | .ok (client, handshake) =>
      ⟨{ h with client, calls := h.calls ++ [(h.commands, handshake)] }, .started, [], []⟩

/-- Performs a command, without advancing calls. -/
def perform (h : ClientHost) : ClientCommand → ClientStep
  | .openSocket port =>
    match h.client.openSocket port with
    | .error e => ⟨h, .failed e, [], []⟩
    | .ok (id, client) => ⟨{ h with client }, .socket id, [], []⟩
  | .close id =>
    match h.client.close id with
    | .error e => ⟨h, .failed e, [], []⟩
    | .ok client => ⟨{ h with client }, .done, [], []⟩
  | .status id =>
    match h.client.status id with
    | .error e => ⟨h, .failed e, [], []⟩
    | .ok s => ⟨h, .status s, [], []⟩
  | .pending id =>
    match h.client.pending id with
    | .error e => ⟨h, .failed e, [], []⟩
    | .ok n => ⟨h, .count n, [], []⟩
  | .connect id node port patience => h.beginCall (h.client.connect id node port) patience
  | .disconnect id patience => h.beginCall (h.client.disconnect id) patience
  | .send id data =>
    let e := h.send id data
    ⟨e.state, .ofResult e.result, e.sent, []⟩
  | .handle segment =>
    let e := h.handle segment
    ⟨{ e.state with resent := [] }, .ofResult e.result, e.sent, []⟩
  | .arrive none => ⟨h, .nothing, [], []⟩
  | .arrive (some segment) =>
    let (h, sent) := h.arrive segment
    ⟨h, .nothing, sent, []⟩
  | .limit allowance => ⟨{ h with link := { h.link with allowance } }, .nothing, [], []⟩
  | .loseLink => ⟨h.loseLink, .nothing, [], []⟩
  | .resend count =>
    let (h, sent) := h.resend (count - h.resent.length)
    let resent := h.resent ++ sent.map fun e => e.2.seq
    ⟨{ h with resent }, .resent (resent.take count), [], []⟩

/-- Performs a command, and advances all calls that wait. -/
def step (h : ClientHost) (c : ClientCommand) : ClientStep :=
  let r := h.perform c
  let (host, sent, returned) := r.host.advanceCalls
  { host := { host with commands := h.commands + 1 }
    answer := r.answer
    sent := r.sent ++ sent
    returned := r.returned ++ returned }

end ClientHost

end OverlayStack.Transport
