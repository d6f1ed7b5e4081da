import OverlayStack.Proofs.Transport.Hosts
import OverlayStack.Proofs.Transport.Occurrences
import OverlayStack.Proofs.Transport.Window

/-!
# Clients with many callers

A client is used by many callers at a time.  Any of them begins a call, or wakes up in one that
waits, or sends bytes; segments arrive, timers look at their sockets, and the link may be lost.  All
of this happens in turns, in any order, and in every turn the link may refuse any of the segments.

## Main definitions

* `BusyClient` — a client and its calls that wait.
* `ClientMove`, `ClientTurn` — what is done in a turn.
* `BusyClient.step`, `BusyClient.run` — what a turn does, and the client after some turns.
* `BusyClient.Shift` — what a turn does to a connection.
* `BusyClient.Follows` — what it makes of a socket.

## Main results

* `BusyClient.step_cases` — a turn does nothing, shifts one connection, opens or closes a socket, or
  ends all connections.
* `BusyClient.socket?_step` — where a socket comes from.
-/

namespace OverlayStack.Transport

/-- A client and its calls that wait. -/
structure BusyClient where
  client : Client
  /-- The calls, in the order in which they were begun. -/
  calls : List Handshake := []

/-- What can be done to a client. -/
inductive ClientMove where
  /-- A socket is opened. -/
  | openSocket (port : UInt32)
  /-- A socket is closed. -/
  | close (id : SocketId)
  /-- A call to connect begins. -/
  | connect (id : SocketId) (node : NodeId) (port : UInt32)
  /-- A call to disconnect begins. -/
  | disconnect (id : SocketId)
  /-- A call that waits wakes up. -/
  | wake (place : Nat)
  /-- Bytes are sent. -/
  | send (id : SocketId) (data : Bytes)
  /-- A segment arrives. -/
  | handle (g : Segment)
  /-- A timer looks at its socket. -/
  | timer (id : SocketId)
  /-- The link is lost. -/
  | linkLost

/-- What is done in a turn, when, and what the link says to the segments that are sent. -/
structure ClientTurn where
  move : ClientMove
  now : Nat := 0
  refuse : Refusal Error := neverRefused

namespace BusyClient

/-- The client after a call has begun, or has failed to. -/
def begin (b : BusyClient) (call : Except Error (Client × Handshake)) : BusyClient :=
  match call with
  | .error _ => b
  | .ok (client, h) => ⟨client, b.calls ++ [h]⟩

/-- The client after an operation, and what was sent. -/
def after (b : BusyClient) (e : Effect Client Unit) : BusyClient × Outgoing :=
  ({ b with client := e.state }, e.sent)

/-- The client after a call has woken up, and what was sent.  The call goes on to wait, or it
returns. -/
def wake (b : BusyClient) (place now : Nat) (refuse : Refusal Error) : BusyClient × Outgoing :=
  match b.calls[place]? with
  | none => (b, [])
  | some h =>
    let a := b.client.advance h now refuse
    match a.state with
    | .waiting h => (⟨a.client, b.calls.set place h⟩, a.sent)
    | .finished _ => (⟨a.client, b.calls.eraseIdx place⟩, a.sent)

/-- The client after a turn, and what was sent in it.  The calls of a socket that is closed go on
with a socket that is not in the table any more. -/
def step (b : BusyClient) (t : ClientTurn) : BusyClient × Outgoing :=
  match t.move with
  | .openSocket port =>
    match b.client.openSocket port with
    | .error _ => (b, [])
    | .ok (_, client) => ({ b with client }, [])
  | .close id =>
    match b.client.close id with
    | .error _ => (b, [])
    | .ok client => (⟨client, b.calls.filter fun h => h.socket ≠ id⟩, [])
  | .connect id node port => (b.begin (b.client.connect id node port), [])
  | .disconnect id => (b.begin (b.client.disconnect id), [])
  | .wake place => b.wake place t.now t.refuse
  | .send id data => b.after (b.client.send id data t.now t.refuse)
  | .handle g => b.after (b.client.handle g t.now t.refuse)
  | .timer id => b.after (b.client.pollTimer id t.now t.refuse)
  | .linkLost => ({ b with client := b.client.linkLost }, [])

/-- The client after some turns. -/
def run (b : BusyClient) (turns : List ClientTurn) : BusyClient :=
  turns.foldl (fun b t => (b.step t).1) b

theorem run_append (b : BusyClient) (first second : List ClientTurn) :
    b.run (first ++ second) = (b.run first).run second :=
  List.foldl_append

theorem run_concat (b : BusyClient) (turns : List ClientTurn) (t : ClientTurn) :
    b.run (turns ++ [t]) = ((b.run turns).step t).1 := by
  rw [run_append]
  rfl

/-! ### What a turn does to a connection -/

/-- What a turn does to the connection of a socket, and what is sent then. -/
inductive Shift (b : BusyClient) (t : ClientTurn) (id : SocketId) (s : Socket ClientConnection) :
    ClientConnection → Outgoing → Prop where
  /-- A call to connect begins. -/
  | asked {node : NodeId} {port : UInt32} (hmove : t.move = .connect id node port)
      (hs : s.state.status = .closed) :
      Shift b t id s { s.state with
        serverNode := node
        serverPort := port
        nextSeq := s.state.nextSeq + 1
        status := .synSent } []
  /-- The connection is granted. -/
  | granted (hs : s.state.status = .synSent) :
      Shift b t id s { s.state with status := .connected } []
  /-- Bytes are queued, and what the window allows is sent. -/
  | sent {data : Bytes} (hmove : t.move = .send id data) (hs : s.state.status = .connected) :
      Shift b t id s
        ((s.state.enqueue s.port b.client.settings.maxSegment data).withTimer.transmit
          b.client.settings.window t.now t.refuse).1
        ((s.state.enqueue s.port b.client.settings.maxSegment data).withTimer.transmit
          b.client.settings.window t.now t.refuse).2.1
  /-- Segments are acknowledged, and what the window then allows is sent. -/
  | acknowledged {g : Segment} (hmove : t.move = .handle g)
      (hfound : b.client.lookup g = some (id, s)) (hs : s.state.status = .connected)
      (hk : g.kind = .dataAck) (hsome : (s.state.buffer.acknowledge g.ack).2 ≠ 0) :
      Shift b t id s
        (ClientConnection.transmit
          { s.state with buffer := (s.state.buffer.acknowledge g.ack).1 }
          b.client.settings.window t.now t.refuse).1
        (ClientConnection.transmit
          { s.state with buffer := (s.state.buffer.acknowledge g.ack).1 }
          b.client.settings.window t.now t.refuse).2.1
  /-- The timer sends everything in flight again. -/
  | resent (hs : s.state.status = .connected)
      (hdue : s.state.buffer.isTimedOut b.client.settings.dataTimeout t.now = true)
      (hmove : t.move = .timer id) :
      Shift b t id s { s.state with buffer := (s.state.buffer.retransmit t.now t.refuse).1 }
        ((s.state.buffer.retransmit t.now t.refuse).2.1.map fun g => (s.state.serverNode, g))
  /-- The timer stops. -/
  | stopped (hstop : s.state.status ≠ .connected ∨ s.state.buffer.isEmpty = true)
      (hmove : t.move = .timer id) :
      Shift b t id s { s.state with timerRunning := false, timers := s.state.timers - 1 } []
  /-- A call to disconnect begins. -/
  | leaving (hmove : t.move = .disconnect id) (hs : s.state.status = .connected) :
      Shift b t id s { s.state with nextSeq := s.state.nextSeq + 1, status := .finWait } []
  /-- The end of the connection is confirmed. -/
  | confirmed (hs : s.state.status = .finWait) :
      Shift b t id s { s.state with status := .closed } []
  /-- A call wakes up, and goes on to wait or returns. -/
  | called {place n : Nat} {call : Handshake} (hmove : t.move = .wake place)
      (hcall : b.calls[place]? = some call) :
      Shift b t id s s.state (List.replicate n (call.node, call.request))
  /-- A call to connect gives up. -/
  | gaveUp {place n : Nat} {call : Handshake} (hmove : t.move = .wake place)
      (hcall : b.calls[place]? = some call) (hs : s.state.status = .synSent) :
      Shift b t id s { s.state with status := .closed }
        (List.replicate n (call.node, call.request))
  /-- A call to disconnect returns. -/
  | left {place n : Nat} {call : Handshake} (hmove : t.move = .wake place)
      (hcall : b.calls[place]? = some call) :
      Shift b t id s s.state.ended (List.replicate n (call.node, call.request))

end BusyClient

/-! ### Calls that wake up -/

namespace Client

/-- What becomes of a client when one of its calls wakes up, and of the call. -/
inductive Woken (c : Client) (call : Handshake) : Client → HandshakeState → Prop where
  /-- The call goes on to wait. -/
  | waits {later : Handshake} (hsocket : later.socket = call.socket)
      (hkind : later.kind = call.kind) (hnode : later.node = call.node)
      (hrequest : later.request = call.request) :
      Woken c call c (.waiting later)
  /-- A call to connect returns. -/
  | returned {r : Except Error Unit} (hkind : call.kind = .connect) : Woken c call c (.finished r)
  /-- A call to connect gives up. -/
  | gaveUp {r : Except Error Unit} (hkind : call.kind = .connect)
      (hs : (c.connectionOf call).status = .synSent) :
      Woken c call (c.set call.socket { c.connectionOf call with status := .closed }) (.finished r)
  /-- A call to disconnect returns. -/
  | ended {r : Except Error Unit} (hkind : call.kind = .disconnect) :
      Woken c call (c.set call.socket (c.connectionOf call).ended) (.finished r)

theorem woken_finish (c : Client) (call : Handshake) {timedOut : Bool}
    (h : timedOut = true → (c.connectionOf call).status = call.kind.waitingStatus) :
    c.Woken call (c.finish call timedOut).1 (.finished (c.finish call timedOut).2) := by
  unfold finish
  cases hkind : call.kind with
  | connect =>
    rw [hkind] at h
    dsimp only
    split
    · next htime => exact .gaveUp hkind (h htime)
    · split
      · exact .returned hkind
      · exact .returned hkind
  | disconnect => exact .ended hkind

/-- **A call that wakes up** sends its request some times, and goes on to wait or returns. -/
theorem woken_advanceFrom (c : Client) (call : Handshake) (now n : Nat) (refuse : Refusal Error) :
    ∃ k, (c.advanceFrom call now refuse n).sent = List.replicate k (call.node, call.request) ∧
      (k ≠ 0 → (c.connectionOf call).status = call.kind.waitingStatus) ∧
      c.Woken call (c.advanceFrom call now refuse n).client
        (c.advanceFrom call now refuse n).state := by
  induction call, n using advanceFrom.induct c now refuse with
  | case1 call n hw htime hmax c' result hend =>
    rw [advanceFrom, if_pos hw, if_pos htime, dif_pos hmax]
    exact ⟨0, rfl, fun hk => absurd rfl hk, c.woken_finish call fun _ => hw⟩
  | case2 call n hw htime hmax e hrefuse =>
    rw [advanceFrom, if_pos hw, if_pos htime, dif_neg hmax, hrefuse]
    dsimp only [refused]
    refine ⟨0, rfl, fun hk => absurd rfl hk, ?_⟩
    cases hkind : call.kind with
    | connect =>
      rw [hkind] at hw
      exact .gaveUp hkind hw
    | disconnect => exact .ended hkind
  | case3 call n hw htime hmax hrefuse ih =>
    -- the call goes on with one attempt more
    obtain ⟨k, hsent, -, hwoken⟩ := ih
    rw [advanceFrom, if_pos hw, if_pos htime, dif_neg hmax, hrefuse]
    refine ⟨k + 1, ?_, fun _ => hw, ?_⟩
    · dsimp only
      rw [hsent, List.replicate_succ]
    · dsimp only
      generalize Advance.client _ = c' at hwoken ⊢
      generalize Advance.state _ = state at hwoken ⊢
      cases hwoken with
      | waits hsocket hkind hnode hrequest => exact .waits hsocket hkind hnode hrequest
      | returned hkind => exact .returned hkind
      | gaveUp hkind hs => exact .gaveUp hkind hs
      | ended hkind => exact .ended hkind
  | case4 call n hw htime =>
    rw [advanceFrom, if_pos hw, if_neg htime]
    exact ⟨0, rfl, fun hk => absurd rfl hk, .waits rfl rfl rfl rfl⟩
  | case5 call n hw c' result hend =>
    rw [advanceFrom, if_neg hw]
    exact ⟨0, rfl, fun hk => absurd rfl hk, c.woken_finish call fun h => by cases h⟩

end Client

/-! ### What a turn does -/

/-- Setting the state of a socket that does not exist changes nothing. -/
theorem SocketTable.set_of_none {σ : Type} {t : SocketTable σ} {id : SocketId}
    (h : t.socket? id = none) (x : σ) : t.set id x = t := by
  obtain ⟨slots⟩ := t
  rw [socket?, Option.join_eq_none_iff] at h
  rw [set]
  congr 1
  apply List.ext_getElem?
  intro j
  rw [List.getElem?_modify]
  by_cases hj : id = j
  · subst hj
    rcases h with h | h <;> rw [h] <;> simp
  · simp only [hj, if_false]
    cases slots[j]? <;> rfl

/-- A socket of a table in which one was opened is that one or was there before. -/
theorem SocketTable.socket?_of_openSocket {σ : Type} {t t' : SocketTable σ} {port : UInt32}
    {start : σ} {id j : SocketId} {s : Socket σ} (h : t.openSocket port start = .ok (j, t'))
    (hs : t'.socket? id = some s) : s = ⟨port, start⟩ ∨ t.socket? id = some s := by
  unfold openSocket at h
  split at h
  · cases h
  · split at h
    · cases h
    · cases h
      rw [socket?, List.getElem?_set] at hs
      split at hs
      · split at hs
        · exact .inl (Option.some.inj hs).symm
        · cases hs
      · exact .inr hs

/-- A socket of a table in which one was closed was there before. -/
theorem SocketTable.socket?_of_close {σ : Type} {t : SocketTable σ} {id j : SocketId} {s : Socket σ}
    (hs : (t.close j).socket? id = some s) : t.socket? id = some s := by
  rw [close, socket?, List.getElem?_set] at hs
  split at hs
  · split at hs <;> cases hs
  · exact hs

theorem Client.set_self {c : Client} {id : SocketId} {s : Socket ClientConnection}
    (hs : c.sockets.socket? id = some s) : c.set id s.state = c := by
  rw [set, SocketTable.set_self hs]

theorem Client.openSocket_eq_ok {c c' : Client} {port : UInt32} {id : SocketId}
    (h : c.openSocket port = .ok (id, c')) :
    ∃ sockets, c.sockets.openSocket port {} = .ok (id, sockets) ∧ c' = { c with sockets } := by
  unfold openSocket at h
  cases hopen : c.sockets.openSocket port {} with
  | error e =>
    rw [hopen] at h
    cases h
  | ok opened =>
    rw [hopen] at h
    cases h
    exact ⟨_, rfl, rfl⟩

theorem Client.close_eq_ok {c c' : Client} {id : SocketId} (h : c.close id = .ok c') :
    c' = { c with sockets := c.sockets.close id } := by
  unfold close at h
  obtain ⟨s, -, h⟩ := SocketTable.require_bind_eq_ok h
  split at h <;> cases h
  rfl

/-- An acknowledgment that removes nothing changes nothing. -/
theorem SendBuffer.acknowledge_eq_self {b : SendBuffer} {ack : UInt32}
    (h : (b.acknowledge ack).2 = 0) : (b.acknowledge ack).1 = b := by
  obtain ⟨gone, kept, hsplit, hack, -, -⟩ := b.exists_acknowledge ack
  rw [hack] at h ⊢
  rw [List.length_eq_zero_iff] at h
  rw [h, List.nil_append] at hsplit
  rw [← hsplit]

namespace BusyClient

variable {b : BusyClient} {t : ClientTurn}

/-- What a turn does to a client: nothing, or a shift of one connection, or a socket is opened or
closed, or all connections end. -/
inductive Turned (b : BusyClient) (t : ClientTurn) : Client → Outgoing → Prop where
  | idle : Turned b t b.client []
  | shifted {id : SocketId} {s : Socket ClientConnection} {x : ClientConnection} {sent : Outgoing}
      (hs : b.client.sockets.socket? id = some s) (hshift : b.Shift t id s x sent) :
      Turned b t (b.client.set id x) sent
  | opened {port : UInt32} {id : SocketId} {c : Client} (hmove : t.move = .openSocket port)
      (h : b.client.openSocket port = .ok (id, c)) : Turned b t c []
  | closed {id : SocketId} {c : Client} (hmove : t.move = .close id)
      (h : b.client.close id = .ok c) : Turned b t c []
  | lost (hmove : t.move = .linkLost) : Turned b t b.client.linkLost []

/-- A shift that leaves the connection as it is leaves the client as it is. -/
theorem Turned.unchanged {sent : Outgoing} {id : SocketId} {s : Socket ClientConnection}
    (hs : b.client.sockets.socket? id = some s) (hshift : b.Shift t id s s.state sent) :
    Turned b t b.client sent := by
  have hturned := Turned.shifted hs hshift
  rwa [Client.set_self hs] at hturned

theorem turned_send {id : SocketId} {data : Bytes} (hmove : t.move = .send id data) :
    b.Turned t (b.client.send id data t.now t.refuse).state
      (b.client.send id data t.now t.refuse).sent := by
  unfold Client.send
  split
  · exact .idle
  · next s hs =>
    split
    · next hstatus => exact .shifted (Client.socket?_of_require hs) (.sent hmove hstatus)
    · exact .idle

theorem turned_handle {g : Segment} (hmove : t.move = .handle g) :
    b.Turned t (b.client.handle g t.now t.refuse).state
      (b.client.handle g t.now t.refuse).sent := by
  unfold Client.handle
  split
  · exact .idle
  · next id s hfound =>
    have hs := (Client.socket?_of_lookup hfound).1
    split
    · next hstatus _ => exact .shifted hs (.granted hstatus)
    · next hstatus _ => exact .shifted hs (.confirmed hstatus)
    · next hstatus hk =>
      dsimp only
      split
      · next hnone =>
        rw [SendBuffer.acknowledge_eq_self hnone]
        dsimp only [Effect.quiet]
        rw [Client.set_self hs]
        exact .idle
      · next hsome => exact .shifted hs (.acknowledged hmove hfound hstatus hk hsome)
    · exact .idle
    · exact .idle
    · exact .idle

theorem turned_pollTimer {id : SocketId} (hmove : t.move = .timer id) :
    b.Turned t (b.client.pollTimer id t.now t.refuse).state
      (b.client.pollTimer id t.now t.refuse).sent := by
  unfold Client.pollTimer
  split
  · exact .idle
  · next s hs =>
    split
    · exact .idle
    · split
      · next hstop => exact .shifted hs (.stopped hstop hmove)
      · next hgo =>
        rw [not_or, ne_eq, not_not] at hgo
        split
        · next hdue => exact .shifted hs (.resent hgo.1 hdue hmove)
        · exact .idle

theorem turned_connect {id : SocketId} {node : NodeId} {port : UInt32}
    (hmove : t.move = .connect id node port) :
    b.Turned t (b.begin (b.client.connect id node port)).client [] := by
  unfold Client.connect
  cases hs : b.client.sockets.require id with
  | error e => exact .idle
  | ok s =>
    simp only [bind, Except.bind]
    split
    · next hstatus => exact .shifted (Client.socket?_of_require hs) (.asked hmove hstatus)
    · exact .idle

theorem turned_disconnect {id : SocketId} (hmove : t.move = .disconnect id) :
    b.Turned t (b.begin (b.client.disconnect id)).client [] := by
  unfold Client.disconnect
  cases hs : b.client.sockets.require id with
  | error e => exact .idle
  | ok s =>
    simp only [bind, Except.bind]
    split
    · next hstatus => exact .shifted (Client.socket?_of_require hs) (.leaving hmove hstatus)
    · exact .idle

/-- A call that wakes up does something to the connection of its socket, if there is one. -/
theorem turned_woken {place n : Nat} {call : Handshake} (hmove : t.move = .wake place)
    (hcall : b.calls[place]? = some call)
    (hn : n ≠ 0 → (b.client.connectionOf call).status = call.kind.waitingStatus) {c : Client}
    {state : HandshakeState} (hwoken : b.client.Woken call c state) :
    b.Turned t c (List.replicate n (call.node, call.request)) := by
  cases hs : b.client.sockets.socket? call.socket with
  | none =>
    -- a call without a socket waits for nothing
    have hclosed : (b.client.connectionOf call).status = .closed := by
      rw [Client.connectionOf, hs]
      rfl
    have hzero : n = 0 := by
      by_contra hne
      have hwait := hn hne
      rw [hclosed] at hwait
      cases hkind : call.kind <;> rw [hkind] at hwait <;> cases hwait
    have hsame : ∀ x, b.client.set call.socket x = b.client := fun x => by
      rw [Client.set, SocketTable.set_of_none hs]
    rw [hzero]
    cases hwoken with
    | waits => exact .idle
    | returned => exact .idle
    | gaveUp =>
      rw [hsame]
      exact .idle
    | ended =>
      rw [hsame]
      exact .idle
  | some s =>
    have hx : b.client.connectionOf call = s.state := by
      rw [Client.connectionOf, hs]
      rfl
    cases hwoken with
    | waits => exact .unchanged hs (.called hmove hcall)
    | returned => exact .unchanged hs (.called hmove hcall)
    | gaveUp _ hsyn =>
      rw [hx] at hsyn ⊢
      exact .shifted hs (.gaveUp hmove hcall hsyn)
    | ended =>
      rw [hx]
      exact .shifted hs (.left hmove hcall)

theorem turned_wake {place : Nat} (hmove : t.move = .wake place) :
    b.Turned t (b.wake place t.now t.refuse).1.client (b.wake place t.now t.refuse).2 := by
  unfold wake
  cases hcall : b.calls[place]? with
  | none => exact .idle
  | some call =>
    obtain ⟨n, hsent, hn, hwoken⟩ := b.client.woken_advanceFrom call t.now 0 t.refuse
    have hturned : b.Turned t (b.client.advance call t.now t.refuse).client
        (b.client.advance call t.now t.refuse).sent := by
      rw [Client.advance, hsent]
      exact turned_woken hmove hcall hn hwoken
    dsimp only
    split <;> exact hturned

/-- **What a turn does.** -/
theorem step_cases (b : BusyClient) (t : ClientTurn) :
    b.Turned t (b.step t).1.client (b.step t).2 := by
  unfold step
  cases hmove : t.move with
  | openSocket port =>
    dsimp only
    split
    · exact .idle
    · next hopen => exact .opened hmove hopen
  | close id =>
    dsimp only
    split
    · exact .idle
    · next hclose => exact .closed hmove hclose
  | connect id node port => exact turned_connect hmove
  | disconnect id => exact turned_disconnect hmove
  | wake place => exact turned_wake hmove
  | send id data => exact turned_send hmove
  | handle g => exact turned_handle hmove
  | timer id => exact turned_pollTimer hmove
  | linkLost => exact .lost hmove

theorem settings_step (b : BusyClient) (t : ClientTurn) :
    (b.step t).1.client.settings = b.client.settings := by
  have h := b.step_cases t
  generalize (b.step t).1.client = c at h ⊢
  generalize (b.step t).2 = sent at h
  cases h with
  | idle => rfl
  | shifted => rfl
  | opened _ h =>
    obtain ⟨sockets, -, rfl⟩ := Client.openSocket_eq_ok h
    rfl
  | closed _ h =>
    rw [Client.close_eq_ok h]
  | lost => rfl

theorem settings_run (b : BusyClient) (turns : List ClientTurn) :
    (b.run turns).client.settings = b.client.settings := by
  induction turns generalizing b with
  | nil => rfl
  | cons t turns ih => exact (ih (b.step t).1).trans (settings_step b t)

/-- What a turn makes of a socket. -/
inductive Follows (b : BusyClient) (t : ClientTurn) (id : SocketId) :
    Socket ClientConnection → Prop where
  /-- The socket is new. -/
  | fresh {port : UInt32} : Follows b t id ⟨port, {}⟩
  /-- The turn does not concern the socket. -/
  | kept {s : Socket ClientConnection} (hs : b.client.sockets.socket? id = some s) :
      Follows b t id s
  /-- The link is lost. -/
  | ended {s : Socket ClientConnection} (hs : b.client.sockets.socket? id = some s) :
      Follows b t id { s with state := s.state.ended }
  /-- The connection of the socket is shifted. -/
  | shifted {s : Socket ClientConnection} {x : ClientConnection} {sent : Outgoing}
      (hs : b.client.sockets.socket? id = some s) (hshift : b.Shift t id s x sent) :
      Follows b t id { s with state := x }

/-- **Where a socket comes from.** -/
theorem socket?_step {id : SocketId} {s : Socket ClientConnection}
    (hs : (b.step t).1.client.sockets.socket? id = some s) : b.Follows t id s := by
  have h := b.step_cases t
  generalize (b.step t).1.client = c at h hs
  generalize (b.step t).2 = sent at h
  cases h with
  | idle => exact .kept hs
  | @shifted j s₀ x _ hs₀ hshift =>
    rw [Client.set, SocketTable.socket?_set] at hs
    split at hs
    · next hid =>
      subst hid
      rw [hs₀] at hs
      cases hs
      exact .shifted hs₀ hshift
    · exact .kept hs
  | opened _ h =>
    obtain ⟨sockets, hopen, rfl⟩ := Client.openSocket_eq_ok h
    rcases SocketTable.socket?_of_openSocket hopen hs with rfl | hs
    · exact .fresh
    · exact .kept hs
  | closed _ h =>
    rw [Client.close_eq_ok h] at hs
    exact .kept (SocketTable.socket?_of_close hs)
  | lost =>
    rw [Client.linkLost, SocketTable.socket?_map] at hs
    obtain ⟨s₀, hs₀, rfl⟩ := Option.map_eq_some_iff.1 hs
    exact .ended hs₀

end BusyClient

end OverlayStack.Transport
