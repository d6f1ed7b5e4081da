import Mathlib.Data.List.TakeWhile
import OverlayStack.Proofs.Transport.SoleSocket
import OverlayStack.Transport.Session

/-!
# What the operations of a client and a server do

The operations of a client and of a server that have one socket each, over a link that takes every
segment.  Of a connection, only the parts matter that determine the stream: its state, its numbers
and its queue.

## Main definitions

* `ClientConnection.SameStream` — two connections that differ in times and timers only.
* `ClientConnection.Heeds`, `ServerConnection.Heeds` — what a segment does to a connection.
* `ClientConnection.Timed`, `ClientConnection.Left` — what a timer and a call that returns do to it.
* `Client.Sole`, `Server.Sole` — a client and a server with one socket.

## Main results

* `Client.Sole.handle`, `Client.Sole.send`, `Client.Sole.pollTimer`, `Client.Sole.advanceFrom`
* `Server.Sole.handle`, `Server.Sole.poll`, `Server.Sole.sweep`
-/

namespace OverlayStack.Transport

/-! ### Send buffers -/

/-- A link that takes every segment is handed all of them. -/
theorem handOver_neverRefused (n : Nat) (segments : List Segment) :
    handOver neverRefused n segments = (segments, none) := by
  induction segments generalizing n with
  | nil => rfl
  | cons s rest ih =>
    rw [handOver, ih]
    rfl

namespace SendBuffer

theorem transmit_neverRefused (b : SendBuffer) (window now : Nat) :
    (b.transmit window now neverRefused).2.1 ⊆ b.segments ∧
      (b.transmit window now neverRefused).2.2 = none := by
  rw [transmit, handOver_neverRefused]
  refine ⟨fun s hs => ?_, rfl⟩
  exact List.mem_append_right _ (List.mem_of_mem_take hs)

/-- Everything in flight is sent again. -/
theorem retransmit_eq (b : SendBuffer) (now : Nat) :
    b.retransmit now neverRefused =
      ({ b with inFlight := b.inFlight.map fun f => ⟨f.segment, now⟩ },
        b.inFlight.map (·.segment), none) := by
  rw [retransmit, handOver_neverRefused]
  simp [Function.comp_def]

/-- An acknowledgment takes segments with lower numbers from the front. -/
theorem exists_acknowledged (b : SendBuffer) (ack : UInt32) :
    ∃ gone, b.segments = gone ++ (b.acknowledge ack).1.segments ∧ ∀ s ∈ gone, s.seq < ack := by
  refine ⟨(b.inFlight.takeWhile fun f => f.segment.seq < ack).map (·.segment), ?_, ?_⟩
  · rw [acknowledge, segments, segments, ← List.append_assoc, ← List.map_append,
      List.takeWhile_append_dropWhile]
  · intro s hs
    obtain ⟨f, hf, rfl⟩ := List.mem_map.1 hs
    simpa using List.mem_takeWhile_imp hf

end SendBuffer

/-! ### The client -/

namespace ClientConnection

/-- The two connections differ in times and timers only. -/
structure SameStream (x x' : ClientConnection) : Prop where
  status_eq : x'.status = x.status
  nextSeq_eq : x'.nextSeq = x.nextSeq
  serverPort_eq : x'.serverPort = x.serverPort
  segments_eq : x'.buffer.segments = x.buffer.segments

theorem SameStream.refl (x : ClientConnection) : x.SameStream x :=
  ⟨rfl, rfl, rfl, rfl⟩

theorem SameStream.trans {x x' x'' : ClientConnection} (h : x.SameStream x')
    (h' : x'.SameStream x'') : x.SameStream x'' :=
  ⟨h'.status_eq.trans h.status_eq, h'.nextSeq_eq.trans h.nextSeq_eq,
    h'.serverPort_eq.trans h.serverPort_eq, h'.segments_eq.trans h.segments_eq⟩

theorem sameStream_withTimer (x : ClientConnection) : x.SameStream x.withTimer := by
  unfold withTimer
  split
  · exact .refl x
  · exact ⟨rfl, rfl, rfl, rfl⟩

theorem sameStream_transmit (x : ClientConnection) (window now : Nat) :
    x.SameStream (x.transmit window now neverRefused).1 :=
  ⟨rfl, rfl, rfl, SendBuffer.segments_transmit _ _ _ _⟩

theorem sent_transmit (x : ClientConnection) (window now : Nat) :
    (x.transmit window now neverRefused).2.1.map (·.2) ⊆
      (x.transmit window now neverRefused).1.buffer.segments := by
  rw [(sameStream_transmit x window now).segments_eq]
  have hmap : (x.transmit window now neverRefused).2.1.map (·.2) =
      (x.buffer.transmit window now neverRefused).2.1 := by
    unfold transmit
    simp [Function.comp_def]
  rw [hmap]
  exact (x.buffer.transmit_neverRefused window now).1

/-- What a segment does to the connection of a client, and the segments that are sent then. -/
inductive Heeds (x : ClientConnection) (g : Segment) : ClientConnection → List Segment → Prop where
  /-- The segment is ignored. -/
  | ignored : Heeds x g x []
  /-- The segment grants a connection. -/
  | granted (hs : x.status = .synSent) (hk : g.kind = .synAck) :
      Heeds x g { x with status := .connected } []
  /-- The segment confirms the end of the connection. -/
  | left (hs : x.status = .finWait) : Heeds x g { x with status := .closed } []
  /-- The segment acknowledges a part of the stream. -/
  | acknowledged {x' : ClientConnection} {sent : List Segment} (hs : x.status = .connected)
      (hk : g.kind = .dataAck)
      (hx : SameStream { x with buffer := (x.buffer.acknowledge g.ack).1 } x')
      (hsent : sent ⊆ x'.buffer.segments) : Heeds x g x' sent

/-- What a look of a timer does to its connection, and the segments that are sent then. -/
inductive Timed (x : ClientConnection) (timeout now : Nat) :
    ClientConnection → List Segment → Prop where
  /-- There is no timer, or it waits. -/
  | waiting (h : x.timers = 0 ∨ x.buffer.isTimedOut timeout now = false) : Timed x timeout now x []
  /-- The timer stops. -/
  | stopped (h : x.status ≠ .connected ∨ x.buffer.isEmpty = true) :
      Timed x timeout now { x with timerRunning := false, timers := x.timers - 1 } []
  /-- Everything in flight is sent again. -/
  | resent (hs : x.status = .connected) :
      Timed x timeout now
        { x with buffer := { x.buffer with
          inFlight := x.buffer.inFlight.map fun f => ⟨f.segment, now⟩ } }
        (x.buffer.inFlight.map (·.segment))

/-- What is left of a connection when a call of its socket returns. -/
inductive Left (x : ClientConnection) : ClientConnection → Prop where
  /-- The connection is as it was. -/
  | kept : Left x x
  /-- No connection was granted. -/
  | closed : Left x { x with status := .closed }
  /-- The connection has ended. -/
  | ended : Left x x.ended

/-- Nothing gets into the queue of a connection that is left. -/
theorem Left.eq_or_closed {x x' : ClientConnection} (h : x.Left x') :
    x' = x ∨ x'.status = .closed ∧ x'.buffer.segments ⊆ x.buffer.segments := by
  cases h with
  | kept => exact .inl rfl
  | closed => exact .inr ⟨rfl, List.Subset.refl _⟩
  | ended => exact .inr ⟨rfl, List.nil_subset _⟩

end ClientConnection

/-- The client has one socket. -/
structure Client.Sole (c : Client) (settings : Settings) (id : SocketId) (port : UInt32)
    (x : ClientConnection) : Prop where
  settings_eq : c.settings = settings
  sockets : c.sockets.Sole id ⟨port, x⟩

namespace Client.Sole

variable {c : Client} {settings : Settings} {id : SocketId} {port : UInt32} {x : ClientConnection}

theorem set (h : c.Sole settings id port x) (x' : ClientConnection) :
    (c.set id x').Sole settings id port x' :=
  ⟨h.settings_eq, h.sockets.set x'⟩

theorem set_of_ne (h : c.Sole settings id port x) {j : SocketId} (hj : j ≠ id)
    (x' : ClientConnection) : (c.set j x').Sole settings id port x :=
  ⟨h.settings_eq, h.sockets.set_of_ne hj x'⟩

/-- A segment for a client. -/
theorem handle (h : c.Sole settings id port x) (g : Segment) (now : Nat) :
    ∃ x' sent, x.Heeds g x' sent ∧
      (c.handle g now neverRefused).state.Sole settings id port x' ∧
      (c.handle g now neverRefused).sent.map (·.2) = sent := by
  have hquiet : ∃ x' sent, x.Heeds g x' sent ∧ c.Sole settings id port x' ∧
      ([] : Outgoing).map (·.2) = sent := ⟨x, [], .ignored, h, rfl⟩
  unfold Client.handle Client.lookup
  rw [h.sockets.find?_eq]
  split
  · exact hquiet
  · next hfound =>
    split at hfound
    · cases hfound
      dsimp only
      split
      · next hs hk => exact ⟨_, [], .granted hs hk, h.set _, rfl⟩
      · next hs _ => exact ⟨_, [], .left hs, h.set _, rfl⟩
      · next hs hk =>
        split
        · exact ⟨_, [], .acknowledged hs hk (.refl _) (List.nil_subset _), h.set _, rfl⟩
        · exact ⟨_, _, .acknowledged hs hk (ClientConnection.sameStream_transmit _ _ _)
            (ClientConnection.sent_transmit _ _ _), h.set _, rfl⟩
      · exact hquiet
      · exact hquiet
      · exact hquiet
    · cases hfound

/-- Sending bytes works while there is a connection. -/
theorem send (h : c.Sole settings id port x) (hs : x.status = .connected) (data : Bytes)
    (now : Nat) :
    ∃ x', (x.enqueue port settings.maxSegment data).SameStream x' ∧
      (c.send id data now neverRefused).state.Sole settings id port x' ∧
      (c.send id data now neverRefused).sent.map (·.2) ⊆ x'.buffer.segments ∧
      (c.send id data now neverRefused).result = .ok () := by
  unfold Client.send
  rw [h.sockets.require_self]
  dsimp only
  rw [if_pos hs, h.settings_eq]
  let ready := (x.enqueue port settings.maxSegment data).withTimer
  refine ⟨(ready.transmit settings.window now neverRefused).1,
    (ClientConnection.sameStream_withTimer _).trans
      (ClientConnection.sameStream_transmit _ _ _), h.set _,
    ClientConnection.sent_transmit _ _ _, ?_⟩
  show resultOf (ready.buffer.transmit settings.window now neverRefused).2.2 = _
  rw [(ready.buffer.transmit_neverRefused _ _).2]
  rfl

/-- Sending bytes fails otherwise. -/
theorem send_of_ne (h : c.Sole settings id port x) {j : SocketId}
    (hs : j = id → x.status ≠ .connected) (data : Bytes) (now : Nat) :
    ∃ e, c.send j data now neverRefused = Effect.fail c e := by
  unfold Client.send
  by_cases hj : j = id
  · subst hj
    rw [h.sockets.require_self]
    dsimp only
    rw [if_neg (hs rfl)]
    exact ⟨_, rfl⟩
  · rw [h.sockets.require_of_ne hj]
    exact ⟨_, rfl⟩

/-- The timer of the socket. -/
theorem pollTimer_self (h : c.Sole settings id port x) (now : Nat) :
    ∃ x' sent, x.Timed settings.dataTimeout now x' sent ∧
      (c.pollTimer id now neverRefused).state.Sole settings id port x' ∧
      (c.pollTimer id now neverRefused).sent.map (·.2) = sent := by
  unfold Client.pollTimer
  rw [h.sockets, if_pos rfl]
  dsimp only
  split
  · next hnone => exact ⟨x, [], .waiting (.inl hnone), h, rfl⟩
  · split
    · next hstop => exact ⟨_, [], .stopped hstop, h.set _, rfl⟩
    · next hgo =>
      rw [not_or, ne_eq, not_not] at hgo
      split
      · rw [SendBuffer.retransmit_eq]
        exact ⟨_, _, .resent hgo.1, h.set _, by simp⟩
      · next hwait =>
        rw [h.settings_eq, Bool.not_eq_true] at hwait
        exact ⟨x, [], .waiting (.inr hwait), h, rfl⟩

/-- A timer of another place does nothing. -/
theorem pollTimer_of_ne (h : c.Sole settings id port x) {j : SocketId} (hj : j ≠ id) (now : Nat) :
    c.pollTimer j now neverRefused = Effect.quiet c (.ok ()) := by
  unfold Client.pollTimer
  rw [h.sockets, if_neg hj]

/-- A timer sends only what is in the queue of a connection. -/
theorem pollTimer (h : c.Sole settings id port x) (j : SocketId) (now : Nat) :
    ∃ x', x.SameStream x' ∧ (c.pollTimer j now neverRefused).state.Sole settings id port x' ∧
      ∀ g ∈ (c.pollTimer j now neverRefused).sent.map (·.2),
        x.status = .connected ∧ g ∈ x.buffer.segments := by
  by_cases hj : j = id
  · subst hj
    obtain ⟨x', sent, hx, hsole, hsent⟩ := h.pollTimer_self now
    rw [hsent]
    refine ⟨x', ?_, hsole, fun g hg => ?_⟩
    · cases hx with
      | waiting => exact .refl x
      | stopped => exact ⟨rfl, rfl, rfl, rfl⟩
      | resent => exact ⟨rfl, rfl, rfl, by simp [SendBuffer.segments, Function.comp_def]⟩
    · cases hx with
      | waiting => exact absurd hg List.not_mem_nil
      | stopped => exact absurd hg List.not_mem_nil
      | resent hs => exact ⟨hs, List.mem_append_left _ hg⟩
  · rw [h.pollTimer_of_ne hj]
    exact ⟨x, .refl x, h, fun g hg => absurd hg List.not_mem_nil⟩

theorem status_connectionOf (h : c.Sole settings id port x) (call : Handshake)
    (hw : (c.connectionOf call).status = call.kind.waitingStatus) :
    x.status = call.kind.waitingStatus := by
  unfold connectionOf at hw
  rw [h.sockets] at hw
  by_cases hj : call.socket = id
  · rw [if_pos hj] at hw
    exact hw
  -- a call for another place waits for nothing
  · rw [if_neg hj] at hw
    cases hk : call.kind <;> rw [hk] at hw <;> cases hw

/-- A call returns. -/
theorem finish (h : c.Sole settings id port x) (call : Handshake) (timedOut : Bool) :
    ∃ x', x.Left x' ∧ (c.finish call timedOut).1.Sole settings id port x' := by
  have hset : ∀ x' : ClientConnection, (call.socket = id → x.Left x') →
      ∃ x'', x.Left x'' ∧ (c.set call.socket x').Sole settings id port x'' := by
    intro x' hx'
    by_cases hj : call.socket = id
    · have hsole := h.set x'
      rw [← hj] at hsole ⊢
      exact ⟨x', hx' hj, hsole⟩
    · exact ⟨x, .kept, h.set_of_ne hj x'⟩
  have hx : call.socket = id → c.connectionOf call = x := fun hj => by
    rw [connectionOf, h.sockets, if_pos hj]
    rfl
  unfold Client.finish
  cases call.kind with
  | connect =>
    dsimp only
    split
    · exact hset _ fun hj => hx hj ▸ .closed
    · split
      · exact ⟨x, .kept, h⟩
      · exact ⟨x, .kept, h⟩
  | disconnect => exact hset _ fun hj => hx hj ▸ .ended

/-- Advancing a call sends its request some times, and then either the call goes on to wait or it
ends. -/
theorem advanceFrom (h : c.Sole settings id port x) (call : Handshake) (now n : Nat) :
    ∃ k x', (k = 0 ∨ x.status = call.kind.waitingStatus) ∧ x.Left x' ∧
      (c.advanceFrom call now neverRefused n).client.Sole settings id port x' ∧
      (c.advanceFrom call now neverRefused n).sent.map (·.2) = List.replicate k call.request ∧
      ∀ call', (c.advanceFrom call now neverRefused n).state = .waiting call' →
        x' = x ∧ call'.kind = call.kind ∧ call'.request = call.request := by
  induction call, n using Client.advanceFrom.induct c now neverRefused with
  | case1 call n hw htime hmax c' result hfinish =>
    -- the attempts are used up
    obtain ⟨x', hx', hsole⟩ := h.finish call true
    rw [hfinish] at hsole
    rw [Client.advanceFrom, if_pos hw, if_pos htime, dif_pos hmax, hfinish]
    exact ⟨0, x', .inl rfl, hx', hsole, rfl, fun _ hwait => by cases hwait⟩
  | case2 call n hw htime hmax e hrefuse => cases hrefuse
  | case3 call n hw htime hmax hrefuse ih =>
    -- one more attempt
    obtain ⟨k, x', -, hx', hsole, hsent, hwait⟩ := ih
    rw [Client.advanceFrom, if_pos hw, if_pos htime, dif_neg hmax, hrefuse]
    refine ⟨k + 1, x', .inr (h.status_connectionOf call hw), hx', hsole, ?_, hwait⟩
    rw [List.map_cons, hsent, List.replicate_succ]
  | case4 call n hw htime =>
    rw [Client.advanceFrom, if_pos hw, if_neg htime]
    refine ⟨0, x, .inl rfl, .kept, h, rfl, ?_⟩
    rintro _ ⟨⟩
    exact ⟨rfl, rfl, rfl⟩
  | case5 call n hw c' result hfinish =>
    -- the call does not wait any more
    obtain ⟨x', hx', hsole⟩ := h.finish call false
    rw [hfinish] at hsole
    rw [Client.advanceFrom, if_neg hw, hfinish]
    exact ⟨0, x', .inl rfl, hx', hsole, rfl, fun _ hwait => by cases hwait⟩

end Client.Sole

/-! ### The server -/

namespace ServerConnection

/-- A request to disconnect does not touch the stream, and does not open a connection. -/
theorem leaving_stream (y : ServerConnection) (now : Nat) :
    (y.leaving now).buffer = y.buffer ∧ ((y.leaving now).status = .connected →
      y.status = .connected ∧ (y.leaving now).expected = y.expected) := by
  unfold leaving
  split
  · exact ⟨rfl, nofun⟩
  · exact ⟨rfl, fun hs => ⟨hs, rfl⟩⟩

/-- What a segment from a node does to the connection of a server, and the segments that are sent
then. -/
inductive Heeds (capacity : Nat) (y : ServerConnection) (source : NodeId) (g : Segment) :
    ServerConnection → List Segment → Prop where
  /-- The segment is ignored. -/
  | ignored : Heeds capacity y source g y []
  /-- The segment asks for a connection. -/
  | restarted (hk : g.kind = .syn) :
      Heeds capacity y source g { y.restarted source g with status := .connected }
        [g.reply .synAck (g.seq + 1)]
  /-- The segment asks for the end of the connection. -/
  | left (now : Nat) (hk : g.kind = .fin) :
      Heeds capacity y source g (y.leaving now) [g.reply .finAck y.expected]
  /-- The segment carries a piece of the stream. -/
  | absorbed (hs : y.status = .connected) (hk : g.kind = .data) :
      Heeds capacity y source g (y.absorb capacity g)
        [g.reply .dataAck (y.absorb capacity g).expected]

end ServerConnection

/-- The bytes that a call of the server has returned. -/
def bytesOf : Except Error ServerAnswer → Bytes
  | .ok (.received data) => data
  | _ => []

/-- The server has one socket. -/
structure Server.Sole (s : Server) (settings : Settings) (id : SocketId) (port : UInt32)
    (y : ServerConnection) : Prop where
  settings_eq : s.settings = settings
  sockets : s.sockets.Sole id ⟨port, y⟩

namespace Server.Sole

variable {s : Server} {settings : Settings} {id : SocketId} {port : UInt32} {y : ServerConnection}

theorem set (h : s.Sole settings id port y) (y' : ServerConnection) :
    (s.set id y').Sole settings id port y' :=
  ⟨h.settings_eq, h.sockets.set y'⟩

theorem set_of_ne (h : s.Sole settings id port y) {j : SocketId} (hj : j ≠ id)
    (y' : ServerConnection) : (s.set j y').Sole settings id port y :=
  ⟨h.settings_eq, h.sockets.set_of_ne hj y'⟩

/-- A segment for a server. -/
theorem handle (h : s.Sole settings id port y) (source : NodeId) (g : Segment) (now : Nat) :
    ∃ y' sent, y.Heeds settings.receiveCapacity source g y' sent ∧
      (s.handle source g now neverRefused).state.Sole settings id port y' ∧
      (s.handle source g now neverRefused).sent.map (·.2) = sent := by
  have hquiet : ∃ y' sent, y.Heeds settings.receiveCapacity source g y' sent ∧
      s.Sole settings id port y' ∧ ([] : Outgoing).map (·.2) = sent :=
    ⟨y, [], .ignored, h, rfl⟩
  unfold Server.handle Server.lookup
  rw [h.sockets.find?_eq]
  split
  · exact hquiet
  · next hfound =>
    split at hfound
    · cases hfound
      dsimp only
      split
      · exact hquiet
      · next hk => exact ⟨_, _, .restarted hk, h.set _, rfl⟩
      · next hk => exact ⟨_, _, .restarted hk, h.set _, rfl⟩
      · next hk => exact ⟨_, _, .left now hk, h.set _, rfl⟩
      · next hk => exact ⟨_, _, .left now hk, h.set _, rfl⟩
      · next hs hk =>
        rw [h.settings_eq]
        exact ⟨_, _, .absorbed hs hk, h.set _, rfl⟩
      · exact hquiet
    · cases hfound

/-- Beginning to wait for a client leaves the stream alone. -/
theorem listen (h : s.Sole settings id port y) {j : SocketId} {s' : Server} {call : ServerCall}
    (hl : s.listen j = .ok (s', call)) :
    y.status = .closed ∧ s'.Sole settings id port { y with status := .listening } := by
  unfold Server.listen at hl
  by_cases hj : j = id
  · subst hj
    rw [h.sockets.require_self] at hl
    simp only [bind, Except.bind] at hl
    split at hl
    · next hs =>
      cases hl
      exact ⟨hs, h.set _⟩
    · cases hl
  · rw [h.sockets.require_of_ne hj] at hl
    cases hl

/-- A call that returns takes its bytes from the front of those that have arrived. -/
theorem poll (h : s.Sole settings id port y) {call : ServerCall} {s' : Server}
    {result : Except Error ServerAnswer} (hp : s.poll call = some (s', result)) :
    ∃ rest, y.buffer = bytesOf result ++ rest ∧
      s'.Sole settings id port { y with buffer := rest } := by
  cases call with
  | accept j =>
    simp only [Server.poll] at hp
    split at hp
    · cases hp
    · split at hp
      · cases hp
        exact ⟨y.buffer, rfl, h⟩
      · cases hp
        exact ⟨y.buffer, rfl, h⟩
  | receive j length =>
    simp only [Server.poll] at hp
    by_cases hj : j = id
    · subst hj
      rw [h.sockets, if_pos rfl] at hp
      simp only [Option.map_some, Option.getD_some] at hp
      split at hp
      · cases hp
        exact ⟨y.buffer.drop length, (List.take_append_drop _ _).symm, h.set _⟩
      · split at hp
        · cases hp
        · cases hp
          exact ⟨y.buffer, rfl, h⟩
    -- nothing is read from a place without a socket
    · rw [h.sockets, if_neg hj] at hp
      simp only [Option.map_none, Option.getD_none] at hp
      split at hp
      · cases hp
        exact ⟨y.buffer, by simp [bytesOf], h.set_of_ne hj _⟩
      · split at hp
        · cases hp
        · cases hp
          exact ⟨y.buffer, rfl, h⟩

/-- Connections that their clients have left long enough ago are given up. -/
theorem sweep (h : s.Sole settings id port y) (now : Nat) :
    ∃ y', (y' = y ∨ y.status = .closeWait ∧ y' = y.ended) ∧
      (s.sweep now).Sole settings id port y' := by
  have hmap := h.sockets.map fun x =>
    if x.isExpired s.settings.closeWait now then x.ended else x
  refine ⟨_, ?_, h.settings_eq, hmap⟩
  dsimp only
  split
  · next hexp =>
    refine .inr ⟨?_, rfl⟩
    unfold ServerConnection.isExpired at hexp
    split at hexp
    · assumption
    · cases hexp
  · exact .inl rfl

end Server.Sole

end OverlayStack.Transport
