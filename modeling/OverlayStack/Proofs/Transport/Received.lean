import OverlayStack.Proofs.Transport.Endpoints
import OverlayStack.Proofs.Transport.Repeats
import OverlayStack.Proofs.Transport.Senders

/-!
# What a server has received

The stream that a server gets begins behind the last request to connect, and a piece of it is taken
if it is the next one and there is room for it.  Whatever else arrives, and whenever bytes are read,
the bytes that were read since that request and those in the buffer are the pieces that were taken,
in their order, and the next position is counted from the request.

The account is kept beside the server: it looks at the segments and at the answers of calls, and the
server does not know of it.

## Main definitions

* `ServerEvent`, `Server.after` — what happens to a server whose link takes everything.
* `Intake`, `Server.intake` — the account of a stream.
* `Intake.Balances` — the account agrees with a connection.

## Main results

* `Server.handle_data` — the answer to a piece of the stream.
* `Intake.Balances.next`, `Intake.Balances.after` — the account goes on to agree.
* `ServerHost.Reached.intake_balances` — the account of any stream of a host.
-/

namespace OverlayStack.Transport

/-! ### Events -/

/-- What can happen to a server whose link takes everything. -/
inductive ServerEvent where
  /-- A segment arrives. -/
  | handle (source : NodeId) (g : Segment) (now : Nat)
  /-- A call that waits is looked at. -/
  | poll (call : ServerCall)
  /-- A call begins to wait for a client. -/
  | listen (id : SocketId)
  /-- Time passes. -/
  | sweep (now : Nat)

namespace Server

/-- The server after something has happened. -/
def next (s : Server) : ServerEvent → Server
  | .handle source g now => (s.handle source g now neverRefused).state
  | .poll call => ((s.poll call).map (·.1)).getD s
  | .listen id =>
    match s.listen id with
    | .ok (s', _) => s'
    | .error _ => s
  | .sweep now => s.sweep now

/-- The server after some events. -/
def after (s : Server) (events : List ServerEvent) : Server :=
  events.foldl next s

end Server

/-- The account of the stream of a socket. -/
structure Intake where
  /-- The number of the last request to connect. -/
  request : UInt32
  /-- The pieces that were taken since then. -/
  accepted : List Bytes
  /-- The bytes that calls have returned since then. -/
  returned : Bytes

namespace Intake

/-- The account after something has happened to a server.  A request to connect begins a new
account, the next piece of the stream is taken if there is room for it, and a call returns bytes. -/
def note (k : Intake) (s : Server) (id : SocketId) (port : UInt32) : ServerEvent → Intake
  | .handle _ g _ =>
    let y := s.stateAt id
    if g.destPort ≠ port then k
    else if g.kind = .syn ∧ (y.status = .listening ∨ y.status = .connected) then ⟨g.seq, [], []⟩
    else if g.kind = .data ∧ y.status = .connected ∧ g.seq = y.expected ∧
        y.buffer.length + g.payload.length ≤ s.settings.receiveCapacity then
      { k with accepted := k.accepted ++ [g.payload] }
    else k
  | .poll (.receive j length) =>
    match s.poll (.receive j length) with
    | some (_, .ok (.received data)) =>
      if j = id then { k with returned := k.returned ++ data } else k
    | _ => k
  | _ => k

/-- The account agrees with a connection. -/
structure Balances (k : Intake) (y : ServerConnection) (capacity : Nat) : Prop where
  /-- What was read and what is in the buffer is what was taken. -/
  stream : k.returned ++ y.buffer = k.accepted.flatten
  /-- The next position is counted from the request. -/
  expected : y.expected = k.request + 1 + UInt32.ofNat k.accepted.flatten.length
  /-- There is room for what is in the buffer. -/
  room : y.buffer.length ≤ capacity

end Intake

/-- The account of the stream of a socket after some events. -/
def Server.intake (id : SocketId) (port : UInt32) : Server → Intake → List ServerEvent → Intake
  | _, k, [] => k
  | s, k, event :: events => (s.next event).intake id port (k.note s id port event) events

/-! ### One connection -/

namespace Intake.Balances

variable {k : Intake} {y : ServerConnection} {capacity : Nat} {g : Segment}

/-- The account only looks at the stream. -/
theorem of_stream (h : k.Balances y capacity) {z : ServerConnection} (hbuffer : z.buffer = y.buffer)
    (hexpected : z.expected = y.expected) : k.Balances z capacity where
  stream := hbuffer ▸ h.stream
  expected := hexpected ▸ h.expected
  room := hbuffer ▸ h.room

/-- A request to connect begins a new account. -/
theorem restarted (y : ServerConnection) (capacity : Nat) (source : NodeId) (g : Segment) :
    Balances ⟨g.seq, [], []⟩ { y.restarted source g with status := .connected } capacity where
  stream := rfl
  expected := (UInt32.add_zero _).symm
  room := Nat.zero_le _

/-- A piece is taken. -/
theorem accepted (h : k.Balances y capacity)
    (hroom : y.buffer.length + g.payload.length ≤ capacity) :
    Balances { k with accepted := k.accepted ++ [g.payload] } { y with
      buffer := y.buffer ++ g.payload
      expected := y.expected + UInt32.ofNat g.payload.length } capacity where
  stream := by
    rw [List.flatten_append, List.flatten_singleton, ← h.stream, List.append_assoc]
  expected := by
    rw [List.flatten_append, List.flatten_singleton, List.length_append, UInt32.ofNat_add,
      ← UInt32.add_assoc, ← h.expected]
  room := by
    rw [List.length_append]
    exact hroom

/-- A call returns the first bytes of the buffer. -/
theorem returned (h : k.Balances y capacity) (length : Nat) :
    Balances { k with returned := k.returned ++ y.buffer.take length }
      { y with buffer := y.buffer.drop length } capacity where
  stream := by
    rw [List.append_assoc, List.take_append_drop, h.stream]
  expected := h.expected
  room := by
    rw [List.length_drop]
    exact Nat.le_trans (Nat.sub_le _ _) h.room

end Intake.Balances

/-! ### One event -/

namespace Server

variable {s : Server} {source : NodeId} {g : Segment} {id : SocketId} {port : UInt32}
  {y : ServerConnection}

/-- A segment finds a socket with the port that it is for. -/
theorem socket?_of_lookup {socket : Socket ServerConnection}
    (h : s.lookup g = some (id, socket)) :
    s.sockets.socket? id = some socket ∧ socket.port = g.destPort := by
  unfold lookup SocketTable.find? at h
  refine ⟨SocketTable.mem_sockets_iff.1 (List.mem_of_find?_eq_some h), ?_⟩
  have htest := List.find?_some h
  exact beq_iff_eq.1 htest

/-- A segment for the port of a socket finds the socket. -/
theorem lookup_of_port (hapart : s.sockets.Apart)
    (hsocket : s.sockets.socket? id = some ⟨port, y⟩) (hdest : g.destPort = port) :
    s.lookup g = some (id, ⟨port, y⟩) := by
  rw [lookup, hdest]
  exact hapart.find?_port hsocket

theorem socket?_set_self (hsocket : s.sockets.socket? id = some ⟨port, y⟩)
    (z : ServerConnection) : (s.set id z).sockets.socket? id = some ⟨port, z⟩ := by
  rw [set, SocketTable.socket?_set, if_pos rfl, hsocket]
  rfl

theorem socket?_set_of_ne {j : SocketId} (hj : j ≠ id) (z : ServerConnection) :
    (s.set j z).sockets.socket? id = s.sockets.socket? id := by
  rw [set, SocketTable.socket?_set, if_neg hj.symm]

theorem keeps_next (s : Server) (event : ServerEvent) : s.Keeps (s.next event) := by
  cases event with
  | handle source g now => exact s.keeps_handle source g now neverRefused
  | poll call =>
    rw [next]
    cases hpoll : s.poll call with
    | none => exact .refl s
    | some result => exact keeps_poll hpoll
  | listen id =>
    rw [next]
    cases hlisten : s.listen id with
    | error e => exact .refl s
    | ok result => exact (keeps_listen hlisten).1
  | sweep now => exact s.keeps_sweep now

/-- **A segment for a socket** changes it as the connection reacts to the segment. -/
theorem socket?_handle (hapart : s.sockets.Apart)
    (hsocket : s.sockets.socket? id = some ⟨port, y⟩) (hdest : g.destPort = port)
    (source : NodeId) (now : Nat) :
    (s.handle source g now neverRefused).state.sockets.socket? id =
      some ⟨port, ((y.reaction s.settings.receiveCapacity source g now).map (·.taken)).getD y⟩ := by
  rw [handle_eq (lookup_of_port hapart hsocket hdest)]
  dsimp only
  cases y.reaction s.settings.receiveCapacity source g now with
  | none => exact hsocket
  | some r => exact socket?_set_self hsocket r.taken

/-- A segment for another port does not change a socket. -/
theorem socket?_handle_of_ne (hsocket : s.sockets.socket? id = some ⟨port, y⟩)
    (hdest : g.destPort ≠ port) (source : NodeId) (now : Nat) :
    (s.handle source g now neverRefused).state.sockets.socket? id = some ⟨port, y⟩ := by
  cases hfound : s.lookup g with
  | none =>
    rw [handle, hfound]
    exact hsocket
  | some found =>
    obtain ⟨j, socket⟩ := found
    obtain ⟨hj, hport⟩ := socket?_of_lookup hfound
    have hne : j ≠ id := by
      rintro rfl
      rw [hsocket] at hj
      obtain rfl := Option.some.inj hj
      exact hdest hport.symm
    rw [handle_eq hfound]
    cases socket.state.reaction s.settings.receiveCapacity source g now with
    | none => exact hsocket
    | some r => exact (socket?_set_of_ne hne r.taken).trans hsocket

/-- **The answer to a piece of the stream** goes to its sender, with ports exchanged, and names the
next position.  The piece is taken exactly if it is the next one and there is room for it. -/
theorem handle_data (hapart : s.sockets.Apart) (hsocket : s.sockets.socket? id = some ⟨port, y⟩)
    (hs : y.status = .connected) (hk : g.kind = .data) (hdest : g.destPort = port)
    (source : NodeId) (now : Nat) :
    s.handle source g now neverRefused =
      ⟨s.set id (y.absorb s.settings.receiveCapacity g),
        [(source, { sourcePort := port
                    destPort := g.sourcePort
                    ack := (y.absorb s.settings.receiveCapacity g).expected
                    kind := .dataAck })], .ok ()⟩ := by
  rw [handle_eq (lookup_of_port hapart hsocket hdest)]
  dsimp only
  rw [ServerConnection.reaction_data hk hs]
  dsimp only [answer, neverRefused]
  rw [Segment.reply, hdest]

end Server

namespace Intake.Balances

variable {k : Intake} {s : Server} {id : SocketId} {port : UInt32} {y : ServerConnection}

/-- The account of a connection to which a segment comes. -/
theorem handle (h : k.Balances y s.settings.receiveCapacity) (hapart : s.sockets.Apart)
    (hsocket : s.sockets.socket? id = some ⟨port, y⟩) (source : NodeId) (g : Segment) (now : Nat) :
    ∃ z, (s.handle source g now neverRefused).state.sockets.socket? id = some ⟨port, z⟩ ∧
      (k.note s id port (.handle source g now)).Balances z s.settings.receiveCapacity := by
  unfold note
  dsimp only
  rw [Server.stateAt_eq hsocket]
  by_cases hdest : g.destPort = port
  · rw [if_neg (not_not_intro hdest), Server.socket?_handle hapart hsocket hdest]
    refine ⟨_, rfl, ?_⟩
    by_cases hsyn : g.kind = .syn ∧ (y.status = .listening ∨ y.status = .connected)
    · rw [if_pos hsyn, ServerConnection.reaction_syn hsyn.1 hsyn.2]
      exact .restarted y _ source g
    rw [if_neg hsyn]
    by_cases hdata : g.kind = .data ∧ y.status = .connected
    · rw [ServerConnection.reaction_data hdata.1 hdata.2, Option.map_some, Option.getD_some,
        ServerConnection.absorb_eq_ite]
      by_cases htaken : g.seq = y.expected ∧
          y.buffer.length + g.payload.length ≤ s.settings.receiveCapacity
      · rw [if_pos ⟨hdata.1, hdata.2, htaken⟩, if_pos htaken]
        exact h.accepted htaken.2
      · rw [if_neg fun hall => htaken hall.2.2, if_neg htaken]
        exact h
    rw [if_neg fun hall => hdata ⟨hall.1, hall.2.1⟩]
    -- the client may leave, and all other segments are not answered
    cases hr : y.reaction s.settings.receiveCapacity source g now with
    | none => exact h
    | some r =>
      obtain ⟨hs, hk, -⟩ | ⟨-, -, rfl⟩ | ⟨hs, hk, -⟩ := ServerConnection.reaction_cases hr
      · exact absurd ⟨hk, hs⟩ hsyn
      · exact h.of_stream (y.leaving_stream now).1 (y.expected_leaving now)
      · exact absurd ⟨hk, hs⟩ hdata
  · rw [if_pos hdest]
    exact ⟨y, Server.socket?_handle_of_ne hsocket hdest source now, h⟩

/-- The account of a connection from which calls read. -/
theorem poll (h : k.Balances y s.settings.receiveCapacity)
    (hsocket : s.sockets.socket? id = some ⟨port, y⟩) (call : ServerCall) :
    ∃ z, (s.next (.poll call)).sockets.socket? id = some ⟨port, z⟩ ∧
      (k.note s id port (.poll call)).Balances z s.settings.receiveCapacity := by
  rw [Server.next]
  cases call with
  | accept j =>
    -- waiting for a client does not touch a stream
    refine ⟨y, ?_, h⟩
    rw [Server.poll_accept]
    split
    · exact hsocket
    · split <;> exact hsocket
  | receive j length =>
    unfold note
    dsimp only
    by_cases hj : j = id
    · subst hj
      rw [Server.poll_receive, Server.stateAt_eq hsocket]
      split
      · dsimp only
        rw [if_pos rfl]
        exact ⟨_, Server.socket?_set_self hsocket _, h.returned length⟩
      · split <;> exact ⟨y, hsocket, h⟩
    · have hnote : (match s.poll (.receive j length) with
          | some (_, .ok (.received data)) =>
            if j = id then { k with returned := k.returned ++ data } else k
          | _ => k) = k := by
        split
        · exact if_neg hj
        · rfl
      rw [hnote, Server.poll_receive]
      refine ⟨y, ?_, h⟩
      split
      · exact (Server.socket?_set_of_ne hj _).trans hsocket
      · split <;> exact hsocket

/-- **The account goes on to agree** with a connection whatever happens. -/
theorem next (h : k.Balances y s.settings.receiveCapacity) (hapart : s.sockets.Apart)
    (hsocket : s.sockets.socket? id = some ⟨port, y⟩) (event : ServerEvent) :
    ∃ z, (s.next event).sockets.socket? id = some ⟨port, z⟩ ∧
      (k.note s id port event).Balances z s.settings.receiveCapacity := by
  cases event with
  | handle source g now => exact h.handle hapart hsocket source g now
  | poll call => exact h.poll hsocket call
  | listen j =>
    rw [Server.next]
    cases hlisten : s.listen j with
    | error e => exact ⟨y, hsocket, h⟩
    | ok result =>
      unfold Server.listen at hlisten
      obtain ⟨socket, hj, hlisten⟩ := SocketTable.require_bind_eq_ok hlisten
      split at hlisten
      · cases hlisten
        by_cases hne : j = id
        · subst hne
          rw [hsocket] at hj
          obtain rfl := Option.some.inj hj
          exact ⟨_, Server.socket?_set_self hsocket _, h.of_stream rfl rfl⟩
        · exact ⟨y, (Server.socket?_set_of_ne hne _).trans hsocket, h⟩
      · cases hlisten
  | sweep now =>
    have hswept : (s.sweep now).sockets.socket? id =
        some ⟨port, if y.isExpired s.settings.closeWait now then y.ended else y⟩ := by
      rw [Server.sweep, SocketTable.socket?_map, hsocket]
      rfl
    refine ⟨_, hswept, ?_⟩
    split <;> exact h.of_stream rfl rfl

/-- The account agrees after any events. -/
theorem after (events : List ServerEvent) :
    ∀ {s : Server} {k : Intake} {y : ServerConnection}, s.sockets.Apart →
      s.sockets.socket? id = some ⟨port, y⟩ → k.Balances y s.settings.receiveCapacity →
      ∃ z, (s.after events).sockets.socket? id = some ⟨port, z⟩ ∧
        (s.intake id port k events).Balances z s.settings.receiveCapacity := by
  induction events with
  | nil => exact fun _ hsocket h => ⟨_, hsocket, h⟩
  | cons event events ih =>
    intro s k y hapart hsocket h
    obtain ⟨z, hz, hnext⟩ := h.next hapart hsocket event
    have hkeeps := s.keeps_next event
    rw [← hkeeps.settings_eq] at hnext ⊢
    exact ih (hapart.of_samePorts hkeeps.samePorts) hz hnext

end Intake.Balances

/-! ### Reading -/

namespace Server

variable {s : Server} {id : SocketId} {port : UInt32} {y : ServerConnection}

/-- A call begins to wait for bytes of a connection unless there is no room for as many. -/
theorem receive_of_connected (hsocket : s.sockets.socket? id = some ⟨port, y⟩)
    (hs : y.status = .connected) (length : Nat) :
    s.receive id length =
      if s.settings.receiveCapacity < length then
        .error (.requestTooLarge length s.settings.receiveCapacity)
      else .ok (.receive id length) := by
  rw [receive, SocketTable.require, hsocket]
  simp only [bind, Except.bind]
  rw [if_pos hs]
  rfl

/-- A call returns the first bytes of a connection and removes just these, or it waits. -/
theorem poll_of_connected (hsocket : s.sockets.socket? id = some ⟨port, y⟩)
    (hs : y.status = .connected) (length : Nat) :
    s.poll (.receive id length) =
      if length ≤ y.buffer.length then
        some (s.set id { y with buffer := y.buffer.drop length },
          .ok (.received (y.buffer.take length)))
      else none := by
  rw [poll_receive, stateAt_eq hsocket, if_pos hs]

theorem keeps_after (events : List ServerEvent) : ∀ s : Server, s.Keeps (s.after events) := by
  induction events with
  | nil => exact Keeps.refl
  | cons event events ih => exact fun s => (s.keeps_next event).trans (ih (s.next event))

end Server

/-! ### Hosts -/

namespace ServerHost

variable {settings : Settings} {h : ServerHost} {id : SocketId} {port : UInt32}
  {y : ServerConnection}

/-- **The account of a stream.**  A host that can be reached has a socket that waits for a client or
has one, and a request to connect comes.  After any events, the bytes that were read since the last
request and those in the buffer are the pieces that were taken since then, in their order; the next
position is counted from the request; and there is room for what is in the buffer.  As long as the
socket is connected, a piece of the stream is taken exactly if it is the next one and there is room
for it, and its one answer names the next position; and a call for some bytes returns the first ones
of the buffer and removes just these. -/
theorem Reached.intake_balances (hreached : h.Reached settings)
    (hsocket : h.server.sockets.socket? id = some ⟨port, y⟩)
    (hs : y.status = .listening ∨ y.status = .connected) {g : Segment} (hk : g.kind = .syn)
    (hdest : g.destPort = port) (source : NodeId) (now : Nat) (events : List ServerEvent) :
    let s := (h.server.handle source g now neverRefused).state
    let k := s.intake id port ⟨g.seq, [], []⟩ events
    ∃ z, (s.after events).sockets.socket? id = some ⟨port, z⟩ ∧
      k.returned ++ z.buffer = k.accepted.flatten ∧
      z.expected = k.request + 1 + UInt32.ofNat k.accepted.flatten.length ∧
      z.buffer.length ≤ settings.receiveCapacity ∧
      (z.status = .connected →
        (∀ source d now, d.kind = .data → d.destPort = port →
          ∃ z', (s.after events).handle source d now neverRefused =
              ⟨(s.after events).set id z',
                [(source, { sourcePort := port
                            destPort := d.sourcePort
                            ack := z'.expected
                            kind := .dataAck })], .ok ()⟩ ∧
            z' = if d.seq = z.expected ∧
                z.buffer.length + d.payload.length ≤ settings.receiveCapacity then
              { z with
                buffer := z.buffer ++ d.payload
                expected := z.expected + UInt32.ofNat d.payload.length }
            else z) ∧
        ∀ length,
          ((s.after events).receive id length =
            if settings.receiveCapacity < length then
              .error (.requestTooLarge length settings.receiveCapacity)
            else .ok (.receive id length)) ∧
          (s.after events).poll (.receive id length) =
            if length ≤ z.buffer.length then
              some ((s.after events).set id { z with buffer := z.buffer.drop length },
                .ok (.received (z.buffer.take length)))
            else none) := by
  have hsound := hreached.sound
  intro s k
  have hkeeps : h.server.Keeps s := h.server.keeps_handle source g now neverRefused
  have hbegun : s.sockets.socket? id =
      some ⟨port, { y.restarted source g with status := .connected }⟩ := by
    rw [Server.socket?_handle hsound.apart hsocket hdest, ServerConnection.reaction_syn hk hs]
    rfl
  have hapart := hsound.apart.of_samePorts hkeeps.samePorts
  obtain ⟨z, hz, hbalances⟩ := Intake.Balances.after events hapart hbegun
    (.restarted y s.settings.receiveCapacity source g)
  have hlast := hkeeps.trans (s.keeps_after events)
  have hsettings := hlast.settings_eq.trans hsound.settings_eq
  have hcapacity : s.settings = settings := hkeeps.settings_eq.trans hsound.settings_eq
  refine ⟨z, hz, hbalances.stream, hbalances.expected, hcapacity ▸ hbalances.room, fun hz' => ?_⟩
  constructor
  · intro source d now hd hport
    have hanswer := Server.handle_data (hsound.apart.of_samePorts hlast.samePorts) hz hz' hd hport
      source now
    rw [hsettings] at hanswer
    exact ⟨_, hanswer, ServerConnection.absorb_eq_ite z _ d⟩
  · intro length
    rw [Server.receive_of_connected hz hz', Server.poll_of_connected hz hz', hsettings]
    exact ⟨rfl, rfl⟩

/-- A host with a socket that waits for a client. -/
def listening : ServerHost :=
  (performAll { server := ⟨fiveBytes, .free 10⟩, link := { reason := "" } }
    [.openSocket 9, .accept 0]).1

theorem reached_listening : listening.Reached fiveBytes :=
  Reached.performAll (.start rfl _) _

/-- A piece that comes twice, a call that reads a byte, a piece from elsewhere that is not the next
one, and the next piece. -/
def mixedEvents : List ServerEvent :=
  [.handle 1 (nextData 1 [1, 2]) 0, .handle 1 (nextData 1 [1, 2]) 1, .poll (.receive 0 1),
    .handle 2 (nextData 4 [9]) 2, .handle 1 (nextData 3 [3, 4, 5]) 3]

/-- One byte of five was read, and the other four are in the buffer. -/
theorem intake_balances_mixedEvents :
    ∃ z, ((listening.server.handle 1 (Segment.synOf 7 9 0) 0 neverRefused).state.after
        mixedEvents).sockets.socket? 0 = some ⟨9, z⟩ ∧
      [1] ++ z.buffer = [1, 2, 3, 4, 5] ∧ z.expected = 6 := by
  have hsocket : listening.server.sockets.socket? 0 = some ⟨9, { status := .listening }⟩ := rfl
  obtain ⟨z, hz, hstream, hexpected, -⟩ := reached_listening.intake_balances hsocket (.inl rfl)
    (g := Segment.synOf 7 9 0) rfl rfl 1 0 mixedEvents
  exact ⟨z, hz, hstream, hexpected⟩

end ServerHost

end OverlayStack.Transport
