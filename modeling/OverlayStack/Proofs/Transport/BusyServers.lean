import OverlayStack.Proofs.Transport.BusyClients
import OverlayStack.Proofs.Transport.Received
import OverlayStack.Proofs.Transport.StreamSafety

/-!
# Servers with many callers

A server is used by many callers at a time.  Any of them begins a call, or looks at its socket in
one that waits; segments arrive from anywhere, sockets are swept, and the link may be lost.  All of
this happens in turns, in any order, and in every turn the link may refuse an answer.

## Main definitions

* `BusyServer` — a server and its calls that wait.
* `ServerMove`, `ServerTurn` — what is done in a turn.
* `BusyServer.step`, `BusyServer.run` — what a turn does, and the server after some turns.
* `BusyServer.Follows` — what a turn makes of a socket.

## Main results

* `Server.socket?_of_set` — a socket after the state of some socket was set.
* `BusyServer.socket?_step` — where a socket comes from.
* `BusyServer.apart_run` — no two sockets have the same port.
-/

namespace OverlayStack.Transport

/-- A server and its calls that wait. -/
structure BusyServer where
  server : Server
  /-- The calls, in the order in which they were begun. -/
  calls : List ServerCall := []

/-- What can be done to a server. -/
inductive ServerMove where
  /-- A socket is opened. -/
  | openSocket (port : UInt32)
  /-- A socket is closed. -/
  | close (id : SocketId)
  /-- A call begins to wait for a client. -/
  | accept (id : SocketId)
  /-- A call begins to wait for a number of bytes. -/
  | receive (id : SocketId) (length : Nat)
  /-- A call that waits looks at its socket. -/
  | look (place : Nat)
  /-- A segment arrives. -/
  | handle (source : NodeId) (g : Segment)
  /-- Sockets that their clients have left long enough ago give up their connections. -/
  | sweep
  /-- The link is lost. -/
  | linkLost

/-- What is done in a turn, when, and what the link says to the answer that is sent. -/
structure ServerTurn where
  move : ServerMove
  now : Nat := 0
  refuse : Refusal Error := neverRefused

/-- The socket that a call belongs to. -/
def ServerCall.socket : ServerCall → SocketId
  | .accept id | .receive id _ => id

namespace BusyServer

/-- The server after a call has looked at its socket.  The call goes on to wait, or it returns. -/
def look (b : BusyServer) (place : Nat) : BusyServer :=
  match b.calls[place]? with
  | none => b
  | some call =>
    match b.server.poll call with
    | none => b
    | some (server, _) => ⟨server, b.calls.eraseIdx place⟩

/-- The server after a turn, and what was sent in it.  The calls of a socket that is closed go on
with a socket that is not in the table any more. -/
def step (b : BusyServer) (t : ServerTurn) : BusyServer × Outgoing :=
  match t.move with
  | .openSocket port =>
    match b.server.openSocket port with
    | .error _ => (b, [])
    | .ok (_, server) => ({ b with server }, [])
  | .close id =>
    match b.server.close id with
    | .error _ => (b, [])
    | .ok server => (⟨server, b.calls.filter fun call => call.socket ≠ id⟩, [])
  | .accept id =>
    match b.server.listen id with
    | .error _ => (b, [])
    | .ok (server, call) => (⟨server, b.calls ++ [call]⟩, [])
  | .receive id length =>
    match b.server.receive id length with
    | .error _ => (b, [])
    | .ok call => ({ b with calls := b.calls ++ [call] }, [])
  | .look place => (b.look place, [])
  | .handle source g =>
    let e := b.server.handle source g t.now t.refuse
    ({ b with server := e.state }, e.sent)
  | .sweep => ({ b with server := b.server.sweep t.now }, [])
  | .linkLost => ({ b with server := b.server.linkLost }, [])

/-- The server after some turns. -/
def run (b : BusyServer) (turns : List ServerTurn) : BusyServer :=
  turns.foldl (fun b t => (b.step t).1) b

theorem run_append (b : BusyServer) (first second : List ServerTurn) :
    b.run (first ++ second) = (b.run first).run second :=
  List.foldl_append

theorem run_concat (b : BusyServer) (turns : List ServerTurn) (t : ServerTurn) :
    b.run (turns ++ [t]) = ((b.run turns).step t).1 := by
  rw [run_append]
  rfl

/-- What a turn makes of a socket. -/
inductive Follows (b : BusyServer) (t : ServerTurn) (id : SocketId) :
    Socket ServerConnection → Prop where
  /-- The socket is new. -/
  | fresh {port : UInt32} (hfree : b.server.sockets.socket? id = none) : Follows b t id ⟨port, {}⟩
  /-- The turn does not concern the socket. -/
  | kept {s : Socket ServerConnection} (hs : b.server.sockets.socket? id = some s) :
      Follows b t id s
  /-- A call begins to wait for a client. -/
  | listened {s : Socket ServerConnection} (hs : b.server.sockets.socket? id = some s)
      (hmove : t.move = .accept id) (hclosed : s.state.status = .closed) :
      Follows b t id { s with state := { s.state with status := .listening } }
  /-- A call has taken bytes from the buffer. -/
  | read {s : Socket ServerConnection} (hs : b.server.sockets.socket? id = some s) (n : Nat) :
      Follows b t id { s with state := { s.state with buffer := s.state.buffer.drop n } }
  /-- The link has taken the answer to a segment. -/
  | answered {s : Socket ServerConnection} {source : NodeId} {g : Segment} {r : Reaction}
      (hs : b.server.sockets.socket? id = some s) (hmove : t.move = .handle source g)
      (hport : g.destPort = s.port)
      (hr : s.state.reaction b.server.settings.receiveCapacity source g t.now = some r)
      (hsent : (b.step t).2 = [(source, r.reply)]) : Follows b t id { s with state := r.taken }
  /-- The link has refused the answer to a segment. -/
  | unanswered {s : Socket ServerConnection} {source : NodeId} {g : Segment} {r : Reaction}
      (hs : b.server.sockets.socket? id = some s)
      (hr : s.state.reaction b.server.settings.receiveCapacity source g t.now = some r) :
      Follows b t id { s with state := r.refused }
  /-- The client has left long enough ago. -/
  | expired {s : Socket ServerConnection} (hs : b.server.sockets.socket? id = some s)
      (hmove : t.move = .sweep)
      (hlong : s.state.isExpired b.server.settings.closeWait t.now = true) :
      Follows b t id { s with state := s.state.ended }
  /-- The link is lost. -/
  | ended {s : Socket ServerConnection} (hs : b.server.sockets.socket? id = some s)
      (hmove : t.move = .linkLost) : Follows b t id { s with state := s.state.ended }

end BusyServer

/-! ### What operations do to a socket -/

namespace Server

variable {s s' : Server} {id j : SocketId} {socket : Socket ServerConnection}

theorem openSocket_eq_ok {port : UInt32} (h : s.openSocket port = .ok (id, s')) :
    ∃ sockets, s.sockets.openSocket port {} = .ok (id, sockets) ∧ s' = { s with sockets } := by
  unfold openSocket at h
  cases hopen : s.sockets.openSocket port {} with
  | error e =>
    rw [hopen] at h
    cases h
  | ok opened =>
    rw [hopen] at h
    cases h
    exact ⟨_, rfl, rfl⟩

theorem close_eq_ok (h : s.close id = .ok s') : s' = { s with sockets := s.sockets.close id } := by
  unfold close at h
  obtain ⟨socket, -, h⟩ := SocketTable.require_bind_eq_ok h
  dsimp only at h
  split at h <;> cases h
  rfl

/-- Only a socket without a connection begins to wait for a client. -/
theorem listen_eq_ok {call : ServerCall} (h : s.listen id = .ok (s', call)) :
    ∃ socket, s.sockets.socket? id = some socket ∧ socket.state.status = .closed ∧
      s' = s.set id { socket.state with status := .listening } := by
  unfold listen at h
  obtain ⟨socket, hsocket, h⟩ := SocketTable.require_bind_eq_ok h
  split at h
  · next hclosed =>
    cases h
    exact ⟨socket, hsocket, hclosed, rfl⟩
  · cases h

/-- A socket after the state of some socket was set. -/
theorem socket?_of_set {x : ServerConnection} (h : (s.set j x).sockets.socket? id = some socket) :
    id = j ∧ (∃ before, s.sockets.socket? id = some before ∧ socket = { before with state := x }) ∨
      id ≠ j ∧ s.sockets.socket? id = some socket := by
  rw [set, SocketTable.socket?_set] at h
  split at h
  · next hid =>
    obtain ⟨before, hbefore, rfl⟩ := Option.map_eq_some_iff.1 h
    exact .inl ⟨hid, before, hbefore, rfl⟩
  · next hid => exact .inr ⟨hid, h⟩

end Server

namespace BusyServer

variable {b : BusyServer} {t : ServerTurn} {id : SocketId} {s : Socket ServerConnection}

/-- A call that looks at its socket at most takes bytes. -/
theorem follows_look {place : Nat} (hs : (b.look place).server.sockets.socket? id = some s) :
    b.Follows t id s := by
  unfold look at hs
  split at hs
  · exact .kept hs
  · split at hs
    · exact .kept hs
    · next server _ hpoll =>
      rcases Server.poll_eq_some hpoll with rfl | ⟨j, n, rfl⟩
      · exact .kept hs
      · rcases Server.socket?_of_set hs with ⟨rfl, before, hbefore, rfl⟩ | ⟨-, hs⟩
        · rw [Server.stateAt_eq hbefore]
          exact .read hbefore n
        · exact .kept hs

/-- A segment changes its socket as the connection reacts to it. -/
theorem follows_handle {source : NodeId} {g : Segment} (hmove : t.move = .handle source g)
    (hs : (b.server.handle source g t.now t.refuse).state.sockets.socket? id = some s) :
    b.Follows t id s := by
  cases hfound : b.server.lookup g with
  | none =>
    rw [Server.handle, hfound] at hs
    exact .kept hs
  | some found =>
    obtain ⟨j, before⟩ := found
    obtain ⟨hbefore, hport⟩ := Server.socket?_of_lookup hfound
    rw [Server.handle_eq hfound] at hs
    cases hr : before.state.reaction b.server.settings.receiveCapacity source g t.now with
    | none =>
      rw [hr] at hs
      exact .kept hs
    | some r =>
      rw [hr] at hs
      dsimp only [Server.answer] at hs
      cases hrefuse : t.refuse 0 r.reply with
      | none =>
        rw [hrefuse] at hs
        rcases Server.socket?_of_set hs with ⟨rfl, before', hbefore', rfl⟩ | ⟨-, hs⟩
        · obtain rfl := Option.some.inj (hbefore.symm.trans hbefore')
          refine .answered hbefore hmove hport.symm hr ?_
          rw [step, hmove]
          dsimp only
          rw [Server.handle_eq hfound, hr]
          dsimp only [Server.answer]
          rw [hrefuse]
        · exact .kept hs
      | some e =>
        rw [hrefuse] at hs
        rcases Server.socket?_of_set hs with ⟨rfl, before', hbefore', rfl⟩ | ⟨-, hs⟩
        · obtain rfl := Option.some.inj (hbefore.symm.trans hbefore')
          exact .unanswered hbefore hr
        · exact .kept hs

/-- **Where a socket comes from.** -/
theorem socket?_step (hs : (b.step t).1.server.sockets.socket? id = some s) : b.Follows t id s := by
  cases hmove : t.move with
  | openSocket port =>
    rw [step, hmove] at hs
    dsimp only at hs
    split at hs
    · exact .kept hs
    · next hopen =>
      obtain ⟨sockets, htable, rfl⟩ := Server.openSocket_eq_ok hopen
      cases hbefore : b.server.sockets.socket? id with
      | none =>
        rcases SocketTable.socket?_of_openSocket htable hs with rfl | hs
        · exact .fresh hbefore
        · exact .kept hs
      | some before =>
        -- a place that is taken stays taken
        have hkept := SocketTable.socket?_openSocket htable hbefore
        obtain rfl := Option.some.inj (hkept.symm.trans hs)
        exact .kept hbefore
  | close j =>
    rw [step, hmove] at hs
    dsimp only at hs
    split at hs
    · exact .kept hs
    · next hclose =>
      rw [Server.close_eq_ok hclose] at hs
      exact .kept (SocketTable.socket?_of_close hs)
  | accept j =>
    rw [step, hmove] at hs
    dsimp only at hs
    split at hs
    · exact .kept hs
    · next hlisten =>
      obtain ⟨before, hbefore, hclosed, rfl⟩ := Server.listen_eq_ok hlisten
      rcases Server.socket?_of_set hs with ⟨rfl, before', hbefore', rfl⟩ | ⟨-, hs⟩
      · obtain rfl := Option.some.inj (hbefore.symm.trans hbefore')
        exact .listened hbefore hmove hclosed
      · exact .kept hs
  | receive j length =>
    rw [step, hmove] at hs
    dsimp only at hs
    split at hs <;> exact .kept hs
  | look place =>
    rw [step, hmove] at hs
    exact follows_look hs
  | handle source g =>
    rw [step, hmove] at hs
    exact follows_handle hmove hs
  | sweep =>
    rw [step, hmove] at hs
    dsimp only [Server.sweep] at hs
    rw [SocketTable.socket?_map] at hs
    obtain ⟨before, hbefore, rfl⟩ := Option.map_eq_some_iff.1 hs
    split
    · next hlong => exact .expired hbefore hmove hlong
    · exact .kept hbefore
  | linkLost =>
    rw [step, hmove] at hs
    dsimp only [Server.linkLost] at hs
    rw [SocketTable.socket?_map] at hs
    obtain ⟨before, hbefore, rfl⟩ := Option.map_eq_some_iff.1 hs
    exact .ended hbefore hmove

/-! ### What turns leave alone -/

/-- A turn either opens a socket or keeps all ports. -/
theorem keeps_step (b : BusyServer) (t : ServerTurn) :
    b.server.Keeps (b.step t).1.server ∨
      ∃ port id, b.server.openSocket port = .ok (id, (b.step t).1.server) := by
  unfold step
  cases t.move with
  | openSocket port =>
    dsimp only
    split
    · exact .inl (.refl _)
    · next id server hopen => exact .inr ⟨port, id, hopen⟩
  | close j =>
    dsimp only
    split
    · exact .inl (.refl _)
    · next hclose => exact .inl (Server.keeps_close hclose)
  | accept j =>
    dsimp only
    split
    · exact .inl (.refl _)
    · next hlisten => exact .inl (Server.keeps_listen hlisten).1
  | receive j length =>
    dsimp only
    split <;> exact .inl (.refl _)
  | look place =>
    dsimp only [look]
    split
    · exact .inl (.refl _)
    · split
      · exact .inl (.refl _)
      · next hpoll => exact .inl (Server.keeps_poll hpoll)
  | handle source g => exact .inl (b.server.keeps_handle source g _ _)
  | sweep => exact .inl (b.server.keeps_sweep _)
  | linkLost => exact .inl b.server.keeps_linkLost

theorem settings_step (b : BusyServer) (t : ServerTurn) :
    (b.step t).1.server.settings = b.server.settings := by
  rcases b.keeps_step t with hkeeps | ⟨port, id, hopen⟩
  · exact hkeeps.settings_eq
  · obtain ⟨sockets, -, heq⟩ := Server.openSocket_eq_ok hopen
    rw [heq]

theorem settings_run (b : BusyServer) (turns : List ServerTurn) :
    (b.run turns).server.settings = b.server.settings := by
  induction turns generalizing b with
  | nil => rfl
  | cons t turns ih => exact (ih (b.step t).1).trans (settings_step b t)

/-- **No two sockets have the same port** after any turns. -/
theorem apart_run (h : b.server.sockets.Apart) (turns : List ServerTurn) :
    (b.run turns).server.sockets.Apart := by
  induction turns generalizing b with
  | nil => exact h
  | cons t turns ih =>
    refine ih ?_
    rcases b.keeps_step t with hkeeps | ⟨port, id, hopen⟩
    · exact h.of_samePorts hkeeps.samePorts
    · obtain ⟨sockets, htable, heq⟩ := Server.openSocket_eq_ok hopen
      rw [heq]
      exact h.openSocket htable

end BusyServer

end OverlayStack.Transport
