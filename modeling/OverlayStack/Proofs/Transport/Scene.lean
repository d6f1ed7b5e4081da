import OverlayStack.Proofs.Transport.Endpoints
import OverlayStack.Proofs.Transport.LossyLink

/-!
# Scenes of a session

A session with one socket at either end, seen as two connections, the segments in flight between
them, the calls of the client that wait and the bytes that the server has returned.  Whatever
happens to the session is one of a few moves of the scene.  Messages that are lost or damaged leave
the scene without doing anything.

## Main definitions

* `Scene`, `Session.Shows` — what a session with two sockets looks like.
* `Scene.Move` — what one event can do, except for the beginning of a connection.
* `Session.accepts`, `Session.accepted` — the bytes that calls of the client have accepted.

## Main results

* `Session.Shows.step` — every event is a move.
-/

namespace OverlayStack.Transport

/-- The two sockets of a session. -/
structure Ends where
  /-- The limits and times of the client. -/
  clientSettings : Settings
  /-- The socket of the client. -/
  clientId : SocketId
  /-- The port of the client. -/
  clientPort : UInt32
  /-- The limits and times of the server. -/
  serverSettings : Settings
  /-- The socket of the server. -/
  serverId : SocketId
  /-- The port of the server. -/
  serverPort : UInt32

/-- The parts of a session with two sockets that matter to the stream. -/
structure Scene where
  /-- The connection of the client. -/
  client : ClientConnection
  /-- The calls of the client that wait. -/
  calls : List Handshake
  /-- The segments on their way to the server. -/
  up : List Segment
  /-- The connection of the server. -/
  server : ServerConnection
  /-- The segments on their way to the client. -/
  down : List Segment
  /-- The bytes that the calls of the server have returned. -/
  returned : Bytes

namespace Scene

/-- What one event can do to a scene, and the bytes that the client has accepted then. -/
inductive Move (e : Ends) (v : Scene) : Bytes → Scene → Prop where
  /-- Nothing. -/
  | idle : Move e v [] v
  /-- A timer of the client runs. -/
  | timer {x : ClientConnection} {sent : List Segment} (hx : v.client.SameStream x)
      (hsent : ∀ g ∈ sent, v.client.status = .connected ∧ g ∈ v.client.buffer.segments) :
      Move e v [] { v with client := x, up := v.up ++ sent }
  /-- The client accepts bytes. -/
  | send {x : ClientConnection} {sent : List Segment} {data : Bytes}
      (hs : v.client.status = .connected)
      (hx : (v.client.enqueue e.clientPort e.clientSettings.maxSegment data).SameStream x)
      (hsent : sent ⊆ x.buffer.segments) :
      Move e v data { v with client := x, up := v.up ++ sent }
  /-- The client begins to disconnect. -/
  | disconnect {call : Handshake} (hs : v.client.status = .connected)
      (hk : call.kind = .disconnect)
      (hr : call.request = Segment.finOf e.clientPort v.client.serverPort v.client.nextSeq) :
      Move e v []
        { v with
          client := { v.client with nextSeq := v.client.nextSeq + 1, status := .finWait }
          calls := v.calls ++ [call] }
  /-- A call of the client sends its request some times and goes on to wait. -/
  | attempt {place : Nat} {call call' : Handshake} {k : Nat} (hc : v.calls[place]? = some call)
      (hk : k = 0 ∨ v.client.status = call.kind.waitingStatus) (hkind : call'.kind = call.kind)
      (hreq : call'.request = call.request) :
      Move e v []
        { v with
          calls := v.calls.set place call'
          up := v.up ++ List.replicate k call.request }
  /-- A call of the client sends its request some times and returns. -/
  | finish {place : Nat} {call : Handshake} {k : Nat} {x : ClientConnection}
      (hc : v.calls[place]? = some call)
      (hk : k = 0 ∨ v.client.status = call.kind.waitingStatus)
      (hx : x = v.client ∨
        x.status = .closed ∧ x.buffer.segments ⊆ v.client.buffer.segments) :
      Move e v []
        { v with
          client := x
          calls := v.calls.eraseIdx place
          up := v.up ++ List.replicate k call.request }
  /-- The next segment reaches the client or is lost. -/
  | toClient {g : Segment} {rest sent : List Segment} {x : ClientConnection}
      (hd : v.down = g :: rest) (hx : v.client.Heeds g x sent) :
      Move e v [] { v with client := x, up := v.up ++ sent, down := rest }
  /-- The next segment reaches the server or is lost. -/
  | toServer {source : NodeId} {g : Segment} {rest sent : List Segment} {y : ServerConnection}
      (hu : v.up = g :: rest)
      (hy : v.server.Heeds e.serverSettings.receiveCapacity source g y sent) :
      Move e v [] { v with up := rest, server := y, down := v.down ++ sent }
  /-- The server begins to wait for a client. -/
  | listen (hs : v.server.status = .closed) :
      Move e v [] { v with server := { v.server with status := .listening } }
  /-- A call of the server returns. -/
  | read {data rest : Bytes} (hr : v.server.buffer = data ++ rest) :
      Move e v []
        { v with server := { v.server with buffer := rest }, returned := v.returned ++ data }
  /-- The server gives up a connection that the client has left. -/
  | sweep (hs : v.server.status = .closeWait) :
      Move e v [] { v with server := v.server.ended }

end Scene

/-! ### Segments are heeded as they were sent -/

theorem ClientConnection.Heeds.of_stamped {x x' : ClientConnection} {g : Segment}
    {sent : List Segment} (h : x.Heeds g.stamped x' sent) : x.Heeds g x' sent := by
  cases h with
  | ignored => exact .ignored
  | granted hs hk => exact .granted hs hk
  | left hs => exact .left hs
  | acknowledged hs hk hx hsent => exact .acknowledged hs hk hx hsent

/-- Only a connection takes segments from its queue. -/
theorem ClientConnection.Heeds.segments_eq_or {x x' : ClientConnection} {g : Segment}
    {sent : List Segment} (h : x.Heeds g x' sent) :
    x'.buffer.segments = x.buffer.segments ∨ x.status = .connected ∧ x'.status = .connected := by
  cases h with
  | ignored => exact .inl rfl
  | granted => exact .inl rfl
  | left => exact .inl rfl
  | acknowledged hs _ hx _ => exact .inr ⟨hs, hx.status_eq.trans hs⟩

theorem ServerConnection.Heeds.of_stamped {capacity : Nat} {y y' : ServerConnection}
    {source : NodeId} {g : Segment} {sent : List Segment}
    (h : y.Heeds capacity source g.stamped y' sent) : y.Heeds capacity source g y' sent := by
  cases h with
  | ignored => exact .ignored
  | restarted hk => exact .restarted hk
  | left now hk => exact .left now hk
  | absorbed hs hk => exact .absorbed hs hk

/-! ### Sessions -/

/-- Segments that are posted on a side are on their way to the other one. -/
theorem endAt_foldl_post (side : Side) (sent : Outgoing) : ∀ l : Loopback,
    (sent.foldl (fun l e => l.post side e.2) l).endAt side.other =
        { l.endAt side.other with
          inbox := (l.endAt side.other).inbox ++
            sent.map fun e => ((l.endAt side).node, e.2.wire) } ∧
      (sent.foldl (fun l e => l.post side e.2) l).endAt side = l.endAt side := by
  induction sent with
  | nil => simp
  | cons e sent ih =>
    intro l
    obtain ⟨hfar, hnear⟩ := ih (l.post side e.2)
    rw [List.foldl_cons, hfar, hnear]
    cases side <;> simp [Loopback.post, Loopback.setEnd, Loopback.endAt, Side.other]

theorem foldl_post (side : Side) (sent : Outgoing) (l : Loopback) :
    ((sent.foldl (fun l e => l.post side e.2) l).endAt side.other).inbox.map (·.2) =
        (l.endAt side.other).inbox.map (·.2) ++ (sent.map (·.2)).map Segment.wire ∧
      ((sent.foldl (fun l e => l.post side e.2) l).endAt side).inbox = (l.endAt side).inbox := by
  obtain ⟨hfar, hnear⟩ := endAt_foldl_post side sent l
  rw [hfar, hnear]
  simp

namespace Session

/-- The bytes that the calls of the server have returned. -/
def returned (s : Session) : Bytes :=
  (s.serverLog.reverse.map bytesOf).flatten

/-- The bytes that the client accepts in an event: those of a call that does not fail. -/
def accepts (s : Session) : Event → Bytes
  | .send id data =>
    match (s.client.send id data s.now neverRefused).result with
    | .ok () => data
    | .error _ => []
  | _ => []

/-- The bytes that the client accepts in a run. -/
def accepted (s : Session) : List Event → Bytes
  | [] => []
  | e :: events => s.accepts e ++ (s.step e).accepted events

/-- The next message on a side is lost or damaged, or it is the next segment on its way to that
side. -/
theorem arrival_cases (s : Session) (side : Side) (outcome : Outcome) {segments : List Segment}
    (hin : (s.link.endAt side).inbox.map (·.2) = segments.map Segment.wire)
    (hfit : ∀ g ∈ segments, g.payload.length ≤ 65535) :
    (segments = [] ∧ s.arrival side outcome = (.dropped, s)) ∨
      ∃ g rest source inbox, segments = g :: rest ∧
        (s.link.endAt side).inbox = (source, g.wire) :: inbox ∧
        inbox.map (·.2) = rest.map Segment.wire ∧
        (s.arrival side outcome =
            (.dropped, { s with link := s.link.setEnd side { s.link.endAt side with inbox } }) ∨
          s.arrival side outcome = (.segment source g.stamped,
            { s with link := s.link.setEnd side { s.link.endAt side with inbox } })) := by
  unfold arrival
  dsimp only
  cases hmsgs : (s.link.endAt side).inbox with
  | nil =>
    rw [hmsgs, List.map_nil] at hin
    exact .inl ⟨List.map_eq_nil_iff.1 hin.symm, rfl⟩
  | cons m inbox =>
    obtain ⟨source, bs⟩ := m
    rw [hmsgs, List.map_cons] at hin
    obtain ⟨g, rest, rfl, hg, hrest⟩ := List.map_eq_cons_iff.1 hin.symm
    dsimp only at hg ⊢
    subst hg
    refine .inr ⟨g, rest, source, inbox, rfl, rfl, hrest.symm, ?_⟩
    rcases Delivery.ofWire_wire outcome source (hfit g List.mem_cons_self) with ho | ho
    · rw [ho]
      exact .inl rfl
    · rw [ho]
      exact .inr rfl

/-- The session has two sockets and looks like the scene. -/
structure Shows (s : Session) (e : Ends) (v : Scene) : Prop where
  client : s.client.Sole e.clientSettings e.clientId e.clientPort v.client
  calls : s.handshakes = v.calls
  up : s.link.atB.inbox.map (·.2) = v.up.map Segment.wire
  server : s.server.Sole e.serverSettings e.serverId e.serverPort v.server
  down : s.link.atA.inbox.map (·.2) = v.down.map Segment.wire
  returned : s.returned = v.returned

namespace Shows

variable {s : Session} {e : Ends} {v : Scene}

theorem length_up (h : s.Shows e v) : s.link.atB.inbox.length = v.up.length := by
  have := congrArg List.length h.up
  rwa [List.length_map, List.length_map] at this

theorem length_down (h : s.Shows e v) : s.link.atA.inbox.length = v.down.length := by
  have := congrArg List.length h.down
  rwa [List.length_map, List.length_map] at this

theorem post_a (h : s.Shows e v) (sent : Outgoing) :
    (s.post .a sent).Shows e { v with up := v.up ++ sent.map (·.2) } := by
  obtain ⟨hfar, hnear⟩ := foldl_post .a sent s.link
  refine ⟨h.client, h.calls, ?_, h.server, ?_, h.returned⟩
  · rw [List.map_append, ← h.up]
    exact hfar
  · rw [← h.down]
    exact congrArg (List.map (·.2)) hnear

theorem post_b (h : s.Shows e v) (sent : Outgoing) :
    (s.post .b sent).Shows e { v with down := v.down ++ sent.map (·.2) } := by
  obtain ⟨hfar, hnear⟩ := foldl_post .b sent s.link
  refine ⟨h.client, h.calls, ?_, h.server, ?_, h.returned⟩
  · rw [← h.up]
    exact congrArg (List.map (·.2)) hnear
  · rw [List.map_append, ← h.down]
    exact hfar

theorem setClient (h : s.Shows e v) {c : Client} {x : ClientConnection}
    (hx : c.Sole e.clientSettings e.clientId e.clientPort x) :
    Session.Shows { s with client := c } e { v with client := x } :=
  ⟨hx, h.calls, h.up, h.server, h.down, h.returned⟩

theorem setServer (h : s.Shows e v) {d : Server} {y : ServerConnection}
    (hy : d.Sole e.serverSettings e.serverId e.serverPort y) :
    Session.Shows { s with server := d } e { v with server := y } :=
  ⟨h.client, h.calls, h.up, hy, h.down, h.returned⟩

/-! ### Events -/

/-- A message for the client: there is none, or the next segment arrives or is lost. -/
theorem toClient_cases (h : s.Shows e v) (hfit : ∀ g ∈ v.down, g.payload.length ≤ 65535)
    (outcome : Outcome) :
    (v.down = [] ∧ s.step (.toClient outcome) = s) ∨
      ∃ g rest x sent, v.down = g :: rest ∧ v.client.Heeds g x sent ∧
        (s.step (.toClient outcome)).Shows e
          { v with client := x, up := v.up ++ sent, down := rest } := by
  rcases s.arrival_cases .a outcome h.down hfit with
    ⟨hd, harr⟩ | ⟨g, rest, source, inbox, hd, -, hin, harr⟩
  · refine .inl ⟨hd, ?_⟩
    rw [step, harr]
  · have h' : Session.Shows { s with link := s.link.setEnd .a { s.link.endAt .a with inbox } } e
        { v with down := rest } := ⟨h.client, h.calls, h.up, h.server, hin, h.returned⟩
    rcases harr with harr | harr
    · refine .inr ⟨g, rest, v.client, [], hd, .ignored, ?_⟩
      rw [step, harr, List.append_nil]
      exact h'
    · obtain ⟨x, sent, hx, hsole, hsent⟩ := h.client.handle g.stamped s.now
      subst hsent
      refine .inr ⟨g, rest, x, _, hd, hx.of_stamped, ?_⟩
      rw [step, harr]
      exact (h'.setClient hsole).post_a _

theorem toClient (h : s.Shows e v) (hfit : ∀ g ∈ v.down, g.payload.length ≤ 65535)
    (outcome : Outcome) :
    ∃ v', (s.step (.toClient outcome)).Shows e v' ∧ v.Move e [] v' ∧
      (v'.client.buffer.segments = v.client.buffer.segments ∨
        v.client.status = .connected ∧ v'.client.status = .connected) := by
  rcases h.toClient_cases hfit outcome with ⟨-, hstep⟩ | ⟨g, rest, x, sent, hd, hx, hshows⟩
  · rw [hstep]
    exact ⟨v, h, .idle, .inl rfl⟩
  · exact ⟨_, hshows, .toClient hd hx, hx.segments_eq_or⟩

/-- A message for the server: there is none, or the next segment arrives or is lost. -/
theorem toServer_cases (h : s.Shows e v) (hfit : ∀ g ∈ v.up, g.payload.length ≤ 65535)
    (outcome : Outcome) :
    (v.up = [] ∧ s.step (.toServer outcome) = s) ∨
      ∃ source g rest y sent, v.up = g :: rest ∧ (source, g.wire) ∈ s.link.atB.inbox ∧
        v.server.Heeds e.serverSettings.receiveCapacity source g y sent ∧
        (s.step (.toServer outcome)).Shows e
          { v with up := rest, server := y, down := v.down ++ sent } := by
  rcases s.arrival_cases .b outcome h.up hfit with
    ⟨hu, harr⟩ | ⟨g, rest, source, inbox, hu, hmem, hin, harr⟩
  · refine .inl ⟨hu, ?_⟩
    rw [step, harr]
  · have h' : Session.Shows { s with link := s.link.setEnd .b { s.link.endAt .b with inbox } } e
        { v with up := rest } := ⟨h.client, h.calls, hin, h.server, h.down, h.returned⟩
    have hsource : (source, g.wire) ∈ s.link.atB.inbox := by
      rw [show s.link.atB.inbox = _ from hmem]
      exact List.mem_cons_self
    rcases harr with harr | harr
    · refine .inr ⟨source, g, rest, v.server, [], hu, hsource, .ignored, ?_⟩
      rw [step, harr, List.append_nil]
      exact h'
    · obtain ⟨y, sent, hy, hsole, hsent⟩ := h.server.handle source g.stamped s.now
      subst hsent
      refine .inr ⟨source, g, rest, y, _, hu, hsource, hy.of_stamped, ?_⟩
      rw [step, harr]
      exact (h'.setServer hsole).post_b _

theorem toServer (h : s.Shows e v) (hfit : ∀ g ∈ v.up, g.payload.length ≤ 65535)
    (outcome : Outcome) :
    ∃ v', (s.step (.toServer outcome)).Shows e v' ∧ v.Move e [] v' := by
  rcases h.toServer_cases hfit outcome with
    ⟨-, hstep⟩ | ⟨source, g, rest, y, sent, hu, -, hy, hshows⟩
  · rw [hstep]
    exact ⟨v, h, .idle⟩
  · exact ⟨_, hshows, .toServer hu hy⟩

/-- A call of the client is advanced. -/
theorem advance (h : s.Shows e v) (place : Nat) :
    ∃ v', (s.advance place).Shows e v' ∧ v.Move e [] v' := by
  unfold Session.advance
  cases hcall : s.handshakes[place]? with
  | none => exact ⟨v, h, .idle⟩
  | some call =>
    have hc : v.calls[place]? = some call := h.calls ▸ hcall
    dsimp only
    obtain ⟨k, x, hk, hx, hsole, hsent, hwait⟩ := h.client.advanceFrom call s.now 0
    have hpost := (h.setClient hsole).post_a (s.client.advanceFrom call s.now neverRefused 0).sent
    rw [hsent] at hpost
    split
    · next call' hstate =>
      obtain ⟨rfl, hkind, hreq⟩ := hwait call' hstate
      refine ⟨_, ?_, .attempt hc hk hkind hreq⟩
      exact ⟨hpost.client, congrArg (·.set place call') h.calls, hpost.up, hpost.server,
        hpost.down, hpost.returned⟩
    · refine ⟨_, ?_, .finish hc hk hx.eq_or_closed⟩
      exact ⟨hpost.client, congrArg (·.eraseIdx place) h.calls, hpost.up, hpost.server,
        hpost.down, hpost.returned⟩

/-- A call of the server is looked at. -/
theorem poll (h : s.Shows e v) (place : Nat) :
    ∃ v', (s.poll place).Shows e v' ∧ v.Move e [] v' := by
  unfold Session.poll
  split
  · exact ⟨v, h, .idle⟩
  · split
    · exact ⟨v, h, .idle⟩
    · next hp =>
      obtain ⟨rest, hr, hsole⟩ := h.server.poll hp
      refine ⟨_, ?_, .read hr⟩
      refine ⟨h.client, h.calls, h.up, hsole, h.down, ?_⟩
      rw [← h.returned, Session.returned, Session.returned, List.reverse_cons, List.map_append,
        List.flatten_append]
      simp

/-- The client sends bytes. -/
theorem send (h : s.Shows e v) (id : SocketId) (data : Bytes) :
    ∃ v', (s.step (.send id data)).Shows e v' ∧ v.Move e (s.accepts (.send id data)) v' := by
  by_cases hs : id = e.clientId ∧ v.client.status = .connected
  · obtain ⟨rfl, hs⟩ := hs
    obtain ⟨x, hx, hsole, hsent, hresult⟩ := h.client.send hs data s.now
    have hpost := (h.setClient hsole).post_a
      (s.client.send e.clientId data s.now neverRefused).sent
    have haccepts : s.accepts (.send e.clientId data) = data := by
      rw [accepts, hresult]
    rw [haccepts]
    exact ⟨_, ⟨hpost.client, hpost.calls, hpost.up, hpost.server, hpost.down, hpost.returned⟩,
      .send hs hx hsent⟩
  · obtain ⟨err, herr⟩ := h.client.send_of_ne (fun hid hc => hs ⟨hid, hc⟩) data s.now
    have haccepts : s.accepts (.send id data) = [] := by
      rw [accepts, herr]
      rfl
    rw [haccepts, Session.step, herr]
    exact ⟨v, ⟨h.client, h.calls, h.up, h.server, h.down, h.returned⟩, .idle⟩

/-- The client begins to connect, unless it is not closed. -/
theorem connect (h : s.Shows e v) (hs : v.client.status = .closed) (node : NodeId)
    (port : UInt32) :
    ∃ call : Handshake, call.kind = .connect ∧
      call.request = Segment.synOf e.clientPort port v.client.nextSeq ∧
      (s.step (.connect e.clientId node port)).Shows e
        { v with
          client := { v.client with
            serverNode := node
            serverPort := port
            nextSeq := v.client.nextSeq + 1
            status := .synSent }
          calls := v.calls ++ [call] } := by
  unfold Session.step Client.connect
  dsimp only
  rw [h.client.sockets.require_self]
  simp only [bind, Except.bind]
  rw [if_pos hs]
  refine ⟨{ socket := e.clientId, kind := .connect, node
            request := Segment.synOf e.clientPort port v.client.nextSeq }, rfl, rfl, ?_⟩
  exact ⟨h.client.set _, congrArg (· ++ [_]) h.calls, h.up, h.server, h.down, h.returned⟩

/-- The client begins to disconnect. -/
theorem disconnect (h : s.Shows e v) (id : SocketId) :
    ∃ v', (s.begin (s.client.disconnect id)).Shows e v' ∧ v.Move e [] v' := by
  unfold Client.disconnect
  by_cases hid : id = e.clientId
  · subst hid
    rw [h.client.sockets.require_self]
    simp only [bind, Except.bind]
    split
    · next hs =>
      let call : Handshake :=
        { socket := e.clientId, kind := .disconnect, node := v.client.serverNode
          request := Segment.finOf e.clientPort v.client.serverPort v.client.nextSeq }
      refine ⟨_, ?_, .disconnect hs (show call.kind = .disconnect from rfl) rfl⟩
      exact ⟨h.client.set _, congrArg (· ++ [_]) h.calls, h.up, h.server, h.down, h.returned⟩
    · exact ⟨v, ⟨h.client, h.calls, h.up, h.server, h.down, h.returned⟩, .idle⟩
  · rw [h.client.sockets.require_of_ne hid]
    exact ⟨v, ⟨h.client, h.calls, h.up, h.server, h.down, h.returned⟩, .idle⟩

/-- A log of the server with one more answer that is an error. -/
theorem serverLog_error (h : s.Shows e v) (err : Error) :
    Session.Shows { s with serverLog := .error err :: s.serverLog } e v := by
  refine ⟨h.client, h.calls, h.up, h.server, h.down, ?_⟩
  rw [← h.returned, Session.returned, Session.returned, List.reverse_cons, List.map_append,
    List.flatten_append]
  simp [bytesOf]

/-- The server begins to wait for a client. -/
theorem listen (h : s.Shows e v) (id : SocketId) :
    ∃ v', (s.step (.listen id)).Shows e v' ∧ v.Move e [] v' := by
  unfold Session.step
  dsimp only
  split
  · exact ⟨v, h.serverLog_error _, .idle⟩
  · next server call hl =>
    obtain ⟨hs, hsole⟩ := h.server.listen hl
    refine ⟨_, ?_, .listen hs⟩
    exact ⟨h.client, h.calls, h.up, hsole, h.down, h.returned⟩

/-- **Every event is a move**, except for a call that begins to connect. -/
theorem step (h : s.Shows e v) (hup : ∀ g ∈ v.up, g.payload.length ≤ 65535)
    (hdown : ∀ g ∈ v.down, g.payload.length ≤ 65535) (event : Event)
    (hevent : ∀ node port, event ≠ .connect e.clientId node port) :
    ∃ v', (s.step event).Shows e v' ∧ v.Move e (s.accepts event) v' := by
  cases event with
  | pass time => exact ⟨v, ⟨h.client, h.calls, h.up, h.server, h.down, h.returned⟩, .idle⟩
  | connect id node port =>
    have hid : id ≠ e.clientId := fun hid => hevent node port (by rw [hid])
    have herr : s.client.connect id node port = .error (.noSuchSocket id) := by
      unfold Client.connect
      rw [h.client.sockets.require_of_ne hid]
      rfl
    rw [Session.step, herr]
    exact ⟨v, ⟨h.client, h.calls, h.up, h.server, h.down, h.returned⟩, .idle⟩
  | disconnect id => exact h.disconnect id
  | send id data => exact h.send id data
  | advance place => exact h.advance place
  | timer id =>
    obtain ⟨x, hx, hsole, hsent⟩ := h.client.pollTimer id s.now
    exact ⟨_, (h.setClient hsole).post_a _, .timer hx hsent⟩
  | listen id => exact h.listen id
  | receive id length =>
    unfold Session.step
    dsimp only
    split
    · exact ⟨v, h.serverLog_error _, .idle⟩
    · exact ⟨v, ⟨h.client, h.calls, h.up, h.server, h.down, h.returned⟩, .idle⟩
  | poll place => exact h.poll place
  | sweep =>
    obtain ⟨y, hy, hsole⟩ := h.server.sweep s.now
    rcases hy with rfl | ⟨hs, rfl⟩
    · exact ⟨v, h.setServer hsole, .idle⟩
    · exact ⟨_, h.setServer hsole, .sweep hs⟩
  | toClient outcome =>
    obtain ⟨v', hshows, hmove, -⟩ := h.toClient hdown outcome
    exact ⟨v', hshows, hmove⟩
  | toServer outcome => exact h.toServer hup outcome

end Shows

end Session

end OverlayStack.Transport
