import OverlayStack.Proofs.Transport.Scene

/-!
# Events and the calls that they belong to

A client may begin to connect more than once, and what an earlier call has sent can still be on its
way when a later one begins.  Each segment in flight is marked with the number of calls that had
begun when it was sent; an answer has the mark of the segment that it answers.  The marks are not
part of any segment, and neither side sees them.

## Main definitions

* `CallMarks`, `CallMarks.step` — the marks of the segments in flight.
* `Session.marks` — the marks after some events.
* `Scene.Quiet` — what can happen while no message arrives and no connection is begun.
* `Scene.Turn` — what one event does to a scene and to its marks.

## Main results

* `Session.Shows.turn` — every event is a turn.
-/

namespace OverlayStack.Transport

/-- Whether an event is the arrival of a message, or its loss. -/
def Event.arrives : Event → Bool
  | .toClient _ => true
  | .toServer _ => true
  | _ => false

/-! ### Marks -/

/-- For each segment in flight, how many calls to connect had begun when it was sent, or, if it is
an answer, when the segment was sent that it answers. -/
structure CallMarks where
  /-- The number of calls that have begun. -/
  calls : Nat := 0
  /-- Whether no other call waited to connect when the latest one began. -/
  alone : Bool := false
  /-- The marks of the segments on their way to the server. -/
  up : List Nat := []
  /-- The marks of the segments on their way to the client. -/
  down : List Nat := []

/-- The marks after an event in a session. -/
def CallMarks.step (m : CallMarks) (s : Session) (event : Event) : CallMarks :=
  let s' := s.step event
  let sent := s'.link.atB.inbox.length - s.link.atB.inbox.length
  match event with
  | .connect _ _ _ =>
    if s'.handshakes.length = s.handshakes.length then m
    else
      { m with
        calls := m.calls + 1
        alone := decide (∀ call ∈ s.handshakes, call.kind ≠ .connect) }
  | .toServer _ =>
    { m with
      up := m.up.tail
      down := m.down ++ List.replicate (s'.link.atA.inbox.length - s.link.atA.inbox.length)
        (m.up.headD 0) }
  | .toClient _ => { m with up := m.up ++ List.replicate sent m.calls, down := m.down.tail }
  | _ => { m with up := m.up ++ List.replicate sent m.calls }

theorem CallMarks.step_eq {m : CallMarks} {s : Session} {event : Event}
    (h : event.arrives = false) (hconnect : ∀ id node port, event ≠ .connect id node port) :
    m.step s event =
      { m with
        up := m.up ++ List.replicate
          ((s.step event).link.atB.inbox.length - s.link.atB.inbox.length) m.calls } := by
  cases event with
  | connect id node port => exact absurd rfl (hconnect id node port)
  | toClient outcome => cases h
  | toServer outcome => cases h
  | _ => rfl

namespace Session

/-- The marks after some events in a session that begins with given marks. -/
def marksFrom (s : Session) (m : CallMarks) : List Event → CallMarks
  | [] => m
  | event :: events => (s.step event).marksFrom (m.step s event) events

/-- The marks after some events in a session in which nothing is in flight. -/
def marks (s : Session) (events : List Event) : CallMarks :=
  s.marksFrom {} events

theorem marksFrom_append (first second : List Event) :
    ∀ (s : Session) (m : CallMarks), s.marksFrom m (first ++ second) =
      (s.run first).marksFrom (s.marksFrom m first) second := by
  induction first with
  | nil => intro s m; rfl
  | cons event first ih =>
    intro s m
    exact ih (s.step event) (m.step s event)

theorem marks_snoc (s : Session) (events : List Event) (event : Event) :
    s.marks (events ++ [event]) = (s.marks events).step (s.run events) event := by
  rw [marks, marksFrom_append]
  rfl

theorem run_snoc (s : Session) (events : List Event) (event : Event) :
    s.run (events ++ [event]) = (s.run events).step event := by
  rw [run_append, run_cons, run_nil]

/-! ### What happens to the link -/

/-- While no message arrives, the client may put segments on the link, and that is all. -/
theorem link_step (s : Session) {event : Event} (h : event.arrives = false) :
    ∃ sent : Outgoing, (s.step event).link = sent.foldl (fun l e => l.post .a e.2) s.link := by
  cases event with
  | pass time => exact ⟨[], rfl⟩
  | connect id node port =>
    refine ⟨[], ?_⟩
    unfold step begin
    dsimp only
    split <;> rfl
  | disconnect id =>
    refine ⟨[], ?_⟩
    unfold step begin
    dsimp only
    split <;> rfl
  | send id data => exact ⟨_, rfl⟩
  | advance place =>
    unfold step advance
    dsimp only
    split
    · exact ⟨[], rfl⟩
    · split
      · exact ⟨_, rfl⟩
      · exact ⟨_, rfl⟩
  | timer id => exact ⟨_, rfl⟩
  | listen id =>
    refine ⟨[], ?_⟩
    unfold step
    dsimp only
    split <;> rfl
  | receive id length =>
    refine ⟨[], ?_⟩
    unfold step
    dsimp only
    split <;> rfl
  | poll place =>
    refine ⟨[], ?_⟩
    unfold step poll
    dsimp only
    split
    · rfl
    · split <;> rfl
  | sweep => exact ⟨[], rfl⟩
  | toClient outcome => cases h
  | toServer outcome => cases h

theorem length_inbox_step (s : Session) {event : Event} (h : event.arrives = false) :
    s.link.atB.inbox.length ≤ (s.step event).link.atB.inbox.length ∧
      (s.step event).link.atA.inbox.length = s.link.atA.inbox.length := by
  obtain ⟨sent, hlink⟩ := s.link_step h
  obtain ⟨hfar, hnear⟩ := endAt_foldl_post .a sent s.link
  rw [← hlink] at hfar hnear
  have hB := congrArg (fun e => e.inbox.length) hfar
  have hA := congrArg (fun e => e.inbox.length) hnear
  rw [List.length_append] at hB
  exact ⟨Nat.le.intro hB.symm, hA⟩

/-- All messages on their way to the server come from the client's node. -/
def Sourced (s : Session) : Prop :=
  ∀ m ∈ s.link.atB.inbox, m.1 = s.link.atA.node

theorem Sourced.foldl_post {s s' : Session} (h : s.Sourced) {sent : Outgoing}
    (hlink : s'.link = sent.foldl (fun l e => l.post .a e.2) s.link) :
    s'.Sourced ∧ s'.link.atA.node = s.link.atA.node := by
  obtain ⟨hfar, hnear⟩ := endAt_foldl_post .a sent s.link
  have hB : s'.link.atB.inbox =
      s.link.atB.inbox ++ sent.map fun e => (s.link.atA.node, e.2.wire) := by
    rw [hlink]
    exact congrArg LoopbackEnd.inbox hfar
  have hA : s'.link.atA = s.link.atA := by
    rw [hlink]
    exact hnear
  refine ⟨?_, by rw [hA]⟩
  intro m hm
  rw [hB] at hm
  rw [hA]
  rcases List.mem_append.1 hm with hm | hm
  · exact h m hm
  · obtain ⟨_, -, rfl⟩ := List.mem_map.1 hm
    rfl

/-- The session without the first message for the server, or without one for the client. -/
theorem sourced_arrival {s : Session} (h : s.Sourced) (side : Side) (outcome : Outcome) :
    (s.arrival side outcome).2.Sourced ∧
      (s.arrival side outcome).2.link.atA.node = s.link.atA.node := by
  unfold arrival
  dsimp only
  split
  · exact ⟨h, rfl⟩
  · next source bs inbox hin =>
    cases side with
    | a => exact ⟨h, rfl⟩
    | b =>
      refine ⟨?_, rfl⟩
      intro m hm
      apply h m
      rw [show s.link.atB.inbox = _ from hin]
      exact List.mem_cons_of_mem _ hm

theorem Sourced.toClient {s : Session} (h : s.Sourced) (outcome : Outcome) :
    (s.step (.toClient outcome)).Sourced ∧
      (s.step (.toClient outcome)).link.atA.node = s.link.atA.node := by
  obtain ⟨hpop, hnode⟩ := sourced_arrival h .a outcome
  unfold Session.step
  dsimp only
  split
  · next s' heq =>
    rw [heq] at hpop hnode
    exact ⟨hpop, hnode⟩
  · next _ g s' heq =>
    rw [heq] at hpop hnode
    let after := s'.afterClient (s'.client.handle g s'.now neverRefused)
    obtain ⟨hpost, hnode'⟩ : after.Sourced ∧ after.link.atA.node = s'.link.atA.node :=
      hpop.foldl_post rfl
    exact ⟨hpost, hnode'.trans hnode⟩

theorem Sourced.toServer {s : Session} (h : s.Sourced) (outcome : Outcome) :
    (s.step (.toServer outcome)).Sourced ∧
      (s.step (.toServer outcome)).link.atA.node = s.link.atA.node := by
  obtain ⟨hpop, hnode⟩ := sourced_arrival h .b outcome
  unfold Session.step
  dsimp only
  split
  · next s' heq =>
    rw [heq] at hpop hnode
    exact ⟨hpop, hnode⟩
  · next source g s' heq =>
    rw [heq] at hpop hnode
    -- answers go the other way
    obtain ⟨hfar, hnear⟩ := endAt_foldl_post .b
      (s'.server.handle source g s'.now neverRefused).sent s'.link
    have hnode' := congrArg LoopbackEnd.node hfar
    have hinbox := congrArg LoopbackEnd.inbox hnear
    refine ⟨?_, hnode'.trans hnode⟩
    intro m hm
    have hmem : m ∈ s'.link.atB.inbox := by
      rw [← show _ = s'.link.atB.inbox from hinbox]
      exact hm
    exact (hpop m hmem).trans hnode'.symm

theorem Sourced.step {s : Session} (h : s.Sourced) (event : Event) :
    (s.step event).Sourced ∧ (s.step event).link.atA.node = s.link.atA.node := by
  cases harr : event.arrives with
  | false =>
    obtain ⟨sent, hlink⟩ := s.link_step harr
    exact h.foldl_post hlink
  | true =>
    cases event with
    | toClient outcome => exact h.toClient outcome
    | toServer outcome => exact h.toServer outcome
    | _ => cases harr

end Session

/-! ### Moves without messages -/

theorem HandshakeKind.eq_connect {kind : HandshakeKind} (h : Status.synSent = kind.waitingStatus) :
    kind = .connect := by
  cases kind with
  | connect => rfl
  | disconnect => cases h

/-- The connection belongs to a port of a node, and the next byte has a given position. -/
structure ServerConnection.Serves (y : ServerConnection) (node : NodeId) (port seq : UInt32) :
    Prop where
  status_eq : y.status = .connected
  node_eq : y.clientNode = node
  port_eq : y.clientPort = port
  expected_eq : y.expected = seq

namespace Scene

variable {e : Ends} {v v' : Scene} {sent : List Segment}

/-- No message arrives and no connection is begun.  The client sends some segments; as long as it
waits for a connection, these are requests of calls that connect. -/
structure Quiet (v : Scene) (sent : List Segment) (v' : Scene) : Prop where
  up_eq : v'.up = v.up ++ sent
  down_eq : v'.down = v.down
  serves : ∀ node port seq, v.server.Serves node port seq → v'.server.Serves node port seq
  calls : ∀ call' ∈ v'.calls, call'.kind = .connect →
    ∃ call ∈ v.calls, call.kind = .connect ∧ call.request = call'.request
  waiting : v'.client.status = .synSent →
    v.client.status = .synSent ∧ v'.client.nextSeq = v.client.nextSeq
  connected : v'.client.status = .connected → v.client.status = .connected
  closed : v.client.status = .closed → v'.client.status = .closed ∧ sent = []
  requests : v.client.status = .synSent → ∀ g ∈ sent,
    ∃ call ∈ v.calls, call.kind = .connect ∧ g = call.request

theorem Quiet.refl (v : Scene) : v.Quiet [] v where
  up_eq := (List.append_nil _).symm
  down_eq := rfl
  serves := fun _ _ _ h => h
  calls := fun call hcall hk => ⟨call, hcall, hk, rfl⟩
  waiting := fun hs => ⟨hs, rfl⟩
  connected := id
  closed := fun hs => ⟨hs, rfl⟩
  requests := fun _ _ hg => absurd hg List.not_mem_nil

/-- The client of a connection sends something. -/
theorem Quiet.of_connected {x : ClientConnection} (hs : v.client.status = .connected)
    (hx : x.status = .connected) (sent : List Segment) :
    v.Quiet sent { v with client := x, up := v.up ++ sent } where
  up_eq := rfl
  down_eq := rfl
  serves := fun _ _ _ h => h
  calls := fun call hcall hk => ⟨call, hcall, hk, rfl⟩
  waiting := fun hs' => by
    rw [show x.status = _ from hs'] at hx
    cases hx
  connected := fun _ => hs
  closed := fun hs' => by
    rw [hs'] at hs
    cases hs
  requests := fun hs' => by
    rw [hs'] at hs
    cases hs

/-- The server does something while no message arrives. -/
theorem Quiet.of_server {y : ServerConnection} {returned : Bytes}
    (hy : ∀ node port seq, v.server.Serves node port seq → y.Serves node port seq) :
    v.Quiet [] { v with server := y, returned } :=
  { Quiet.refl v with serves := hy }

/-- What a call sends that waits. -/
theorem mem_requests {calls : List Handshake} {call : Handshake} {status : Status} {k : Nat}
    (hcall : call ∈ calls) (hk : k = 0 ∨ status = call.kind.waitingStatus) :
    (status = .closed → List.replicate k call.request = []) ∧
      (status = .synSent → ∀ g ∈ List.replicate k call.request,
        ∃ call ∈ calls, call.kind = .connect ∧ g = call.request) := by
  rcases hk with rfl | hk
  · exact ⟨fun _ => rfl, fun _ _ hg => absurd hg List.not_mem_nil⟩
  · constructor
    · intro hs
      cases hkind : call.kind <;> rw [hkind, hs] at hk <;> cases hk
    · intro hs g hg
      rw [hs] at hk
      exact ⟨call, hcall, HandshakeKind.eq_connect hk, (List.mem_replicate.1 hg).2⟩

/-- A timer sends nothing, or there is a connection. -/
theorem Quiet.of_timer {x : ClientConnection} (hx : v.client.SameStream x)
    (hsent : ∀ g ∈ sent, v.client.status = .connected ∧ g ∈ v.client.buffer.segments) :
    v.Quiet sent { v with client := x, up := v.up ++ sent } := by
  cases sent with
  | nil =>
    exact { Quiet.refl v with
      up_eq := rfl
      waiting := fun hs => ⟨hx.status_eq ▸ hs, hx.nextSeq_eq⟩
      connected := fun hs => hx.status_eq ▸ hs
      closed := fun hs => ⟨hx.status_eq.trans hs, rfl⟩ }
  | cons g sent =>
    have hs := (hsent g List.mem_cons_self).1
    exact .of_connected hs (hx.status_eq.trans hs) _

theorem Quiet.of_disconnect {x : ClientConnection} {call : Handshake}
    (hs : v.client.status = .connected) (hx : x.status = .finWait) (hk : call.kind = .disconnect) :
    v.Quiet [] { v with client := x, calls := v.calls ++ [call] } := by
  refine { Quiet.refl v with calls := ?_, waiting := ?_, connected := ?_, closed := ?_ }
  · intro c hmem hk'
    rcases List.mem_append.1 hmem with hmem | hmem
    · exact ⟨c, hmem, hk', rfl⟩
    · rw [List.mem_singleton.1 hmem, hk] at hk'
      cases hk'
  · intro hs'
    rw [show x.status = _ from hs'] at hx
    cases hx
  · intro hs'
    rw [show x.status = _ from hs'] at hx
    cases hx
  · intro hs'
    rw [hs'] at hs
    cases hs

/-- A call goes on to wait. -/
theorem Quiet.of_attempt {place : Nat} {call call' : Handshake} {k : Nat}
    (hc : v.calls[place]? = some call) (hk : k = 0 ∨ v.client.status = call.kind.waitingStatus)
    (hkind : call'.kind = call.kind) (hreq : call'.request = call.request) :
    v.Quiet (List.replicate k call.request)
      { v with
        calls := v.calls.set place call'
        up := v.up ++ List.replicate k call.request } := by
  have hcall : call ∈ v.calls := List.mem_of_getElem? hc
  obtain ⟨hnone, hrequests⟩ := mem_requests hcall hk
  refine { Quiet.refl v with
    up_eq := rfl
    calls := ?_
    closed := fun hs => ⟨hs, hnone hs⟩
    requests := hrequests }
  intro c hmem hk'
  rcases List.mem_or_eq_of_mem_set hmem with hmem | rfl
  · exact ⟨c, hmem, hk', rfl⟩
  · exact ⟨call, hcall, hkind ▸ hk', hreq.symm⟩

/-- A call returns. -/
theorem Quiet.of_finish {place : Nat} {call : Handshake} {k : Nat} {x : ClientConnection}
    (hc : v.calls[place]? = some call) (hk : k = 0 ∨ v.client.status = call.kind.waitingStatus)
    (hx : x = v.client ∨ x.status = .closed) :
    v.Quiet (List.replicate k call.request)
      { v with
        client := x
        calls := v.calls.eraseIdx place
        up := v.up ++ List.replicate k call.request } := by
  obtain ⟨hnone, hrequests⟩ := mem_requests (List.mem_of_getElem? hc) hk
  have hcalls : ∀ c ∈ v.calls.eraseIdx place, c.kind = .connect →
      ∃ call ∈ v.calls, call.kind = .connect ∧ call.request = c.request :=
    fun c hmem hk' => ⟨c, List.mem_of_mem_eraseIdx hmem, hk', rfl⟩
  rcases hx with rfl | hx
  · exact { Quiet.refl v with
      up_eq := rfl
      calls := hcalls
      closed := fun hs => ⟨hs, hnone hs⟩
      requests := hrequests }
  · refine { Quiet.refl v with
      up_eq := rfl
      calls := hcalls
      waiting := ?_
      connected := ?_
      closed := fun hs => ⟨hx, hnone hs⟩
      requests := hrequests }
    · intro hs
      rw [show x.status = _ from hs] at hx
      cases hx
    · intro hs
      rw [show x.status = _ from hs] at hx
      cases hx

/-- A move is quiet if nothing is taken from the link and nothing gets on its way to the client. -/
theorem Move.quiet {data : Bytes} (h : v.Move e data v') (hup : v.up.length ≤ v'.up.length)
    (hdown : v'.down.length = v.down.length) : ∃ sent, v.Quiet sent v' := by
  cases h with
  | idle => exact ⟨[], .refl v⟩
  | timer hx hsent => exact ⟨_, .of_timer hx hsent⟩
  | send hs hx => exact ⟨_, .of_connected hs (hx.status_eq.trans hs) _⟩
  | disconnect hs hk => exact ⟨[], .of_disconnect hs rfl hk⟩
  | attempt hc hk hkind hreq => exact ⟨_, .of_attempt hc hk hkind hreq⟩
  | finish hc hk hx => exact ⟨_, .of_finish hc hk (hx.imp_right And.left)⟩
  | toClient hd hx =>
    rw [hd, List.length_cons] at hdown
    exact absurd hdown.symm (Nat.succ_ne_self _)
  | toServer hu hy =>
    rw [hu, List.length_cons] at hup
    exact absurd hup (Nat.not_succ_le_self _)
  | listen hs =>
    refine ⟨[], .of_server ?_⟩
    intro node port seq hy
    rw [hy.status_eq] at hs
    cases hs
  | read hr => exact ⟨[], .of_server fun _ _ _ hy => ⟨hy.1, hy.2, hy.3, hy.4⟩⟩
  | sweep hs =>
    refine ⟨[], .of_server ?_⟩
    intro node port seq hy
    rw [hy.status_eq] at hs
    cases hs

/-! ### Turns -/

/-- What one event does to a scene and to the marks of the segments in flight. -/
inductive Turn (e : Ends) (node : NodeId) (v : Scene) (m : CallMarks) :
    Event → Scene → CallMarks → Prop where
  /-- A call begins to connect. -/
  | begun (server : NodeId) {port : UInt32} {call : Handshake} (hs : v.client.status = .closed)
      (hk : call.kind = .connect)
      (hr : call.request = Segment.synOf e.clientPort port v.client.nextSeq) :
      Turn e node v m (.connect e.clientId server port)
        { v with
          client := { v.client with
            serverNode := server
            serverPort := port
            nextSeq := v.client.nextSeq + 1
            status := .synSent }
          calls := v.calls ++ [call] }
        { m with
          calls := m.calls + 1
          alone := decide (∀ call ∈ v.calls, call.kind ≠ .connect) }
  /-- The next segment reaches the client or is lost. -/
  | toClient (outcome : Outcome) {g : Segment} {rest sent : List Segment} {x : ClientConnection}
      (hd : v.down = g :: rest) (hx : v.client.Heeds g x sent) :
      Turn e node v m (.toClient outcome)
        { v with client := x, up := v.up ++ sent, down := rest }
        { m with up := m.up ++ List.replicate sent.length m.calls, down := m.down.tail }
  /-- The next segment reaches the server or is lost. -/
  | toServer (outcome : Outcome) {g : Segment} {rest sent : List Segment} {y : ServerConnection}
      (hu : v.up = g :: rest)
      (hy : v.server.Heeds e.serverSettings.receiveCapacity node g y sent) :
      Turn e node v m (.toServer outcome)
        { v with up := rest, server := y, down := v.down ++ sent }
        { m with
          up := m.up.tail
          down := m.down ++ List.replicate sent.length (m.up.headD 0) }
  /-- No message arrives and no connection is begun. -/
  | quiet {event : Event} {data : Bytes} {sent : List Segment} {v' : Scene}
      (hmove : v.Move e data v') (hq : v.Quiet sent v') :
      Turn e node v m event v' { m with up := m.up ++ List.replicate sent.length m.calls }

end Scene

namespace Session

variable {s : Session} {e : Ends} {v : Scene} {m : CallMarks}

namespace Shows

/-- Connecting fails, except for the socket of the client when it is closed. -/
theorem connect_of_ne (h : s.Shows e v) {id : SocketId}
    (hs : id = e.clientId → v.client.status ≠ .closed) (node : NodeId) (port : UInt32) :
    ∃ err, s.client.connect id node port = .error err := by
  unfold Client.connect
  by_cases hid : id = e.clientId
  · subst hid
    rw [h.client.sockets.require_self]
    simp only [bind, Except.bind]
    rw [if_neg (hs rfl)]
    exact ⟨_, rfl⟩
  · rw [h.client.sockets.require_of_ne hid]
    exact ⟨_, rfl⟩

/-- Nothing happens. -/
theorem turn_idle {event : Event} (h : (s.step event).Shows e v) (hm : m.step s event = m)
    (node : NodeId) : ∃ v', (s.step event).Shows e v' ∧
      v.Turn e node m event v' (m.step s event) := by
  refine ⟨v, h, ?_⟩
  rw [hm]
  have hturn : v.Turn e node m event v
      { m with up := m.up ++ List.replicate ([] : List Segment).length m.calls } :=
    .quiet .idle (.refl v)
  rwa [List.length_nil, List.replicate_zero, List.append_nil] at hturn

theorem turn_toClient (h : s.Shows e v) (hfit : ∀ g ∈ v.down, g.payload.length ≤ 65535)
    (hdown : m.down.length = v.down.length) (outcome : Outcome) (node : NodeId) :
    ∃ v', (s.step (.toClient outcome)).Shows e v' ∧
      v.Turn e node m (.toClient outcome) v' (m.step s (.toClient outcome)) := by
  rcases h.toClient_cases hfit outcome with ⟨hd, hstep⟩ | ⟨g, rest, x, sent, hd, hx, hshows⟩
  · rw [hd, List.length_nil, List.length_eq_zero_iff] at hdown
    have htail : m.down.tail = m.down := by
      rw [hdown]
      rfl
    refine turn_idle (by rwa [hstep]) ?_ node
    simp only [CallMarks.step, hstep, Nat.sub_self, List.replicate_zero, List.append_nil, htail]
  · have hsent := hshows.length_up
    rw [List.length_append, ← h.length_up] at hsent
    refine ⟨_, hshows, ?_⟩
    simp only [CallMarks.step, hsent, Nat.add_sub_cancel_left]
    exact .toClient outcome hd hx

theorem turn_toServer (h : s.Shows e v) (hsource : s.Sourced)
    (hfit : ∀ g ∈ v.up, g.payload.length ≤ 65535) (hup : m.up.length = v.up.length)
    (outcome : Outcome) :
    ∃ v', (s.step (.toServer outcome)).Shows e v' ∧
      v.Turn e s.link.atA.node m (.toServer outcome) v' (m.step s (.toServer outcome)) := by
  rcases h.toServer_cases hfit outcome with
    ⟨hu, hstep⟩ | ⟨source, g, rest, y, sent, hu, hmem, hy, hshows⟩
  · rw [hu, List.length_nil, List.length_eq_zero_iff] at hup
    have htail : m.up.tail = m.up := by
      rw [hup]
      rfl
    refine turn_idle (by rwa [hstep]) ?_ _
    simp only [CallMarks.step, hstep, Nat.sub_self, List.replicate_zero, List.append_nil, htail]
  · obtain rfl : source = s.link.atA.node := hsource _ hmem
    have hsent := hshows.length_down
    rw [List.length_append, ← h.length_down] at hsent
    refine ⟨_, hshows, ?_⟩
    simp only [CallMarks.step, hsent, Nat.add_sub_cancel_left]
    exact .toServer outcome hu hy

theorem turn_connect (h : s.Shows e v) (id : SocketId) (server node : NodeId) (port : UInt32) :
    ∃ v', (s.step (.connect id server port)).Shows e v' ∧
      v.Turn e node m (.connect id server port) v' (m.step s (.connect id server port)) := by
  by_cases hs : id = e.clientId ∧ v.client.status = .closed
  · obtain ⟨rfl, hs⟩ := hs
    obtain ⟨call, hk, hr, hshows⟩ := h.connect hs server port
    refine ⟨_, hshows, ?_⟩
    have hlen : (s.step (.connect e.clientId server port)).handshakes.length ≠
        s.handshakes.length := by
      rw [hshows.calls, h.calls, List.length_append, List.length_singleton]
      exact Nat.succ_ne_self _
    rw [CallMarks.step, if_neg hlen, h.calls]
    exact .begun server hs hk hr
  · obtain ⟨err, herr⟩ := h.connect_of_ne (fun hid hc => hs ⟨hid, hc⟩) server port
    have hstep : s.step (.connect id server port) =
        { s with clientLog := .error err :: s.clientLog } := by
      rw [Session.step, herr]
      rfl
    refine turn_idle ?_ ?_ node
    · rw [hstep]
      exact ⟨h.client, h.calls, h.up, h.server, h.down, h.returned⟩
    · rw [CallMarks.step, hstep, if_pos rfl]

/-- **Every event is a turn.** -/
theorem turn (h : s.Shows e v) (hsource : s.Sourced) (hfit : ∀ g ∈ v.up, g.payload.length ≤ 65535)
    (hfit' : ∀ g ∈ v.down, g.payload.length ≤ 65535) (hup : m.up.length = v.up.length)
    (hdown : m.down.length = v.down.length) (event : Event) :
    ∃ v', (s.step event).Shows e v' ∧
      v.Turn e s.link.atA.node m event v' (m.step s event) := by
  cases harr : event.arrives with
  | true =>
    cases event with
    | toClient outcome => exact h.turn_toClient hfit' hdown outcome _
    | toServer outcome => exact h.turn_toServer hsource hfit hup outcome
    | _ => cases harr
  | false =>
    by_cases hconnect : ∃ id server port, event = .connect id server port
    · obtain ⟨id, server, port, rfl⟩ := hconnect
      exact h.turn_connect id server _ port
    · have hevent : ∀ server port, event ≠ .connect e.clientId server port :=
        fun server port heq => hconnect ⟨_, server, port, heq⟩
      obtain ⟨v', hshows, hmove⟩ := h.step hfit hfit' event hevent
      obtain ⟨hup', hdown'⟩ := length_inbox_step s harr
      rw [h.length_up, hshows.length_up] at hup'
      rw [h.length_down, hshows.length_down] at hdown'
      obtain ⟨sent, hq⟩ := hmove.quiet hup' hdown'
      refine ⟨v', hshows, ?_⟩
      rw [CallMarks.step_eq harr fun id server port heq => hconnect ⟨id, server, port, heq⟩,
        hshows.length_up, h.length_up, hq.up_eq, List.length_append, Nat.add_sub_cancel_left]
      exact .quiet hmove hq

end Shows

end Session

end OverlayStack.Transport
