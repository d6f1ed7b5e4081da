import OverlayStack.Proofs.Transport.Attempts
import OverlayStack.Proofs.Transport.StreamSafety

/-!
# What a connected client and its server agree on

A client with one socket connects as often as it likes to a server with one socket, over a link that
loses and damages messages.  Whenever a call to connect succeeds, the server has had a connection
with the client, and has expected the number that it granted.  The client does not look at this
number, so that the answer to a call that has timed out can make a later call succeed; the server
may then expect another number than the next one of the client.  If the call that succeeds began
while no other one waited, and the answer belongs to it, then both sides agree.

## Main definitions

* `Session.Serves` — the server has a connection with the client.
* `Session.Granted` — the moment at which a connection begins.
* `Session.Follows` — the invariant of a run.
* `Session.Since` — a connection that has lasted since it began.

## Main results

* `Session.Follows.snoc` — the invariant is kept.
* `Session.connect_agrees` — what a call that succeeds says about the server.
-/

namespace OverlayStack.Transport

/-! ### Calls that succeed -/

/-- A call to connect succeeds only if there is a connection. -/
theorem Client.Sole.connected_of_advanceFrom {c : Client} {settings : Settings} {id : SocketId}
    {port : UInt32} {x : ClientConnection} (h : c.Sole settings id port x) {call : Handshake}
    {now n : Nat} (hk : call.kind = .connect)
    (hok : (c.advanceFrom call now neverRefused n).state = .finished (.ok ())) :
    x.status = .connected := by
  induction call, n using Client.advanceFrom.induct c now neverRefused with
  | case1 call n hw htime hmax c' result hfinish =>
    -- the attempts are used up
    rw [Client.advanceFrom, if_pos hw, if_pos htime, dif_pos hmax, hfinish] at hok
    rw [Client.finish, hk] at hfinish
    cases hfinish
    cases hok
  | case2 call n hw htime hmax e hrefuse => cases hrefuse
  | case3 call n hw htime hmax hrefuse ih =>
    rw [Client.advanceFrom, if_pos hw, if_pos htime, dif_neg hmax, hrefuse] at hok
    exact ih hk hok
  | case4 call n hw htime =>
    rw [Client.advanceFrom, if_pos hw, if_neg htime] at hok
    cases hok
  | case5 call n hw c' result hfinish =>
    rw [Client.advanceFrom, if_neg hw, hfinish] at hok
    rw [Client.finish, hk] at hfinish
    dsimp only at hfinish
    rw [if_neg Bool.false_ne_true] at hfinish
    split at hfinish
    · next hs =>
      unfold Client.connectionOf at hs
      rw [h.sockets] at hs
      split at hs
      · exact hs
      · cases hs
    · cases hfinish
      cases hok

namespace Session

/-- The server has a connection with the client, and the next byte has a given position. -/
def Serves (s : Session) (e : Ends) (seq : UInt32) : Prop :=
  ∃ y, s.server.sockets.socket? e.serverId = some ⟨e.serverPort, y⟩ ∧
    y.Serves s.link.atA.node e.clientPort seq

/-- A connection begins when a message arrives for a socket that waits.  The message grants a
connection that the server has had. -/
structure Granted (s : Session) (e : Ends) (before : List Event) (outcome : Outcome)
    (x : ClientConnection) : Prop where
  waiting : (s.run before).client.sockets.socket? e.clientId = some ⟨e.clientPort, x⟩ ∧
    x.status = .synSent
  connected : (s.run (before ++ [.toClient outcome])).client.sockets.socket? e.clientId =
    some ⟨e.clientPort, { x with status := .connected }⟩
  offered : ∃ (g : Segment) (first : List Event),
    (s.run before).link.atA.inbox.head?.map (·.2) = some g.wire ∧ g.kind = .synAck ∧
      first <+: before ∧ (s.run first).Serves e g.ack

/-- What holds after some events, however often the client has connected. -/
structure Follows (s : Session) (e : Ends) (events : List Event) (v : Scene) : Prop where
  shows : (s.run events).Shows e v
  sourced : (s.run events).Sourced
  node_eq : (s.run events).link.atA.node = s.link.atA.node
  traffic : v.Traffic e.clientPort
  marked : v.Marked (s.marks events)
  offered : ∀ g ∈ v.down, g.kind = .synAck →
    ∃ first, first <+: events ∧ (s.run first).Serves e g.ack
  asks : (s.marks events).alone = true → v.client.status = .synSent →
    ∃ port seq, v.Asks e s.link.atA.node port seq (s.marks events)

variable {s : Session} {e : Ends} {seq : UInt32} {events before : List Event} {event : Event}
  {v v' : Scene}

namespace Shows

theorem socket?_client (h : s.Shows e v) :
    s.client.sockets.socket? e.clientId = some ⟨e.clientPort, v.client⟩ :=
  (Tracks.socket?_eq h).1

theorem status_client (h : s.Shows e v) : s.client.status e.clientId = .ok v.client.status := by
  unfold Client.status
  rw [h.client.sockets.require_self]
  rfl

theorem serves (h : s.Shows e v) {node : NodeId} (hnode : s.link.atA.node = node)
    (hy : v.server.Serves node e.clientPort seq) : s.Serves e seq :=
  ⟨v.server, (Tracks.socket?_eq h).2, hnode ▸ hy⟩

/-- A call to connect succeeds only if there is a connection. -/
theorem connected_of_advance (h : s.Shows e v) {place : Nat} {call : Handshake}
    (hcall : s.handshakes[place]? = some call) (hk : call.kind = .connect)
    (hok : (s.step (.advance place)).clientLog = .ok () :: s.clientLog) :
    v.client.status = .connected := by
  rw [Session.step, Session.advance, hcall] at hok
  dsimp only at hok
  split at hok
  -- a call that goes on to wait returns nothing
  · exact absurd hok.symm (List.cons_ne_self _ _)
  · next result hstate =>
    obtain ⟨rfl, -⟩ := List.cons.inj hok
    exact h.client.connected_of_advanceFrom hk hstate

end Shows

/-! ### Runs -/

namespace Follows

/-- **Every event keeps the invariant**, and is a turn. -/
theorem snoc (h : s.Follows e events v)
    (hmax : 0 < e.clientSettings.maxSegment ∧ e.clientSettings.maxSegment ≤ 65535)
    (event : Event) :
    ∃ v', s.Follows e (events ++ [event]) v' ∧
      v.Turn e s.link.atA.node (s.marks events) event v' (s.marks (events ++ [event])) := by
  obtain ⟨v', hshows, hturn⟩ := h.shows.turn h.sourced (fun g hg => (h.traffic.up g hg).length_le)
    h.traffic.down h.marked.length_up h.marked.length_down event
  rw [h.node_eq, ← marks_snoc] at hturn
  rw [← run_snoc] at hshows
  obtain ⟨hsourced, hnode⟩ := h.sourced.step event
  rw [← run_snoc] at hsourced hnode
  have hnode' := hnode.trans h.node_eq
  refine ⟨v', ⟨hshows, hsourced, hnode', h.traffic.turn hturn hmax, h.marked.turn hturn, ?_,
    Scene.Asks.turn h.asks h.marked hturn⟩, hturn⟩
  intro g hg hk
  rcases hturn.offered h.traffic g hg hk with hg | hserves
  · obtain ⟨first, hfirst, hserves⟩ := h.offered g hg hk
    exact ⟨first, hfirst.trans (List.prefix_append _ _), hserves⟩
  · exact ⟨_, List.prefix_rfl, hshows.serves hnode' hserves⟩

/-- The answer to a single call comes from a server that has the connection. -/
theorem serves_of_mark (h : s.Follows e events v) (halone : (s.marks events).alone = true)
    (hs : v.client.status = .synSent)
    (hmark : (s.marks events).down.head? = some (s.marks events).calls) :
    v.server.Serves s.link.atA.node e.clientPort v.client.nextSeq := by
  obtain ⟨port, seq, hasks⟩ := h.asks halone hs
  rw [hasks.nextSeq_eq]
  exact hasks.down (List.mem_of_mem_head? hmark)

end Follows

/-- The invariant holds after all events. -/
theorem Begins.follows (h : s.Begins e seq) (events : List Event) : ∃ v, s.Follows e events v := by
  induction events using List.reverseRecOn with
  | nil =>
    refine ⟨_, h.shows, ?_, rfl, ?_, ?_, ?_, ?_⟩
    · obtain ⟨_, _, hs⟩ := h.rest
      rw [hs]
      exact fun m hm => absurd hm List.not_mem_nil
    · exact ⟨nofun, nofun, nofun, nofun⟩
    · exact ⟨rfl, rfl, .nil, nofun, fun _ => ⟨rfl, nofun⟩, nofun⟩
    · exact fun g hg => absurd hg List.not_mem_nil
    · exact nofun
  | append_singleton events event ih =>
    obtain ⟨v, hv⟩ := ih
    obtain ⟨v', hv', -⟩ := hv.snoc h.maxSegment event
    exact ⟨v', hv'⟩

/-! ### Connections -/

/-- The connection that there is after some events began with one of them and has lasted since.  The
calls to connect that have not returned are those that waited when it began. -/
structure Since (s : Session) (e : Ends) (events before : List Event) (outcome : Outcome)
    (after : List Event) (x : ClientConnection) : Prop where
  events_eq : events = before ++ .toClient outcome :: after
  granted : s.Granted e before outcome x
  connected : ∀ part, part <+: after →
    (s.run (before ++ .toClient outcome :: part)).client.status e.clientId = .ok .connected
  calls : (s.marks before).alone = true → ∀ call ∈ (s.run events).handshakes,
    call.kind = .connect → x.nextSeq = call.request.seq + 1

variable {outcome : Outcome} {after : List Event} {x : ClientConnection}

/-- The connection lasts for one more event. -/
theorem Since.snoc (h : s.Since e events before outcome after x)
    (hs : (s.run (events ++ [event])).client.status e.clientId = .ok .connected)
    (hcalls : ∀ call' ∈ (s.run (events ++ [event])).handshakes, call'.kind = .connect →
      ∃ call ∈ (s.run events).handshakes,
        call.kind = .connect ∧ call.request = call'.request) :
    s.Since e (events ++ [event]) before outcome (after ++ [event]) x := by
  obtain ⟨rfl, hgranted, hsince, hnumber⟩ := h
  refine ⟨by simp, hgranted, ?_, ?_⟩
  · intro part hpart
    rcases List.prefix_concat_iff.1 hpart with rfl | hpart
    · rwa [List.append_assoc] at hs
    · exact hsince part hpart
  · intro halone call' hcall' hk
    obtain ⟨call, hcall, hk', hsame⟩ := hcalls call' hcall' hk
    rw [← hsame]
    exact hnumber halone call hcall hk'

/-- The connection begins with the last event. -/
theorem Follows.since (h : s.Follows e events v)
    (h' : s.Follows e (events ++ [.toClient outcome]) v') {g : Segment} {rest : List Segment}
    (hd : v.down = g :: rest) (hk : g.kind = .synAck) (hs : v.client.status = .synSent)
    (hclient : v'.client = { v.client with status := .connected })
    (hcalls : ∀ call' ∈ (s.run (events ++ [.toClient outcome])).handshakes,
      call'.kind = .connect → ∃ call ∈ (s.run events).handshakes,
        call.kind = .connect ∧ call.request = call'.request) :
    s.Since e (events ++ [.toClient outcome]) events outcome [] v.client := by
  refine ⟨rfl, ⟨⟨h.shows.socket?_client, hs⟩, ?_, g, ?_⟩, ?_, ?_⟩
  · rw [h'.shows.socket?_client, hclient]
  · obtain ⟨first, hfirst, hserves⟩ := h.offered g (hd ▸ List.mem_cons_self) hk
    refine ⟨first, ?_, hk, hfirst, hserves⟩
    rw [← List.head?_map, h.shows.down, hd]
    rfl
  · intro part hpart
    obtain rfl := List.prefix_nil.1 hpart
    rw [h'.shows.status_client, hclient]
  · intro halone call' hcall' hk'
    obtain ⟨call, hcall, hk', hsame⟩ := hcalls call' hcall' hk'
    obtain ⟨port, number, hasks⟩ := h.asks halone hs
    rw [← hsame, hasks.calls call (h.shows.calls ▸ hcall) hk', hasks.nextSeq_eq]
    rfl

/-- There is a connection only after it was granted. -/
theorem Begins.exists_since (h : s.Begins e seq) (events : List Event) :
    (s.run events).client.status e.clientId = .ok .connected →
      ∃ before outcome after x, s.Since e events before outcome after x := by
  induction events using List.reverseRecOn with
  | nil =>
    intro hs
    rw [run_nil, h.shows.status_client] at hs
    cases hs
  | append_singleton events event ih =>
    intro hs
    obtain ⟨v, hv⟩ := h.follows events
    obtain ⟨v', hv', hturn⟩ := hv.snoc h.maxSegment event
    have hcalls := hturn.calls_subset
    rw [← hv.shows.calls, ← hv'.shows.calls] at hcalls
    have hconnected := hs
    rw [hv'.shows.status_client] at hconnected
    rcases hturn.granted (Except.ok.inj hconnected) with
      hold | ⟨outcome, g, rest, rfl, hd, hk, hwait, hclient, -⟩
    -- there has been a connection before
    · obtain ⟨before, outcome, after, x, hsince⟩ := ih (by rw [hv.shows.status_client, hold])
      exact ⟨before, outcome, _, x, hsince.snoc hs (hcalls (by rw [hold]; exact nofun))⟩
    -- the connection begins now
    · have hcalls' := hcalls (by rw [hwait]; exact nofun)
      exact ⟨events, outcome, [], v.client, hv.since hv' hd hk hwait hclient hcalls'⟩

/-- If the answer belongs to a single call, then the server has the connection with which the client
goes on. -/
theorem Granted.serves (hgranted : s.Granted e before outcome x) (h : s.Begins e seq)
    (halone : (s.marks before).alone = true)
    (hmark : (s.marks before).down.head? = some (s.marks before).calls) :
    (s.run (before ++ [.toClient outcome])).Serves e x.nextSeq := by
  obtain ⟨v, hv⟩ := h.follows before
  obtain ⟨v', hv', hturn⟩ := hv.snoc h.maxSegment (.toClient outcome)
  obtain ⟨hx, hwait⟩ := hgranted.waiting
  rw [hv.shows.socket?_client] at hx
  obtain ⟨-, rfl⟩ := Socket.mk.inj (Option.some.inj hx)
  have hx' := hgranted.connected
  rw [hv'.shows.socket?_client] at hx'
  obtain ⟨-, hclient⟩ := Socket.mk.inj (Option.some.inj hx')
  rcases hturn.granted (by rw [hclient]) with hold | ⟨_, _, _, -, -, -, -, -, hserver⟩
  · rw [hwait] at hold
    cases hold
  · apply hv'.shows.serves hv'.node_eq
    rw [hserver]
    exact hv.serves_of_mark halone hwait hmark

/-- The first call is alone, and the answer belongs to it. -/
theorem Granted.of_first (hgranted : s.Granted e before outcome x) (h : s.Begins e seq)
    (hfirst : (s.marks before).calls = 1) :
    (s.marks before).alone = true ∧
      (s.marks before).down.head? = some (s.marks before).calls := by
  obtain ⟨v, hv⟩ := h.follows before
  obtain ⟨g, -, hhead, -⟩ := hgranted.offered
  refine ⟨hv.marked.first hfirst, ?_⟩
  have hlen := hv.marked.length_down
  have hbounds := hv.marked.bounds
  cases hdown : (s.marks before).down with
  | nil =>
    -- there is an answer
    rw [hdown, ← hv.shows.length_down] at hlen
    rw [List.eq_nil_of_length_eq_zero hlen.symm] at hhead
    cases hhead
  | cons k ks =>
    obtain ⟨hge, hle⟩ := hbounds k (by rw [hdown]; simp)
    rw [hfirst] at hle ⊢
    rw [List.head?_cons, Nat.le_antisymm hle hge]

/-- **What a call that succeeds says about the server.**  The connection began with an answer from a
server that had a connection with the client and expected the number that it granted.  If no other
call waited to connect when the latest one began, the next number of the client then followed that
of the call that succeeds.  If the answer belongs to the latest call, too, then the server had the
connection with this number.  Both are so if only one call has begun. -/
theorem connect_agrees (h : s.Begins e seq) {place : Nat} {call : Handshake}
    (hcall : (s.run events).handshakes[place]? = some call) (hkind : call.kind = .connect)
    (hok : (s.run (events ++ [.advance place])).clientLog = .ok () :: (s.run events).clientLog) :
    ∃ before outcome after x, events = before ++ .toClient outcome :: after ∧
      s.Granted e before outcome x ∧
      (∀ part, part <+: after →
        (s.run (before ++ .toClient outcome :: part)).client.status e.clientId = .ok .connected) ∧
      ((s.marks before).alone = true →
        x.nextSeq = call.request.seq + 1 ∧
          ((s.marks before).down.head? = some (s.marks before).calls →
            (s.run (before ++ [.toClient outcome])).Serves e x.nextSeq)) ∧
      ((s.marks before).calls = 1 →
        x.nextSeq = call.request.seq + 1 ∧
          (s.run (before ++ [.toClient outcome])).Serves e x.nextSeq) := by
  obtain ⟨v, hv⟩ := h.follows events
  rw [run_snoc] at hok
  have hs := hv.shows.connected_of_advance hcall hkind hok
  obtain ⟨before, outcome, after, x, rfl, hgranted, hsince, hnumber⟩ :=
    h.exists_since events (by rw [hv.shows.status_client, hs])
  have hnext : (s.marks before).alone = true → x.nextSeq = call.request.seq + 1 := by
    intro halone
    exact hnumber halone call (List.mem_of_getElem? hcall) hkind
  refine ⟨before, outcome, after, x, rfl, hgranted, hsince, ?_, ?_⟩
  · intro halone
    exact ⟨hnext halone, hgranted.serves h halone⟩
  · intro hfirst
    obtain ⟨halone, hmark⟩ := hgranted.of_first h hfirst
    exact ⟨hnext halone, hgranted.serves h halone hmark⟩

/-! ### Two short runs -/

/-- The client connects at the first attempt. -/
def promptRun : List Event :=
  [.listen 0, .connect 0 2 9, .advance 0, .toServer .delivered, .toClient .delivered]

/-- In the prompt run, the first call succeeds, and the server expects the next number of the
client. -/
theorem connect_agrees_promptRun :
    (sampleStart.run (promptRun ++ [.advance 0])).clientLog = [.ok ()] ∧
      ∃ before outcome after x, promptRun = before ++ .toClient outcome :: after ∧
        sampleStart.Granted sampleEnds before outcome x ∧ x.nextSeq = 42 ∧
        (sampleStart.run (before ++ [.toClient outcome])).Serves sampleEnds 42 := by
  have hwaits : (sampleStart.run promptRun).handshakes[0]?.map
      (fun call => (call.kind, call.request.seq)) = some (.connect, 41) := by decide +kernel
  have hok : (sampleStart.run (promptRun ++ [.advance 0])).clientLog = [.ok ()] := by
    decide +kernel
  have hlog : (sampleStart.run promptRun).clientLog = [] := by decide +kernel
  obtain ⟨call, hcall, hkind⟩ := Option.map_eq_some_iff.1 hwaits
  obtain ⟨hkind, hnumber⟩ := Prod.mk.inj hkind
  obtain ⟨before, outcome, after, x, hsplit, hgranted, -, -, hagrees⟩ :=
    connect_agrees begins_sampleStart hcall hkind (by rw [hok, hlog])
  -- the answer is the last event
  have hbefore : before = [.listen 0, .connect 0 2 9, .advance 0, .toServer .delivered] := by
    simp [promptRun, List.cons_eq_append_iff] at hsplit
    exact hsplit.1
  obtain ⟨hnext, hserves⟩ := hagrees (by rw [hbefore]; decide +kernel)
  rw [hnumber] at hnext
  rw [hnext] at hserves
  exact ⟨hok, before, outcome, after, x, hsplit, hgranted, hnext, hserves⟩

/-- The first sockets of a client that makes one attempt to connect and of a server. -/
def hastyEnds : Ends :=
  { sampleEnds with clientSettings := { maxSegment := 2, synAttempts := 1 } }

/-- The session of the hasty client in which nothing has happened yet. -/
def hastyStart : Session :=
  { sampleStart with client := { sampleStart.client with settings := hastyEnds.clientSettings } }

/-- The first call times out while its answer is on the way, and then the second one gets it. -/
def hastyRun : List Event :=
  [.listen 0, .connect 0 2 9, .advance 0, .toServer .delivered, .pass 100, .advance 0,
    .connect 0 2 9, .advance 0, .toClient .delivered]

/-- The last event of the hasty run brings an answer to the first call, and makes the second one
succeed.  The next number of the client is then 43, but the server does not expect it. -/
theorem late_grant :
    hastyStart.Begins hastyEnds 41 ∧
      (hastyStart.run hastyRun).handshakes.map (fun call => (call.kind, call.request.seq)) =
        [(.connect, 42)] ∧
      (hastyStart.run (hastyRun ++ [.advance 0])).clientLog =
        [.ok (), .error (.connectTimeout 0 1 2 9)] ∧
      ((hastyStart.run (hastyRun.take 8)).client.sockets.socket? 0).map (·.state.status) =
        some .synSent ∧
      ((hastyStart.run hastyRun).client.sockets.socket? 0).map
        (fun x => (x.state.status, x.state.nextSeq)) = some (.connected, 43) ∧
      ¬ (hastyStart.run hastyRun).Serves hastyEnds 43 := by
  refine ⟨⟨⟨_, _, rfl, rfl, rfl⟩, ⟨_, rfl, rfl⟩, ⟨1, 2, rfl⟩⟩, ?_, ?_, ?_, ?_, ?_⟩
  · decide +kernel
  · decide +kernel
  · decide +kernel
  · decide +kernel
  · rintro ⟨y, hy, hserves⟩
    have hexpected : ((hastyStart.run hastyRun).server.sockets.socket? 0).map
        (·.state.expected) = some 42 := by decide +kernel
    rw [show (hastyStart.run hastyRun).server.sockets.socket? 0 = _ from hy] at hexpected
    have hnumber : y.expected = 42 := Option.some.inj hexpected
    rw [hserves.expected_eq] at hnumber
    exact absurd hnumber (by decide)

/-- Two calls have begun, but the answer has the mark of the first one. -/
example : let m := hastyStart.marks (hastyRun.take 8)
    (m.calls, m.alone, m.down) = (2, true, [1]) := by
  decide +kernel

end Session

end OverlayStack.Transport
