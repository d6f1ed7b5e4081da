import OverlayStack.Proofs.Transport.Flow

/-!
# Links that run empty

From some moment on nothing is lost.  Whatever is on its way between a client and a server that have
a connection then arrives, and so does what is sent in answer; each arrival brings the link closer
to running empty, because an answer is worth less than the segment that it answers, and a segment
that waited is worth no more when it is sent.

## Main definitions

* `Session.Arrives`, `Session.Delivers` — a message on its way arrives, one after another.
* `Session.Drains` — messages arrive until nothing is on its way.
* `Session.Settles` — the link runs empty, and then something holds.
* `Session.load` — what is on its way and what waits, by its worth.
* `Scene.Live` — the invariant of a connection while messages arrive.

## Main results

* `Session.settles` — invariants and measures of arrivals.
* `Scene.Live.arrives` — every arrival keeps the connection and makes the load less.
-/

namespace OverlayStack.Transport

open ClientConnection (segmentsOf)

/-! ### Arrivals -/

namespace Session

/-- The event is the arrival of a message that is on its way. -/
def Arrives (s : Session) (event : Event) : Prop :=
  event = .toClient .delivered ∧ s.link.atA.inbox ≠ [] ∨
    event = .toServer .delivered ∧ s.link.atB.inbox ≠ []

/-- Each event is the arrival of a message that is then on its way. -/
def Delivers (s : Session) : List Event → Prop
  | [] => True
  | event :: events => s.Arrives event ∧ (s.step event).Delivers events

/-- Nothing is on its way. -/
def Idle (s : Session) : Prop :=
  s.link.atA.inbox = [] ∧ s.link.atB.inbox = []

/-- Messages arrive until nothing is on its way. -/
structure Drains (s : Session) (events : List Event) : Prop where
  delivers : s.Delivers events
  idle : (s.run events).Idle

/-- Whichever message arrives next, the link is empty after at most so many arrivals, and then the
session is as required. -/
structure Settles (s : Session) (bound : Nat) (required : Session → Prop) : Prop where
  exists_drains : ∃ events, s.Drains events
  length_le : ∀ events, s.Delivers events → events.length ≤ bound
  required_of_drains : ∀ events, s.Drains events → required (s.run events)

section Measures

variable {P : Session → Prop} {m : Session → Nat}
  (hstep : ∀ s event, P s → s.Arrives event → P (s.step event) ∧ m (s.step event) < m s)
include hstep

/-- What every arrival keeps holds in the end, and a measure that every arrival lowers bounds their
number. -/
theorem Delivers.run (events : List Event) : ∀ {s : Session}, P s → s.Delivers events →
    P (s.run events) ∧ events.length + m (s.run events) ≤ m s := by
  induction events with
  | nil => exact fun h _ => ⟨h, by rw [run_nil, List.length_nil, Nat.zero_add]⟩
  | cons event events ih =>
    rintro s h ⟨harr, hrest⟩
    obtain ⟨h', hlt⟩ := hstep s event h harr
    obtain ⟨hlast, hle⟩ := ih h' hrest
    rw [run_cons, List.length_cons]
    exact ⟨hlast, by omega⟩

/-- A link on which every arrival lowers a measure can run empty. -/
theorem exists_drains : ∀ {n : Nat} {s : Session}, m s ≤ n → P s → ∃ events, s.Drains events := by
  have next : ∀ {s : Session} {event : Event}, s.Arrives event →
      (∃ events, (s.step event).Drains events) → ∃ events, s.Drains events := by
    rintro s event harr ⟨events, hdelivers, hidle⟩
    exact ⟨event :: events, ⟨harr, hdelivers⟩, hidle⟩
  have idle : ∀ {s : Session}, (∀ event, ¬ s.Arrives event) → s.Idle := by
    intro s hnone
    constructor
    · exact Classical.not_not.1 fun h => hnone _ (.inl ⟨rfl, h⟩)
    · exact Classical.not_not.1 fun h => hnone _ (.inr ⟨rfl, h⟩)
  intro n
  induction n with
  | zero =>
    intro s hle h
    refine ⟨[], trivial, idle fun event harr => ?_⟩
    have := (hstep s event h harr).2
    omega
  | succ n ih =>
    intro s hle h
    by_cases hsome : ∃ event, s.Arrives event
    · obtain ⟨event, harr⟩ := hsome
      obtain ⟨h', hlt⟩ := hstep s event h harr
      exact next harr (ih (by omega) h')
    · exact ⟨[], trivial, idle fun event harr => hsome ⟨event, harr⟩⟩

/-- **A link settles** if every arrival keeps an invariant and lowers a measure. -/
theorem settles {s : Session} (h : P s) {required : Session → Prop}
    (hidle : ∀ t, P t → t.Idle → required t) : s.Settles (m s) required where
  exists_drains := exists_drains hstep (Nat.le_refl _) h
  length_le := fun events hdelivers => by
    have := (Delivers.run hstep events h hdelivers).2
    omega
  required_of_drains := fun events hdrains =>
    hidle _ (Delivers.run hstep events h hdrains.delivers).1 hdrains.idle

end Measures

/-- What is on its way and what waits at a socket of the client.  A message for the server is worth
two, because it is answered. -/
def load (s : Session) (id : SocketId) : Nat :=
  2 * s.link.atB.inbox.length + s.link.atA.inbox.length +
    2 * ((s.client.sockets.socket? id).map (·.state.buffer.waiting.length)).getD 0

end Session

/-! ### What an arrival does to a connection -/

/-- A connected server stays connected unless it is asked to disconnect, and sends at most one
answer. -/
theorem ServerConnection.Heeds.connected {capacity : Nat} {y y' : ServerConnection}
    {source : NodeId} {g : Segment} {sent : List Segment}
    (h : y.Heeds capacity source g y' sent) (hs : y.status = .connected) (hk : g.kind ≠ .fin) :
    y'.status = .connected ∧ sent.length ≤ 1 := by
  cases h with
  | ignored => exact ⟨hs, Nat.zero_le _⟩
  | restarted => exact ⟨rfl, Nat.le_refl _⟩
  | left _ hk' => exact absurd hk' hk
  | absorbed => exact ⟨(y.status_absorb capacity g).trans hs, Nat.le_refl _⟩

/-- A piece of the stream for the socket of a connected server. -/
theorem Server.Sole.handle_data {d : Server} {settings : Settings} {id : SocketId} {port : UInt32}
    {y : ServerConnection} (h : d.Sole settings id port y) (hs : y.status = .connected)
    {g : Segment} (hk : g.kind = .data) (hdest : g.destPort = port) (source : NodeId) (now : Nat) :
    (d.handle source g now neverRefused).state.Sole settings id port
        (y.absorb settings.receiveCapacity g) ∧
      (d.handle source g now neverRefused).sent.map (·.2) =
        [g.reply .dataAck (y.absorb settings.receiveCapacity g).expected] := by
  have hfound : d.lookup g = some (id, ⟨port, y⟩) := by
    rw [Server.lookup, h.sockets.find?_eq, hdest]
    simp
  unfold Server.handle
  rw [hfound, h.settings_eq]
  simp only [hs, hk]
  exact ⟨h.set _, rfl⟩

namespace Session

/-- A segment that is delivered arrives as it was sent. -/
theorem arrival_delivered (s : Session) (side : Side) {g : Segment} {rest : List Segment}
    (hin : (s.link.endAt side).inbox.map (·.2) = (g :: rest).map Segment.wire)
    (hfit : g.payload.length ≤ 65535) (hk : g.kind ≠ .unknown) :
    ∃ source inbox, inbox.map (·.2) = rest.map Segment.wire ∧
      s.arrival side .delivered = (.segment source g.stamped,
        { s with link := s.link.setEnd side { s.link.endAt side with inbox } }) := by
  unfold arrival
  dsimp only
  rw [List.map_cons] at hin
  obtain ⟨⟨source, bs⟩, inbox, hmsgs, hg, hrest⟩ := List.map_eq_cons_iff.1 hin
  dsimp only at hg
  subst hg
  rw [hmsgs]
  dsimp only
  refine ⟨source, inbox, hrest, ?_⟩
  simp only [Delivery.ofWire, Outcome.arrival?, Segment.read_wire hfit hk]

namespace Shows

variable {s : Session} {e : Ends} {v : Scene} {g : Segment} {rest : List Segment}

theorem exists_down (h : s.Shows e v) (hsome : s.link.atA.inbox ≠ []) :
    ∃ g rest, v.down = g :: rest := by
  refine List.exists_cons_of_ne_nil fun hnone => hsome ?_
  have hdown := h.down
  rwa [hnone, List.map_nil, List.map_eq_nil_iff] at hdown

theorem exists_up (h : s.Shows e v) (hsome : s.link.atB.inbox ≠ []) :
    ∃ g rest, v.up = g :: rest := by
  refine List.exists_cons_of_ne_nil fun hnone => hsome ?_
  have hup := h.up
  rwa [hnone, List.map_nil, List.map_eq_nil_iff] at hup

theorem eq_nil_of_idle (h : s.Shows e v) (hidle : s.Idle) : v.down = [] ∧ v.up = [] := by
  have hdown := h.length_down
  have hup := h.length_up
  rw [hidle.1] at hdown
  rw [hidle.2] at hup
  exact ⟨List.length_eq_zero_iff.1 hdown.symm, List.length_eq_zero_iff.1 hup.symm⟩

theorem load_eq (h : s.Shows e v) : s.load e.clientId =
    2 * v.up.length + v.down.length + 2 * v.client.buffer.waiting.length := by
  rw [load, h.length_up, h.length_down, (Tracks.socket?_eq h).1]
  rfl

/-- **A segment reaches the client of a connection.**  It acknowledges something, or it is
ignored. -/
theorem toClient_connected (h : s.Shows e v) (hs : v.client.status = .connected)
    (hfit : ∀ g ∈ v.down, g.payload.length ≤ 65535) (hd : v.down = g :: rest) :
    (g.kind = .dataAck ∧ g.destPort = e.clientPort ∧ g.sourcePort = v.client.serverPort) ∧
        (s.step (.toClient .delivered)).Shows e
          { v with
            client := (v.client.afterAck g.ack e.clientSettings.window s.now).1
            up := v.up ++ (v.client.afterAck g.ack e.clientSettings.window s.now).2
            down := rest } ∨
      ¬ (g.kind = .dataAck ∧ g.destPort = e.clientPort ∧ g.sourcePort = v.client.serverPort) ∧
        (s.step (.toClient .delivered)).Shows e { v with down := rest } := by
  have hin := h.down
  rw [hd] at hin
  by_cases hack : g.kind = .dataAck ∧ g.destPort = e.clientPort ∧
      g.sourcePort = v.client.serverPort
  · refine .inl ⟨hack, ?_⟩
    obtain ⟨source, inbox, hrest, harr⟩ := s.arrival_delivered .a hin
      (hfit g (hd ▸ List.mem_cons_self)) (by rw [hack.1]; decide)
    have h' : Session.Shows { s with link := s.link.setEnd .a { s.link.endAt .a with inbox } } e
        { v with down := rest } := ⟨h.client, h.calls, h.up, h.server, hrest, h.returned⟩
    obtain ⟨hsole, hsent⟩ := h.client.handle_dataAck (g := g.stamped) hs hack.1 hack.2.1 hack.2.2
      s.now
    have hpost := (h'.setClient hsole).post_a (s.client.handle g.stamped s.now neverRefused).sent
    rw [hsent] at hpost
    rw [Session.step, harr]
    exact hpost
  · refine .inr ⟨hack, ?_⟩
    rcases s.arrival_cases .a .delivered h.down hfit with
      ⟨hnone, -⟩ | ⟨g', rest', source, inbox, hd', -, hrest, harr⟩
    · rw [hd] at hnone
      cases hnone
    · obtain ⟨rfl, rfl⟩ := List.cons.inj (hd.symm.trans hd')
      have h' : Session.Shows { s with link := s.link.setEnd .a { s.link.endAt .a with inbox } } e
          { v with down := rest } := ⟨h.client, h.calls, h.up, h.server, hrest, h.returned⟩
      rcases harr with harr | harr
      · rw [Session.step, harr]
        exact h'
      · obtain ⟨hstate, hsent⟩ := h.client.handle_of_ne (g := g.stamped) hs hack s.now
        have hsole : (s.client.handle g.stamped s.now neverRefused).state.Sole e.clientSettings
            e.clientId e.clientPort v.client := by
          rw [hstate]
          exact h.client
        have hpost := (h'.setClient hsole).post_a
          (s.client.handle g.stamped s.now neverRefused).sent
        rw [hsent, List.map_nil, List.append_nil] at hpost
        rw [Session.step, harr]
        dsimp only
        rw [afterClient, hsent]
        exact hpost

/-- **A piece of the stream reaches a connected server**, which answers. -/
theorem toServer_data (h : s.Shows e v) (hs : v.server.status = .connected)
    (hfit : ∀ g ∈ v.up, g.payload.length ≤ 65535) (hu : v.up = g :: rest) (hk : g.kind = .data)
    (hdest : g.destPort = e.serverPort) :
    (s.step (.toServer .delivered)).Shows e
      { v with
        up := rest
        server := v.server.absorb e.serverSettings.receiveCapacity g
        down := v.down ++ [g.reply .dataAck
          (v.server.absorb e.serverSettings.receiveCapacity g).expected] } := by
  have hin := h.up
  rw [hu] at hin
  obtain ⟨source, inbox, hrest, harr⟩ := s.arrival_delivered .b hin
    (hfit g (hu ▸ List.mem_cons_self)) (by rw [hk]; decide)
  have h' : Session.Shows { s with link := s.link.setEnd .b { s.link.endAt .b with inbox } } e
      { v with up := rest } := ⟨h.client, h.calls, hrest, h.server, h.down, h.returned⟩
  obtain ⟨hsole, hsent⟩ := h.server.handle_data (g := g.stamped) hs hk hdest source s.now
  have hpost := (h'.setServer hsole).post_b
    (s.server.handle source g.stamped s.now neverRefused).sent
  rw [hsent] at hpost
  rw [Session.step, harr]
  exact hpost

end Shows

end Session

/-! ### Connections while messages arrive -/

namespace Scene

variable {e : Ends} {seq : UInt32} {pieces taken : List Bytes} {v : Scene} {now : Nat}

/-- Both sockets have a connection, and the server has room for all that it has not taken. -/
structure Live (e : Ends) (seq : UInt32) (pieces taken : List Bytes) (now : Nat) (v : Scene) :
    Prop where
  inOrder : v.InOrder e seq pieces taken
  isOpen : v.Open
  paced : v.client.Paced e.clientSettings.window now
  client_eq : v.client.status = .connected
  server_eq : v.server.status = .connected
  room : pieces.flatten.length - taken.flatten.length ≤
    e.serverSettings.receiveCapacity - v.server.buffer.length

/-- What the server takes it has room for. -/
theorem Live.room_of (h : v.Live e seq pieces taken now) {v' : Scene} {taken' : List Bytes}
    (hinv' : v'.InOrder e seq pieces taken') (hle : taken <+: taken')
    (hreturned : v'.returned = v.returned) :
    pieces.flatten.length - taken'.flatten.length ≤
      e.serverSettings.receiveCapacity - v'.server.buffer.length := by
  have hroom := h.room
  have hgot := congrArg List.length h.inOrder.received
  have hgot' := congrArg List.length hinv'.received
  have hlen := length_flatten_le_of_isPrefix hle
  rw [List.length_append] at hgot hgot'
  rw [hreturned] at hgot'
  omega

/-- An acknowledgment reaches the client. -/
theorem Live.acknowledged {s : Session} (h : v.Live e seq pieces taken s.now)
    (hshows : s.Shows e v) (hroom : (seq + 1).toNat + pieces.flatten.length < 4294967296)
    {g : Segment} {rest : List Segment} (hd : v.down = g :: rest) (hk : g.kind = .dataAck)
    {x : ClientConnection} {sent : List Segment}
    (hx : v.client.afterAck g.ack e.clientSettings.window s.now = (x, sent))
    (hshows' : (s.step (.toClient .delivered)).Shows e
      { v with client := x, up := v.up ++ sent, down := rest }) :
    Live e seq pieces taken (s.step (.toClient .delivered)).now
      { v with client := x, up := v.up ++ sent, down := rest } := by
  have hheeds := ClientConnection.heeds_afterAck h.client_eq hk e.clientSettings.window s.now
  have hstatus := ClientConnection.status_afterAck v.client g.ack e.clientSettings.window s.now
  rw [hx] at hheeds hstatus
  have hinv' := h.inOrder.toClient hd hheeds hroom
  exact ⟨hinv', h.isOpen.move h.inOrder hinv' (.toClient hd hheeds),
    hshows.paced h.paced nofun hshows', hstatus.trans h.client_eq, h.server_eq, h.room⟩

/-- A segment reaches the server. -/
theorem Live.answered {s : Session} (h : v.Live e seq pieces taken s.now) (hshows : s.Shows e v)
    (hroom : (seq + 1).toNat + pieces.flatten.length < 4294967296) (source : NodeId) {g : Segment}
    {rest sent : List Segment} {y : ServerConnection} (hu : v.up = g :: rest)
    (hy : v.server.Heeds e.serverSettings.receiveCapacity source g y sent)
    (hshows' : (s.step (.toServer .delivered)).Shows e
      { v with up := rest, server := y, down := v.down ++ sent }) :
    ∃ taken', taken <+: taken' ∧ Live e seq pieces taken' (s.step (.toServer .delivered)).now
      { v with up := rest, server := y, down := v.down ++ sent } := by
  have hmem : g ∈ v.up := hu ▸ List.mem_cons_self
  obtain ⟨hs, -⟩ := hy.connected h.server_eq (h.isOpen h.client_eq g hmem)
  obtain ⟨taken', hle, hinv'⟩ := h.inOrder.toServer hu hy hroom
  exact ⟨taken', hle, hinv', h.isOpen.move h.inOrder hinv' (.toServer hu hy),
    hshows.paced h.paced nofun hshows', h.client_eq, hs, h.room_of hinv' hle rfl⟩

/-- **Every arrival** keeps the connection and makes the load less. -/
theorem Live.arrives {s : Session} (h : v.Live e seq pieces taken s.now) (hshows : s.Shows e v)
    (hroom : (seq + 1).toNat + pieces.flatten.length < 4294967296) {event : Event}
    (harr : s.Arrives event) :
    (∃ v' taken', (s.step event).Shows e v' ∧ v'.Live e seq pieces taken' (s.step event).now) ∧
      (s.step event).load e.clientId < s.load e.clientId := by
  rcases harr with ⟨rfl, hsome⟩ | ⟨rfl, hsome⟩
  · obtain ⟨g, rest, hd⟩ := hshows.exists_down hsome
    have hstep := hshows.toClient_connected h.client_eq h.inOrder.length_payload_down hd
    rcases hstep with ⟨hack, hshows'⟩ | ⟨-, hshows'⟩
    · obtain ⟨gone, kept, sent, waiting, -, -, -, hwait, hafter⟩ :=
        v.client.exists_afterAck g.ack e.clientSettings.window s.now
      rw [hafter] at hshows'
      refine ⟨⟨_, taken, hshows', h.acknowledged hshows hroom hd hack.1 hafter hshows'⟩, ?_⟩
      rw [hshows'.load_eq, hshows.load_eq, hd, hwait]
      simp only [List.length_append, List.length_cons]
      omega
    -- the segment is ignored
    · have hheeds : v.client.Heeds g v.client [] := .ignored
      have hinv' := h.inOrder.toClient hd hheeds hroom
      rw [List.append_nil] at hinv'
      refine ⟨⟨_, taken, hshows', hinv', h.isOpen, hshows.paced h.paced nofun hshows',
        h.client_eq, h.server_eq, h.room⟩, ?_⟩
      rw [hshows'.load_eq, hshows.load_eq, hd, List.length_cons]
      exact Nat.add_lt_add_right (Nat.lt_succ_self _) _
  · rcases hshows.toServer_cases h.inOrder.length_payload_up .delivered with
      ⟨hu, -⟩ | ⟨source, g, rest, y, sent, hu, -, hy, hshows'⟩
    · obtain ⟨g, rest, hu'⟩ := hshows.exists_up hsome
      cases hu.symm.trans hu'
    · obtain ⟨taken', -, hlive⟩ := h.answered hshows hroom source hu hy hshows'
      have hmem : g ∈ v.up := hu ▸ List.mem_cons_self
      have hlen := (hy.connected h.server_eq (h.isOpen h.client_eq g hmem)).2
      refine ⟨⟨_, taken', hshows', hlive⟩, ?_⟩
      rw [hshows'.load_eq, hshows.load_eq, hu, List.length_cons]
      show 2 * rest.length + (v.down ++ sent).length + 2 * v.client.buffer.waiting.length < _
      rw [List.length_append]
      omega

end Scene

end OverlayStack.Transport
