import OverlayStack.Proofs.Transport.GoBackN

/-!
# Runs of a client and a server

A client with one socket connects once, to a server with one socket, over a link that loses and
damages messages.  Whatever happens, and in whatever order, the server gets the bytes that the
client has accepted, in order and without a gap, and the client keeps them until the server has got
them.

## Main definitions

* `Session.Begins` — a client and a server that have opened one socket each.
* `Event.connects` — the calls that begin to connect.
* `Session.Tracks` — the invariant of a run, with the events that are still to come.

## Main results

* `Session.Tracks.step`, `Session.Tracks.run` — the invariant is kept.
* `Session.stream_safe` — what the server has got, and what the client has removed.
-/

namespace OverlayStack.Transport

open ClientConnection (segmentsOf)

/-- Whether an event is a call that begins to connect a socket. -/
def Event.connects (id : SocketId) : Event → Bool
  | .connect id' _ _ => id' == id
  | _ => false

theorem Event.connects_eq_true_iff {id : SocketId} {event : Event} :
    event.connects id = true ↔ ∃ node port, event = .connect id node port := by
  constructor
  · intro h
    cases event with
    | connect id' node port =>
      rw [connects, beq_iff_eq] at h
      exact ⟨node, port, h ▸ rfl⟩
    | _ => cases h
  · rintro ⟨node, port, rfl⟩
    exact beq_self_eq_true id

/-! ### The start -/

/-- Segments carry at least one byte, and no more than a link does. -/
theorem Settings.maxSegment_of_valid {settings : Settings} (h : settings.validate = .ok ()) :
    0 < settings.maxSegment ∧ settings.maxSegment ≤ Segment.maxPayload := by
  unfold validate at h
  split at h
  · cases h
  · next hlimit => omega

/-- At least one segment can be in flight. -/
theorem Settings.window_of_valid {settings : Settings} (h : settings.validate = .ok ()) :
    0 < settings.window := by
  unfold validate at h
  split at h
  · cases h
  · split at h
    · cases h
    · next hwindow => exact Nat.pos_of_ne_zero hwindow

theorem Client.start_eq_ok {settings : Settings} {c : Client} (h : start settings = .ok c) :
    settings.validate = .ok () ∧ c = ⟨settings, .free settings.maxConnections⟩ := by
  unfold start at h
  cases hvalid : settings.validate with
  | error err =>
    rw [hvalid] at h
    cases h
  | ok _ =>
    rw [hvalid] at h
    cases h
    exact ⟨rfl, rfl⟩

theorem Server.start_eq_ok {settings : Settings} {s : Server} (h : start settings = .ok s) :
    s = ⟨settings, .free settings.maxConnections⟩ := by
  unfold start at h
  cases hvalid : settings.validate with
  | error err =>
    rw [hvalid] at h
    cases h
  | ok _ =>
    rw [hvalid] at h
    cases h
    rfl

/-- The first socket of a client. -/
theorem Client.sole_openSocket {settings : Settings} {c c' : Client} {port : UInt32} {id : SocketId}
    (h : start settings = .ok c) (hopen : c.openSocket port = .ok (id, c')) :
    c'.Sole settings id port {} := by
  obtain ⟨-, rfl⟩ := start_eq_ok h
  unfold openSocket at hopen
  cases htable : (SocketTable.free settings.maxConnections).openSocket port
      ({} : ClientConnection) with
  | error err =>
    rw [htable] at hopen
    cases hopen
  | ok opened =>
    rw [htable] at hopen
    cases hopen
    exact ⟨rfl, SocketTable.sole_openSocket htable⟩

/-- The first socket of a server. -/
theorem Server.sole_openSocket {settings : Settings} {s s' : Server} {port : UInt32} {id : SocketId}
    (h : start settings = .ok s) (hopen : s.openSocket port = .ok (id, s')) :
    s'.Sole settings id port {} := by
  obtain rfl := start_eq_ok h
  unfold openSocket at hopen
  cases htable : (SocketTable.free settings.maxConnections).openSocket port
      ({} : ServerConnection) with
  | error err =>
    rw [htable] at hopen
    cases hopen
  | ok opened =>
    rw [htable] at hopen
    cases hopen
    exact ⟨rfl, SocketTable.sole_openSocket htable⟩

namespace Session

theorem accepted_append (s : Session) (first second : List Event) :
    s.accepted (first ++ second) = s.accepted first ++ (s.run first).accepted second := by
  induction first generalizing s with
  | nil => rfl
  | cons event first ih =>
    rw [List.cons_append, accepted, accepted, ih, List.append_assoc, run_cons]

/-- A client and a server with valid settings that have opened one socket each and not done anything
else.  The next number of the client is given. -/
structure Begins (s : Session) (e : Ends) (seq : UInt32) : Prop where
  client : ∃ c c', Client.start e.clientSettings = .ok c ∧
    c.openSocket e.clientPort = .ok (e.clientId, c') ∧
    s.client = c'.set e.clientId { nextSeq := seq }
  server : ∃ d, Server.start e.serverSettings = .ok d ∧
    d.openSocket e.serverPort = .ok (e.serverId, s.server)
  rest : ∃ clientNode serverNode, s = start s.client s.server clientNode serverNode

/-- The session is in order with some pieces of which the server has taken some, and goes on with
some events, in which the client connects at most once, and only if it has not yet done so. -/
structure Tracks (s : Session) (e : Ends) (seq : UInt32) (pieces taken : List Bytes)
    (events : List Event) : Prop where
  scene : ∃ v, s.Shows e v ∧ v.InOrder e seq pieces taken ∧
    (events.countP (·.connects e.clientId) ≠ 0 → pieces = [] ∧ v.Fresh seq)
  once : events.countP (·.connects e.clientId) ≤ 1
  port : ∀ node port, Event.connect e.clientId node port ∈ events → port = e.serverPort

variable {s : Session} {e : Ends} {seq : UInt32} {pieces taken : List Bytes} {events : List Event}

/-- **One event** keeps a scene in order.  It is a move, or the client begins to connect. -/
theorem Shows.follow {v : Scene} {event : Event} (hshows : s.Shows e v)
    (hinv : v.InOrder e seq pieces taken)
    (hfresh : (event :: events).countP (·.connects e.clientId) ≠ 0 → pieces = [] ∧ v.Fresh seq)
    (honce : (event :: events).countP (·.connects e.clientId) ≤ 1)
    (hport : ∀ node port, event = .connect e.clientId node port → port = e.serverPort)
    (hmax : 0 < e.clientSettings.maxSegment ∧ e.clientSettings.maxSegment ≤ 65535)
    (hroom : (seq + 1).toNat + pieces.flatten.length < 4294967296) :
    ∃ v' taken', taken <+: taken' ∧ (s.step event).Shows e v' ∧
      v'.InOrder e seq (pieces ++ Bytes.chunks e.clientSettings.maxSegment (s.accepts event))
        taken' ∧
      (events.countP (·.connects e.clientId) ≠ 0 →
        pieces ++ Bytes.chunks e.clientSettings.maxSegment (s.accepts event) = [] ∧
          v'.Fresh seq) ∧
      ((∀ node port, event ≠ .connect e.clientId node port) ∧ v.Move e (s.accepts event) v' ∨
        event.connects e.clientId = true ∧ v.Fresh seq ∧ v'.client.status = .synSent) := by
  rw [List.countP_cons] at honce hfresh
  by_cases hconnects : event.connects e.clientId = true
  -- the client connects, and will not do so again
  · rw [if_pos hconnects] at honce hfresh
    obtain ⟨rfl, hf⟩ := hfresh (Nat.succ_ne_zero _)
    obtain ⟨node, port, rfl⟩ := Event.connects_eq_true_iff.1 hconnects
    obtain rfl := hport node port rfl
    obtain rfl : taken = [] := List.prefix_nil.1 hinv.taken_isPrefix
    obtain ⟨call, hkind, hreq, hnext⟩ := hshows.connect hf.status_eq node e.serverPort
    refine ⟨_, [], List.prefix_rfl, hnext, ?_, fun hne => ?_, .inr ⟨hconnects, hf, rfl⟩⟩
    · show Scene.InOrder e seq ([] ++ Bytes.chunks _ []) [] _
      rw [Bytes.chunks_nil]
      exact hinv.connect hf node hkind hreq
    · omega
  · rw [if_neg hconnects, Nat.add_zero] at honce hfresh
    have hevent : ∀ node port, event ≠ .connect e.clientId node port := fun node port heq =>
      hconnects (Event.connects_eq_true_iff.2 ⟨node, port, heq⟩)
    obtain ⟨v', hshows', hmove⟩ :=
      hshows.step hinv.length_payload_up hinv.length_payload_down event hevent
    obtain ⟨taken', hle, hinv'⟩ := hinv.move hmove hmax hroom
    refine ⟨v', taken', hle, hshows', hinv', fun hne => ?_, .inl ⟨hevent, hmove⟩⟩
    obtain ⟨rfl, hf⟩ := hfresh hne
    obtain ⟨hf', hnone⟩ := hf.move hmove
    rw [hnone, Bytes.chunks_nil]
    exact ⟨rfl, hf'⟩

theorem countP_connects_le {event : Event}
    (h : (event :: events).countP (·.connects e.clientId) ≤ 1) :
    events.countP (·.connects e.clientId) ≤ 1 :=
  Nat.le_trans (List.Sublist.countP_le (List.sublist_cons_self _ _)) h

namespace Tracks

/-- **One event** keeps the session in order. -/
theorem step {event : Event} (h : s.Tracks e seq pieces taken (event :: events))
    (hmax : 0 < e.clientSettings.maxSegment ∧ e.clientSettings.maxSegment ≤ 65535)
    (hroom : (seq + 1).toNat + pieces.flatten.length < 4294967296) :
    ∃ taken', taken <+: taken' ∧ (s.step event).Tracks e seq
      (pieces ++ Bytes.chunks e.clientSettings.maxSegment (s.accepts event)) taken' events := by
  obtain ⟨⟨v, hshows, hinv, hfresh⟩, honce, hport⟩ := h
  obtain ⟨v', taken', hle, hshows', hinv', hfresh', -⟩ := hshows.follow hinv hfresh honce
    (fun node port heq => hport node port (heq ▸ List.mem_cons_self)) hmax hroom
  exact ⟨taken', hle, ⟨v', hshows', hinv', hfresh'⟩, countP_connects_le honce,
    fun node port hmem => hport node port (List.mem_cons_of_mem _ hmem)⟩

/-- **Some events** keep the session in order. -/
theorem run (first events : List Event) :
    ∀ {s : Session} {pieces taken : List Bytes}, s.Tracks e seq pieces taken (first ++ events) →
      0 < e.clientSettings.maxSegment ∧ e.clientSettings.maxSegment ≤ 65535 →
      (seq + 1).toNat + (pieces.flatten ++ s.accepted first).length < 4294967296 →
      ∃ pieces' taken', pieces'.flatten = pieces.flatten ++ s.accepted first ∧ taken <+: taken' ∧
        (s.run first).Tracks e seq pieces' taken' events := by
  induction first with
  | nil =>
    intro s pieces taken h _ _
    exact ⟨pieces, taken, by simp [accepted], List.prefix_rfl, h⟩
  | cons event first ih =>
    intro s pieces taken h hmax hroom
    have hflat : (pieces ++ Bytes.chunks e.clientSettings.maxSegment (s.accepts event)).flatten ++
        (s.step event).accepted first = pieces.flatten ++ s.accepted (event :: first) := by
      rw [List.flatten_append, Bytes.flatten_chunks, accepted, List.append_assoc]
    have hroom' : (seq + 1).toNat + pieces.flatten.length < 4294967296 := by
      rw [List.length_append] at hroom
      omega
    obtain ⟨taken', hle, hnext⟩ := h.step hmax hroom'
    obtain ⟨pieces'', taken'', hpieces, hle', hlast⟩ := ih hnext hmax (by rwa [hflat])
    exact ⟨pieces'', taken'', hpieces.trans hflat, hle.trans hle', hlast⟩

/-- The state of the client's socket and of the server's. -/
theorem socket?_eq {v : Scene} (h : s.Shows e v) :
    s.client.sockets.socket? e.clientId = some ⟨e.clientPort, v.client⟩ ∧
      s.server.sockets.socket? e.serverId = some ⟨e.serverPort, v.server⟩ := by
  rw [h.client.sockets, h.server.sockets, if_pos rfl, if_pos rfl]
  exact ⟨rfl, rfl⟩

/-- What the server has got is what it has taken. -/
theorem received (h : s.Tracks e seq pieces taken events) {y : ServerConnection}
    (hy : s.server.sockets.socket? e.serverId = some ⟨e.serverPort, y⟩) :
    s.returned ++ y.buffer = taken.flatten ∧
      (y.status = .connected → y.expected = positionAfter (seq + 1) taken) := by
  obtain ⟨⟨v, hshows, hinv, -⟩, -, -⟩ := h
  have hserver := (socket?_eq hshows).2
  rw [hy] at hserver
  obtain ⟨-, rfl⟩ := Socket.mk.inj (Option.some.inj hserver)
  rw [hshows.returned]
  exact ⟨hinv.received, hinv.expected⟩

/-- A segment that is removed when a message arrives carries a piece that the server has taken. -/
theorem released {outcome : Outcome} (h : s.Tracks e seq pieces taken (.toClient outcome :: events))
    {taken' : List Bytes} (h' : (s.step (.toClient outcome)).Tracks e seq pieces taken' events)
    {x x' : Socket ClientConnection} {g : Segment}
    (hx : s.client.sockets.socket? e.clientId = some x)
    (hx' : (s.step (.toClient outcome)).client.sockets.socket? e.clientId = some x')
    (hg : g ∈ x.state.buffer.segments) (hgone : g ∉ x'.state.buffer.segments) :
    g ∈ (segmentsOf e.clientPort e.serverPort (seq + 1) taken').1 := by
  obtain ⟨⟨v, hshows, hinv, -⟩, -, -⟩ := h
  obtain ⟨⟨v', hshows', hinv', -⟩, -, -⟩ := h'
  obtain ⟨w, hw, -, hkept⟩ := hshows.toClient hinv.length_payload_down outcome
  have hclient : some x' = some ⟨e.clientPort, w.client⟩ := hx'.symm.trans (socket?_eq hw).1
  have hclient' : some x' = some ⟨e.clientPort, v'.client⟩ := hx'.symm.trans (socket?_eq hshows').1
  have hstart : some x = some ⟨e.clientPort, v.client⟩ := hx.symm.trans (socket?_eq hshows).1
  cases hstart
  cases hclient
  obtain ⟨-, hsame⟩ := Socket.mk.inj (Option.some.inj hclient')
  rcases hkept with hkept | ⟨hs, hs'⟩
  -- nothing was removed
  · dsimp only at hg hgone
    rw [hkept] at hgone
    exact absurd hg hgone
  -- what the client keeps is the rest of the stream behind what it has removed
  · have hmem := hinv.mem_segmentsOf hs hg
    rw [hsame] at hs' hgone
    obtain ⟨gone, left, hsplit, htaken, hqueue, -⟩ := hinv'.queue hs'
    rw [hsplit, segmentsOf_append] at hmem
    rcases List.mem_append.1 hmem with hmem | hmem
    · obtain ⟨more, rfl⟩ := htaken
      rw [segmentsOf_append]
      exact List.mem_append_left _ hmem
    · dsimp only at hgone
      rw [hqueue] at hgone
      exact absurd hmem hgone

end Tracks

/-- In a session that begins, nothing is in flight. -/
theorem Begins.shows (h : s.Begins e seq) :
    s.Shows e ⟨{ nextSeq := seq }, [], [], {}, [], []⟩ := by
  obtain ⟨⟨c, c', hstart, hopen, hclient⟩, ⟨d, hstart', hopen'⟩, clientNode, serverNode, hs⟩ := h
  have hsole := (Client.sole_openSocket hstart hopen).set { nextSeq := seq }
  rw [← hclient] at hsole
  refine ⟨hsole, ?_, ?_, Server.sole_openSocket hstart' hopen', ?_, ?_⟩
  · rw [hs]
    rfl
  · rw [hs]
    rfl
  · rw [hs]
    rfl
  · rw [hs]
    rfl

/-- A scene in which nothing has happened yet is in order. -/
theorem inOrder_start (e : Ends) (seq : UInt32) :
    Scene.InOrder e seq [] [] ⟨{ nextSeq := seq }, [], [], {}, [], []⟩ where
  sound := fun _ hp => absurd hp List.not_mem_nil
  taken_isPrefix := List.prefix_rfl
  received := rfl
  expected := nofun
  upward := ⟨0, [], rfl, fun _ => rfl, fun _ => rfl, fun _ hg => absurd hg List.not_mem_nil⟩
  downward := fun _ hg => absurd hg List.not_mem_nil
  calls := fun _ hcall => absurd hcall List.not_mem_nil
  opening := nofun
  queue := nofun

theorem fresh_start (seq : UInt32) : Scene.Fresh seq ⟨{ nextSeq := seq }, [], [], {}, [], []⟩ :=
  ⟨rfl, rfl, rfl, rfl, rfl⟩

/-- A session that begins is in order. -/
theorem Begins.tracks (h : s.Begins e seq)
    (hone : events.countP (·.connects e.clientId) ≤ 1)
    (hport : ∀ node port, Event.connect e.clientId node port ∈ events → port = e.serverPort) :
    s.Tracks e seq [] [] events :=
  ⟨⟨_, h.shows, inOrder_start e seq, fun _ => ⟨rfl, fresh_start seq⟩⟩, hone, hport⟩

theorem Begins.maxSegment (h : s.Begins e seq) :
    0 < e.clientSettings.maxSegment ∧ e.clientSettings.maxSegment ≤ 65535 := by
  obtain ⟨⟨c, c', hstart, -, -⟩, -, -⟩ := h
  obtain ⟨hpos, hle⟩ := Settings.maxSegment_of_valid (Client.start_eq_ok hstart).1
  have : Segment.maxPayload = 1464 := rfl
  omega

theorem Begins.window_pos (h : s.Begins e seq) : 0 < e.clientSettings.window := by
  obtain ⟨⟨c, c', hstart, -, -⟩, -, -⟩ := h
  exact Settings.window_of_valid (Client.start_eq_ok hstart).1

theorem toNat_seq_add_one {n : Nat} (hroom : seq.toNat + 1 + n < 4294967296) :
    (seq + 1).toNat = seq.toNat + 1 := by
  have hone : (1 : UInt32).toNat = 1 := rfl
  rw [UInt32.toNat_add, hone]
  omega

/-- A whole run keeps the session in order. -/
theorem Begins.run (h : s.Begins e seq) (hone : events.countP (·.connects e.clientId) ≤ 1)
    (hport : ∀ node port, Event.connect e.clientId node port ∈ events → port = e.serverPort)
    (hroom : seq.toNat + 1 + (s.accepted events).length < 4294967296) :
    ∃ pieces taken, pieces.flatten = s.accepted events ∧
      (s.run events).Tracks e seq pieces taken [] := by
  have hstart := h.tracks hone hport
  have hseq := toNat_seq_add_one hroom
  obtain ⟨pieces, taken, hpieces, -, hlast⟩ := Tracks.run events []
    (by rwa [List.append_nil]) h.maxSegment (by rw [List.flatten_nil, List.nil_append]; omega)
  exact ⟨pieces, taken, hpieces, hlast⟩

/-- What was removed when a message arrived is among what the server has taken at the end. -/
theorem Begins.released {first rest : List Event} {outcome : Outcome} (h : s.Begins e seq)
    (hone : (first ++ .toClient outcome :: rest).countP (·.connects e.clientId) ≤ 1)
    (hport : ∀ node port,
      Event.connect e.clientId node port ∈ first ++ .toClient outcome :: rest →
        port = e.serverPort)
    (hroom : seq.toNat + 1 + (s.accepted (first ++ .toClient outcome :: rest)).length < 4294967296)
    {x x' : Socket ClientConnection} {g : Segment}
    (hx : (s.run first).client.sockets.socket? e.clientId = some x)
    (hx' : (s.run (first ++ [.toClient outcome])).client.sockets.socket? e.clientId = some x')
    (hg : g ∈ x.state.buffer.segments) (hgone : g ∉ x'.state.buffer.segments) :
    ∃ pieces taken, pieces.flatten = s.accepted (first ++ .toClient outcome :: rest) ∧
      (s.run (first ++ .toClient outcome :: rest)).Tracks e seq pieces taken [] ∧
      g ∈ (segmentsOf e.clientPort e.serverPort (seq + 1) taken).1 := by
  have hmax := h.maxSegment
  have hseq := toNat_seq_add_one hroom
  have hsplit : s.accepted (first ++ .toClient outcome :: rest) =
      s.accepted first ++ ((s.run first).step (.toClient outcome)).accepted rest :=
    accepted_append s first _
  have hlen := congrArg List.length hsplit
  rw [List.length_append] at hlen
  -- before the message, after it, and at the end
  obtain ⟨pieces, taken, hpieces, -, hbefore⟩ := Tracks.run first (.toClient outcome :: rest)
    (h.tracks hone hport) hmax (by rw [List.flatten_nil, List.nil_append]; omega)
  rw [List.flatten_nil, List.nil_append] at hpieces
  obtain ⟨taken', -, hafter⟩ := hbefore.step hmax (by rw [hpieces]; omega)
  have hnone : pieces ++ Bytes.chunks e.clientSettings.maxSegment
      ((s.run first).accepts (.toClient outcome)) = pieces := by
    show pieces ++ Bytes.chunks _ [] = pieces
    rw [Bytes.chunks_nil, List.append_nil]
  rw [hnone] at hafter
  rw [run_append] at hx'
  have hmem := hbefore.released hafter hx hx' hg hgone
  obtain ⟨pieces'', taken'', hpieces'', ⟨more, rfl⟩, hlast⟩ := Tracks.run rest []
    (by rwa [List.append_nil]) hmax (by rw [hpieces, List.length_append]; omega)
  refine ⟨pieces'', taken' ++ more, ?_, ?_, ?_⟩
  · rw [hpieces'', hpieces, hsplit]
  · rw [run_append, run_cons]
    exact hlast
  · rw [segmentsOf_append]
    exact List.mem_append_left _ hmem

/-- **Streams are safe.**  At every moment, the bytes that the server's calls have returned and
those that it holds are a front of what the client has accepted, and a connected server expects the
byte after them.  A segment that an arriving message has made the client remove carries bytes that
the server has got. -/
theorem stream_safe (h : s.Begins e seq) (hone : events.countP (·.connects e.clientId) ≤ 1)
    (hport : ∀ node port, Event.connect e.clientId node port ∈ events → port = e.serverPort)
    (hroom : seq.toNat + 1 + (s.accepted events).length < 4294967296) :
    ∃ y : ServerConnection,
      (s.run events).server.sockets.socket? e.serverId = some ⟨e.serverPort, y⟩ ∧
      (s.run events).returned ++ y.buffer <+: s.accepted events ∧
      (y.status = .connected →
        y.expected.toNat = seq.toNat + 1 + ((s.run events).returned ++ y.buffer).length) ∧
      ∀ first outcome rest x x' g, events = first ++ .toClient outcome :: rest →
        (s.run first).client.sockets.socket? e.clientId = some x →
        (s.run (first ++ [.toClient outcome])).client.sockets.socket? e.clientId = some x' →
        g ∈ x.state.buffer.segments → g ∉ x'.state.buffer.segments →
        ∃ front back, (s.run events).returned ++ y.buffer = front ++ g.payload ++ back ∧
          g.seq.toNat = seq.toNat + 1 + front.length := by
  have hseq := toNat_seq_add_one hroom
  obtain ⟨pieces, taken, hpieces, hlast⟩ := h.run hone hport hroom
  obtain ⟨v, hshows, hinv, -⟩ := hlast.scene
  have hserver := (Tracks.socket?_eq hshows).2
  obtain ⟨hgot, hexp⟩ := hlast.received hserver
  have hlen := length_flatten_le_of_isPrefix hinv.taken_isPrefix
  rw [hpieces] at hlen
  refine ⟨v.server, hserver, ?_, fun hs => ?_, ?_⟩
  · obtain ⟨more, rfl⟩ := hinv.taken_isPrefix
    rw [hgot, ← hpieces, List.flatten_append]
    exact List.prefix_append _ _
  · rw [hexp hs, hgot, toNat_positionAfter (by omega), hseq]
  · rintro first outcome rest x x' g rfl hx hx' hg hgone
    obtain ⟨pieces', taken', hpieces', hlast', hmem⟩ :=
      h.released hone hport hroom hx hx' hg hgone
    obtain ⟨_, -, hinv', -⟩ := hlast'.scene
    have hlen' := length_flatten_le_of_isPrefix hinv'.taken_isPrefix
    rw [hpieces'] at hlen'
    obtain ⟨front, piece, back, rfl, rfl⟩ := (mem_segmentsOf_iff _ _).1 hmem
    refine ⟨front.flatten, back.flatten, ?_, ?_⟩
    · rw [(hlast'.received hserver).1, List.flatten_append, List.flatten_cons, List.append_assoc]
      rfl
    · rw [List.flatten_append, List.length_append] at hlen'
      show (positionAfter (seq + 1) front).toNat = _
      rw [toNat_positionAfter (by omega), hseq]

/-! ### A short run -/

/-- The first sockets of a client with segments of two bytes and of a server. -/
def sampleEnds : Ends :=
  ⟨{ maxSegment := 2 }, 0, 7, {}, 0, 9⟩

/-- The session in which nothing has happened yet. -/
def sampleStart : Session :=
  start ⟨{ maxSegment := 2 }, ⟨some ⟨7, { nextSeq := 41 }⟩ :: List.replicate 9 none⟩⟩
    ⟨{}, ⟨some ⟨9, {}⟩ :: List.replicate 9 none⟩⟩ 1 2

/-- The client connects in two attempts and sends three bytes in two segments.  The first one is
damaged, and both are sent again. -/
def sampleRun : List Event :=
  [.listen 0, .connect 0 2 9, .advance 0, .toServer .lost, .pass 100, .advance 0,
    .toServer .delivered, .poll 0, .toClient .delivered, .send 0 [1, 2, 3],
    .toServer (.flipped 5), .toServer .delivered, .pass 100, .timer 0, .toServer .delivered,
    .receive 0 1, .poll 0, .toClient .lost]

theorem begins_sampleStart : sampleStart.Begins sampleEnds 41 where
  client := ⟨_, _, rfl, rfl, rfl⟩
  server := ⟨_, rfl, rfl⟩
  rest := ⟨1, 2, rfl⟩

theorem port_sampleRun (node : NodeId) (port : UInt32)
    (h : Event.connect 0 node port ∈ sampleRun ++ [.toClient .delivered]) : port = 9 := by
  simp [sampleRun] at h
  exact h.2

/-- An acknowledgment makes the client remove the first segment of the sample run. -/
theorem stream_safe_sampleRun :
    sampleStart.accepted (sampleRun ++ [.toClient .delivered]) = [1, 2, 3] ∧
      (sampleStart.run (sampleRun ++ [.toClient .delivered])).returned = [1] ∧
      ∃ y : ServerConnection, y.status = .connected ∧ [1] ++ y.buffer <+: [1, 2, 3] ∧
        y.expected.toNat = 42 + ([1] ++ y.buffer).length ∧
        ∃ front back, [1] ++ y.buffer = front ++ [1, 2] ++ back ∧ 42 = 42 + front.length := by
  let events := sampleRun ++ [.toClient .delivered]
  have haccepted : sampleStart.accepted events = [1, 2, 3] := by decide +kernel
  have hreturned : (sampleStart.run events).returned = [1] := by decide +kernel
  have hstatus : ((sampleStart.run events).server.sockets.socket? 0).map (·.state.status) =
      some .connected := by decide +kernel
  have hbefore : ((sampleStart.run sampleRun).client.sockets.socket? 0).map
      (·.state.buffer.segments) =
        some [Segment.dataOf 7 9 42 [1, 2], Segment.dataOf 7 9 44 [3]] := by decide +kernel
  have hafter : ((sampleStart.run events).client.sockets.socket? 0).map
      (·.state.buffer.segments) = some [Segment.dataOf 7 9 44 [3]] := by decide +kernel
  obtain ⟨x, hx, hsegments⟩ := Option.map_eq_some_iff.1 hbefore
  obtain ⟨x', hx', hsegments'⟩ := Option.map_eq_some_iff.1 hafter
  obtain ⟨y, hy, hgot, hexp, hkept⟩ := stream_safe begins_sampleStart
    (show events.countP _ ≤ 1 by decide) port_sampleRun (by decide +kernel)
  have hconnected : y.status = .connected := by
    obtain ⟨socket, hsocket, hconnected⟩ := Option.map_eq_some_iff.1 hstatus
    obtain rfl := Option.some.inj (hsocket.symm.trans hy)
    exact hconnected
  have hremoved := hkept sampleRun .delivered [] x x' (Segment.dataOf 7 9 42 [1, 2]) rfl hx hx'
    (by rw [hsegments]; decide) (by rw [hsegments']; decide)
  rw [haccepted, hreturned] at hgot
  rw [hreturned] at hexp hremoved
  exact ⟨haccepted, hreturned, y, hconnected, hgot, hexp hconnected, hremoved⟩

end Session

end OverlayStack.Transport
