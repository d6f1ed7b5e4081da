import OverlayStack.Proofs.Transport.Drain
import OverlayStack.Proofs.Transport.WrapAround

/-!
# Recovery from losses

Whatever has been lost before, one more round is enough once nothing is lost any more: when the link
has run empty, the timer of the client sends everything in flight again, and when the link has run
empty once more, the server has taken the whole stream and the client has nothing left to send.

What is sent again begins at a piece that the server has already taken or that it takes next, and it
arrives without a gap, so that the server takes every piece on the way.  The answer to the last one
acknowledges everything that was sent, so that the client removes it.  If it sends pieces that have
waited because of an earlier answer, these travel behind the others.

## Main definitions

* `Scene.HasSent` — how much of the stream has been sent at least once.
* `Scene.Recovers` — the invariant of a connection after everything in flight was sent again.

## Main results

* `Scene.Live.retransmitted` — the timer begins a recovery.
* `Scene.Recovers.arrives` — every arrival carries it on.
* `Session.recovers` — sessions recover.
-/

namespace OverlayStack.Transport

open ClientConnection (segmentsOf)

namespace Scene

variable {e : Ends} {seq : UInt32} {pieces taken sent : List Bytes} {v : Scene}

/-! ### What was sent and taken -/

/-- A front of the stream has been sent at least once, and the rest of it waits. -/
def HasSent (e : Ends) (seq : UInt32) (pieces sent : List Bytes) (v : Scene) : Prop :=
  ∃ rest, pieces = sent ++ rest ∧ v.client.buffer.waiting =
    (segmentsOf e.clientPort e.serverPort (positionAfter (seq + 1) sent) rest).1

namespace HasSent

/-- What waits tells what was sent. -/
theorem eq_of_hasSent (h : v.HasSent e seq pieces sent) {sent' : List Bytes}
    (h' : v.HasSent e seq pieces sent') : sent = sent' := by
  obtain ⟨rest, hsplit, hwait⟩ := h
  obtain ⟨rest', hsplit', hwait'⟩ := h'
  have hlen := congrArg List.length (hwait.symm.trans hwait')
  rw [length_segmentsOf, length_segmentsOf] at hlen
  exact (List.append_inj' (hsplit.symm.trans hsplit') hlen).1

/-- Segments that waited are sent. -/
theorem exists_more (h : v.HasSent e seq pieces sent) {out waiting : List Segment}
    (hwait : v.client.buffer.waiting = out ++ waiting) :
    ∃ more,
      out = (segmentsOf e.clientPort e.serverPort (positionAfter (seq + 1) sent) more).1 ∧
        ∀ v' : Scene, v'.client.buffer.waiting = waiting →
          v'.HasSent e seq pieces (sent ++ more) := by
  obtain ⟨rest, hsplit, hrest⟩ := h
  obtain ⟨more, rest, rfl, hout, hleft⟩ :=
    exists_of_segmentsOf_eq_append _ _ (hrest.symm.trans hwait)
  refine ⟨more, hout, fun v' hv' => ⟨rest, ?_, ?_⟩⟩
  · rw [hsplit, List.append_assoc]
  · rw [positionAfter_append]
    exact hv'.trans hleft

/-- Everything was sent if nothing waits. -/
theorem eq_pieces (h : v.HasSent e seq pieces sent) (hnone : v.client.buffer.waiting = []) :
    sent = pieces := by
  refine h.eq_of_hasSent ⟨[], (List.append_nil _).symm, ?_⟩
  rw [hnone]
  rfl

end HasSent

/-- What is in flight is the last part of what was sent. -/
theorem InOrder.exists_inFlight (h : v.InOrder e seq pieces taken)
    (hs : v.client.status = .connected) :
    ∃ gone flight, gone <+: taken ∧
      v.client.buffer.Carries e.clientPort e.serverPort (positionAfter (seq + 1) gone) flight ∧
      v.HasSent e seq pieces (gone ++ flight) := by
  obtain ⟨gone, left, hsplit, hgone, hqueue, -⟩ := h.queue hs
  obtain ⟨flight, rest, rfl, hflight, hrest⟩ := exists_of_segmentsOf_eq_append _ _ hqueue.symm
  refine ⟨gone, flight, hgone, hflight, rest, ?_, ?_⟩
  · rw [hsplit, List.append_assoc]
  · rw [positionAfter_append]
    exact hrest

/-- If the server has taken all that was sent, its position lies above everything in flight. -/
theorem InOrder.seq_lt_of_hasSent (h : v.InOrder e seq pieces taken)
    (hs : v.client.status = .connected)
    (hroom : (seq + 1).toNat + pieces.flatten.length < 4294967296)
    (hsent : v.HasSent e seq pieces sent) (hle : sent <+: taken) {f : InFlight}
    (hf : f ∈ v.client.buffer.inFlight) : f.segment.seq < positionAfter (seq + 1) taken := by
  obtain ⟨gone, flight, -, hcarries, hsent'⟩ := h.exists_inFlight hs
  obtain ⟨before, piece, after, rfl, hseg⟩ := hcarries.exists_of_mem hf
  obtain rfl := hsent'.eq_of_hasSent hsent
  have hpos : 0 < piece.length := List.length_pos_iff.2
    (h.sound piece ((hle.trans h.taken_isPrefix).subset (by simp))).1
  have hlen := length_flatten_le_of_isPrefix h.taken_isPrefix
  have hlen' := length_flatten_le_of_isPrefix hle
  rw [← List.append_assoc, List.flatten_append, List.flatten_cons, List.length_append,
    List.length_append] at hlen'
  rw [hseg, UInt32.lt_iff_toNat_lt]
  show (positionAfter (positionAfter (seq + 1) gone) before).toNat < _
  rw [← positionAfter_append, toNat_positionAfter (by omega), toNat_positionAfter (by omega)]
  omega

/-- A server takes the next piece, for which it has room. -/
theorem Live.accepts_next {now : Nat} {piece : Bytes} {back : List Bytes}
    (h : v.Live e seq pieces taken now) (hsplit : pieces = taken ++ piece :: back) :
    v.server.accepts e.serverSettings.receiveCapacity
      (Segment.dataOf e.clientPort e.serverPort (positionAfter (seq + 1) taken) piece) = true := by
  have hspace := h.room
  rw [hsplit, List.flatten_append, List.flatten_cons, List.length_append, List.length_append]
    at hspace
  have hpos := List.length_pos_iff.2
    (h.inOrder.sound piece (hsplit ▸ List.mem_append_right _ List.mem_cons_self)).1
  unfold ServerConnection.accepts
  rw [Bool.and_eq_true, beq_iff_eq, decide_eq_true_eq]
  refine ⟨(h.inOrder.expected h.server_eq).symm, ?_⟩
  show _ + piece.length ≤ _
  omega

/-- A server that gets a piece has it then, unless pieces in front of it are missing. -/
theorem Live.absorbed_isPrefix {now : Nat} (h : v.Live e seq pieces taken now)
    (hroom : (seq + 1).toNat + pieces.flatten.length < 4294967296) {front back : List Bytes}
    {piece : Bytes} (hfront : front <+: taken) (hsplit : pieces = front ++ piece :: back)
    {taken' : List Bytes} (hle : taken <+: taken') (htaken' : taken' <+: pieces)
    (hexp : (v.server.absorb e.serverSettings.receiveCapacity
      (Segment.dataOf e.clientPort e.serverPort (positionAfter (seq + 1) front) piece)).expected =
        positionAfter (seq + 1) taken') : front ++ [piece] <+: taken' := by
  have hnext : front ++ [piece] <+: pieces := ⟨back, by simp [hsplit]⟩
  rcases List.prefix_or_prefix_of_prefix hnext htaken' with hin | hin
  · exact hin
  rcases List.prefix_concat_iff.1 hin with rfl | hin
  · exact List.prefix_rfl
  -- otherwise the piece was the next one, but the server still expects it
  obtain rfl := (hfront.trans hle).eq_of_length_le hin.length_le
  obtain rfl := hfront.eq_of_length_le hle.length_le
  rw [ServerConnection.absorb, if_pos (h.accepts_next hsplit)] at hexp
  have hmoved : positionAfter (seq + 1) (front ++ [piece]) = positionAfter (seq + 1) front := by
    rw [positionAfter_append, positionAfter_singleton, ← h.inOrder.expected h.server_eq]
    exact hexp.trans (h.inOrder.expected h.server_eq).symm
  rw [eq_of_positionAfter_eq (fun p hp => (h.inOrder.sound p hp).1) hnext htaken' hroom hmoved]

/-! ### Recoveries -/

/-- What is on its way to the server goes on, without a gap, from a front of what the server has
taken to the end of what was sent.  Unless nothing is in flight, it is not empty, or else the last
answer acknowledges everything that the server has taken. -/
structure Recovers (e : Ends) (seq : UInt32) (pieces taken : List Bytes) (now : Nat) (v : Scene) :
    Prop extends v.Live e seq pieces taken now where
  resent : ∃ front back, front <+: taken ∧ v.HasSent e seq pieces (front ++ back) ∧
    v.up = (segmentsOf e.clientPort e.serverPort (positionAfter (seq + 1) front) back).1
  answers : ∀ g ∈ v.down,
    g.kind = .dataAck ∧ g.destPort = e.clientPort ∧ g.sourcePort = e.serverPort
  heard : v.client.buffer.inFlight = [] ∨ v.up ≠ [] ∨
    ∃ init g, v.down = init ++ [g] ∧ g.ack = positionAfter (seq + 1) taken

/-- **The timer begins a recovery** when the link has run empty: everything in flight is sent
again. -/
theorem Live.retransmitted {s : Session} {now : Nat} (h : v.Live e seq pieces taken now)
    (hshows : s.Shows e v) (hidle : s.Idle) (hdue : now + e.clientSettings.dataTimeout ≤ s.now) :
    ∃ v', (s.step (.timer e.clientId)).Shows e v' ∧ v'.Recovers e seq pieces taken s.now ∧
      v'.client.buffer = (v.client.buffer.retransmit s.now neverRefused).1 ∧
      v'.up = (v.client.buffer.retransmit s.now neverRefused).2.1 ∧ v'.down = [] := by
  obtain ⟨hdown, hup⟩ := hshows.eq_nil_of_idle hidle
  obtain ⟨x, sent, htimed, hx, hsent⟩ := hshows.client.pollTimer_self s.now
  obtain ⟨hbuffer, rfl⟩ := h.paced.sent_of_timed h.client_eq hdue htimed
  rw [SendBuffer.retransmit_eq] at hbuffer hsent ⊢
  dsimp only at hbuffer hsent ⊢
  obtain ⟨x', hsame, hx', hmem⟩ := hshows.client.pollTimer e.clientId s.now
  obtain rfl := hx'.connection_eq hx
  rw [hsent] at hmem
  have hall : v.up ++ v.client.buffer.inFlight.map (·.segment) =
      v.client.buffer.inFlight.map (·.segment) := by
    rw [hup, List.nil_append]
  have hmove : v.Move e [] { v with
      client := x, up := v.up ++ v.client.buffer.inFlight.map (·.segment) } := .timer hsame hmem
  have hinv' := (h.inOrder.append_up_of_queue hmem).of_sameStream hsame
  have hshows' : (s.step (.timer e.clientId)).Shows e { v with
      client := x, up := v.up ++ v.client.buffer.inFlight.map (·.segment) } := by
    rw [← hsent]
    exact (hshows.setClient hx).post_a _
  refine ⟨_, hshows', ⟨⟨hinv', h.isOpen.move h.inOrder hinv' hmove,
    hshows.paced (h.paced.later (by omega)) (by nofun) hshows', hsame.status_eq.trans h.client_eq,
    h.server_eq, h.room⟩, ?_, ?_, ?_⟩, hbuffer, hall, hdown⟩
  · obtain ⟨gone, flight, hgone, hcarries, rest, hsplit, hrest⟩ :=
      h.inOrder.exists_inFlight h.client_eq
    refine ⟨gone, flight, hgone, ⟨rest, hsplit, ?_⟩, hall.trans hcarries⟩
    exact (congrArg (·.waiting) hbuffer).trans hrest
  · show ∀ g ∈ v.down, _
    rw [hdown]
    exact fun g hg => absurd hg List.not_mem_nil
  · show x.buffer.inFlight = [] ∨ v.up ++ v.client.buffer.inFlight.map (·.segment) ≠ [] ∨ _
    rw [hall, hbuffer]
    cases hflight : v.client.buffer.inFlight with
    | nil => exact .inl rfl
    | cons f rest => exact .inr (.inl (List.cons_ne_nil _ _))

namespace Recovers

variable {s : Session}

/-- When nothing is on its way to the server, it has taken all that was sent. -/
theorem exists_sent {now : Nat} (h : v.Recovers e seq pieces taken now) (hup : v.up = []) :
    ∃ sent, sent <+: taken ∧ v.HasSent e seq pieces sent := by
  obtain ⟨front, back, hfront, hsent, hup'⟩ := h.resent
  have hback : back = [] := by
    rw [← List.length_eq_zero_iff, ← length_segmentsOf e.clientPort e.serverPort back
      (positionAfter (seq + 1) front), ← hup', hup, List.length_nil]
  rw [hback, List.append_nil] at hsent
  exact ⟨front, hfront, hsent⟩

/-- The last answer leaves nothing in flight, if nothing is on its way to the server. -/
theorem heard_acknowledge {now : Nat} (h : v.Recovers e seq pieces taken now)
    (hroom : (seq + 1).toNat + pieces.flatten.length < 4294967296) (hup : v.up = []) {g : Segment}
    {rest : List Segment} (hd : v.down = g :: rest) {gone kept : List InFlight}
    (hflight : v.client.buffer.inFlight = gone ++ kept)
    (hkept : ∀ f ∈ kept.head?, ¬ f.segment.seq < g.ack) :
    kept = [] ∨ ∃ init last, rest = init ++ [last] ∧ last.ack = positionAfter (seq + 1) taken := by
  rcases h.heard with hnone | hne | ⟨init, last, hdown, hack⟩
  · exact .inl (List.append_eq_nil_iff.1 (hflight.symm.trans hnone)).2
  · exact absurd hup hne
  · cases init with
    | cons _ init => exact .inr ⟨init, last, (List.cons.inj (hd.symm.trans hdown)).2, hack⟩
    -- nothing in flight lies above what the last answer acknowledges
    | nil =>
      obtain rfl := (List.cons.inj (hd.symm.trans hdown)).1
      obtain ⟨sent, hle, hsent⟩ := h.exists_sent hup
      refine .inl (List.eq_nil_iff_forall_not_mem.2 fun f hf => ?_)
      obtain ⟨f', tail, rfl⟩ := List.exists_cons_of_ne_nil (List.ne_nil_of_mem hf)
      have hin : f' ∈ v.client.buffer.inFlight :=
        hflight ▸ List.mem_append_right _ List.mem_cons_self
      have hlt := h.inOrder.seq_lt_of_hasSent h.client_eq hroom hsent hle hin
      exact hkept f' rfl (hack ▸ hlt)

/-- A piece that was sent again reaches the server. -/
theorem toServer (h : v.Recovers e seq pieces taken s.now) (hshows : s.Shows e v)
    (hroom : (seq + 1).toNat + pieces.flatten.length < 4294967296)
    (hsome : s.link.atB.inbox ≠ []) :
    ∃ v' taken', (s.step (.toServer .delivered)).Shows e v' ∧
      v'.Recovers e seq pieces taken' (s.step (.toServer .delivered)).now := by
  obtain ⟨front, back, hfront, hsent, hup⟩ := h.resent
  obtain ⟨g, rest, hu⟩ := hshows.exists_up hsome
  cases back with
  | nil => cases hu.symm.trans hup
  | cons piece back =>
    rw [segmentsOf] at hup
    have hshows' := hshows.toServer_data h.server_eq h.inOrder.length_payload_up hup rfl rfl
    obtain ⟨taken', hle, hlive⟩ :=
      h.answered hshows hroom 0 hup (.absorbed h.server_eq rfl) hshows'
    have hexp := hlive.inOrder.expected hlive.server_eq
    refine ⟨_, taken', hshows', hlive, ⟨front ++ [piece], back, ?_, ?_, ?_⟩, ?_, ?_⟩
    · obtain ⟨left, hsplit, -⟩ := hsent
      rw [List.append_assoc, List.cons_append] at hsplit
      exact h.absorbed_isPrefix hroom hfront hsplit hle hlive.inOrder.taken_isPrefix hexp
    · rw [List.append_assoc]
      exact hsent
    · rw [positionAfter_append, positionAfter_singleton]
    · intro g hg
      rcases List.mem_append.1 hg with hg | hg
      · exact h.answers g hg
      · rw [List.mem_singleton] at hg
        subst hg
        exact ⟨rfl, rfl, rfl⟩
    · exact .inr (.inr ⟨v.down, _, rfl, hexp⟩)

/-- An answer reaches the client. -/
theorem toClient (h : v.Recovers e seq pieces taken s.now) (hshows : s.Shows e v)
    (hroom : (seq + 1).toNat + pieces.flatten.length < 4294967296)
    (hsome : s.link.atA.inbox ≠ []) :
    ∃ v', (s.step (.toClient .delivered)).Shows e v' ∧
      v'.Recovers e seq pieces taken (s.step (.toClient .delivered)).now := by
  obtain ⟨g, rest, hd⟩ := hshows.exists_down hsome
  obtain ⟨hk, hdest, hsource⟩ := h.answers g (hd ▸ List.mem_cons_self)
  obtain ⟨-, -, -, -, -, -, hport⟩ := h.inOrder.queue h.client_eq
  obtain ⟨-, hshows'⟩ :=
    (hshows.toClient_connected h.client_eq h.inOrder.length_payload_down hd).resolve_right
      fun hne => hne.1 ⟨hk, hdest, hsource.trans hport.symm⟩
  obtain ⟨gone, kept, out, waiting, hflight, -, hkept, hwait, hafter⟩ :=
    v.client.exists_afterAck g.ack e.clientSettings.window s.now
  rw [hafter] at hshows'
  obtain ⟨front, back, hfront, hsent, hup⟩ := h.resent
  obtain ⟨more, hout, hsent'⟩ := hsent.exists_more hwait
  refine ⟨_, hshows', h.acknowledged hshows hroom hd hk hafter hshows',
    ⟨front, back ++ more, hfront, ?_, ?_⟩, fun g' hg' => ?_, ?_⟩
  · rw [← List.append_assoc]
    exact hsent' _ rfl
  · rw [segmentsOf_append, ← positionAfter_append, ← hup, ← hout]
  · exact h.answers g' (hd ▸ List.mem_cons_of_mem _ hg')
  · by_cases hnone : v.up ++ out = []
    · obtain ⟨hup', rfl⟩ := List.append_eq_nil_iff.1 hnone
      refine (h.heard_acknowledge hroom hup' hd hflight hkept).imp (fun hkept => ?_) .inr
      rw [hkept]
      rfl
    · exact .inr (.inl hnone)

/-- **Every arrival** carries a recovery on. -/
theorem arrives (h : v.Recovers e seq pieces taken s.now) (hshows : s.Shows e v)
    (hroom : (seq + 1).toNat + pieces.flatten.length < 4294967296) {event : Event}
    (harr : s.Arrives event) :
    ∃ v' taken', (s.step event).Shows e v' ∧
      v'.Recovers e seq pieces taken' (s.step event).now := by
  rcases harr with ⟨rfl, hsome⟩ | ⟨rfl, hsome⟩
  · obtain ⟨v', hshows', hnext⟩ := h.toClient hshows hroom hsome
    exact ⟨v', taken, hshows', hnext⟩
  · exact h.toServer hshows hroom hsome

/-- **When the link has run empty**, nothing is left to send, and the server has taken it all. -/
theorem of_idle {now : Nat} (h : v.Recovers e seq pieces taken now) (hshows : s.Shows e v)
    (hidle : s.Idle) (hwindow : 0 < e.clientSettings.window) :
    v.client.buffer.isEmpty = true ∧ taken = pieces := by
  obtain ⟨hdown, hup⟩ := hshows.eq_nil_of_idle hidle
  have hnone : v.client.buffer.inFlight = [] := by
    rcases h.heard with hnone | hne | ⟨init, g, hlast, -⟩
    · exact hnone
    · exact absurd hup hne
    · rw [hdown] at hlast
      exact absurd hlast.symm (List.append_ne_nil_of_right_ne_nil _ (List.cons_ne_nil _ _))
  have hempty := h.paced.full.isEmpty_of_inFlight hwindow hnone
  obtain ⟨sent, hle, hsent⟩ := h.exists_sent hup
  have hall := hsent.eq_pieces (SendBuffer.isEmpty_eq_true_iff.1 hempty).2
  exact ⟨hempty, h.inOrder.taken_isPrefix.eq_of_length_le (hall ▸ hle.length_le)⟩

end Recovers

end Scene

/-! ### Sessions -/

namespace Session

variable {s : Session} {e : Ends} {seq : UInt32} {events : List Event} {x : ClientConnection}
  {y : ServerConnection}

/-- A connection is live if the server has room for all that the client has not removed. -/
theorem Begins.live (h : s.Begins e seq) (hone : events.countP (·.connects e.clientId) ≤ 1)
    (hport : ∀ node port, Event.connect e.clientId node port ∈ events → port = e.serverPort)
    (hroom : seq.toNat + 1 + (s.accepted events).length < 4294967296)
    (hx : (s.run events).client.sockets.socket? e.clientId = some ⟨e.clientPort, x⟩)
    (hy : (s.run events).server.sockets.socket? e.serverId = some ⟨e.serverPort, y⟩)
    (hxs : x.status = .connected) (hys : y.status = .connected)
    (hspace : (x.buffer.segments.map (·.payload)).flatten.length ≤
      e.serverSettings.receiveCapacity - y.buffer.length) :
    ∃ pieces taken v, pieces.flatten = s.accepted events ∧ (s.run events).Shows e v ∧
      Scene.Live e seq pieces taken (s.run events).now v := by
  obtain ⟨pieces, taken, v, hpieces, hshows, hinv, hopen, hpaced, -⟩ := h.flows hone hport hroom
  obtain ⟨hclient, hserver⟩ := Tracks.socket?_eq hshows
  obtain rfl := (Socket.mk.inj (Option.some.inj (hx.symm.trans hclient))).2
  obtain rfl := (Socket.mk.inj (Option.some.inj (hy.symm.trans hserver))).2
  refine ⟨pieces, taken, v, hpieces, hshows, hinv, hopen, hpaced, hxs, hys, ?_⟩
  obtain ⟨gone, left, rfl, hgone, hqueue, -⟩ := hinv.queue hxs
  rw [hqueue, map_payload_segmentsOf] at hspace
  have hlen := length_flatten_le_of_isPrefix hgone
  rw [List.flatten_append, List.length_append]
  omega

/-- **Sessions recover from losses.**  When nothing is lost any more, the link of a connection runs
empty.  If the server has room for all that the client has not removed, and the timer of the client
then sends everything in flight again, the link runs empty once more, and then the client has
nothing left to send and the server has got all that the client has accepted. -/
theorem recovers (h : s.Begins e seq) (hone : events.countP (·.connects e.clientId) ≤ 1)
    (hport : ∀ node port, Event.connect e.clientId node port ∈ events → port = e.serverPort)
    (hroom : seq.toNat + 1 + (s.accepted events).length < 4294967296)
    (hx : (s.run events).client.sockets.socket? e.clientId = some ⟨e.clientPort, x⟩)
    (hy : (s.run events).server.sockets.socket? e.serverId = some ⟨e.serverPort, y⟩)
    (hxs : x.status = .connected) (hys : y.status = .connected)
    (hspace : (x.buffer.segments.map (·.payload)).flatten.length ≤
      e.serverSettings.receiveCapacity - y.buffer.length)
    {time : Nat} (htime : e.clientSettings.dataTimeout ≤ time) :
    (s.run events).Settles ((s.run events).load e.clientId) fun t =>
      let u := t.run [.pass time, .timer e.clientId]
      (∃ x' : ClientConnection,
        t.client.sockets.socket? e.clientId = some ⟨e.clientPort, x'⟩ ∧
        (u.client.sockets.socket? e.clientId).map (·.state.buffer) =
          some (x'.buffer.retransmit u.now neverRefused).1 ∧
        u.link.atB.inbox.map (·.2) =
          (x'.buffer.retransmit u.now neverRefused).2.1.map Segment.wire ∧
        u.link.atA.inbox = []) ∧
      u.Settles (u.load e.clientId) fun w =>
        ∃ (x' : ClientConnection) (y' : ServerConnection),
          w.client.sockets.socket? e.clientId = some ⟨e.clientPort, x'⟩ ∧
          w.server.sockets.socket? e.serverId = some ⟨e.serverPort, y'⟩ ∧
          x'.buffer.isEmpty = true ∧ w.returned ++ y'.buffer = s.accepted events := by
  obtain ⟨pieces, taken, v, hpieces, hshows, hlive⟩ :=
    h.live hone hport hroom hx hy hxs hys hspace
  have hseq := toNat_seq_add_one hroom
  have hroom' : (seq + 1).toNat + pieces.flatten.length < 4294967296 := by
    rw [hpieces]
    omega
  refine settles (P := fun t => ∃ v taken, t.Shows e v ∧ v.Live e seq pieces taken t.now)
    (m := fun t => t.load e.clientId)
    (fun t event ⟨v, taken, hshows, hlive⟩ harr => hlive.arrives hshows hroom' harr)
    ⟨v, taken, hshows, hlive⟩ ?_
  rintro t ⟨v, taken, hshows, hlive⟩ hidle
  have hlater : (t.step (.pass time)).Shows e v :=
    ⟨hshows.client, hshows.calls, hshows.up, hshows.server, hshows.down, hshows.returned⟩
  obtain ⟨v', hshows', hrecovers, hbuffer, hup, hdown⟩ := hlive.retransmitted hlater hidle
    (Nat.add_le_add_left htime _)
  refine ⟨⟨v.client, (Tracks.socket?_eq hshows).1, ?_, ?_, ?_⟩, ?_⟩
  · exact (congrArg (Option.map _) (Tracks.socket?_eq hshows').1).trans (congrArg some hbuffer)
  · exact hshows'.up.trans (congrArg _ hup)
  · have hlink := hshows'.down
    rwa [hdown, List.map_nil, List.map_eq_nil_iff] at hlink
  refine settles (P := fun t => ∃ v taken, t.Shows e v ∧ v.Recovers e seq pieces taken t.now)
    (m := fun t => t.load e.clientId)
    (fun t event ⟨v, taken, hshows, hrecovers⟩ harr => ⟨hrecovers.arrives hshows hroom' harr,
      (hrecovers.toLive.arrives hshows hroom' harr).2⟩)
    ⟨v', taken, hshows', hrecovers⟩ ?_
  rintro w ⟨v, taken, hshows, hrecovers⟩ hidle
  obtain ⟨hclient, hserver⟩ := Tracks.socket?_eq hshows
  obtain ⟨hempty, rfl⟩ := hrecovers.of_idle hshows hidle h.window_pos
  refine ⟨v.client, v.server, hclient, hserver, hempty, ?_⟩
  rw [hshows.returned, hrecovers.inOrder.received, hpieces]

/-- The client sends three bytes in two segments, and the first one is lost. -/
def lossyRun : List Event :=
  [.listen 0, .connect 0 2 9, .advance 0, .toServer .delivered, .poll 0, .toClient .delivered,
    .send 0 [1, 2, 3], .toServer .lost]

theorem port_lossyRun (node : NodeId) (port : UInt32)
    (h : Event.connect 0 node port ∈ lossyRun) : port = 9 := by
  simp [lossyRun] at h
  exact h.2

/-- The server refuses the second segment and takes both when they are sent again. -/
theorem recovers_lossyRun :
    let t := (sampleStart.run lossyRun).run [.toServer .delivered, .toClient .delivered]
    let u := t.run [.pass 100, .timer 0]
    let w := u.run [.toServer .delivered, .toClient .delivered, .toServer .delivered,
      .toClient .delivered]
    (t.server.sockets.socket? 0).map (·.state.buffer) = some [] ∧
      ∃ (x : ClientConnection) (y : ServerConnection),
        w.client.sockets.socket? 0 = some ⟨7, x⟩ ∧ w.server.sockets.socket? 0 = some ⟨9, y⟩ ∧
          x.buffer.isEmpty = true ∧ w.returned ++ y.buffer = [1, 2, 3] := by
  intro t u w
  have hclient : ((sampleStart.run lossyRun).client.sockets.socket? 0).map
      (fun x => (x.port, x.state.status, x.state.buffer.segments.map (·.payload))) =
        some (7, .connected, [[1, 2], [3]]) := by decide +kernel
  have hserver : ((sampleStart.run lossyRun).server.sockets.socket? 0).map
      (fun y => (y.port, y.state.status, y.state.buffer)) = some (9, .connected, []) := by
    decide +kernel
  obtain ⟨⟨port, x⟩, hx, hxs⟩ := Option.map_eq_some_iff.1 hclient
  obtain ⟨⟨port', y⟩, hy, hys⟩ := Option.map_eq_some_iff.1 hserver
  simp only [Prod.mk.injEq] at hxs hys
  obtain ⟨rfl, hxs, hpayloads⟩ := hxs
  obtain ⟨rfl, hys, hbuffer⟩ := hys
  have hrecovers := recovers begins_sampleStart (show lossyRun.countP _ ≤ 1 by decide)
    port_lossyRun (by decide +kernel) hx hy hxs hys (by rw [hpayloads, hbuffer]; decide)
    (Nat.le_refl 100)
  have hfirst : (sampleStart.run lossyRun).Drains [.toServer .delivered, .toClient .delivered] :=
    ⟨⟨.inr ⟨rfl, by decide +kernel⟩, .inl ⟨rfl, by decide +kernel⟩, trivial⟩,
      by decide +kernel, by decide +kernel⟩
  have hsecond : u.Drains [.toServer .delivered, .toClient .delivered, .toServer .delivered,
      .toClient .delivered] :=
    ⟨⟨.inr ⟨rfl, by decide +kernel⟩, .inl ⟨rfl, by decide +kernel⟩,
      .inr ⟨rfl, by decide +kernel⟩, .inl ⟨rfl, by decide +kernel⟩, trivial⟩,
      by decide +kernel, by decide +kernel⟩
  have haccepted : sampleStart.accepted lossyRun = [1, 2, 3] := by decide +kernel
  have hlast := (hrecovers.required_of_drains _ hfirst).2.required_of_drains _ hsecond
  rw [haccepted] at hlast
  exact ⟨by decide +kernel, hlast⟩

end Session

end OverlayStack.Transport
