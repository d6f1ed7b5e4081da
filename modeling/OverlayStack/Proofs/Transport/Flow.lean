import OverlayStack.Proofs.Transport.StreamSafety
import OverlayStack.Proofs.Transport.Window

/-!
# What keeps a session going

In a session in which the client connects once, no request to disconnect is on its way while there
is a connection, and the window of the client stays full.  Together with the invariant of the
stream, this holds in every state that a session can reach.

## Main definitions

* `Scene.Open` — no request to disconnect is on its way to the server of a connection.

## Main results

* `Session.Shows.paced` — every event keeps the window full.
* `Scene.Open.move` — every move keeps requests to disconnect away.
* `Session.Begins.flows` — what holds in every state that is reached.
-/

namespace OverlayStack.Transport

open ClientConnection (segmentsOf)

namespace Scene

variable {e : Ends} {seq : UInt32} {pieces taken : List Bytes} {v v' : Scene}

/-- No request to disconnect is on its way to the server while there is a connection. -/
def Open (v : Scene) : Prop :=
  v.client.status = .connected → ∀ g ∈ v.up, g.kind ≠ .fin

/-- A client only queues pieces of its stream. -/
theorem InOrder.kind_of_mem_queue (h : v.InOrder e seq pieces taken)
    (hs : v.client.status = .connected) {g : Segment} (hg : g ∈ v.client.buffer.segments) :
    g.kind = .data := by
  obtain ⟨_, _, _, -, rfl⟩ := (mem_segmentsOf_iff _ _).1 (h.mem_segmentsOf hs hg)
  rfl

/-- While the client asks for a connection, nothing else is on its way. -/
theorem InOrder.kind_of_mem_up (h : v.InOrder e seq pieces taken)
    (hs : v.client.status = .synSent) {g : Segment} (hg : g ∈ v.up) : g.kind = .syn := by
  obtain ⟨requests, rest, hup, -, hopen, -⟩ := h.upward
  rw [hup, hopen hs, List.append_nil] at hg
  obtain ⟨-, rfl⟩ := List.mem_replicate.1 hg
  rfl

namespace Open

/-- Pieces of the stream are sent. -/
theorem append (h : v.Open) {x : ClientConnection} {sent : List Segment}
    (hs : x.status = v.client.status)
    (hsent : x.status = .connected → ∀ g ∈ sent, g.kind = .data) :
    Open { v with client := x, up := v.up ++ sent } := by
  intro hs' g hg
  rcases List.mem_append.1 hg with hg | hg
  · exact h (hs.symm.trans hs') g hg
  · rw [hsent hs' g hg]
    decide

/-- A call sends its request only while its socket waits for the answer. -/
theorem requests (h : v.Open) {call : Handshake} {k : Nat}
    (hk : k = 0 ∨ v.client.status = call.kind.waitingStatus) (hs : v.client.status = .connected) :
    ∀ g ∈ v.up ++ List.replicate k call.request, g.kind ≠ .fin := by
  rcases hk with rfl | hk
  · rw [List.replicate_zero, List.append_nil]
    exact h hs
  · rw [hs] at hk
    cases hkind : call.kind <;> rw [hkind] at hk <;> cases hk

/-- **Every move** keeps requests to disconnect away from a connection. -/
theorem move (h : v.Open) (hinv : v.InOrder e seq pieces taken) {pieces' taken' : List Bytes}
    (hinv' : v'.InOrder e seq pieces' taken') {data : Bytes} (hm : v.Move e data v') : v'.Open := by
  cases hm with
  | idle => exact h
  | timer hx hsent =>
    exact h.append hx.status_eq fun _ g hg =>
      hinv.kind_of_mem_queue (hsent g hg).1 (hsent g hg).2
  | send hs hx hsent =>
    exact h.append hx.status_eq fun hs' g hg => hinv'.kind_of_mem_queue hs' (hsent hg)
  | disconnect => exact nofun
  | attempt hc hk => exact fun hs => h.requests hk hs
  | finish hc hk hx =>
    intro hs
    rcases hx with rfl | ⟨hx, -⟩
    · exact h.requests hk hs
    · cases hx.symm.trans hs
  | @toClient g rest sent x hd hx =>
    cases hx with
    | ignored => exact h.append rfl fun _ _ hg => absurd hg List.not_mem_nil
    | granted hs =>
      intro _ g hg
      rw [List.append_nil] at hg
      rw [hinv.kind_of_mem_up hs hg]
      decide
    | left => exact nofun
    | acknowledged hs _ hx hsent =>
      exact h.append hx.status_eq fun hs' g hg => hinv'.kind_of_mem_queue hs' (hsent hg)
  | toServer hu => exact fun hs g hg => h hs g (hu ▸ List.mem_cons_of_mem _ hg)
  | listen => exact h
  | read => exact h
  | sweep => exact h

end Open

end Scene

namespace Session

variable {s : Session} {e : Ends} {seq : UInt32} {v v' : Scene} {event : Event}

/-- The arrival of a message only takes it from the link. -/
theorem exists_arrival (s : Session) (side : Side) (outcome : Outcome) :
    ∃ delivery link, s.arrival side outcome = (delivery, { s with link }) := by
  unfold arrival
  dsimp only
  split
  · exact ⟨_, s.link, rfl⟩
  · exact ⟨_, _, rfl⟩

/-- **Every event keeps the window full**, if there is nothing to send when the client connects. -/
theorem Shows.paced (h : s.Shows e v) (hp : v.client.Paced e.clientSettings.window s.now)
    (hconnect : ∀ node port, event = .connect e.clientId node port →
      v.client.buffer.isEmpty = true)
    (h' : (s.step event).Shows e v') :
    v'.client.Paced e.clientSettings.window (s.step event).now := by
  suffices key : ∃ x', (s.step event).client.Sole e.clientSettings e.clientId e.clientPort x' ∧
      x'.Paced e.clientSettings.window (s.step event).now by
    obtain ⟨x', hx', hp'⟩ := key
    rwa [hx'.connection_eq h'.client]
  cases event with
  | pass time => exact ⟨_, h.client, hp.later (Nat.le_add_right _ _)⟩
  | connect id node port =>
    by_cases hid : id = e.clientId
    · subst hid
      have hnone := hconnect node port rfl
      unfold Session.step Session.begin Client.connect
      dsimp only
      rw [h.client.sockets.require_self]
      simp only [bind, Except.bind]
      by_cases hs : v.client.status = .closed
      · rw [if_pos hs]
        exact ⟨_, h.client.set _, hp.asked hnone⟩
      · rw [if_neg hs]
        exact ⟨_, h.client, hp⟩
    · unfold Session.step Session.begin Client.connect
      dsimp only
      rw [h.client.sockets.require_of_ne hid]
      exact ⟨_, h.client, hp⟩
  | disconnect id =>
    unfold Session.step Session.begin Client.disconnect
    dsimp only
    by_cases hid : id = e.clientId
    · subst hid
      rw [h.client.sockets.require_self]
      simp only [bind, Except.bind]
      by_cases hs : v.client.status = .connected
      · rw [if_pos hs]
        exact ⟨_, h.client.set _, hp.full, hp.sentAt_le, hp.timers_pos, nofun, nofun⟩
      · rw [if_neg hs]
        exact ⟨_, h.client, hp⟩
    · rw [h.client.sockets.require_of_ne hid]
      exact ⟨_, h.client, hp⟩
  | send id data => exact h.client.paced_send hp id data
  | advance place =>
    unfold Session.step Session.advance
    dsimp only
    cases s.handshakes[place]? with
    | none => exact ⟨_, h.client, hp⟩
    | some call =>
      obtain ⟨k, x', -, hx, hsole, -⟩ := h.client.advanceFrom call s.now 0
      dsimp only
      split <;> exact ⟨x', hsole, hp.of_left hx⟩
  | timer id => exact h.client.paced_pollTimer hp id
  | listen id =>
    unfold Session.step
    dsimp only
    split <;> exact ⟨_, h.client, hp⟩
  | receive id length =>
    unfold Session.step
    dsimp only
    split <;> exact ⟨_, h.client, hp⟩
  | poll place =>
    unfold Session.step Session.poll
    dsimp only
    split
    · exact ⟨_, h.client, hp⟩
    · split <;> exact ⟨_, h.client, hp⟩
  | sweep => exact ⟨_, h.client, hp⟩
  | toClient outcome =>
    obtain ⟨delivery, link, harr⟩ := s.exists_arrival .a outcome
    rw [Session.step, harr]
    cases delivery with
    | dropped => exact ⟨_, h.client, hp⟩
    | segment source g => exact h.client.paced_handle hp g
  | toServer outcome =>
    obtain ⟨delivery, link, harr⟩ := s.exists_arrival .b outcome
    rw [Session.step, harr]
    cases delivery with
    | dropped => exact ⟨_, h.client, hp⟩
    | segment source g => exact ⟨_, h.client, hp⟩

/-- **What holds in every state** that a session reaches in which the client connects once. -/
theorem Begins.flows (h : s.Begins e seq) {events : List Event}
    (hone : events.countP (·.connects e.clientId) ≤ 1)
    (hport : ∀ node port, Event.connect e.clientId node port ∈ events → port = e.serverPort)
    (hroom : seq.toNat + 1 + (s.accepted events).length < 4294967296) :
    ∃ pieces taken v, pieces.flatten = s.accepted events ∧ (s.run events).Shows e v ∧
      v.InOrder e seq pieces taken ∧ v.Open ∧
      v.client.Paced e.clientSettings.window (s.run events).now ∧
      (events.countP (·.connects e.clientId) = 0 → pieces = [] ∧ v.Fresh seq) := by
  induction events using List.reverseRecOn with
  | nil =>
    refine ⟨[], [], _, rfl, h.shows, inOrder_start e seq, nofun, ?_, fun _ =>
      ⟨rfl, fresh_start seq⟩⟩
    exact ⟨.inl rfl, fun _ hf => absurd hf List.not_mem_nil, nofun, nofun, nofun⟩
  | append_singleton events event ih =>
    rw [accepted_append] at hroom ⊢
    have hlast : (s.run events).accepted [event] = (s.run events).accepts event :=
      List.append_nil _
    rw [List.countP_append] at hone
    rw [hlast, List.length_append] at hroom
    obtain ⟨pieces, taken, v, hpieces, hshows, hinv, hopen, hpaced, hfresh⟩ := ih (by omega)
      (fun node port hmem => hport node port (List.mem_append_left _ hmem)) (by omega)
    have hseq : (seq + 1).toNat = seq.toNat + 1 := toNat_seq_add_one hroom
    -- if the client connects now, it has not done so before
    have hfirst : [event].countP (·.connects e.clientId) ≠ 0 → pieces = [] ∧ v.Fresh seq :=
      fun hne => hfresh (by omega)
    obtain ⟨v', taken', -, hshows', hinv', -, hnext⟩ := hshows.follow hinv hfirst (by omega)
      (fun node port heq =>
        hport node port (heq ▸ List.mem_append_right _ (List.mem_singleton_self _)))
      h.maxSegment (by rw [hpieces]; omega)
    rw [run_append, run_cons, run_nil, hlast]
    refine ⟨_, taken', v', ?_, hshows', hinv', ?_, ?_, ?_⟩
    · rw [List.flatten_append, Bytes.flatten_chunks, hpieces]
    · rcases hnext with ⟨-, hmove⟩ | ⟨-, -, hs⟩
      · exact hopen.move hinv hinv' hmove
      · intro hs'
        cases hs.symm.trans hs'
    · refine hshows.paced hpaced (fun node port heq => ?_) hshows'
      rcases hnext with ⟨hne, -⟩ | ⟨-, hf, -⟩
      · exact absurd heq (hne node port)
      · exact SendBuffer.isEmpty_eq_true_iff_segments.2 hf.segments_eq
    · intro hnone
      rw [List.countP_append, Nat.add_eq_zero_iff] at hnone
      obtain ⟨rfl, hf⟩ := hfresh hnone.1
      rcases hnext with ⟨-, hmove⟩ | ⟨hconnects, -⟩
      · obtain ⟨hf', hdata⟩ := hf.move hmove
        rw [hdata, Bytes.chunks_nil]
        exact ⟨rfl, hf'⟩
      · rw [List.countP_singleton, if_pos hconnects] at hnone
        cases hnone.2

end Session

end OverlayStack.Transport
