import OverlayStack.Proofs.Transport.Pieces
import OverlayStack.Proofs.Transport.Turns

/-!
# Attempts to connect

What holds of the segments in flight however often the client connects.  As both directions keep
the order of messages, the marks never fall on the way from the client to the server and back.
When a call connects that is the only one to do so, its marks are new, and all that is sent with
them until the socket leaves the state in which it waits is the request of this call.  An answer
with such a mark is behind all older ones, and all that is still on its way to the server has the
same mark.

## Main definitions

* `Scene.Traffic` — the segments of the client are those of its port.
* `Scene.Marked` — the marks of the segments in flight.
* `Scene.Asks` — what holds while a single call waits for a connection.

## Main results

* `Traffic.turn`, `Marked.turn`, `Asks.turn` — every turn keeps these.
* `Turn.offered` — a connection is granted only by a server that has it.
* `Turn.granted` — a connection begins only when it is granted.
-/

namespace OverlayStack.Transport

open ClientConnection (segmentsOf)

/-! ### What one segment does -/

namespace ClientConnection.Heeds

variable {x x' : ClientConnection} {g : Segment} {sent : List Segment}

theorem segments_subset (h : x.Heeds g x' sent) :
    x'.buffer.segments ⊆ x.buffer.segments ∧ sent ⊆ x.buffer.segments := by
  cases h with
  | ignored => exact ⟨List.Subset.refl _, List.nil_subset _⟩
  | granted => exact ⟨List.Subset.refl _, List.nil_subset _⟩
  | left => exact ⟨List.Subset.refl _, List.nil_subset _⟩
  | acknowledged hs hk hx hsent =>
    obtain ⟨gone, hgone, -⟩ := x.buffer.exists_acknowledged g.ack
    have hsub : x'.buffer.segments ⊆ x.buffer.segments := by
      rw [hx.segments_eq, hgone]
      exact List.subset_append_right _ _
    exact ⟨hsub, List.Subset.trans hsent hsub⟩

/-- A closed socket, and one that waits for a connection and goes on to do so, ignores the
segment. -/
theorem eq_of_status (h : x.Heeds g x' sent)
    (hs : x.status = .closed ∨ x'.status = .synSent) : x' = x ∧ sent = [] := by
  cases h with
  | ignored => exact ⟨rfl, rfl⟩
  | granted hs' =>
    rcases hs with hs | hs
    · rw [hs] at hs'
      cases hs'
    · cases hs
  | left hs' =>
    rcases hs with hs | hs
    · rw [hs] at hs'
      cases hs'
    · cases hs
  | acknowledged hs' _ hx =>
    have hx' : x'.status = .connected := hx.status_eq.trans hs'
    rcases hs with hs | hs
    · rw [hs] at hs'
      cases hs'
    · rw [hs] at hx'
      cases hx'

/-- A connection begins when a segment grants it. -/
theorem granted_of_connected (h : x.Heeds g x' sent) (hs : x'.status = .connected) :
    x.status = .connected ∨
      x.status = .synSent ∧ g.kind = .synAck ∧ x' = { x with status := .connected } := by
  cases h with
  | ignored => exact .inl hs
  | granted hs' hk => exact .inr ⟨hs', hk, rfl⟩
  | left => cases hs
  | acknowledged hs' => exact .inl hs'

end ClientConnection.Heeds

namespace ServerConnection.Heeds

variable {capacity : Nat} {y y' : ServerConnection} {node : NodeId} {g : Segment}
  {sent : List Segment}

theorem payload_eq (h : y.Heeds capacity node g y' sent) : ∀ r ∈ sent, r.payload = [] := by
  intro r hr
  cases h with
  | ignored => cases hr
  | restarted => rw [List.mem_singleton.1 hr, Segment.reply]
  | left => rw [List.mem_singleton.1 hr, Segment.reply]
  | absorbed => rw [List.mem_singleton.1 hr, Segment.reply]

theorem serves_restarted (y : ServerConnection) (node : NodeId) (g : Segment) :
    ServerConnection.Serves { y.restarted node g with status := .connected } node g.sourcePort
      (g.seq + 1) :=
  ⟨rfl, rfl, rfl, rfl⟩

/-- A request to connect is ignored, or the server has the connection that it asks for. -/
theorem serves_of_syn (h : y.Heeds capacity node g y' sent) (hk : g.kind = .syn) :
    y' = y ∧ sent = [] ∨ y'.Serves node g.sourcePort (g.seq + 1) := by
  cases h with
  | ignored => exact .inl ⟨rfl, rfl⟩
  | restarted => exact .inr (serves_restarted y node g)
  | left _ hk' =>
    rw [hk] at hk'
    cases hk'
  | absorbed _ hk' =>
    rw [hk] at hk'
    cases hk'

/-- A server that grants a connection has it. -/
theorem serves_of_synAck (h : y.Heeds capacity node g y' sent) {r : Segment} (hr : r ∈ sent)
    (hk : r.kind = .synAck) : g.kind = .syn ∧ y'.Serves node g.sourcePort r.ack := by
  cases h with
  | ignored => cases hr
  | restarted hk' =>
    rw [List.mem_singleton.1 hr]
    exact ⟨hk', serves_restarted y node g⟩
  | left =>
    rw [List.mem_singleton.1 hr] at hk
    cases hk
  | absorbed =>
    rw [List.mem_singleton.1 hr] at hk
    cases hk

end ServerConnection.Heeds

namespace Scene

variable {e : Ends} {node : NodeId} {v v' : Scene} {m m' : CallMarks} {event : Event}

/-! ### Segments of one port -/

/-- The segment fits, and if it asks for a connection, then for a given port. -/
structure Plain (port : UInt32) (g : Segment) : Prop where
  length_le : g.payload.length ≤ 65535
  port_eq : g.kind = .syn → g.sourcePort = port

/-- All segments fit, and all that the client sends or is to send comes from its port. -/
structure Traffic (port : UInt32) (v : Scene) : Prop where
  calls : ∀ call ∈ v.calls, Plain port call.request
  queue : ∀ g ∈ v.client.buffer.segments, Plain port g
  up : ∀ g ∈ v.up, Plain port g
  down : ∀ g ∈ v.down, g.payload.length ≤ 65535

namespace Traffic

variable {port : UInt32}

theorem append_up (h : v.Traffic port) {sent : List Segment} (hsent : ∀ g ∈ sent, Plain port g) :
    Traffic port { v with up := v.up ++ sent } :=
  { h with up := fun g hg => (List.mem_append.1 hg).elim (h.up g) (hsent g) }

theorem setClient (h : v.Traffic port) {x : ClientConnection}
    (hx : ∀ g ∈ x.buffer.segments, Plain port g) : Traffic port { v with client := x } :=
  { h with queue := hx }

theorem append_calls (h : v.Traffic port) {call : Handshake} (hcall : Plain port call.request) :
    Traffic port { v with calls := v.calls ++ [call] } :=
  { h with
    calls := by
      intro c hc
      rcases List.mem_append.1 hc with hc | hc
      · exact h.calls c hc
      · rw [List.mem_singleton.1 hc]
        exact hcall }

theorem append_request (h : v.Traffic port) {place : Nat} {call : Handshake}
    (hc : v.calls[place]? = some call) (k : Nat) :
    Traffic port { v with up := v.up ++ List.replicate k call.request } := by
  apply h.append_up
  intro g hg
  rw [(List.mem_replicate.1 hg).2]
  exact h.calls call (List.mem_of_getElem? hc)

theorem enqueue (h : v.Traffic port) (hmax : 0 < e.clientSettings.maxSegment ∧
    e.clientSettings.maxSegment ≤ 65535) (data : Bytes) :
    ∀ g ∈ (v.client.enqueue e.clientPort e.clientSettings.maxSegment data).buffer.segments,
      Plain port g := by
  intro g hg
  rw [ClientConnection.segments_enqueue] at hg
  rcases List.mem_append.1 hg with hg | hg
  · exact h.queue g hg
  · obtain ⟨front, piece, back, hpieces, rfl⟩ := (mem_segmentsOf_iff _ _).1 hg
    have hpiece := mem_chunks hmax.1 data piece (by rw [hpieces]; simp)
    exact ⟨Nat.le_trans hpiece.2 hmax.2, nofun⟩

theorem move (h : v.Traffic port) {data : Bytes} (hmove : v.Move e data v')
    (hmax : 0 < e.clientSettings.maxSegment ∧ e.clientSettings.maxSegment ≤ 65535) :
    v'.Traffic port := by
  cases hmove with
  | idle => exact h
  | timer hx hsent =>
    exact (h.append_up fun g hg => h.queue g (hsent g hg).2).setClient
      fun g hg => h.queue g (hx.segments_eq ▸ hg)
  | send hs hx hsent =>
    have hqueue := h.enqueue hmax data
    rw [← hx.segments_eq] at hqueue
    exact (h.append_up fun g hg => hqueue g (hsent hg)).setClient hqueue
  | disconnect hs hk hr =>
    refine (h.append_calls ?_).setClient h.queue
    rw [hr]
    exact ⟨Nat.zero_le _, nofun⟩
  | @attempt place call call' k hc hk hkind hreq =>
    refine { h.append_request hc k with calls := ?_ }
    intro c hmem
    rcases List.mem_or_eq_of_mem_set hmem with hmem | rfl
    · exact h.calls c hmem
    · rw [hreq]
      exact h.calls call (List.mem_of_getElem? hc)
  | @finish place call k x hc hk hx =>
    refine { h.append_request hc k with
      calls := fun c hmem => h.calls c (List.mem_of_mem_eraseIdx hmem)
      queue := ?_ }
    intro g hg
    rcases hx with rfl | ⟨-, hsub⟩
    · exact h.queue g hg
    · exact h.queue g (hsub hg)
  | toClient hd hx =>
    obtain ⟨hqueue, hsent⟩ := hx.segments_subset
    exact { h.append_up fun g hg => h.queue g (hsent hg) with
      queue := fun g hg => h.queue g (hqueue hg)
      down := fun g hg => h.down g (hd ▸ List.mem_cons_of_mem _ hg) }
  | toServer hu hy =>
    refine { h with
      up := fun g hg => h.up g (hu ▸ List.mem_cons_of_mem _ hg)
      down := ?_ }
    intro g hg
    rcases List.mem_append.1 hg with hg | hg
    · exact h.down g hg
    · rw [hy.payload_eq g hg]
      exact Nat.zero_le _
  | listen => exact { h with }
  | read => exact { h with }
  | sweep => exact { h with }

/-- Every turn keeps to the client's port. -/
theorem turn (h : v.Traffic e.clientPort) (hturn : v.Turn e node m event v' m')
    (hmax : 0 < e.clientSettings.maxSegment ∧ e.clientSettings.maxSegment ≤ 65535) :
    v'.Traffic e.clientPort := by
  cases hturn with
  | begun server hs hk hr =>
    refine (h.append_calls ?_).setClient h.queue
    rw [hr]
    exact ⟨Nat.zero_le _, fun _ => rfl⟩
  | toClient outcome hd hx => exact h.move (.toClient hd hx) hmax
  | toServer outcome hu hy => exact h.move (.toServer hu hy) hmax
  | quiet hmove => exact h.move hmove hmax

end Traffic

/-! ### Marks -/

/-- The marks of the segments in flight, which never fall on the way from the client to the server
and back.  Before the first call to connect there is none, and it is alone. -/
structure Marked (v : Scene) (m : CallMarks) : Prop where
  length_up : m.up.length = v.up.length
  length_down : m.down.length = v.down.length
  sorted : (m.down ++ m.up).Pairwise (· ≤ ·)
  bounds : ∀ k ∈ m.down ++ m.up, 1 ≤ k ∧ k ≤ m.calls
  unused : m.calls = 0 →
    v.client.status = .closed ∧ ∀ call ∈ v.calls, call.kind ≠ .connect
  first : m.calls = 1 → m.alone = true

theorem pairwise_append_replicate {l : List Nat} {a : Nat} (h : l.Pairwise (· ≤ ·))
    (ha : ∀ k ∈ l, k ≤ a) (n : Nat) : (l ++ List.replicate n a).Pairwise (· ≤ ·) := by
  rw [List.pairwise_append]
  refine ⟨h, List.pairwise_replicate.2 (.inr (Nat.le_refl a)), ?_⟩
  intro k hk b hb
  rw [(List.mem_replicate.1 hb).2]
  exact ha k hk

theorem pairwise_spread {l r : List Nat} {a : Nat} (h : (l ++ a :: r).Pairwise (· ≤ ·)) (n : Nat) :
    ((l ++ List.replicate n a) ++ r).Pairwise (· ≤ ·) := by
  obtain ⟨hl, har, hle⟩ := List.pairwise_append.1 h
  obtain ⟨ha, hr⟩ := List.pairwise_cons.1 har
  have hfront := pairwise_append_replicate hl (fun k hk => hle k hk a List.mem_cons_self) n
  refine List.pairwise_append.2 ⟨hfront, hr, ?_⟩
  intro k hk b hb
  rcases List.mem_append.1 hk with hk | hk
  · exact hle k hk b (List.mem_cons_of_mem _ hb)
  · rw [(List.mem_replicate.1 hk).2]
    exact ha b hb

namespace Marked

/-- The mark of the next segment for the server. -/
theorem up_eq (h : v.Marked m) {g : Segment} {rest : List Segment} (hu : v.up = g :: rest) :
    ∃ k ks, m.up = k :: ks := by
  have hlen := h.length_up
  rw [hu] at hlen
  exact List.exists_cons_of_length_eq_add_one hlen

/-- The client sends segments with the newest mark. -/
theorem append_up (h : v.Marked m) {sent : List Segment}
    (hclosed : v.client.status = .closed → v'.client.status = .closed ∧ sent = [])
    (hup : v'.up = v.up ++ sent) (hdown : v'.down = v.down)
    (hcalls : ∀ call' ∈ v'.calls, call'.kind = .connect →
      ∃ call ∈ v.calls, call.kind = .connect ∧ call.request = call'.request) :
    v'.Marked { m with up := m.up ++ List.replicate sent.length m.calls } where
  length_up := by
    rw [List.length_append, List.length_replicate, h.length_up, hup, List.length_append]
  length_down := hdown ▸ h.length_down
  sorted := by
    rw [← List.append_assoc]
    exact pairwise_append_replicate h.sorted (fun k hk => (h.bounds k hk).2) _
  bounds := by
    intro k hk
    rw [← List.append_assoc, List.mem_append] at hk
    rcases hk with hk | hk
    · exact h.bounds k hk
    · obtain ⟨hne, rfl⟩ := List.mem_replicate.1 hk
      -- nothing is sent before the first call
      refine ⟨Nat.one_le_iff_ne_zero.2 fun hzero => hne ?_, Nat.le_refl _⟩
      rw [(hclosed (h.unused hzero).1).2, List.length_nil]
  unused := by
    intro hzero
    obtain ⟨hs, hnone⟩ := h.unused hzero
    refine ⟨(hclosed hs).1, ?_⟩
    intro call' hcall' hk
    obtain ⟨call, hcall, hk', -⟩ := hcalls call' hcall' hk
    exact hnone call hcall hk'
  first := h.first

theorem tail_down (h : v.Marked m) {g : Segment} {rest : List Segment} (hd : v.down = g :: rest) :
    Marked { v with down := rest } { m with down := m.down.tail } := by
  have hsub : (m.down.tail ++ m.up).Sublist (m.down ++ m.up) :=
    (List.tail_sublist _).append_right _
  refine { h with
    length_down := ?_
    sorted := h.sorted.sublist hsub
    bounds := fun k hk => h.bounds k (hsub.subset hk) }
  rw [List.length_tail, h.length_down, hd]
  rfl

/-- **Every turn keeps the marks in order.** -/
theorem turn (h : v.Marked m) (hturn : v.Turn e node m event v' m') : v'.Marked m' := by
  cases hturn with
  | begun =>
    exact { h with
      bounds := fun k hk => ⟨(h.bounds k hk).1, Nat.le_succ_of_le (h.bounds k hk).2⟩
      unused := nofun
      first := fun hone => decide_eq_true (h.unused (Nat.succ.inj hone)).2 }
  | toClient outcome hd hx =>
    refine (h.tail_down hd).append_up ?_ rfl rfl ?_
    · intro hs
      obtain ⟨rfl, hnone⟩ := hx.eq_of_status (.inl hs)
      exact ⟨hs, hnone⟩
    · intro call hcall hk
      exact ⟨call, hcall, hk, rfl⟩
  | @toServer outcome g rest sent y hu hy =>
    obtain ⟨k, ks, hks⟩ := h.up_eq hu
    have hlen := h.length_up
    have hsorted := h.sorted
    have hbounds := h.bounds
    rw [hks] at hlen hsorted hbounds
    refine { h with length_up := ?_, length_down := ?_, sorted := ?_, bounds := ?_ }
    · rw [hu, List.length_cons, List.length_cons] at hlen
      rw [hks]
      exact Nat.succ.inj hlen
    · rw [List.length_append, List.length_append, List.length_replicate, h.length_down]
    · rw [hks]
      exact pairwise_spread hsorted _
    · intro j hj
      apply hbounds j
      rw [hks] at hj
      simp only [List.mem_append, List.mem_replicate, List.headD_cons, List.tail_cons] at hj
      simp only [List.mem_append, List.mem_cons]
      tauto
  | quiet hmove hq =>
    exact h.append_up hq.closed hq.up_eq hq.down_eq hq.calls

end Marked

/-! ### A call that connects alone -/

/-- A single call waits for a connection with a port.  Its request has a given number. -/
structure Asks (e : Ends) (node : NodeId) (port seq : UInt32) (v : Scene) (m : CallMarks) :
    Prop where
  nextSeq_eq : v.client.nextSeq = seq + 1
  calls : ∀ call ∈ v.calls, call.kind = .connect →
    call.request = Segment.synOf e.clientPort port seq
  up : ∀ p ∈ v.up.zip m.up, p.2 = m.calls → p.1 = Segment.synOf e.clientPort port seq
  down : m.calls ∈ m.down → v.server.Serves node e.clientPort (seq + 1)

namespace Asks

variable {port seq : UInt32}

/-- The next segment reaches the server or is lost. -/
theorem toServer (h : v.Asks e node port seq m) (hmark : v.Marked m) {capacity : Nat} {g : Segment}
    {rest sent : List Segment} {y : ServerConnection} (hu : v.up = g :: rest)
    (hy : v.server.Heeds capacity node g y sent) :
    Asks e node port seq { v with up := rest, server := y, down := v.down ++ sent }
      { m with up := m.up.tail, down := m.down ++ List.replicate sent.length (m.up.headD 0) } := by
  obtain ⟨k, ks, hks⟩ := hmark.up_eq hu
  have hup := h.up
  have hsorted := hmark.sorted
  rw [hu, hks, List.zip_cons_cons] at hup
  rw [hks] at hsorted
  -- a segment with the newest mark is the request
  have hserves : k = m.calls → y = v.server ∧ sent = [] ∨
      y.Serves node e.clientPort (seq + 1) := by
    intro hk
    obtain rfl := hup (g, k) List.mem_cons_self hk
    exact hy.serves_of_syn rfl
  refine { h with up := ?_, down := ?_ }
  · intro p hp
    rw [hks] at hp
    exact hup p (List.mem_cons_of_mem _ hp)
  · intro hmem
    rw [hks] at hmem
    rcases List.mem_append.1 hmem with hmem | hmem
    -- there is an answer with the newest mark, and so the segment has it, too
    · have hk : k = m.calls := by
        have hle := (List.pairwise_append.1 hsorted).2.2 m.calls hmem k List.mem_cons_self
        have hge := (hmark.bounds k (by rw [hks]; simp)).2
        exact Nat.le_antisymm hge hle
      rcases hserves hk with ⟨rfl, -⟩ | hy'
      · exact h.down hmem
      · exact hy'
    · obtain ⟨hne, hk⟩ := List.mem_replicate.1 hmem
      rcases hserves hk.symm with ⟨-, rfl⟩ | hy'
      · exact absurd rfl hne
      · exact hy'

/-- No message arrives. -/
theorem quiet (h : v.Asks e node port seq m) (hmark : v.Marked m) {sent : List Segment}
    (hq : v.Quiet sent v') (hs : v'.client.status = .synSent) :
    v'.Asks e node port seq { m with up := m.up ++ List.replicate sent.length m.calls } := by
  obtain ⟨hs', hnext⟩ := hq.waiting hs
  refine ⟨hnext.trans h.nextSeq_eq, ?_, ?_, ?_⟩
  · intro call' hcall' hk
    obtain ⟨call, hcall, hkind, hreq⟩ := hq.calls call' hcall' hk
    rw [← hreq]
    exact h.calls call hcall hkind
  · intro p hp hmark'
    rw [hq.up_eq, List.zip_append hmark.length_up.symm] at hp
    rcases List.mem_append.1 hp with hp | hp
    · exact h.up p hp hmark'
    -- what is sent is the request
    · obtain ⟨call, hcall, hkind, hg⟩ := hq.requests hs' p.1 (List.of_mem_zip hp).1
      rw [hg]
      exact h.calls call hcall hkind
  · intro hmem
    exact hq.serves _ _ _ (h.down hmem)

/-- **Every turn keeps what holds of a single call**, and a call that begins to connect while no
other one waits is a single call. -/
theorem turn
    (h : m.alone = true → v.client.status = .synSent → ∃ port seq, v.Asks e node port seq m)
    (hmark : v.Marked m) (hturn : v.Turn e node m event v' m') (halone : m'.alone = true)
    (hs : v'.client.status = .synSent) : ∃ port seq, v'.Asks e node port seq m' := by
  cases hturn with
  | @begun server port call hs' hk hr =>
    -- nothing in flight has the mark of the new call
    have hfresh : ∀ k ∈ m.down ++ m.up, k ≠ m.calls + 1 := fun k hk =>
      Nat.ne_of_lt (Nat.lt_succ_of_le (hmark.bounds k hk).2)
    refine ⟨port, v.client.nextSeq, rfl, ?_, ?_, ?_⟩
    · intro c hc hk'
      rcases List.mem_append.1 hc with hc | hc
      · exact absurd hk' (of_decide_eq_true halone c hc)
      · rw [List.mem_singleton.1 hc, hr]
    · intro p hp hmark'
      exact absurd hmark' (hfresh p.2 (List.mem_append_right _ (List.of_mem_zip hp).2))
    · intro hmem
      exact absurd rfl (hfresh _ (List.mem_append_left _ hmem))
  | toClient outcome hd hx =>
    obtain ⟨rfl, rfl⟩ := hx.eq_of_status (.inr hs)
    obtain ⟨port, seq, hasks⟩ := h halone hs
    refine ⟨port, seq, { hasks with
      up := ?_
      down := fun hmem => hasks.down (List.mem_of_mem_tail hmem) }⟩
    rw [List.length_nil, List.replicate_zero, List.append_nil, List.append_nil]
    exact hasks.up
  | toServer outcome hu hy =>
    obtain ⟨port, seq, hasks⟩ := h halone hs
    exact ⟨port, seq, hasks.toServer hmark hu hy⟩
  | quiet hmove hq =>
    obtain ⟨port, seq, hasks⟩ := h halone (hq.waiting hs).1
    exact ⟨port, seq, hasks.quiet hmark hq hs⟩

end Asks

namespace Turn

/-- Each grant on its way was sent earlier, or just now by a server that has the connection. -/
theorem offered (hturn : v.Turn e node m event v' m') (h : v.Traffic e.clientPort) :
    ∀ g ∈ v'.down, g.kind = .synAck →
      g ∈ v.down ∨ v'.server.Serves node e.clientPort g.ack := by
  intro g hg hk
  cases hturn with
  | begun => exact .inl hg
  | toClient outcome hd hx => exact .inl (hd ▸ List.mem_cons_of_mem _ hg)
  | @toServer outcome request rest sent y hu hy =>
    rcases List.mem_append.1 hg with hg | hg
    · exact .inl hg
    · obtain ⟨hsyn, hserves⟩ := hy.serves_of_synAck hg hk
      rw [(h.up request (hu ▸ List.mem_cons_self)).port_eq hsyn] at hserves
      exact .inr hserves
  | quiet hmove hq => exact .inl (hq.down_eq ▸ hg)

/-- A connection begins when a grant arrives. -/
theorem granted (hturn : v.Turn e node m event v' m') (hs : v'.client.status = .connected) :
    v.client.status = .connected ∨
      ∃ outcome g rest, event = .toClient outcome ∧ v.down = g :: rest ∧ g.kind = .synAck ∧
        v.client.status = .synSent ∧ v'.client = { v.client with status := .connected } ∧
        v'.server = v.server := by
  cases hturn with
  | begun => cases hs
  | @toClient outcome g rest sent x hd hx =>
    rcases hx.granted_of_connected hs with hs' | ⟨hs', hk, rfl⟩
    · exact .inl hs'
    · exact .inr ⟨outcome, g, rest, rfl, hd, hk, hs', rfl, rfl⟩
  | toServer => exact .inl hs
  | quiet hmove hq => exact .inl (hq.connected hs)

/-- Until the socket is closed, no other call begins to connect. -/
theorem calls_subset (hturn : v.Turn e node m event v' m') (hs : v.client.status ≠ .closed) :
    ∀ call' ∈ v'.calls, call'.kind = .connect →
      ∃ call ∈ v.calls, call.kind = .connect ∧ call.request = call'.request := by
  intro call hcall hk
  cases hturn with
  | begun server hs' => exact absurd hs' hs
  | toClient => exact ⟨call, hcall, hk, rfl⟩
  | toServer => exact ⟨call, hcall, hk, rfl⟩
  | quiet hmove hq => exact hq.calls call hcall hk

end Turn

end Scene

end OverlayStack.Transport
