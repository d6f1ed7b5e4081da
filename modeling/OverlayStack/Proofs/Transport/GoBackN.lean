import OverlayStack.Proofs.Transport.Pieces
import OverlayStack.Proofs.Transport.Scene

/-!
# Streams arrive in order

The invariant of a session in which the client connects once.  The bytes that the client has
accepted are cut into pieces, and the server has taken some of the first ones.  The client has
removed no piece that the server has not taken, and every acknowledgment on its way, however old,
speaks of a front of what the server has taken.  Requests to connect travel in front of everything
else, so that a server that starts anew has not yet taken anything.

## Main definitions

* `Scene.Upward` — what is on its way to the server.
* `Scene.InOrder` — the invariant.
* `Scene.Fresh` — the client has not yet connected.

## Main results

* `InOrder.move` — every move keeps the invariant, and the server keeps what it has taken.
* `InOrder.connect` — so does the beginning of a connection.
-/

namespace OverlayStack.Transport

open ClientConnection (segmentsOf)

namespace Scene

/-- What is on its way to the server: requests to connect, as long as nothing was taken, and then
pieces of the stream and requests to disconnect. -/
def Upward (e : Ends) (seq : UInt32) (pieces taken : List Bytes) (status : Status)
    (up : List Segment) : Prop :=
  ∃ requests rest,
    up = List.replicate requests (Segment.synOf e.clientPort e.serverPort seq) ++ rest ∧
      (requests ≠ 0 → taken = []) ∧ (status = .synSent → rest = []) ∧
      ∀ g ∈ rest, g ∈ (segmentsOf e.clientPort e.serverPort (seq + 1) pieces).1 ∨
        g.kind = .fin ∧ g.payload = []

/-- The client with SYN number `seq` has accepted `pieces`, of which the server has taken the front
`taken`. -/
structure InOrder (e : Ends) (seq : UInt32) (pieces taken : List Bytes) (v : Scene) : Prop where
  sound : ∀ p ∈ pieces, p ≠ [] ∧ p.length ≤ 65535
  taken_isPrefix : taken <+: pieces
  received : v.returned ++ v.server.buffer = taken.flatten
  expected : v.server.status = .connected → v.server.expected = positionAfter (seq + 1) taken
  upward : Upward e seq pieces taken v.client.status v.up
  downward : ∀ g ∈ v.down, g.payload = [] ∧
    (g.kind = .dataAck → ∃ seen, seen <+: taken ∧ g.ack = positionAfter (seq + 1) seen)
  calls : ∀ call ∈ v.calls,
    call.kind = .connect ∧ call.request = Segment.synOf e.clientPort e.serverPort seq ∨
      call.kind = .disconnect ∧ call.request.kind = .fin ∧ call.request.payload = []
  opening : v.client.status = .synSent → pieces = [] ∧ v.client.buffer.segments = [] ∧
    v.client.nextSeq = seq + 1 ∧ v.client.serverPort = e.serverPort
  queue : v.client.status = .connected → ∃ gone left, pieces = gone ++ left ∧ gone <+: taken ∧
    v.client.buffer.segments =
      (segmentsOf e.clientPort e.serverPort (positionAfter (seq + 1) gone) left).1 ∧
    v.client.nextSeq = positionAfter (seq + 1) pieces ∧ v.client.serverPort = e.serverPort

/-- The client has not yet connected. -/
structure Fresh (seq : UInt32) (v : Scene) : Prop where
  status_eq : v.client.status = .closed
  nextSeq_eq : v.client.nextSeq = seq
  segments_eq : v.client.buffer.segments = []
  calls_eq : v.calls = []
  up_eq : v.up = []

variable {e : Ends} {seq : UInt32} {pieces taken : List Bytes} {v v' : Scene}

/-! ### On the way to the server -/

namespace Upward

variable {status status' : Status} {up : List Segment}

theorem mono (h : Upward e seq pieces taken status up) (more : List Bytes)
    (hs : status' = .synSent → status = .synSent) :
    Upward e seq (pieces ++ more) taken status' up := by
  obtain ⟨requests, rest, hup, htaken, hopen, hrest⟩ := h
  refine ⟨requests, rest, hup, htaken, fun h => hopen (hs h), fun g hg => ?_⟩
  rw [segmentsOf_append]
  exact (hrest g hg).imp_left (List.mem_append_left _)

theorem of_status (h : Upward e seq pieces taken status up)
    (hs : status' = .synSent → status = .synSent) : Upward e seq pieces taken status' up := by
  have h' := h.mono [] hs
  rwa [List.append_nil] at h'

/-- More pieces of the stream, or requests to disconnect, are sent. -/
theorem append (h : Upward e seq pieces taken status up) {sent : List Segment}
    (hsent : ∀ g ∈ sent, status ≠ .synSent ∧
      (g ∈ (segmentsOf e.clientPort e.serverPort (seq + 1) pieces).1 ∨
        g.kind = .fin ∧ g.payload = [])) :
    Upward e seq pieces taken status (up ++ sent) := by
  obtain ⟨requests, rest, rfl, htaken, hopen, hrest⟩ := h
  refine ⟨requests, rest ++ sent, List.append_assoc _ _ _, htaken, fun h => ?_, fun g hg => ?_⟩
  · have hnone : sent = [] := List.eq_nil_iff_forall_not_mem.2 fun g hg => (hsent g hg).1 h
    rw [hopen h, hnone]
    rfl
  · rcases List.mem_append.1 hg with hg | hg
    · exact hrest g hg
    · exact (hsent g hg).2

/-- More requests to connect are sent. -/
theorem append_requests (h : Upward e seq pieces taken .synSent up) (htaken : taken = [])
    (k : Nat) : Upward e seq pieces taken .synSent
      (up ++ List.replicate k (Segment.synOf e.clientPort e.serverPort seq)) := by
  obtain ⟨requests, rest, rfl, -, hopen, -⟩ := h
  refine ⟨requests + k, [], ?_, fun _ => htaken, fun _ => rfl, fun g hg => ?_⟩
  · rw [hopen rfl, List.append_nil, List.append_nil, List.replicate_append_replicate]
  · exact absurd hg List.not_mem_nil

/-- The next segment for the server is a request to connect, and then nothing was taken, or no such
request is left. -/
theorem cons_cases {g : Segment} {rest : List Segment}
    (h : Upward e seq pieces taken status (g :: rest)) :
    (g = Segment.synOf e.clientPort e.serverPort seq ∧ taken = [] ∧
        Upward e seq pieces [] status rest) ∨
      ((g ∈ (segmentsOf e.clientPort e.serverPort (seq + 1) pieces).1 ∨
        g.kind = .fin ∧ g.payload = []) ∧ ∀ taken', Upward e seq pieces taken' status rest) := by
  obtain ⟨requests, tail, hup, htaken, hopen, htail⟩ := h
  cases requests with
  | zero =>
    rw [List.replicate_zero, List.nil_append] at hup
    subst hup
    refine .inr ⟨htail g List.mem_cons_self, fun taken' => ⟨0, rest, rfl, fun h => absurd rfl h,
      fun h => ?_, fun x hx => htail x (List.mem_cons_of_mem _ hx)⟩⟩
    cases hopen h
  | succ requests =>
    rw [List.replicate_succ, List.cons_append] at hup
    obtain ⟨rfl, rfl⟩ := List.cons.inj hup
    exact .inl ⟨rfl, htaken (Nat.succ_ne_zero _), requests, tail, rfl, fun _ => rfl, hopen, htail⟩

end Upward

namespace InOrder

/-- What is on its way to the server fits into a segment. -/
theorem length_payload_up (h : v.InOrder e seq pieces taken) :
    ∀ g ∈ v.up, g.payload.length ≤ 65535 := by
  obtain ⟨requests, rest, hup, -, -, hrest⟩ := h.upward
  intro g hg
  rw [hup] at hg
  rcases List.mem_append.1 hg with hg | hg
  · obtain ⟨-, rfl⟩ := List.mem_replicate.1 hg
    exact Nat.zero_le _
  · rcases hrest g hg with hg | ⟨-, hpay⟩
    · obtain ⟨front, piece, back, rfl, rfl⟩ := (mem_segmentsOf_iff _ _).1 hg
      exact (h.sound piece (List.mem_append_right _ List.mem_cons_self)).2
    · rw [hpay]
      exact Nat.zero_le _

theorem length_payload_down (h : v.InOrder e seq pieces taken) :
    ∀ g ∈ v.down, g.payload.length ≤ 65535 := by
  intro g hg
  rw [(h.downward g hg).1]
  exact Nat.zero_le _

/-! ### What the client does -/

theorem of_sameStream (h : v.InOrder e seq pieces taken) {x : ClientConnection}
    (hx : v.client.SameStream x) : InOrder e seq pieces taken { v with client := x } :=
  { h with
    upward := h.upward.of_status fun hs => hx.status_eq ▸ hs
    opening := by
      show x.status = .synSent → _ ∧ x.buffer.segments = [] ∧ x.nextSeq = _ ∧ x.serverPort = _
      rw [hx.status_eq, hx.segments_eq, hx.nextSeq_eq, hx.serverPort_eq]
      exact h.opening
    queue := by
      show x.status = .connected → ∃ gone left, _ ∧ _ ∧ x.buffer.segments = _ ∧ x.nextSeq = _ ∧
        x.serverPort = _
      rw [hx.status_eq, hx.segments_eq, hx.nextSeq_eq, hx.serverPort_eq]
      exact h.queue }

theorem of_closed (h : v.InOrder e seq pieces taken) {x : ClientConnection}
    (hx : x.status = .closed) : InOrder e seq pieces taken { v with client := x } :=
  { h with
    upward := h.upward.of_status fun hs => by
      rw [hx] at hs
      cases hs
    opening := fun hs => by
      rw [show x.status = _ from hs] at hx
      cases hx
    queue := fun hs => by
      rw [show x.status = _ from hs] at hx
      cases hx }

theorem append_up (h : v.InOrder e seq pieces taken) {sent : List Segment}
    (hsent : ∀ g ∈ sent, v.client.status ≠ .synSent ∧
      (g ∈ (segmentsOf e.clientPort e.serverPort (seq + 1) pieces).1 ∨
        g.kind = .fin ∧ g.payload = [])) :
    InOrder e seq pieces taken { v with up := v.up ++ sent } :=
  { h with upward := h.upward.append hsent }

/-- What is in the queue of a connection belongs to the stream. -/
theorem mem_segmentsOf (h : v.InOrder e seq pieces taken) (hs : v.client.status = .connected)
    {g : Segment} (hg : g ∈ v.client.buffer.segments) :
    g ∈ (segmentsOf e.clientPort e.serverPort (seq + 1) pieces).1 := by
  obtain ⟨gone, left, rfl, -, hqueue, -⟩ := h.queue hs
  rw [hqueue] at hg
  rw [segmentsOf_append]
  exact List.mem_append_right _ hg

theorem append_up_of_queue (h : v.InOrder e seq pieces taken) {sent : List Segment}
    (hsent : ∀ g ∈ sent, v.client.status = .connected ∧ g ∈ v.client.buffer.segments) :
    InOrder e seq pieces taken { v with up := v.up ++ sent } := by
  refine h.append_up fun g hg => ?_
  obtain ⟨hs, hmem⟩ := hsent g hg
  refine ⟨?_, .inl (h.mem_segmentsOf hs hmem)⟩
  rw [hs]
  exact nofun

/-- The client accepts bytes: the stream gets longer. -/
theorem enqueue (h : v.InOrder e seq pieces taken) (hs : v.client.status = .connected)
    (hmax : 0 < e.clientSettings.maxSegment ∧ e.clientSettings.maxSegment ≤ 65535) (data : Bytes) :
    InOrder e seq (pieces ++ Bytes.chunks e.clientSettings.maxSegment data) taken
      { v with client := v.client.enqueue e.clientPort e.clientSettings.maxSegment data } := by
  obtain ⟨gone, left, hsplit, hgone, hqueue, hnext, hport⟩ := h.queue hs
  refine { h with
    sound := fun p hp => ?_
    taken_isPrefix := h.taken_isPrefix.trans (List.prefix_append _ _)
    upward := h.upward.mono _ id
    opening := fun hs' => ?_
    queue := fun _ => ⟨gone, left ++ Bytes.chunks e.clientSettings.maxSegment data, ?_, hgone,
      ?_, ?_, hport⟩ }
  · rcases List.mem_append.1 hp with hp | hp
    · exact h.sound p hp
    · obtain ⟨hne, hle⟩ := mem_chunks hmax.1 data p hp
      exact ⟨hne, Nat.le_trans hle hmax.2⟩
  · rw [show v.client.status = .synSent from hs'] at hs
    cases hs
  · rw [hsplit, List.append_assoc]
  · show (v.client.enqueue _ _ _).buffer.segments = _
    rw [ClientConnection.segments_enqueue, hqueue, hnext, hport, segmentsOf_append,
      ← positionAfter_append, hsplit]
  · show (segmentsOf e.clientPort v.client.serverPort v.client.nextSeq _).2 = _
    rw [snd_segmentsOf, hnext, ← positionAfter_append]

/-- A call sends its request again. -/
theorem append_request (h : v.InOrder e seq pieces taken) {call : Handshake} {k : Nat}
    (hcall : call ∈ v.calls) (hk : k = 0 ∨ v.client.status = call.kind.waitingStatus) :
    InOrder e seq pieces taken { v with up := v.up ++ List.replicate k call.request } := by
  rcases hk with rfl | hs
  · refine h.append_up fun g hg => ?_
    exact absurd hg List.not_mem_nil
  · rcases h.calls call hcall with ⟨hkind, hreq⟩ | ⟨hkind, hfin⟩
    · rw [hkind] at hs
      have hup := h.upward
      rw [hs] at hup
      -- while the client asks for a connection, it has accepted nothing
      have hnone : taken = [] := by
        have := h.taken_isPrefix
        rwa [(h.opening hs).1, List.prefix_nil] at this
      refine { h with upward := ?_ }
      show Upward e seq pieces taken v.client.status _
      rw [hs, hreq]
      exact hup.append_requests hnone k
    · rw [hkind] at hs
      refine h.append_up fun g hg => ?_
      obtain ⟨-, rfl⟩ := List.mem_replicate.1 hg
      refine ⟨?_, .inr hfin⟩
      rw [hs]
      exact nofun

theorem of_calls (h : v.InOrder e seq pieces taken) {calls : List Handshake}
    (hcalls : ∀ call ∈ calls, ∃ call' ∈ v.calls, call.kind = call'.kind ∧
      call.request = call'.request) : InOrder e seq pieces taken { v with calls } :=
  { h with
    calls := fun call hcall => by
      obtain ⟨call', hcall', hkind, hreq⟩ := hcalls call hcall
      rw [hkind, hreq]
      exact h.calls call' hcall' }

theorem disconnect (h : v.InOrder e seq pieces taken) {call : Handshake}
    (hk : call.kind = .disconnect)
    (hr : call.request = Segment.finOf e.clientPort v.client.serverPort v.client.nextSeq) :
    InOrder e seq pieces taken
      { v with
        client := { v.client with nextSeq := v.client.nextSeq + 1, status := .finWait }
        calls := v.calls ++ [call] } :=
  { h with
    upward := h.upward.of_status nofun
    opening := nofun
    queue := nofun
    calls := fun c hc => by
      rcases List.mem_append.1 hc with hc | hc
      · exact h.calls c hc
      · rw [List.mem_singleton] at hc
        subst hc
        exact .inr ⟨hk, hr ▸ ⟨rfl, rfl⟩⟩ }

/-! ### What reaches the client -/

theorem tail_down (h : v.InOrder e seq pieces taken) {g : Segment} {rest : List Segment}
    (hd : v.down = g :: rest) : InOrder e seq pieces taken { v with down := rest } :=
  { h with downward := fun x hx => h.downward x (hd ▸ List.mem_cons_of_mem _ hx) }

/-- An acknowledgment removes only what the server has taken. -/
theorem acknowledge (h : v.InOrder e seq pieces taken) (hs : v.client.status = .connected)
    {g : Segment} (hg : g ∈ v.down) (hk : g.kind = .dataAck)
    (hroom : (seq + 1).toNat + pieces.flatten.length < 4294967296) :
    InOrder e seq pieces taken
      { v with client := { v.client with buffer := (v.client.buffer.acknowledge g.ack).1 } } := by
  obtain ⟨gone, left, hsplit, hgone, hqueue, hnext, hport⟩ := h.queue hs
  obtain ⟨seen, hseen, hack⟩ := (h.downward g hg).2 hk
  obtain ⟨removed, hremoved, hlow⟩ := v.client.buffer.exists_acknowledged g.ack
  rw [hqueue] at hremoved
  obtain ⟨first, second, rfl, rfl, hkept⟩ := exists_of_segmentsOf_eq_append _ _ hremoved
  refine { h with
    upward := h.upward.of_status id
    opening := fun hs' => ?_
    queue := fun _ => ⟨gone ++ first, second, ?_, ?_, ?_, hnext, hport⟩ }
  · rw [show v.client.status = .synSent from hs'] at hs
    cases hs
  · rw [hsplit, List.append_assoc]
  -- the last piece that was removed lies below the acknowledged position
  · rcases List.eq_nil_or_concat first with rfl | ⟨init, piece, rfl⟩
    · rwa [List.append_nil]
    · have hlast := hlow _ ((mem_segmentsOf_iff _ _).2 ⟨init, piece, [], by simp, rfl⟩)
      rw [hack] at hlast
      have hlt : positionAfter (seq + 1) (gone ++ init) < positionAfter (seq + 1) seen := by
        rw [positionAfter_append]
        exact hlast
      have hnext : pieces = (gone ++ init) ++ piece :: second := by
        rw [hsplit]
        simp
      rw [List.concat_eq_append, ← List.append_assoc]
      have hbelow := isPrefix_of_positionAfter_lt hnext (hseen.trans h.taken_isPrefix) hroom hlt
      exact hbelow.trans hseen
  · rw [positionAfter_append]
    exact hkept

theorem toClient (h : v.InOrder e seq pieces taken) {g : Segment} {rest sent : List Segment}
    {x : ClientConnection} (hd : v.down = g :: rest) (hx : v.client.Heeds g x sent)
    (hroom : (seq + 1).toNat + pieces.flatten.length < 4294967296) :
    InOrder e seq pieces taken { v with client := x, up := v.up ++ sent, down := rest } := by
  cases hx with
  | ignored =>
    rw [List.append_nil]
    exact h.tail_down hd
  | granted hs hk =>
    obtain ⟨rfl, hqueue, hnext, hport⟩ := h.opening hs
    rw [List.append_nil]
    exact { h.tail_down hd with
      upward := h.upward.of_status nofun
      opening := nofun
      queue := fun _ => ⟨[], [], rfl, List.nil_prefix, hqueue,
        by rw [positionAfter_nil]; exact hnext, hport⟩ }
  | left hs =>
    rw [List.append_nil]
    exact (h.of_closed rfl).tail_down hd
  | acknowledged hs hk hx hsent =>
    have hack := (h.acknowledge hs (hd ▸ List.mem_cons_self) hk hroom).of_sameStream hx
    exact (hack.append_up_of_queue fun g hg => ⟨hx.status_eq.trans hs, hsent hg⟩).tail_down hd

/-! ### What reaches the server -/

theorem append_down (h : v.InOrder e seq pieces taken) {g : Segment} (hpay : g.payload = [])
    (hack : g.kind = .dataAck → ∃ seen, seen <+: taken ∧ g.ack = positionAfter (seq + 1) seen) :
    InOrder e seq pieces taken { v with down := v.down ++ [g] } :=
  { h with
    downward := fun x hx => by
      rcases List.mem_append.1 hx with hx | hx
      · exact h.downward x hx
      · rw [List.mem_singleton] at hx
        subst hx
        exact ⟨hpay, hack⟩ }

/-- Another number of the server's connection does not matter to the stream. -/
theorem of_server (h : v.InOrder e seq pieces taken) {y : ServerConnection}
    (hbuf : y.buffer = v.server.buffer)
    (hexp : y.status = .connected → v.server.status = .connected ∧ y.expected = v.server.expected) :
    InOrder e seq pieces taken { v with server := y } :=
  { h with
    received := by
      show v.returned ++ y.buffer = _
      rw [hbuf]
      exact h.received
    expected := fun hs => by
      obtain ⟨hs', heq⟩ := hexp hs
      exact heq.trans (h.expected hs') }

/-- The server starts anew, and has taken nothing before. -/
theorem restarted (h : v.InOrder e seq pieces taken) {up : List Segment} (source : NodeId)
    (htaken : taken = []) (hup : Upward e seq pieces [] v.client.status up) {g : Segment}
    (hg : g.seq = seq) :
    InOrder e seq pieces taken
      { v with
        up
        server := { v.server.restarted source g with status := .connected } } := by
  subst htaken
  have hnone : v.returned = [] := (List.append_eq_nil_iff.1 h.received).1
  exact { h with
    upward := hup
    received := by
      show v.returned ++ [] = _
      rw [hnone]
      rfl
    expected := fun _ => by
      show g.seq + 1 = _
      rw [hg, positionAfter_nil] }

/-- A piece of the stream is taken if it is the next one. -/
theorem absorb (h : v.InOrder e seq pieces taken) (hs : v.server.status = .connected)
    (capacity : Nat) {g : Segment}
    (hg : g ∈ (segmentsOf e.clientPort e.serverPort (seq + 1) pieces).1) {up : List Segment}
    (hup : ∀ taken', Upward e seq pieces taken' v.client.status up)
    (hroom : (seq + 1).toNat + pieces.flatten.length < 4294967296) :
    ∃ taken', taken <+: taken' ∧
      (v.server.absorb capacity g).expected = positionAfter (seq + 1) taken' ∧
      InOrder e seq pieces taken' { v with up, server := v.server.absorb capacity g } := by
  have hexp := h.expected hs
  unfold ServerConnection.absorb
  split
  · next haccept =>
    unfold ServerConnection.accepts at haccept
    rw [Bool.and_eq_true, beq_iff_eq] at haccept
    obtain ⟨front, piece, back, hsplit, rfl⟩ := (mem_segmentsOf_iff _ _).1 hg
    -- the piece is the next one, because its number is the one that the server expects
    have hfront : front = taken := by
      refine eq_of_positionAfter_eq (fun p hp => (h.sound p hp).1)
        ⟨piece :: back, hsplit.symm⟩ h.taken_isPrefix hroom ?_
      rw [← hexp]
      exact haccept.1
    subst hfront
    have hnext : v.server.expected + UInt32.ofNat piece.length =
        positionAfter (seq + 1) (front ++ [piece]) := by
      rw [hexp, positionAfter_append, positionAfter_singleton]
    refine ⟨front ++ [piece], List.prefix_append _ _, hnext, ?_⟩
    exact { h with
      taken_isPrefix := ⟨back, by simp [hsplit]⟩
      received := by
        show v.returned ++ (v.server.buffer ++ piece) = _
        rw [← List.append_assoc, h.received, List.flatten_append, List.flatten_singleton]
      expected := fun _ => hnext
      upward := hup _
      -- an older acknowledgment still speaks of a front of what was taken
      downward := fun x hx => by
        obtain ⟨hpay, hack⟩ := h.downward x hx
        refine ⟨hpay, fun hk => ?_⟩
        obtain ⟨seen, hseen, heq⟩ := hack hk
        exact ⟨seen, hseen.trans (List.prefix_append _ _), heq⟩
      queue := fun hs' => by
        obtain ⟨gone, left, hgl, hgone, hrest⟩ := h.queue hs'
        exact ⟨gone, left, hgl, hgone.trans (List.prefix_append _ _), hrest⟩ }
  · exact ⟨taken, List.prefix_rfl, hexp, { h with upward := hup _ }⟩

theorem toServer (h : v.InOrder e seq pieces taken) {capacity : Nat} {source : NodeId}
    {g : Segment} {rest sent : List Segment} {y : ServerConnection} (hu : v.up = g :: rest)
    (hy : v.server.Heeds capacity source g y sent)
    (hroom : (seq + 1).toNat + pieces.flatten.length < 4294967296) :
    ∃ taken', taken <+: taken' ∧ InOrder e seq pieces taken'
      { v with up := rest, server := y, down := v.down ++ sent } := by
  have hup := h.upward
  rw [hu] at hup
  have hrest : Upward e seq pieces taken v.client.status rest := by
    rcases hup.cons_cases with ⟨-, rfl, hrest⟩ | ⟨-, hrest⟩
    · exact hrest
    · exact hrest taken
  have hpop : InOrder e seq pieces taken { v with up := rest } := { h with upward := hrest }
  cases hy with
  | ignored =>
    rw [List.append_nil]
    exact ⟨taken, List.prefix_rfl, hpop⟩
  | restarted hk =>
    rcases hup.cons_cases with ⟨rfl, rfl, hrest⟩ | ⟨hg, -⟩
    · refine ⟨[], List.prefix_rfl, ?_⟩
      exact (h.restarted source rfl hrest rfl).append_down rfl nofun
    -- neither a piece of the stream nor a request to disconnect asks for a connection
    · rcases hg with hg | ⟨hfin, -⟩
      · obtain ⟨_, _, _, -, rfl⟩ := (mem_segmentsOf_iff _ _).1 hg
        cases hk
      · rw [hfin] at hk
        cases hk
  | left now hk =>
    refine ⟨taken, List.prefix_rfl, ?_⟩
    obtain ⟨hbuf, hexp⟩ := ServerConnection.leaving_stream v.server now
    exact (hpop.of_server hbuf hexp).append_down rfl nofun
  | absorbed hs hk =>
    rcases hup.cons_cases with ⟨rfl, -, -⟩ | ⟨hg | ⟨hfin, -⟩, hall⟩
    · cases hk
    · obtain ⟨taken', hle, hexp, hinv⟩ := h.absorb hs capacity hg hall hroom
      exact ⟨taken', hle, hinv.append_down rfl fun _ => ⟨taken', List.prefix_rfl, hexp⟩⟩
    · rw [hfin] at hk
      cases hk

/-- **Every move keeps the invariant**, and what the server has taken stays taken. -/
theorem move (h : v.InOrder e seq pieces taken) {data : Bytes} (hm : v.Move e data v')
    (hmax : 0 < e.clientSettings.maxSegment ∧ e.clientSettings.maxSegment ≤ 65535)
    (hroom : (seq + 1).toNat + pieces.flatten.length < 4294967296) :
    ∃ taken', taken <+: taken' ∧
      InOrder e seq (pieces ++ Bytes.chunks e.clientSettings.maxSegment data) taken' v' := by
  have hnone : pieces ++ Bytes.chunks e.clientSettings.maxSegment [] = pieces := by
    rw [Bytes.chunks_nil, List.append_nil]
  cases hm with
  | idle =>
    rw [hnone]
    exact ⟨taken, List.prefix_rfl, h⟩
  | timer hx hsent =>
    rw [hnone]
    exact ⟨taken, List.prefix_rfl, (h.append_up_of_queue hsent).of_sameStream hx⟩
  | send hs hx hsent =>
    have hlong := (h.enqueue hs hmax data).of_sameStream hx
    refine ⟨taken, List.prefix_rfl, hlong.append_up_of_queue fun g hg => ⟨?_, hsent hg⟩⟩
    exact hx.status_eq.trans hs
  | disconnect hs hk hr =>
    rw [hnone]
    exact ⟨taken, List.prefix_rfl, h.disconnect hk hr⟩
  | attempt hc hk hkind hreq =>
    rw [hnone]
    have hmem := List.mem_of_getElem? hc
    refine ⟨taken, List.prefix_rfl, (h.append_request hmem hk).of_calls fun c hcmem => ?_⟩
    rcases List.mem_or_eq_of_mem_set hcmem with hold | rfl
    · exact ⟨c, hold, rfl, rfl⟩
    · exact ⟨_, hmem, hkind, hreq⟩
  | @finish place call k x hc hk hx =>
    rw [hnone]
    have hcalls : ∀ c ∈ v.calls.eraseIdx place, ∃ c' ∈ v.calls, c.kind = c'.kind ∧
        c.request = c'.request := fun c hc => ⟨c, List.mem_of_mem_eraseIdx hc, rfl, rfl⟩
    have hcalls := (h.append_request (List.mem_of_getElem? hc) hk).of_calls hcalls
    rcases hx with rfl | ⟨hx, -⟩
    · exact ⟨taken, List.prefix_rfl, hcalls⟩
    · exact ⟨taken, List.prefix_rfl, hcalls.of_closed hx⟩
  | toClient hd hx =>
    rw [hnone]
    exact ⟨taken, List.prefix_rfl, h.toClient hd hx hroom⟩
  | toServer hu hy =>
    rw [hnone]
    exact h.toServer hu hy hroom
  | listen hs =>
    rw [hnone]
    exact ⟨taken, List.prefix_rfl, h.of_server rfl nofun⟩
  | @read data rest hr =>
    rw [hnone]
    refine ⟨taken, List.prefix_rfl, { h with received := ?_ }⟩
    show (v.returned ++ data) ++ rest = _
    rw [List.append_assoc, ← hr]
    exact h.received
  | sweep hs =>
    rw [hnone]
    exact ⟨taken, List.prefix_rfl, h.of_server rfl nofun⟩

/-- **The beginning of a connection** establishes the rest of the invariant. -/
theorem connect (h : v.InOrder e seq [] []) (hf : v.Fresh seq) (node : NodeId)
    {call : Handshake} (hkind : call.kind = .connect)
    (hreq : call.request = Segment.synOf e.clientPort e.serverPort v.client.nextSeq) :
    InOrder e seq [] []
      { v with
        client := { v.client with
          serverNode := node
          serverPort := e.serverPort
          nextSeq := v.client.nextSeq + 1
          status := .synSent }
        calls := v.calls ++ [call] } :=
  { h with
    upward := ⟨0, [], hf.up_eq, fun _ => rfl, fun _ => rfl, fun g hg => absurd hg List.not_mem_nil⟩
    opening := fun _ => ⟨rfl, hf.segments_eq, by rw [hf.nextSeq_eq], rfl⟩
    queue := nofun
    calls := fun c hc => by
      rw [hf.calls_eq, List.nil_append, List.mem_singleton] at hc
      subst hc
      rw [hf.nextSeq_eq] at hreq
      exact .inl ⟨hkind, hreq⟩ }

end InOrder

/-- Until the client connects, it stays as it is and accepts nothing. -/
theorem Fresh.move (h : v.Fresh seq) {data : Bytes} (hm : v.Move e data v') :
    v'.Fresh seq ∧ data = [] := by
  obtain ⟨hstatus, hnext, hqueue, hcalls, hup⟩ := h
  cases hm with
  | idle => exact ⟨⟨hstatus, hnext, hqueue, hcalls, hup⟩, rfl⟩
  | @timer x sent hx hsent =>
    have hnone : sent = [] := List.eq_nil_iff_forall_not_mem.2 fun g hg => by
      have hs := (hsent g hg).1
      rw [hstatus] at hs
      cases hs
    refine ⟨⟨hx.status_eq.trans hstatus, hx.nextSeq_eq.trans hnext, hx.segments_eq.trans hqueue,
      hcalls, ?_⟩, rfl⟩
    show v.up ++ sent = []
    rw [hup, hnone]
    rfl
  | send hs => rw [hstatus] at hs; cases hs
  | disconnect hs => rw [hstatus] at hs; cases hs
  | attempt hc => rw [hcalls] at hc; cases hc
  | finish hc => rw [hcalls] at hc; cases hc
  | toClient _ hx =>
    cases hx with
    | ignored => exact ⟨⟨hstatus, hnext, hqueue, hcalls, by simpa using hup⟩, rfl⟩
    | granted hs => rw [hstatus] at hs; cases hs
    | left hs => rw [hstatus] at hs; cases hs
    | acknowledged hs => rw [hstatus] at hs; cases hs
  | toServer hu => rw [hup] at hu; cases hu
  | listen => exact ⟨⟨hstatus, hnext, hqueue, hcalls, hup⟩, rfl⟩
  | read => exact ⟨⟨hstatus, hnext, hqueue, hcalls, hup⟩, rfl⟩
  | sweep => exact ⟨⟨hstatus, hnext, hqueue, hcalls, hup⟩, rfl⟩

end Scene

end OverlayStack.Transport
