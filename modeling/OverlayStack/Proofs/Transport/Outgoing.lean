import OverlayStack.Proofs.Transport.BusyClients
import OverlayStack.Proofs.Transport.StreamSafety

/-!
# What clients and servers send

Every segment that a client or a server hands to the link below is of a known kind and carries no
more bytes than segments may: a client cuts what it is given into pieces of the length that its
settings allow, and requests and answers carry no bytes at all.  So a segment that is sent fits into
a frame and is read back from its bytes.

## Main definitions

* `Segment.Sendable` — segments that can be sent.
* `BusyClient.Clean` — everything that a client keeps can be sent.
* `HandedTo` — the segments that clients and servers hand to the link below.

## Main results

* `BusyClient.Clean.step`, `BusyClient.Clean.run` — clients only keep and send what can be sent.
* `Server.sendable_handle` — and so do servers.
* `HandedTo.sendable` — every segment that is handed to the link below can be sent.
-/

namespace OverlayStack

/-- The segment is of a known kind and carries no more bytes than segments may. -/
def Segment.Sendable (g : Segment) : Prop :=
  g.kind ≠ .unknown ∧ g.payload.length ≤ Segment.maxPayload

namespace Transport

open ClientConnection (segmentsOf)

/-! ### Queues -/

/-- The link only takes segments that it is given. -/
theorem mem_of_mem_handOver {ε : Type} {refuse : Refusal ε} {n : Nat} {segments : List Segment}
    {g : Segment} (hg : g ∈ (handOver refuse n segments).1) : g ∈ segments :=
  (handOver_isPrefix refuse n segments).subset hg

namespace SendBuffer

theorem subset_segments_of_transmit (b : SendBuffer) (window now : Nat)
    (refuse : Refusal Error) : (b.transmit window now refuse).2.1 ⊆ b.segments :=
  fun _ hg => List.mem_append_right _ (List.mem_of_mem_take (mem_of_mem_handOver hg))

theorem subset_segments_of_retransmit (b : SendBuffer) (now : Nat) (refuse : Refusal Error) :
    (b.retransmit now refuse).2.1 ⊆ b.segments :=
  fun _ hg => List.mem_append_left _ (mem_of_mem_handOver hg)

theorem subset_segments_of_acknowledge (b : SendBuffer) (ack : UInt32) :
    (b.acknowledge ack).1.segments ⊆ b.segments := by
  intro g hg
  rw [b.segments_acknowledge ack]
  exact List.mem_append_right _ hg

end SendBuffer

namespace ClientConnection

variable {x : ClientConnection}

/-- The bytes that are queued are cut into pieces that segments can carry. -/
theorem sendable_enqueue (h : ∀ g ∈ x.buffer.segments, g.Sendable) {n : Nat}
    (hn : 0 < n ∧ n ≤ Segment.maxPayload) (port : UInt32) (data : Bytes) :
    ∀ g ∈ (x.enqueue port n data).buffer.segments, g.Sendable := by
  intro g hg
  rw [segments_enqueue] at hg
  rcases List.mem_append.1 hg with hg | hg
  · exact h g hg
  · obtain ⟨front, piece, back, hpieces, rfl⟩ := (mem_segmentsOf_iff _ _).1 hg
    have hpiece := mem_chunks hn.1 data piece (by rw [hpieces]; simp)
    exact ⟨nofun, Nat.le_trans hpiece.2 hn.2⟩

/-- What is transmitted was queued, and what is queued stays so. -/
theorem sendable_transmit (h : ∀ g ∈ x.buffer.segments, g.Sendable) (window now : Nat)
    (refuse : Refusal Error) :
    (∀ g ∈ (x.transmit window now refuse).1.buffer.segments, g.Sendable) ∧
      ∀ m ∈ (x.transmit window now refuse).2.1, m.2.Sendable := by
  refine ⟨fun g hg => ?_, fun m hm => ?_⟩
  · have hsame : (x.transmit window now refuse).1.buffer.segments = x.buffer.segments :=
      SendBuffer.segments_transmit _ _ _ _
    exact h g (hsame ▸ hg)
  · obtain ⟨g, hg, rfl⟩ := List.mem_map.1 hm
    exact h g (x.buffer.subset_segments_of_transmit window now refuse hg)

end ClientConnection

/-! ### Clients -/

namespace BusyClient

variable {b : BusyClient} {t : ClientTurn} {id : SocketId}

/-- Everything that waits for an acknowledgment, and every request, can be sent. -/
structure Clean (b : BusyClient) : Prop where
  queues : ∀ id s, b.client.sockets.socket? id = some s →
    ∀ g ∈ s.state.buffer.segments, g.Sendable
  requests : ∀ call ∈ b.calls, call.request.Sendable

theorem Clean.replicate (h : b.Clean) {place n : Nat} {call : Handshake}
    (hcall : b.calls[place]? = some call) :
    ∀ m ∈ List.replicate n (call.node, call.request), m.2.Sendable := by
  intro m hm
  rw [(List.mem_replicate.1 hm).2]
  exact h.requests call (List.mem_of_getElem? hcall)

/-- What a shift leaves in the queue of a socket, and what it sends, can be sent. -/
theorem Clean.shift (h : b.Clean) (hmax : 0 < b.client.settings.maxSegment ∧
      b.client.settings.maxSegment ≤ Segment.maxPayload) {s : Socket ClientConnection}
    (hs : b.client.sockets.socket? id = some s) {x : ClientConnection} {sent : Outgoing}
    (hshift : b.Shift t id s x sent) :
    (∀ g ∈ x.buffer.segments, g.Sendable) ∧ ∀ m ∈ sent, m.2.Sendable := by
  have hqueue := h.queues id s hs
  cases hshift with
  | asked => exact ⟨hqueue, nofun⟩
  | granted => exact ⟨hqueue, nofun⟩
  | @sent data =>
    apply ClientConnection.sendable_transmit
    rw [ClientConnection.buffer_withTimer]
    exact ClientConnection.sendable_enqueue hqueue hmax s.port data
  | acknowledged =>
    apply ClientConnection.sendable_transmit
    exact fun g hg => hqueue g (SendBuffer.subset_segments_of_acknowledge _ _ hg)
  | resent =>
    refine ⟨fun g hg => ?_, fun m hm => ?_⟩
    · rw [SendBuffer.segments_retransmit] at hg
      exact hqueue g hg
    · obtain ⟨g, hg, rfl⟩ := List.mem_map.1 hm
      exact hqueue g (SendBuffer.subset_segments_of_retransmit _ _ _ hg)
  | stopped => exact ⟨hqueue, nofun⟩
  | leaving => exact ⟨hqueue, nofun⟩
  | confirmed => exact ⟨hqueue, nofun⟩
  | called _ hcall => exact ⟨hqueue, h.replicate hcall⟩
  | gaveUp _ hcall _ => exact ⟨hqueue, h.replicate hcall⟩
  | left _ hcall => exact ⟨nofun, h.replicate hcall⟩

/-- **What a client sends in a turn can be sent.** -/
theorem Clean.sendable_step (h : b.Clean) (hmax : 0 < b.client.settings.maxSegment ∧
      b.client.settings.maxSegment ≤ Segment.maxPayload) (t : ClientTurn) :
    ∀ m ∈ (b.step t).2, m.2.Sendable := by
  have hturned := b.step_cases t
  generalize (b.step t).1.client = c at hturned
  generalize (b.step t).2 = sent at hturned ⊢
  cases hturned with
  | shifted hs hshift => exact (h.shift hmax hs hshift).2
  | idle => exact nofun
  | opened => exact nofun
  | closed => exact nofun
  | lost => exact nofun

/-- The requests of new calls carry no bytes. -/
theorem Clean.requests_begin (h : b.Clean) {call : Except Error (Client × Handshake)}
    (hcall : ∀ begun, call = .ok begun → begun.2.request.Sendable) :
    ∀ call' ∈ (b.begin call).calls, call'.request.Sendable := by
  cases call with
  | error e => exact h.requests
  | ok begun =>
    intro call' hmem
    rcases List.mem_append.1 hmem with hmem | hmem
    · exact h.requests call' hmem
    · rw [List.mem_singleton.1 hmem]
      exact hcall begun rfl

theorem sendable_request_connect {c : Client} {id : SocketId} {node : NodeId} {port : UInt32}
    {begun : Client × Handshake} (h : c.connect id node port = .ok begun) :
    begun.2.request.Sendable := by
  unfold Client.connect at h
  obtain ⟨s, -, h⟩ := SocketTable.require_bind_eq_ok h
  split at h <;> cases h
  exact ⟨nofun, Nat.zero_le _⟩

theorem sendable_request_disconnect {c : Client} {id : SocketId} {begun : Client × Handshake}
    (h : c.disconnect id = .ok begun) : begun.2.request.Sendable := by
  unfold Client.disconnect at h
  obtain ⟨s, -, h⟩ := SocketTable.require_bind_eq_ok h
  split at h <;> cases h
  exact ⟨nofun, Nat.zero_le _⟩

theorem Clean.requests_wake (h : b.Clean) (place now : Nat) (refuse : Refusal Error) :
    ∀ call ∈ (b.wake place now refuse).1.calls, call.request.Sendable := by
  unfold wake
  cases hcall : b.calls[place]? with
  | none => exact h.requests
  | some call =>
    obtain ⟨-, -, -, hwoken⟩ := b.client.woken_advanceFrom call now 0 refuse
    rw [← Client.advance] at hwoken
    dsimp only
    generalize Advance.client _ = c at hwoken ⊢
    generalize Advance.state _ = state at hwoken ⊢
    cases state with
    | finished r => exact fun call' hmem => h.requests call' (List.mem_of_mem_eraseIdx hmem)
    | waiting later =>
      intro call' hmem
      rcases List.mem_or_eq_of_mem_set hmem with hmem | rfl
      · exact h.requests call' hmem
      · cases hwoken with
        | waits _ _ _ hrequest =>
          rw [hrequest]
          exact h.requests call (List.mem_of_getElem? hcall)

theorem Clean.requests_step (h : b.Clean) (t : ClientTurn) :
    ∀ call ∈ (b.step t).1.calls, call.request.Sendable := by
  unfold step
  cases t.move with
  | openSocket port =>
    dsimp only
    split <;> exact h.requests
  | close id =>
    dsimp only
    split
    · exact h.requests
    · exact fun call hmem => h.requests call (List.mem_filter.1 hmem).1
  | connect id node port => exact h.requests_begin fun _ => sendable_request_connect
  | disconnect id => exact h.requests_begin fun _ => sendable_request_disconnect
  | wake place => exact h.requests_wake place t.now t.refuse
  | send id data => exact h.requests
  | handle g => exact h.requests
  | timer id => exact h.requests
  | linkLost => exact h.requests

/-- **A client only keeps what can be sent.** -/
theorem Clean.step (h : b.Clean) (hmax : 0 < b.client.settings.maxSegment ∧
      b.client.settings.maxSegment ≤ Segment.maxPayload) (t : ClientTurn) :
    (b.step t).1.Clean where
  queues := by
    intro id s hs
    cases socket?_step hs with
    | fresh => exact nofun
    | kept hs₀ => exact h.queues id s hs₀
    | ended => exact nofun
    | shifted hs₀ hshift => exact (h.shift hmax hs₀ hshift).1
  requests := h.requests_step t

/-- **What a client keeps after any turns can be sent.** -/
theorem Clean.run (h : b.Clean) (hmax : 0 < b.client.settings.maxSegment ∧
      b.client.settings.maxSegment ≤ Segment.maxPayload) (turns : List ClientTurn) :
    (b.run turns).Clean := by
  induction turns generalizing b with
  | nil => exact h
  | cons t turns ih =>
    apply ih (h.step hmax t)
    rwa [settings_step]

theorem clean_start (settings : Settings) :
    Clean { client := ⟨settings, .free settings.maxConnections⟩ } where
  queues := by
    intro id s hs
    cases (SocketTable.socket?_free settings.maxConnections id).symm.trans hs
  requests := nofun

end BusyClient

/-! ### Servers -/

/-- **What a server sends can be sent.** -/
theorem Server.sendable_handle (s : Server) (source : NodeId) (g : Segment) (now : Nat)
    (refuse : Refusal Error) : ∀ m ∈ (s.handle source g now refuse).sent, m.2.Sendable := by
  have hanswer : ∀ (id : SocketId) (kind : SegmentKind) (ack : UInt32)
      (taken refused : ServerConnection), kind ≠ .unknown →
      ∀ m ∈ (s.answer id source (g.reply kind ack) refuse taken refused).sent, m.2.Sendable := by
    intro id kind ack taken refused hkind m hm
    unfold answer at hm
    split at hm
    · rw [List.mem_singleton.1 hm]
      exact ⟨hkind, Nat.zero_le _⟩
    · cases hm
  unfold handle
  split
  · exact List.forall_mem_nil _
  · dsimp only
    split
    · exact List.forall_mem_nil _
    · exact hanswer _ _ _ _ _ nofun
    · exact hanswer _ _ _ _ _ nofun
    · exact hanswer _ _ _ _ _ nofun
    · exact hanswer _ _ _ _ _ nofun
    · exact hanswer _ _ _ _ _ nofun
    · exact List.forall_mem_nil _

/-- The same holds of the server of a host, whatever the host is told. -/
theorem ServerHost.sendable_step (h : ServerHost) (c : ServerCommand) :
    ∀ m ∈ (h.step c).sent, m.2.Sendable := by
  have hhandle : ∀ source g, ∀ m ∈ (h.handle source g).sent, m.2.Sendable := by
    intro source g
    exact h.server.sendable_handle source g h.now h.link.refusal
  have hbegin : ∀ id needed call, (h.beginCall id needed call).sent = [] := by
    intro id needed call
    unfold beginCall
    split
    · rfl
    · split <;> rfl
    · rfl
  show ∀ m ∈ (h.perform c).sent, _
  cases c with
  | openSocket port => rw [perform]; split <;> exact List.forall_mem_nil _
  | close id => rw [perform]; split <;> exact List.forall_mem_nil _
  | status id => rw [perform]; split <;> exact List.forall_mem_nil _
  | accept id =>
    rw [perform, hbegin]
    exact List.forall_mem_nil _
  | receive id length =>
    rw [perform, hbegin]
    exact List.forall_mem_nil _
  | handle source g =>
    rw [perform]
    split <;> exact hhandle source g
  | arrive arrival =>
    cases arrival with
    | none => exact List.forall_mem_nil _
    | some message =>
      rw [perform, arrive]
      dsimp only
      split
      · exact hhandle message.1 message.2
      · exact List.forall_mem_nil _
  | sweep => exact List.forall_mem_nil _
  | limit allowance => exact List.forall_mem_nil _
  | loseLink => exact List.forall_mem_nil _

/-! ### Both -/

/-- `HandedTo node g` says that a client or a server with valid settings hands the segment `g` for
the node to the link below, in some turn or at some command. -/
inductive HandedTo (node : NodeId) (g : Segment) : Prop where
  | byClient {settings : Settings} {c : Client} (hstart : Client.start settings = .ok c)
      (turns : List ClientTurn) (t : ClientTurn)
      (hsent : (node, g) ∈ ((BusyClient.run { client := c } turns).step t).2)
  | byServer {settings : Settings} {h : ServerHost} (hreached : h.Reached settings)
      (c : ServerCommand) (hsent : (node, g) ∈ (h.step c).sent)

/-- **Every segment that is handed to the link below can be sent.** -/
theorem HandedTo.sendable {node : NodeId} {g : Segment} (h : HandedTo node g) : g.Sendable := by
  cases h with
  | byClient hstart turns t hsent =>
    obtain ⟨hvalid, rfl⟩ := Client.start_eq_ok hstart
    have hmax := Settings.maxSegment_of_valid hvalid
    refine ((BusyClient.clean_start _).run hmax turns).sendable_step ?_ t _ hsent
    rwa [BusyClient.settings_run]
  | byServer _ c hsent => exact ServerHost.sendable_step _ c _ hsent

end Transport

end OverlayStack
