import OverlayStack.Proofs.Transport.Stranding

/-!
# What a client has queued

The bytes that a client is given are cut into segments, which wait in the queue of the socket until
they are acknowledged.  The bytes of a connection are not lost or doubled on the way: those that
were acknowledged and those in the queue are all that the client was given, whether a call to send
them has succeeded or the link has refused a segment.  At most a window of segments is in flight,
and as many as there can be, unless the link has refused a segment when the client tried to send it
for the first time.

The account of the bytes is kept beside the client, which does not know of it.

## Main definitions

* `Outbox`, `BusyClient.outbox` — the account of the bytes of a socket.
* `Outbox.Balances` — the account agrees with a connection.
* `BusyClient.Falters` — the link refuses a segment that the client tries to send.
* `BusyClient.StaysConnected` — a socket is connected before and after every turn.

## Main results

* `BusyClient.sameStream_step` — most turns leave the queue of a connection alone.
* `Outbox.Balances.step`, `Outbox.Balances.run` — the account goes on to agree.
* `BusyClient.inWindow_run`, `BusyClient.isFull_run` — how much is in flight.
* `BusyClient.outbox_balances` — the account of any connection of a client.
-/

namespace OverlayStack.Transport

open ClientConnection (segmentsOf)

/-! ### Send buffers -/

namespace SendBuffer

variable {b : SendBuffer} {window now : Nat} {refuse : Refusal Error}

theorem length_inFlight_transmit (h : b.inFlight.length ≤ window) :
    (b.transmit window now refuse).1.inFlight.length ≤ window := by
  have hle := (handOver_isPrefix refuse 0
    (b.waiting.take (window - b.inFlight.length))).length_le
  rw [List.length_take] at hle
  rw [transmit]
  dsimp only
  rw [List.length_append, List.length_map]
  omega

theorem length_inFlight_acknowledge (b : SendBuffer) (ack : UInt32) :
    (b.acknowledge ack).1.inFlight.length ≤ b.inFlight.length := by
  obtain ⟨gone, kept, hsplit, hack, -, -⟩ := b.exists_acknowledge ack
  rw [hack, hsplit, List.length_append]
  exact Nat.le_add_left _ _

theorem length_inFlight_retransmit (b : SendBuffer) (now : Nat) (refuse : Refusal Error) :
    (b.retransmit now refuse).1.inFlight.length = b.inFlight.length := by
  have hle := (handOver_isPrefix refuse 0 (b.inFlight.map (·.segment))).length_le
  rw [List.length_map] at hle
  rw [retransmit]
  dsimp only
  rw [List.length_append, List.length_map, List.length_drop]
  omega

/-- A client that is not refused anything sends all that there is room for. -/
theorem full_transmit_of_none (h : (b.transmit window now refuse).2.2 = none) :
    (b.transmit window now refuse).1.Full window := by
  have hall := handOver_eq_of_none (show (handOver refuse 0
    (b.waiting.take (window - b.inFlight.length))).2 = none from h)
  have hsame : (b.transmit window now refuse).1 = (b.transmit window now neverRefused).1 := by
    rw [transmit, transmit, handOver_neverRefused]
    dsimp only
    rw [hall]
  rw [hsame]
  exact b.full_transmit window now

/-- With the window as full as it can be, what is in flight is counted by the window and the
queue. -/
theorem Full.length_inFlight (h : b.Full window) (hle : b.inFlight.length ≤ window) :
    b.inFlight.length = min window b.segments.length := by
  rw [length_segments, length]
  rcases h with hwait | hfull
  · rw [hwait, List.length_nil]
    omega
  · omega

end SendBuffer

/-! ### Segments of a stream -/

/-- The numbers of the segments of a stream follow each other, and the last one leads to the
position after the stream. -/
theorem isChain_segmentsOf (a b : UInt32) (pieces : List Bytes) :
    ∀ seq, (segmentsOf a b seq pieces).1.IsChain
        (fun g g' => g'.seq = g.seq + UInt32.ofNat g.payload.length) ∧
      ∀ g ∈ (segmentsOf a b seq pieces).1.getLast?,
        g.seq + UInt32.ofNat g.payload.length = positionAfter seq pieces := by
  induction pieces with
  | nil => exact fun _ => ⟨.nil, nofun⟩
  | cons piece rest ih =>
    intro seq
    obtain ⟨hchain, hlast⟩ := ih (seq + UInt32.ofNat piece.length)
    rw [segmentsOf, positionAfter_cons]
    dsimp only
    cases rest with
    | nil =>
      refine ⟨.singleton _, fun g hg => ?_⟩
      obtain rfl := Option.some.inj hg
      rw [positionAfter_nil]
      rfl
    | cons next rest =>
      rw [segmentsOf] at hchain hlast ⊢
      exact ⟨.cons_cons rfl hchain, fun g hg => hlast g (by rwa [List.getLast?_cons_cons] at hg)⟩

/-! ### What is in flight -/

namespace BusyClient

variable {b : BusyClient} {t : ClientTurn} {id : SocketId} {window : Nat}

/-- The client tries to send what waits in the queue of a socket, and the link refuses a segment. -/
def Falters (b : BusyClient) (t : ClientTurn) (id : SocketId) : Prop :=
  ∃ tried, b.Tries t id tried ∧
    (tried.transmit b.client.settings.window t.now t.refuse).2.2 ≠ none

/-- No more than a window of segments of a socket is in flight. -/
def InWindow (b : BusyClient) (id : SocketId) : Prop :=
  ∀ buffer, b.client.bufferAt id = some buffer →
    buffer.inFlight.length ≤ b.client.settings.window

/-- No segment of a socket waits while there is room in the window. -/
def IsFull (b : BusyClient) (id : SocketId) : Prop :=
  ∀ buffer, b.client.bufferAt id = some buffer → buffer.Full b.client.settings.window

/-- What a client tries to send is no more in flight than what was there before. -/
theorem Tries.length_inFlight {tried : SendBuffer} (h : b.Tries t id tried) (hb : b.InWindow id) :
    tried.inFlight.length ≤ b.client.settings.window := by
  cases h with
  | @send s _ hs _ _ => exact hb s.state.buffer (Client.bufferAt_eq hs)
  | acknowledge _ hfound _ _ _ =>
    have hs := (Client.socket?_of_lookup hfound).1
    exact Nat.le_trans (SendBuffer.length_inFlight_acknowledge _ _) (hb _ (Client.bufferAt_eq hs))

theorem InWindow.step (h : b.InWindow id) : (b.step t).1.InWindow id := by
  intro buffer hbuffer
  rw [settings_step]
  obtain ⟨s, hs, rfl⟩ := Option.map_eq_some_iff.1 hbuffer
  rcases buffer_step hs with hnone | hkept | ⟨tried, htries⟩ | ⟨queue, hqueue, -, hresent⟩
  · rw [hnone]
    exact Nat.zero_le _
  · exact h _ hkept
  · rw [Option.some.inj (hbuffer.symm.trans htries.bufferAt_step)]
    exact SendBuffer.length_inFlight_transmit (htries.length_inFlight h)
  · rw [hresent, SendBuffer.length_inFlight_retransmit]
    exact h _ hqueue

/-- The window stays as full as it can be unless the link refuses a segment. -/
theorem IsFull.step (h : b.IsFull id) (hno : ¬ b.Falters t id) : (b.step t).1.IsFull id := by
  intro buffer hbuffer
  rw [settings_step]
  obtain ⟨s, hs, rfl⟩ := Option.map_eq_some_iff.1 hbuffer
  rcases buffer_step hs with hnone | hkept | ⟨tried, htries⟩ | ⟨queue, hqueue, -, hresent⟩
  · rw [hnone]
    exact .inl rfl
  · exact h _ hkept
  · rw [Option.some.inj (hbuffer.symm.trans htries.bufferAt_step)]
    refine SendBuffer.full_transmit_of_none ?_
    by_contra hsome
    exact hno ⟨tried, htries, hsome⟩
  · rw [hresent]
    -- what is sent again stays in flight, and what waits goes on to wait
    have hfull := h _ hqueue
    unfold SendBuffer.Full at hfull ⊢
    rwa [SendBuffer.length_inFlight_retransmit]

/-- **No more than a window** is in flight after any turns. -/
theorem inWindow_run (h : b.InWindow id) (turns : List ClientTurn) : (b.run turns).InWindow id := by
  induction turns generalizing b with
  | nil => exact h
  | cons t turns ih => exact ih h.step

/-- **As much as can be is in flight** after any turns in which the link refuses nothing. -/
theorem isFull_run (h : b.IsFull id) {turns : List ClientTurn}
    (hno : ∀ before t after, turns = before ++ t :: after → ¬ (b.run before).Falters t id) :
    (b.run turns).IsFull id := by
  induction turns using List.reverseRecOn with
  | nil => exact h
  | append_singleton turns t ih =>
    rw [run_concat]
    refine (ih fun before t' after hsplit => hno before t' (after ++ [t]) ?_).step
      (hno turns t [] rfl)
    rw [hsplit, List.append_assoc]
    rfl

end BusyClient

/-! ### The account -/

/-- The account of the bytes of a socket. -/
structure Outbox where
  /-- The bytes that the client was given to send. -/
  given : Bytes
  /-- The payloads of the segments that acknowledgments have removed. -/
  acknowledged : List Bytes

namespace Outbox

/-- The account after a turn of a client.  Bytes are sent, or an acknowledgment removes segments
from the front of the queue. -/
def note (k : Outbox) (b : BusyClient) (id : SocketId) (t : ClientTurn) : Outbox :=
  match t.move with
  | .send j data => if j = id then { k with given := k.given ++ data } else k
  | .handle g =>
    match b.client.lookup g with
    | none => k
    | some (j, s) =>
      if j = id ∧ g.kind = .dataAck then
        { k with
          acknowledged := k.acknowledged ++ (s.state.buffer.segments.take
            (s.state.buffer.acknowledge g.ack).2).map (·.payload) }
      else k
  | _ => k

/-- The account agrees with a connection: the queue is a stretch of the stream that ends at the next
position, none of whose pieces is empty or too long, and its bytes are those that were given and not
yet acknowledged. -/
def Balances (k : Outbox) (port : UInt32) (x : ClientConnection) (maxSegment : Nat) : Prop :=
  ∃ seq pieces, x.buffer.segments = (segmentsOf port x.serverPort seq pieces).1 ∧
    positionAfter seq pieces = x.nextSeq ∧ (k.acknowledged ++ pieces).flatten = k.given ∧
    ∀ p ∈ pieces, p ≠ [] ∧ p.length ≤ maxSegment

namespace Balances

variable {k : Outbox} {port : UInt32} {x x' : ClientConnection} {maxSegment : Nat}

/-- An empty queue agrees with an account in which nothing is noted. -/
theorem empty (port : UInt32) (maxSegment : Nat) (h : x.buffer.isEmpty = true) :
    Balances ⟨[], []⟩ port x maxSegment :=
  ⟨x.nextSeq, [], SendBuffer.isEmpty_eq_true_iff_segments.1 h, positionAfter_nil _, rfl, nofun⟩

/-- The account only looks at the stream. -/
theorem of_sameStream (h : k.Balances port x maxSegment) (hsame : x.SameStream x') :
    k.Balances port x' maxSegment := by
  obtain ⟨seq, pieces, hqueue, hnext, hbytes, hsizes⟩ := h
  refine ⟨seq, pieces, ?_, hnext.trans hsame.nextSeq_eq.symm, hbytes, hsizes⟩
  rw [hsame.segments_eq, hsame.serverPort_eq, hqueue]

/-- Bytes are queued. -/
theorem enqueue (h : k.Balances port x maxSegment) (hmax : 0 < maxSegment) (data : Bytes) :
    Balances { k with given := k.given ++ data } port (x.enqueue port maxSegment data)
      maxSegment := by
  obtain ⟨seq, pieces, hqueue, hnext, hbytes, hsizes⟩ := h
  refine ⟨seq, pieces ++ Bytes.chunks maxSegment data, ?_, ?_, ?_, ?_⟩
  · rw [show (x.enqueue port maxSegment data).serverPort = x.serverPort from rfl,
      segmentsOf_append, hnext, ← hqueue]
    exact x.segments_enqueue port maxSegment data
  · rw [positionAfter_append, hnext]
    exact (snd_segmentsOf port x.serverPort _ _).symm
  · rw [← List.append_assoc, List.flatten_append, hbytes, Bytes.flatten_chunks]
  · intro p hp
    rcases List.mem_append.1 hp with hp | hp
    · exact hsizes p hp
    · exact mem_chunks hmax data p hp

/-- Segments are removed from the front of the queue. -/
theorem acknowledge (h : k.Balances port x maxSegment) (ack : UInt32) :
    Balances { k with
        acknowledged := k.acknowledged ++
          (x.buffer.segments.take (x.buffer.acknowledge ack).2).map (·.payload) } port
      { x with buffer := (x.buffer.acknowledge ack).1 } maxSegment := by
  obtain ⟨seq, pieces, hqueue, hnext, hbytes, hsizes⟩ := h
  have hsplit := x.buffer.segments_acknowledge ack
  rw [hqueue] at hsplit
  obtain ⟨front, back, rfl, hfront, hback⟩ := exists_of_segmentsOf_eq_append _ _ hsplit
  refine ⟨positionAfter seq front, back, hback, ?_, ?_, fun p hp => ?_⟩
  · rw [← positionAfter_append]
    exact hnext
  · rw [hqueue, hfront, map_payload_segmentsOf, List.append_assoc]
    exact hbytes
  · exact hsizes p (List.mem_append_right _ hp)

end Balances

end Outbox

namespace BusyClient

/-- The account of the bytes of a socket after some turns. -/
def outbox (id : SocketId) : BusyClient → Outbox → List ClientTurn → Outbox
  | _, k, [] => k
  | b, k, t :: turns => (b.step t).1.outbox id (k.note b id t) turns

/-- A socket is connected, and after each of some turns as well. -/
def StaysConnected (id : SocketId) : BusyClient → List ClientTurn → Prop
  | b, [] => b.client.statusAt id = some .connected
  | b, t :: turns => b.client.statusAt id = some .connected ∧
      StaysConnected id (b.step t).1 turns

instance decidableStaysConnected (id : SocketId) :
    ∀ b turns, Decidable (StaysConnected id b turns)
  | b, [] => inferInstanceAs (Decidable (b.client.statusAt id = some .connected))
  | b, t :: turns =>
    have := decidableStaysConnected id (b.step t).1 turns
    inferInstanceAs (Decidable (b.client.statusAt id = some .connected ∧
      StaysConnected id (b.step t).1 turns))

theorem StaysConnected.head {b : BusyClient} {id : SocketId} {turns : List ClientTurn}
    (h : b.StaysConnected id turns) : b.client.statusAt id = some .connected := by
  cases turns with
  | nil => exact h
  | cons t turns => exact h.1

variable {b : BusyClient} {t : ClientTurn} {id : SocketId} {s s' : Socket ClientConnection}

/-- The connection of a socket after bytes were sent. -/
theorem sameStream_send (hs : b.client.sockets.socket? id = some s)
    (hconnected : s.state.status = .connected) {data : Bytes} (hmove : t.move = .send id data)
    (hs' : (b.step t).1.client.sockets.socket? id = some s') :
    s'.port = s.port ∧
      (s.state.enqueue s.port b.client.settings.maxSegment data).SameStream s'.state := by
  rw [step, hmove] at hs'
  dsimp only [after] at hs'
  rw [Client.send, Client.require_eq hs] at hs'
  dsimp only at hs'
  rw [if_pos hconnected] at hs'
  dsimp only at hs'
  rw [Client.set, SocketTable.socket?_set, if_pos rfl, hs] at hs'
  obtain rfl := Option.some.inj hs'
  refine ⟨rfl, (ClientConnection.sameStream_withTimer _).trans ⟨rfl, rfl, rfl, ?_⟩⟩
  exact SendBuffer.segments_transmit _ _ _ _

/-- The connection of a socket after an acknowledgment. -/
theorem sameStream_acknowledge {g : Segment} (hmove : t.move = .handle g)
    (hfound : b.client.lookup g = some (id, s)) (hconnected : s.state.status = .connected)
    (hk : g.kind = .dataAck) (hs' : (b.step t).1.client.sockets.socket? id = some s') :
    s'.port = s.port ∧ ClientConnection.SameStream
      { s.state with buffer := (s.state.buffer.acknowledge g.ack).1 } s'.state := by
  have hs := (Client.socket?_of_lookup hfound).1
  rw [step, hmove] at hs'
  dsimp only [after] at hs'
  rw [Client.handle, hfound] at hs'
  dsimp only at hs'
  rw [hconnected, hk] at hs'
  dsimp only at hs'
  split at hs'
  · dsimp only [Effect.quiet] at hs'
    rw [Client.set, SocketTable.socket?_set, if_pos rfl, hs] at hs'
    obtain rfl := Option.some.inj hs'
    exact ⟨rfl, hconnected.symm, rfl, rfl, rfl⟩
  · dsimp only at hs'
    rw [Client.set, SocketTable.socket?_set, if_pos rfl, hs] at hs'
    obtain rfl := Option.some.inj hs'
    exact ⟨rfl, hconnected.symm, rfl, rfl, SendBuffer.segments_transmit _ _ _ _⟩

/-- **Most turns leave the queue of a connection alone**: all in which no bytes are sent and no
acknowledgment comes, as long as the socket stays connected. -/
theorem sameStream_step (hs : b.client.sockets.socket? id = some s)
    (hconnected : s.state.status = .connected)
    (hs' : (b.step t).1.client.sockets.socket? id = some s')
    (hconnected' : s'.state.status = .connected) (hsend : ∀ data, t.move ≠ .send id data)
    (hack : ∀ g, t.move = .handle g → b.client.lookup g = some (id, s) → g.kind ≠ .dataAck) :
    s'.port = s.port ∧ s.state.SameStream s'.state := by
  cases socket?_step hs' with
  | fresh => cases hconnected'
  | kept hs₀ =>
    obtain rfl := Option.some.inj (hs.symm.trans hs₀)
    exact ⟨rfl, .refl _⟩
  | ended => cases hconnected'
  | shifted hs₀ hshift =>
    obtain rfl := Option.some.inj (hs.symm.trans hs₀)
    refine ⟨rfl, ?_⟩
    cases hshift with
    | sent hmove _ => exact absurd hmove (hsend _)
    | acknowledged hmove hfound _ hk _ => exact absurd hk (hack _ hmove hfound)
    | resent _ _ => exact ⟨rfl, rfl, rfl, SendBuffer.segments_retransmit _ _ _⟩
    | stopped _ => exact ⟨rfl, rfl, rfl, rfl⟩
    | called _ _ => exact .refl _
    -- the others end the connection, or begin one
    | asked => cases hconnected'
    | granted hopening => cases hconnected.symm.trans hopening
    | leaving => cases hconnected'
    | confirmed => cases hconnected'
    | gaveUp => cases hconnected'
    | left => cases hconnected'

end BusyClient

namespace Outbox.Balances

variable {b : BusyClient} {t : ClientTurn} {id : SocketId} {s s' : Socket ClientConnection}
  {k : Outbox}

/-- **The account goes on to agree** with a connection, whatever is done in a turn. -/
theorem step (hmax : 0 < b.client.settings.maxSegment)
    (hs : b.client.sockets.socket? id = some s) (hconnected : s.state.status = .connected)
    (hs' : (b.step t).1.client.sockets.socket? id = some s')
    (hconnected' : s'.state.status = .connected)
    (h : k.Balances s.port s.state b.client.settings.maxSegment) :
    (k.note b id t).Balances s'.port s'.state b.client.settings.maxSegment := by
  have hother (hsend : ∀ data, t.move ≠ .send id data)
      (hack : ∀ g, t.move = .handle g → b.client.lookup g = some (id, s) → g.kind ≠ .dataAck) :
      k.Balances s'.port s'.state b.client.settings.maxSegment := by
    obtain ⟨hport, hsame⟩ := BusyClient.sameStream_step hs hconnected hs' hconnected' hsend hack
    rw [hport]
    exact h.of_sameStream hsame
  unfold note
  cases hmove : t.move with
  | send j data =>
    dsimp only
    by_cases hj : j = id
    · subst hj
      obtain ⟨hport, hsame⟩ := BusyClient.sameStream_send hs hconnected hmove hs'
      rw [if_pos rfl, hport]
      exact (h.enqueue hmax data).of_sameStream hsame
    · rw [if_neg hj]
      refine hother (fun data' hsend => ?_) fun g hhandle => by rw [hmove] at hhandle; cases hhandle
      rw [hmove] at hsend
      exact hj (ClientMove.send.inj hsend).1
  | handle g =>
    dsimp only
    have hsend : ∀ data, t.move ≠ .send id data := fun data hsend => by
      rw [hmove] at hsend
      cases hsend
    cases hfound : b.client.lookup g with
    | none =>
      refine hother hsend fun g' hhandle hfound' => ?_
      obtain rfl := ClientMove.handle.inj (hmove.symm.trans hhandle)
      cases hfound.symm.trans hfound'
    | some found =>
      obtain ⟨j, s₁⟩ := found
      dsimp only
      by_cases hack : j = id ∧ g.kind = .dataAck
      · obtain ⟨rfl, hk⟩ := hack
        obtain rfl := Option.some.inj (hs.symm.trans (Client.socket?_of_lookup hfound).1)
        obtain ⟨hport, hsame⟩ :=
          BusyClient.sameStream_acknowledge hmove hfound hconnected hk hs'
        rw [if_pos ⟨rfl, hk⟩, hport]
        exact (h.acknowledge g.ack).of_sameStream hsame
      · rw [if_neg hack]
        refine hother hsend fun g' hhandle hfound' hk => ?_
        obtain rfl := ClientMove.handle.inj (hmove.symm.trans hhandle)
        obtain ⟨rfl, -⟩ := Prod.mk.inj (Option.some.inj (hfound.symm.trans hfound'))
        exact hack ⟨rfl, hk⟩
  | _ =>
    refine hother (fun data hsend => ?_) fun g hhandle => ?_
    · cases hmove.symm.trans hsend
    · cases hmove.symm.trans hhandle

/-- The account agrees with a connection as long as it stays. -/
theorem run {turns : List ClientTurn} (hmax : 0 < b.client.settings.maxSegment)
    (hstays : b.StaysConnected id turns) (hs : b.client.sockets.socket? id = some s)
    (h : k.Balances s.port s.state b.client.settings.maxSegment) :
    ∃ s', (b.run turns).client.sockets.socket? id = some s' ∧
      (b.outbox id k turns).Balances s'.port s'.state b.client.settings.maxSegment := by
  induction turns generalizing b k s with
  | nil => exact ⟨s, hs, h⟩
  | cons t turns ih =>
    obtain ⟨hconnected, hrest⟩ := hstays
    obtain ⟨s₀, hs₀, hconnected⟩ := Client.statusAt_eq_some_iff.1 hconnected
    obtain rfl := Option.some.inj (hs.symm.trans hs₀)
    obtain ⟨s₁, hs₁, hconnected₁⟩ := Client.statusAt_eq_some_iff.1 hrest.head
    have hnext := h.step hmax hs hconnected hs₁ hconnected₁
    have hsettings := b.settings_step t
    rw [← hsettings] at hmax hnext ⊢
    exact ih hmax hrest hs₁ hnext

end Outbox.Balances

namespace BusyClient

variable {settings : Settings} {c : Client}

/-- A connection that is granted in an orderly run has nothing in its queue. -/
theorem isEmpty_of_granted (hstart : Client.start settings = .ok c) {turns : List ClientTurn}
    {t : ClientTurn} {id : SocketId} {s : Socket ClientConnection}
    (horderly : Orderly { client := c } turns)
    (hopening : (run { client := c } turns).client.statusAt id = some .synSent)
    (hs : (run { client := c } (turns ++ [t])).client.sockets.socket? id = some s)
    (hconnected : s.state.status = .connected) : s.state.buffer.isEmpty = true := by
  obtain ⟨-, rfl⟩ := Client.start_eq_ok hstart
  obtain ⟨s₀, hs₀, hopening⟩ := Client.statusAt_eq_some_iff.1 hopening
  have hnone := SocketTable.socket?_free (σ := ClientConnection) settings.maxConnections
  have htended := tended_run (fun id s hs => by cases (hnone id).symm.trans hs) horderly id s₀ hs₀
  have hempty := htended.opening hopening
  rw [run_concat] at hs
  cases socket?_step hs with
  | fresh => cases hconnected
  | kept hs₁ =>
    obtain rfl := Option.some.inj (hs₀.symm.trans hs₁)
    exact hempty
  | ended => cases hconnected
  | shifted hs₁ hshift =>
    obtain rfl := Option.some.inj (hs₀.symm.trans hs₁)
    cases hshift with
    | granted => exact hempty
    | asked => cases hconnected
    | sent _ hwas => cases hopening.symm.trans hwas
    | acknowledged _ _ hwas => cases hopening.symm.trans hwas
    | resent hwas => cases hopening.symm.trans hwas
    | stopped => exact hempty
    | leaving => cases hconnected
    | confirmed => cases hconnected
    | called => exact hempty
    | gaveUp => cases hconnected
    | left => cases hconnected

/-- **The account of any connection of a client.**  A connection that is granted in an orderly run
has nothing in its queue.  From then on, as long as the socket stays connected, the numbers of the
segments in the queue follow each other and the last one leads to the next position; none of them is
empty or too long; the payloads that acknowledgments have removed and those in the queue are the
bytes that the client was given to send; and no more than a window of segments is in flight, and as
many as can be if the link has not refused a segment that the client tried to send. -/
theorem outbox_balances (hstart : Client.start settings = .ok c) (before : List ClientTurn)
    (id : SocketId) :
    (Orderly { client := c } before →
      (run { client := c } before).client.statusAt id = some .synSent → ∀ t s,
      (run { client := c } (before ++ [t])).client.sockets.socket? id = some s →
      s.state.status = .connected → s.state.buffer.isEmpty = true) ∧
    ∀ s turns, (run { client := c } before).client.sockets.socket? id = some s →
      s.state.buffer.isEmpty = true → (run { client := c } before).StaysConnected id turns →
      let b := run { client := c } before
      let k := b.outbox id ⟨[], []⟩ turns
      ∃ s', (b.run turns).client.sockets.socket? id = some s' ∧
        (let queue := s'.state.buffer.segments
        queue.IsChain (fun g g' => g'.seq = g.seq + UInt32.ofNat g.payload.length) ∧
        (∀ g ∈ queue.getLast?, g.seq + UInt32.ofNat g.payload.length = s'.state.nextSeq) ∧
        (∀ g ∈ queue, 1 ≤ g.payload.length ∧ g.payload.length ≤ settings.maxSegment) ∧
        (k.acknowledged ++ queue.map (·.payload)).flatten = k.given ∧
        s'.state.buffer.inFlight.length ≤ settings.window ∧
        ((∀ first t last, turns = first ++ t :: last → ¬ (b.run first).Falters t id) →
          s'.state.buffer.inFlight.length = min settings.window queue.length)) := by
  refine ⟨fun horderly hopening t s hs hconnected =>
    isEmpty_of_granted hstart horderly hopening hs hconnected, ?_⟩
  intro s turns hs hempty hstays b k
  obtain ⟨hvalid, rfl⟩ := Client.start_eq_ok hstart
  have hsettings : b.client.settings = settings := settings_run _ before
  have hmax : 0 < b.client.settings.maxSegment := by
    rw [hsettings]
    exact (Settings.maxSegment_of_valid hvalid).1
  obtain ⟨s', hs', seq, pieces, hqueue, hnext, hbytes, hsizes⟩ :=
    Outbox.Balances.run hmax hstays hs (.empty s.port _ hempty)
  have hlast : (b.run turns).client.settings = settings := (b.settings_run turns).trans hsettings
  have hwindow : s'.state.buffer.inFlight.length ≤ settings.window := by
    have hstarted : InWindow { client := ⟨settings, .free settings.maxConnections⟩ } id := by
      intro buffer hbuffer
      rw [Client.bufferAt, SocketTable.socket?_free] at hbuffer
      cases hbuffer
    have hrun := inWindow_run (inWindow_run hstarted before) turns _ (Client.bufferAt_eq hs')
    rwa [hlast] at hrun
  obtain ⟨hchain, hend⟩ := isChain_segmentsOf s'.port s'.state.serverPort pieces seq
  refine ⟨s', hs', ?_⟩
  dsimp only
  refine ⟨?_, ?_, ?_, ?_, hwindow, fun hno => ?_⟩
  · rw [hqueue]
    exact hchain
  · rw [hqueue, ← hnext]
    exact hend
  · intro g hg
    rw [hqueue] at hg
    obtain ⟨front, piece, back, rfl, rfl⟩ := (mem_segmentsOf_iff _ _).1 hg
    obtain ⟨hne, hle⟩ := hsizes piece (List.mem_append_right _ List.mem_cons_self)
    rw [hsettings] at hle
    exact ⟨List.length_pos_iff.2 hne, hle⟩
  · rw [hqueue, map_payload_segmentsOf]
    exact hbytes
  · have hfull : b.IsFull id := by
      intro buffer hbuffer
      obtain rfl := Option.some.inj (hbuffer.symm.trans (Client.bufferAt_eq hs))
      exact .inl (SendBuffer.isEmpty_eq_true_iff.1 hempty).2
    have hrun := isFull_run hfull hno _ (Client.bufferAt_eq hs')
    rw [hlast] at hrun
    exact hrun.length_inFlight hwindow

/-! ### Eight bytes -/

/-- Segments of up to three bytes, of which two can be in flight. -/
def twoInFlight : Settings :=
  { maxSegment := 3, window := 2 }

/-- Seven bytes are sent, and the first three are acknowledged; another byte is sent, and when the
next three bytes are acknowledged, the link refuses everything. -/
def eightBytes : List ClientTurn :=
  [{ move := .send 0 [1, 2, 3, 4, 5, 6, 7] },
    { move := .handle ((Segment.dataOf 7 9 1 [1, 2, 3]).reply .dataAck 4) },
    { move := .send 0 [8] },
    { move := .handle ((Segment.dataOf 7 9 4 [4, 5, 6]).reply .dataAck 7),
      refuse := Uplink.refusal { allowance := some 0, reason := "" } }]

/-- The client that has connected its socket. -/
def connectedClient : BusyClient :=
  run { client := ⟨twoInFlight, .free 10⟩ } (refusedByte.take 4)

/-- The last two bytes are in the queue, and the other six were acknowledged. -/
theorem outbox_balances_eightBytes :
    Client.start twoInFlight = .ok ⟨twoInFlight, .free 10⟩ ∧
      connectedClient.StaysConnected 0 eightBytes ∧
      ∃ s, (connectedClient.run eightBytes).client.sockets.socket? 0 = some s ∧
        [1, 2, 3, 4, 5, 6] ++ (s.state.buffer.segments.map (·.payload)).flatten =
          [1, 2, 3, 4, 5, 6, 7, 8] ∧
        s.state.buffer.inFlight.length ≤ 2 := by
  have hstart : Client.start twoInFlight = .ok ⟨twoInFlight, .free 10⟩ := rfl
  have hstays : connectedClient.StaysConnected 0 eightBytes := by decide +kernel
  have hempty : (connectedClient.client.sockets.socket? 0).map (·.state.buffer.isEmpty) =
      some true := by decide +kernel
  obtain ⟨s, hs, hempty⟩ := Option.map_eq_some_iff.1 hempty
  obtain ⟨s', hs', -, -, -, hbytes, hwindow, -⟩ :=
    (outbox_balances hstart (refusedByte.take 4) 0).2 s eightBytes hs hempty hstays
  have hgiven : (connectedClient.outbox 0 ⟨[], []⟩ eightBytes).given =
      [1, 2, 3, 4, 5, 6, 7, 8] := by decide +kernel
  have hacknowledged : (connectedClient.outbox 0 ⟨[], []⟩ eightBytes).acknowledged.flatten =
      [1, 2, 3, 4, 5, 6] := by decide +kernel
  refine ⟨hstart, hstays, s', hs', ?_, hwindow⟩
  rw [← hgiven, ← hacknowledged, ← List.flatten_append]
  exact hbytes

end BusyClient

end OverlayStack.Transport
