import OverlayStack.Proofs.Transport.BusyServers
import OverlayStack.Proofs.Transport.ClientLifecycle

/-!
# Places and ports

Clients and servers keep their sockets in the same kind of table, which no operation makes longer or
shorter, and in which only opening a socket brings a port.  So no two sockets ever have the same
port, and a segment is received by at most one socket, though clients and servers ask for different
things of this socket.

What a table becomes is told without the operations: it is one of `SocketTable.Moves`.

## Main definitions

* `SocketTable.Moves` — what the operations of clients and servers do to a table.
* `SocketTable.Sound` — the invariant of tables.
* `SocketTable.Opens` — what opening a socket is to return.
* `SocketTable.Delivers` — only the receiver of a segment changes and sends.
* `SocketKeeper` — what clients and servers have in common as the keepers of such a table.
* `SocketKeeper.Separated` — what holds of the sockets of a keeper after any turns.
* `Client.Receives`, `Server.Receives` — which sockets receive a segment.
* `BusyClient.keeper`, `BusyServer.keeper` — clients and servers as keepers of sockets.

## Main results

* `SocketTable.Moves.sound` — the invariant is kept.
* `SocketTable.Sound.opens` — opening a socket returns what it is to return.
* `SocketKeeper.separated` — what holds of the sockets of any keeper.
* `Client.delivers_handle`, `Server.delivers_handle` — what a segment does.
* `sockets_separated` — what holds of clients and servers after any turns.
-/

namespace OverlayStack.Transport

universe u

/-! ### Tables -/

namespace SocketTable

variable {σ : Type u} {t t' : SocketTable σ} {port : UInt32} {start : σ} {id : SocketId}

/-- What the operations of clients and servers do to a table. -/
inductive Moves (t : SocketTable σ) : SocketTable σ → Prop where
  | idle : Moves t t
  | set (id : SocketId) (x : σ) : Moves t (t.set id x)
  | map (f : σ → σ) : Moves t (t.map f)
  | closed (id : SocketId) : Moves t (t.close id)
  | opened {port : UInt32} {start : σ} {id : SocketId} {t' : SocketTable σ}
      (h : t.openSocket port start = .ok (id, t')) : Moves t t'

/-- A table has a number of places, and no two of its sockets have the same port. -/
structure Sound (slots : Nat) (t : SocketTable σ) : Prop where
  length_eq : t.slots.length = slots
  apart : t.Apart

/-- No socket has a port. -/
def PortFree (t : SocketTable σ) (port : UInt32) : Prop :=
  ∀ id s, t.socket? id = some s → s.port ≠ port

theorem sound_free (slots : Nat) : (free slots : SocketTable σ).Sound slots :=
  ⟨List.length_replicate, apart_free slots⟩

theorem socket?_eq_getElem (h : id < t.slots.length) : t.socket? id = t.slots[id] := by
  rw [socket?, List.getElem?_eq_getElem h]
  rfl

theorem find?_port_eq_none_iff :
    (t.find? fun s => s.port == port) = none ↔ t.PortFree port := by
  rw [find?, List.find?_eq_none]
  constructor
  · intro hnone id s hs hport
    exact hnone (id, s) (mem_sockets_iff.2 hs) (beq_iff_eq.2 hport)
  · rintro hfree ⟨id, s⟩ hs hport
    exact hfree id s (mem_sockets_iff.1 hs) (beq_iff_eq.1 hport)

/-- **Opening a socket** fails if its port is taken, and then if all places are taken, and otherwise
takes the first free place. -/
theorem openSocket_cases (t : SocketTable σ) (port : UInt32) (start : σ) :
    (∃ id s, t.socket? id = some s ∧ s.port = port ∧
      t.openSocket port start = .error (.portInUse port id)) ∨
    t.PortFree port ∧
      ((∀ id < t.slots.length, t.socket? id ≠ none) ∧
          t.openSocket port start = .error (.noSlotAvailable t.slots.length) ∨
        ∃ id < t.slots.length, t.socket? id = none ∧ (∀ j < id, t.socket? j ≠ none) ∧
          t.openSocket port start = .ok (id, ⟨t.slots.set id (some ⟨port, start⟩)⟩)) := by
  unfold openSocket
  cases hfound : t.find? fun s => s.port == port with
  | some found =>
    have hs := mem_sockets_iff.1 (List.mem_of_find?_eq_some hfound)
    have hport := List.find?_some hfound
    exact .inl ⟨found.1, found.2, hs, beq_iff_eq.1 hport, rfl⟩
  | none =>
    refine .inr ⟨find?_port_eq_none_iff.1 hfound, ?_⟩
    cases hplace : t.slots.findIdx? Option.isNone with
    | none =>
      refine .inl ⟨fun id hid hnone => ?_, rfl⟩
      rw [socket?_eq_getElem hid] at hnone
      have htaken := List.findIdx?_eq_none_iff.1 hplace _ (List.getElem_mem hid)
      rw [hnone] at htaken
      cases htaken
    | some id =>
      obtain ⟨hid, hnone, hbefore⟩ := List.findIdx?_eq_some_iff_getElem.1 hplace
      refine .inr ⟨id, hid, ?_, fun j hj hfree => ?_, rfl⟩
      · rw [socket?_eq_getElem hid]
        exact Option.isNone_iff_eq_none.1 hnone
      · rw [socket?_eq_getElem (Nat.lt_trans hj hid)] at hfree
        exact hbefore j hj (Option.isNone_iff_eq_none.2 hfree)

/-- What opening a socket is to return.  The place of a socket that has the port is named, even if
all places are taken. -/
structure Opens (t : SocketTable σ) (slots : Nat) (port : UInt32) (start : σ)
    (result : Except Error (SocketId × SocketTable σ)) : Prop where
  portInUse_iff : ∀ id, result = .error (.portInUse port id) ↔
    ∃ s, t.socket? id = some s ∧ s.port = port
  noSlotAvailable_iff : result = .error (.noSlotAvailable slots) ↔
    t.PortFree port ∧ ∀ id < slots, t.socket? id ≠ none
  /-- The first free place is taken, and the others are left alone. -/
  ok_iff : ∀ id t', result = .ok (id, t') ↔
    t.PortFree port ∧ id < slots ∧ t.socket? id = none ∧ (∀ j < id, t.socket? j ≠ none) ∧
      t' = ⟨t.slots.set id (some ⟨port, start⟩)⟩

theorem Sound.opens {slots : Nat} (h : t.Sound slots) (port : UInt32) (start : σ) :
    t.Opens slots port start (t.openSocket port start) := by
  obtain ⟨rfl, hapart⟩ := h
  rcases t.openSocket_cases port start with
    ⟨id, s, hs, hport, hopen⟩ | ⟨hfree, ⟨hall, hopen⟩ | ⟨id, hid, hnone, hbefore, hopen⟩⟩
  · have htaken : ¬ t.PortFree port := fun hfree => hfree id s hs hport
    rw [hopen]
    refine ⟨fun j => ⟨?_, ?_⟩, ⟨nofun, fun h => absurd h.1 htaken⟩,
      fun j t' => ⟨nofun, fun h => absurd h.1 htaken⟩⟩
    · rintro ⟨⟩
      exact ⟨s, hs, hport⟩
    · rintro ⟨s', hs', hport'⟩
      rw [hapart id j s s' hs hs' (hport.trans hport'.symm)]
  · rw [hopen]
    refine ⟨fun j => ⟨nofun, ?_⟩, ⟨fun _ => ⟨hfree, hall⟩, fun _ => rfl⟩,
      fun j t' => ⟨nofun, fun h => absurd h.2.2.1 (hall j h.2.1)⟩⟩
    rintro ⟨s, hs, hport⟩
    exact absurd hport (hfree j s hs)
  · rw [hopen]
    refine ⟨fun j => ⟨nofun, ?_⟩, ⟨nofun, fun h => absurd hnone (h.2 id hid)⟩,
      fun j t' => ⟨?_, ?_⟩⟩
    · rintro ⟨s, hs, hport⟩
      exact absurd hport (hfree j s hs)
    · rintro ⟨⟩
      exact ⟨hfree, hid, hnone, hbefore, rfl⟩
    · rintro ⟨-, -, hj, hbelow, rfl⟩
      -- neither of the two free places comes before the other
      obtain rfl : id = j := Nat.le_antisymm (Nat.not_lt.1 fun hlt => hbefore j hlt hj)
        (Nat.not_lt.1 fun hlt => hbelow id hlt hnone)
      rfl

/-- **Whatever is done to a table**, it keeps its places, and no two sockets get the same port. -/
theorem Moves.sound {slots : Nat} (h : t.Moves t') (hs : t.Sound slots) : t'.Sound slots := by
  cases h with
  | idle => exact hs
  | set id x =>
    exact ⟨(t.length_set id x).trans hs.length_eq, hs.apart.of_samePorts (t.samePorts_set id x)⟩
  | map f => exact ⟨(t.length_map f).trans hs.length_eq, hs.apart.of_samePorts (t.samePorts_map f)⟩
  | closed id =>
    exact ⟨(t.length_close id).trans hs.length_eq, hs.apart.of_samePorts (t.samePorts_close id)⟩
  | @opened port start id _ hopen =>
    obtain ⟨-, -, -, -, rfl⟩ := ((hs.opens port start).ok_iff id t').1 hopen
    exact ⟨List.length_set.trans hs.length_eq, hs.apart.openSocket hopen⟩

/-- What the handling of a segment makes of a table, and what is sent: at most one socket receives
the segment, no other one changes, and what is sent comes from the port of the receiver. -/
structure Delivers (t t' : SocketTable σ) (receives : Socket σ → Prop) (sent : Outgoing) :
    Prop where
  sole : ∀ i j a b, t.socket? i = some a → t.socket? j = some b → receives a → receives b → i = j
  others : ∀ id, (∀ s, t.socket? id = some s → ¬ receives s) → t'.socket? id = t.socket? id
  labelled : ∀ m ∈ sent, ∃ id s, t.socket? id = some s ∧ receives s ∧ m.2.sourcePort = s.port

/-- A segment that nobody receives does nothing. -/
theorem Apart.delivers_nothing (h : t.Apart) {port : UInt32} {receives : Socket σ → Prop}
    (hreceives : ∀ s, receives s → s.port = port) : t.Delivers t receives [] where
  sole i j a b ha hb hra hrb := h i j a b ha hb ((hreceives a hra).trans (hreceives b hrb).symm)
  others _ _ := rfl
  labelled := nofun

theorem Apart.delivers_set (h : t.Apart) {receives : Socket σ → Prop} {port : UInt32}
    (hreceives : ∀ s, receives s → s.port = port) {s : Socket σ} (hs : t.socket? id = some s)
    (hr : receives s) (x : σ) {sent : Outgoing} (hsent : ∀ m ∈ sent, m.2.sourcePort = s.port) :
    t.Delivers (t.set id x) receives sent where
  sole := (h.delivers_nothing hreceives).sole
  others j hj := by
    rw [socket?_set, if_neg]
    rintro rfl
    exact hj s hs hr
  labelled m hm := ⟨id, s, hs, hr, hsent m hm⟩

end SocketTable

/-! ### Keepers -/

theorem eq_error_of_map {α β : Type} {x : Except Error α} {f : α → β} {error : Error}
    (h : x.map f = .error error) : x = .error error := by
  cases x with
  | ok => cases h
  | error =>
    cases h
    rfl

/-- A client or a server as the keeper of its sockets: the calls that open and close a socket, the
turns in which this is done or a segment arrives, and which sockets receive a segment.  What fails
changes nothing. -/
structure SocketKeeper (σ β : Type) where
  /-- The sockets. -/
  table : β → SocketTable σ
  /-- The state of a new socket. -/
  start : σ
  /-- What a call to open a socket for a port returns, with the sockets after it. -/
  opened : β → UInt32 → Except Error (SocketId × SocketTable σ)
  /-- What a call to close a socket returns, with the sockets after it. -/
  closed : β → SocketId → Except Error (SocketTable σ)
  openTurn : β → UInt32 → Nat → Refusal Error → β × Outgoing
  closeTurn : β → SocketId → Nat → Refusal Error → β × Outgoing
  /-- A segment from a node is handled. -/
  handleTurn : β → NodeId → Segment → Nat → Refusal Error → β × Outgoing
  receives : Segment → Socket σ → Prop
  opened_eq : ∀ b port, opened b port = (table b).openSocket port start
  openTurn_of_error : ∀ b port error, opened b port = .error error →
    ∀ now refuse, openTurn b port now refuse = (b, [])
  closeTurn_of_error : ∀ b id error, closed b id = .error error →
    ∀ now refuse, closeTurn b id now refuse = (b, [])

namespace SocketKeeper

variable {σ β : Type} {k : SocketKeeper σ β} {slots : Nat} {b : β}

/-- What holds of the sockets of a keeper. -/
structure Separated (k : SocketKeeper σ β) (slots : Nat) (b : β) : Prop where
  length_eq : (k.table b).slots.length = slots
  /-- A socket is listed with its place. -/
  placed : ∀ id s, (id, s) ∈ (k.table b).sockets ↔ (k.table b).slots[id]? = some (some s)
  /-- No two sockets have the same port. -/
  apart : (k.table b).Apart
  opens : ∀ port, (k.table b).Opens slots port k.start (k.opened b port)
  /-- Opening a socket in vain does nothing. -/
  open_error : ∀ port error, k.opened b port = .error error →
    ∀ now refuse, k.openTurn b port now refuse = (b, [])
  /-- Closing a socket in vain does nothing. -/
  close_error : ∀ id error, k.closed b id = .error error →
    ∀ now refuse, k.closeTurn b id now refuse = (b, [])
  delivers : ∀ source g now refuse,
    (k.table b).Delivers (k.table (k.handleTurn b source g now refuse).1) (k.receives g)
      (k.handleTurn b source g now refuse).2

/-- **The sockets of a keeper are separated** if its table is sound and segments are delivered. -/
theorem separated (h : (k.table b).Sound slots)
    (hdelivers : ∀ source g now refuse,
      (k.table b).Delivers (k.table (k.handleTurn b source g now refuse).1) (k.receives g)
        (k.handleTurn b source g now refuse).2) : k.Separated slots b where
  length_eq := h.length_eq
  placed id s := by rw [SocketTable.mem_sockets_iff, SocketTable.socket?, Option.join_eq_some_iff]
  apart := h.apart
  opens port := by
    rw [k.opened_eq]
    exact h.opens port k.start
  open_error := k.openTurn_of_error b
  close_error := k.closeTurn_of_error b
  delivers := hdelivers

end SocketKeeper

/-! ### Clients -/

/-- A socket of a client receives a segment for its port from the port of its server, unless it is
closed. -/
def Client.Receives (g : Segment) (s : Socket ClientConnection) : Prop :=
  s.port = g.destPort ∧ s.state.status ≠ .closed ∧ s.state.serverPort = g.sourcePort

theorem Client.receives_of_lookup {c : Client} {g : Segment} {id : SocketId}
    {s : Socket ClientConnection} (h : c.lookup g = some (id, s)) : Client.Receives g s := by
  have hp := List.find?_some h
  simp only [Bool.and_eq_true, beq_iff_eq, bne_iff_ne] at hp
  exact ⟨hp.1.1, hp.1.2, hp.2⟩

/-- What is transmitted has waited. -/
theorem ClientConnection.waits_of_transmit (x : ClientConnection) (window now : Nat)
    (refuse : Refusal Error) :
    ∀ m ∈ (x.transmit window now refuse).2.1, m.2 ∈ x.buffer.segments := by
  intro m hm
  obtain ⟨g, hg, rfl⟩ := List.mem_map.1 hm
  exact x.buffer.subset_segments_of_transmit window now refuse hg

/-- Segments wait with the port of their socket. -/
def Client.Labelled (c : Client) : Prop :=
  ∀ id s, c.sockets.socket? id = some s → ∀ g ∈ s.state.buffer.segments, g.sourcePort = s.port

/-- **What a segment does to a client.** -/
theorem Client.delivers_handle {c : Client} (hapart : c.sockets.Apart) (hlabelled : c.Labelled)
    (g : Segment) (now : Nat) (refuse : Refusal Error) :
    c.sockets.Delivers (c.handle g now refuse).state.sockets (Client.Receives g)
      (c.handle g now refuse).sent := by
  have hport : ∀ s, Client.Receives g s → s.port = g.destPort := fun _ hr => hr.1
  have hnothing := hapart.delivers_nothing hport
  unfold Client.handle
  cases hfound : c.lookup g with
  | none => exact hnothing
  | some found =>
    obtain ⟨id, s⟩ := found
    have hs := (Client.socket?_of_lookup hfound).1
    have hr := Client.receives_of_lookup hfound
    dsimp only
    split
    · exact hapart.delivers_set hport hs hr _ (List.forall_mem_nil _)
    · exact hapart.delivers_set hport hs hr _ (List.forall_mem_nil _)
    · split
      · exact hapart.delivers_set hport hs hr _ (List.forall_mem_nil _)
      · -- only segments that wait are sent
        refine hapart.delivers_set hport hs hr _ fun m hm => ?_
        have hwaits := ClientConnection.waits_of_transmit _ _ now refuse m hm
        exact hlabelled id s hs m.2 (SendBuffer.subset_segments_of_acknowledge _ _ hwaits)
    · exact hnothing
    · exact hnothing
    · exact hnothing

namespace BusyClient

variable {b : BusyClient} {t : ClientTurn} {id : SocketId} {s : Socket ClientConnection}

theorem moves_step (b : BusyClient) (t : ClientTurn) :
    b.client.sockets.Moves (b.step t).1.client.sockets := by
  have h := b.step_cases t
  generalize (b.step t).1.client = c at h ⊢
  generalize (b.step t).2 = sent at h
  cases h with
  | idle => exact .idle
  | shifted => exact .set _ _
  | opened _ h =>
    obtain ⟨sockets, hopen, rfl⟩ := Client.openSocket_eq_ok h
    exact .opened hopen
  | closed _ h =>
    rw [Client.close_eq_ok h]
    exact .closed _
  | lost => exact .map _

/-- What waits after a shift has waited before, or carries the port of the socket. -/
theorem Shift.sourcePort_eq {x : ClientConnection} {sent : Outgoing} (h : b.Shift t id s x sent)
    (hbefore : ∀ g ∈ s.state.buffer.segments, g.sourcePort = s.port) {g : Segment}
    (hg : g ∈ x.buffer.segments) : g.sourcePort = s.port := by
  cases h with
  | @sent data =>
    rw [ClientConnection.segments_transmit, ClientConnection.buffer_withTimer,
      ClientConnection.segments_enqueue] at hg
    rcases List.mem_append.1 hg with hg | hg
    · exact hbefore g hg
    · obtain ⟨_, _, _, -, rfl⟩ := (mem_segmentsOf_iff _ _).1 hg
      rfl
  | acknowledged =>
    rw [ClientConnection.segments_transmit] at hg
    exact hbefore g (SendBuffer.subset_segments_of_acknowledge _ _ hg)
  | resent =>
    rw [SendBuffer.segments_retransmit] at hg
    exact hbefore g hg
  | left => cases hg
  | asked | granted | stopped | leaving | confirmed | called | gaveUp => exact hbefore g hg

theorem labelled_step (h : b.client.Labelled) (t : ClientTurn) : (b.step t).1.client.Labelled := by
  intro id s hs
  cases socket?_step hs with
  | fresh => exact nofun
  | kept hs₀ => exact h id s hs₀
  | ended => exact nofun
  | shifted hs₀ hshift => exact fun g hg => hshift.sourcePort_eq (h id _ hs₀) hg

theorem sound_run {slots : Nat} (h : b.client.sockets.Sound slots) (hlabelled : b.client.Labelled)
    (turns : List ClientTurn) :
    (b.run turns).client.sockets.Sound slots ∧ (b.run turns).client.Labelled := by
  induction turns generalizing b with
  | nil => exact ⟨h, hlabelled⟩
  | cons t turns ih => exact ih ((b.moves_step t).sound h) (labelled_step hlabelled t)

/-- A client as the keeper of its sockets. -/
def keeper : SocketKeeper ClientConnection BusyClient where
  table b := b.client.sockets
  start := {}
  opened b port := (b.client.openSocket port).map fun r => (r.1, r.2.sockets)
  closed b id := (b.client.close id).map (·.sockets)
  openTurn b port now refuse := b.step ⟨.openSocket port, now, refuse⟩
  closeTurn b id now refuse := b.step ⟨.close id, now, refuse⟩
  handleTurn b _ g now refuse := b.step ⟨.handle g, now, refuse⟩
  receives := Client.Receives
  opened_eq b port := by
    unfold Client.openSocket
    cases b.client.sockets.openSocket port {} <;> rfl
  openTurn_of_error b port error h now refuse := by
    rw [step]
    dsimp only
    rw [eq_error_of_map h]
  closeTurn_of_error b id error h now refuse := by
    rw [step]
    dsimp only
    rw [eq_error_of_map h]

end BusyClient

/-! ### Servers -/

/-- A socket of a server receives a segment for its port, whoever has sent it. -/
def Server.Receives (g : Segment) (s : Socket ServerConnection) : Prop :=
  s.port = g.destPort

/-- An answer comes from the port that the segment is for. -/
theorem ServerConnection.sourcePort_of_reaction {y : ServerConnection} {capacity : Nat}
    {source : NodeId} {g : Segment} {now : Nat} {r : Reaction}
    (h : y.reaction capacity source g now = some r) : r.reply.sourcePort = g.destPort := by
  obtain ⟨-, -, rfl⟩ | ⟨-, -, rfl⟩ | ⟨-, -, rfl⟩ := reaction_cases h <;> rfl

/-- **What a segment does to a server.** -/
theorem Server.delivers_handle {s : Server} (hapart : s.sockets.Apart) (source : NodeId)
    (g : Segment) (now : Nat) (refuse : Refusal Error) :
    s.sockets.Delivers (s.handle source g now refuse).state.sockets (Server.Receives g)
      (s.handle source g now refuse).sent := by
  have hport : ∀ socket, Server.Receives g socket → socket.port = g.destPort := fun _ hr => hr
  cases hfound : s.lookup g with
  | none =>
    rw [handle, hfound]
    exact hapart.delivers_nothing hport
  | some found =>
    obtain ⟨id, socket⟩ := found
    obtain ⟨hs, hr⟩ := socket?_of_lookup hfound
    rw [handle_eq hfound]
    cases hreaction : socket.state.reaction s.settings.receiveCapacity source g now with
    | none => exact hapart.delivers_nothing hport
    | some r =>
      dsimp only [answer]
      split
      · refine hapart.delivers_set hport hs hr _ fun m hm => ?_
        rw [List.mem_singleton.1 hm]
        exact (ServerConnection.sourcePort_of_reaction hreaction).trans hr.symm
      · exact hapart.delivers_set hport hs hr _ (List.forall_mem_nil _)

theorem Server.moves_handle (s : Server) (source : NodeId) (g : Segment) (now : Nat)
    (refuse : Refusal Error) :
    s.sockets.Moves (s.handle source g now refuse).state.sockets := by
  cases hfound : s.lookup g with
  | none =>
    rw [handle, hfound]
    exact .idle
  | some found =>
    rw [handle_eq hfound]
    cases found.2.state.reaction s.settings.receiveCapacity source g now with
    | none => exact .idle
    | some r =>
      dsimp only [answer]
      split <;> exact .set _ _

namespace BusyServer

variable {b : BusyServer}

theorem moves_step (b : BusyServer) (t : ServerTurn) :
    b.server.sockets.Moves (b.step t).1.server.sockets := by
  unfold step
  cases t.move with
  | openSocket port =>
    dsimp only
    split
    · exact .idle
    · next hopen =>
      obtain ⟨sockets, htable, rfl⟩ := Server.openSocket_eq_ok hopen
      exact .opened htable
  | close id =>
    dsimp only
    split
    · exact .idle
    · next hclose =>
      rw [Server.close_eq_ok hclose]
      exact .closed id
  | accept id =>
    dsimp only
    split
    · exact .idle
    · next hlisten =>
      obtain ⟨socket, -, -, rfl⟩ := Server.listen_eq_ok hlisten
      exact .set id _
  | receive id length =>
    dsimp only
    split <;> exact .idle
  | look place =>
    dsimp only [look]
    split
    · exact .idle
    · split
      · exact .idle
      · next hpoll =>
        rcases Server.poll_eq_some hpoll with rfl | ⟨id, n, rfl⟩
        · exact .idle
        · exact .set id _
  | handle source g => exact b.server.moves_handle source g _ _
  | sweep =>
    dsimp only [Server.sweep]
    exact .map _
  | linkLost =>
    dsimp only [Server.linkLost]
    exact .map _

theorem sound_run {slots : Nat} (h : b.server.sockets.Sound slots) (turns : List ServerTurn) :
    (b.run turns).server.sockets.Sound slots := by
  induction turns generalizing b with
  | nil => exact h
  | cons t turns ih => exact ih ((b.moves_step t).sound h)

/-- A server as the keeper of its sockets. -/
def keeper : SocketKeeper ServerConnection BusyServer where
  table b := b.server.sockets
  start := {}
  opened b port := (b.server.openSocket port).map fun r => (r.1, r.2.sockets)
  closed b id := (b.server.close id).map (·.sockets)
  openTurn b port now refuse := b.step ⟨.openSocket port, now, refuse⟩
  closeTurn b id now refuse := b.step ⟨.close id, now, refuse⟩
  handleTurn b source g now refuse := b.step ⟨.handle source g, now, refuse⟩
  receives := Server.Receives
  opened_eq b port := by
    unfold Server.openSocket
    cases b.server.sockets.openSocket port {} <;> rfl
  openTurn_of_error b port error h now refuse := by
    rw [step]
    dsimp only
    rw [eq_error_of_map h]
  closeTurn_of_error b id error h now refuse := by
    rw [step]
    dsimp only
    rw [eq_error_of_map h]

end BusyServer

/-! ### Both -/

/-- **The sockets of clients and servers are separated.**  After any turns of a client or a server
the table has its places, a socket is listed with its place, and no two sockets have the same port.
Opening a socket fails if the port is taken, which names the place of the socket that has it, or
else if all places are taken, and otherwise takes the first free place; what fails changes nothing.
At most one socket receives a segment, no other one is changed by it, and what is sent then comes
from the port of the receiver. -/
theorem sockets_separated (settings : Settings) :
    (∀ c, Client.start settings = .ok c → ∀ turns : List ClientTurn,
      BusyClient.keeper.Separated settings.maxConnections (.run { client := c } turns)) ∧
    ∀ s, Server.start settings = .ok s → ∀ turns : List ServerTurn,
      BusyServer.keeper.Separated settings.maxConnections (.run { server := s } turns) := by
  constructor
  · intro c hstart turns
    obtain ⟨-, rfl⟩ := Client.start_eq_ok hstart
    have hlabelled : Client.Labelled ⟨settings, .free settings.maxConnections⟩ := fun id s hs => by
      cases (SocketTable.socket?_free settings.maxConnections id).symm.trans hs
    obtain ⟨hsound, hlabelled⟩ := BusyClient.sound_run
      (b := { client := ⟨settings, .free settings.maxConnections⟩ })
      (SocketTable.sound_free settings.maxConnections) hlabelled turns
    exact SocketKeeper.separated hsound fun _ => Client.delivers_handle hsound.apart hlabelled
  · intro s hstart turns
    obtain rfl := Server.start_eq_ok hstart
    have hsound := BusyServer.sound_run
      (b := { server := ⟨settings, .free settings.maxConnections⟩ })
      (SocketTable.sound_free settings.maxConnections) turns
    exact SocketKeeper.separated hsound (Server.delivers_handle hsound.apart)

/-- Settings with room for two sockets. -/
def twoPlaces : Settings := { maxConnections := 2 }

/-- A client whose places are taken, and a server that has closed the first of its two sockets. -/
theorem sockets_separated_twoPlaces :
    Client.start twoPlaces = .ok ⟨twoPlaces, .free 2⟩ ∧
      Server.start twoPlaces = .ok ⟨twoPlaces, .free 2⟩ ∧
      (let c := (BusyClient.run { client := ⟨twoPlaces, .free 2⟩ }
        [{ move := .openSocket 7 }, { move := .openSocket 9 }]).client
      (c.openSocket 9).map (fun r => (r.1, r.2.sockets)) = .error (.portInUse 9 1) ∧
        (c.openSocket 8).map (fun r => (r.1, r.2.sockets)) = .error (.noSlotAvailable 2)) ∧
      let s := (BusyServer.run { server := ⟨twoPlaces, .free 2⟩ }
        [{ move := .openSocket 7 }, { move := .openSocket 9 }, { move := .close 0 }]).server
      ∃ t, (s.openSocket 7).map (fun r => (r.1, r.2.sockets)) = .ok (0, t) := by
  have hclient : Client.start twoPlaces = .ok ⟨twoPlaces, .free 2⟩ := rfl
  have hserver : Server.start twoPlaces = .ok ⟨twoPlaces, .free 2⟩ := rfl
  obtain ⟨hclients, hservers⟩ := sockets_separated twoPlaces
  have hfull := hclients _ hclient [{ move := .openSocket 7 }, { move := .openSocket 9 }]
  have hfreed := hservers _ hserver
    [{ move := .openSocket 7 }, { move := .openSocket 9 }, { move := .close 0 }]
  refine ⟨hclient, hserver, ⟨?_, ?_⟩, _, ((hfreed.opens 7).ok_iff 0 _).2 ⟨?_, ?_, rfl, nofun, rfl⟩⟩
  · exact ((hfull.opens 9).portInUse_iff 1).2 ⟨⟨9, {}⟩, rfl, rfl⟩
  · refine (hfull.opens 8).noSlotAvailable_iff.2 ⟨fun id s hs => ?_, fun id hid => ?_⟩
    · have hmem : (id, s) ∈ [(0, ⟨7, {}⟩), (1, ⟨9, {}⟩)] := SocketTable.mem_sockets_iff.2 hs
      rcases List.mem_pair.1 hmem with hsocket | hsocket <;> cases hsocket <;> decide
    · match id, hid with
      | 0, _ => exact nofun
      | 1, _ => exact nofun
  · intro id s hs
    have hmem : (id, s) ∈ [(1, ⟨9, {}⟩)] := SocketTable.mem_sockets_iff.2 hs
    cases List.mem_singleton.1 hmem
    decide
  · decide

end OverlayStack.Transport
