import OverlayStack.Proofs.Transport.ReceiveRoom

/-!
# Who sends to a server

A server finds the socket that a segment is for by the port alone.  It records the node and the port
that have asked for a connection, but does not look at them when a segment arrives.  So, requests to
connect apart, a segment does the same whoever sends it, and only the answer goes elsewhere: who
knows the port of a socket can end its connection, and who also knows the next position can write
into its stream.

## Main definitions

* `Segment.sentFrom`, `Effect.redirect` — the segment of another sender, and answers to it.
* `ServerCommand.SameButSender` — commands that differ in the sender of a segment only.

## Main results

* `Server.handle_sentFrom`, `ServerHost.handle_sentFrom` — the sender only decides where the answer
  goes.
* `ServerHost.performAll_sameButSender` — the same for whole runs.
* `ServerHost.Reached.handle_anyone` — what anyone does to a connected socket.
* `ServerHost.intruder` — a stream that a stranger writes into and ends.
-/

namespace OverlayStack

/-- The segment as another port sends it. -/
def Segment.sentFrom (g : Segment) (port : UInt32) : Segment :=
  { g with sourcePort := port }

/-- The segment as it goes to another port. -/
def Segment.sentTo (g : Segment) (port : UInt32) : Segment :=
  { g with destPort := port }

/-- An answer goes to the port that has sent the segment. -/
theorem Segment.reply_sentFrom (g : Segment) (port : UInt32) (kind : SegmentKind) (ack : UInt32) :
    (g.sentFrom port).reply kind ack = (g.reply kind ack).sentTo port := rfl

namespace Transport

/-- The effect with everything sent to another node and port. -/
def Effect.redirect {σ ρ : Type} (e : Effect σ ρ) (node : NodeId) (port : UInt32) : Effect σ ρ :=
  { e with sent := e.sent.map fun m => (node, m.2.sentTo port) }

/-! ### One segment -/

namespace Server

/-- An answer that goes elsewhere. -/
theorem answer_redirect (s : Server) (id : SocketId) (source source' : NodeId) (reply : Segment)
    (port : UInt32) {refuse : Refusal Error} (hrefuse : ∀ n g g', refuse n g = refuse n g')
    (taken refused : ServerConnection) :
    s.answer id source' (reply.sentTo port) refuse taken refused =
      (s.answer id source reply refuse taken refused).redirect source' port := by
  unfold answer
  rw [hrefuse 0 (reply.sentTo port) reply]
  cases refuse 0 reply <;> rfl

/-- **The sender of a segment only decides where the answer goes**, unless the segment asks for a
connection. -/
theorem handle_sentFrom (s : Server) (source source' : NodeId) {g : Segment} (hk : g.kind ≠ .syn)
    (port : UInt32) (now : Nat) {refuse : Refusal Error}
    (hrefuse : ∀ n g g', refuse n g = refuse n g') :
    s.handle source' (g.sentFrom port) now refuse =
      (s.handle source g now refuse).redirect source' port := by
  unfold handle
  rw [show s.lookup (g.sentFrom port) = s.lookup g from rfl,
    show (g.sentFrom port).kind = g.kind from rfl]
  cases s.lookup g with
  | none => rfl
  | some found =>
    obtain ⟨id, socket⟩ := found
    dsimp only
    split
    · rfl
    · next hsyn => exact absurd hsyn hk
    · next hsyn => exact absurd hsyn hk
    · rw [Segment.reply_sentFrom, answer_redirect s id source source' _ port hrefuse]
    · rw [Segment.reply_sentFrom, answer_redirect s id source source' _ port hrefuse]
    · rw [Segment.reply_sentFrom, answer_redirect s id source source' _ port hrefuse]
      rfl
    · rfl

end Server

/-! ### Runs -/

/-- The second command is the first one, or tells of the same segment from another sender.  The
segment does not ask for a connection. -/
inductive ServerCommand.SameButSender : ServerCommand → ServerCommand → Prop where
  | refl (c : ServerCommand) : SameButSender c c
  | handle {g : Segment} (hk : g.kind ≠ .syn) (source source' : NodeId) (port : UInt32) :
    SameButSender (.handle source g) (.handle source' (g.sentFrom port))
  | arrive {g : Segment} (hk : g.kind ≠ .syn) (source source' : NodeId) (port : UInt32) :
    SameButSender (.arrive (some (source, g))) (.arrive (some (source', g.sentFrom port)))

namespace ServerHost

variable {settings : Settings} {h : ServerHost} {id : SocketId} {port : UInt32}
  {y : ServerConnection}

theorem handle_sentFrom (h : ServerHost) (source source' : NodeId) {g : Segment}
    (hk : g.kind ≠ .syn) (port : UInt32) :
    h.handle source' (g.sentFrom port) = (h.handle source g).redirect source' port := by
  unfold handle
  rw [h.server.handle_sentFrom source source' hk port h.now fun _ _ _ => rfl]
  simp only [Effect.redirect, List.length_map]

/-- A command that differs in a sender leaves the same host, which says the same. -/
theorem perform_sameButSender (h : ServerHost) {c c' : ServerCommand} (hc : c.SameButSender c') :
    (h.perform c').host = (h.perform c).host ∧ (h.perform c').reply = (h.perform c).reply ∧
      (h.perform c').returned = (h.perform c).returned := by
  cases hc with
  | refl => exact ⟨rfl, rfl, rfl⟩
  | @handle g hk source source' port =>
    rw [perform, perform, h.handle_sentFrom source source' hk port]
    dsimp only [Effect.redirect]
    cases (h.handle source g).result <;> exact ⟨rfl, rfl, rfl⟩
  | @arrive g hk source source' port =>
    rw [perform, perform, arrive, arrive, h.handle_sentFrom source source' hk port]
    by_cases hup : h.link.isUp = true
    · rw [if_pos hup, if_pos hup]
      exact ⟨rfl, rfl, rfl⟩
    · rw [if_neg hup, if_neg hup]
      exact ⟨rfl, rfl, rfl⟩

theorem step_sameButSender (h : ServerHost) {c c' : ServerCommand} (hc : c.SameButSender c') :
    (h.step c').host = (h.step c).host ∧ (h.step c').reply = (h.step c).reply ∧
      (h.step c').returned = (h.step c).returned := by
  obtain ⟨hhost, hreply, hreturned⟩ := h.perform_sameButSender hc
  rw [step, step, hhost, hreply, hreturned]
  exact ⟨rfl, rfl, rfl⟩

/-- **A run does not depend on the senders** of the segments, requests to connect apart. -/
theorem performAll_sameButSender {cs cs' : List ServerCommand}
    (hcs : List.Forall₂ ServerCommand.SameButSender cs cs') (h : ServerHost) :
    h.performAll cs' = h.performAll cs := by
  induction hcs generalizing h with
  | nil => rfl
  | cons hc _ ih =>
    obtain ⟨hhost, -, hreturned⟩ := h.step_sameButSender hc
    rw [performAll, performAll, hhost, hreturned, ih]

/-- A host that can be reached can go on. -/
theorem Reached.performAll (hreached : h.Reached settings) (cs : List ServerCommand) :
    (h.performAll cs).1.Reached settings := by
  induction cs generalizing h with
  | nil => exact hreached
  | cons c cs ih => exact ih (hreached.step c)

/-! ### Connected sockets -/

/-- The link takes a segment exactly if there is any that it takes. -/
theorem refusal_eq_none_iff (u : Uplink) (g : Segment) :
    u.refusal 0 g = none ↔ u.limit? ≠ some 0 := by
  unfold Uplink.refusal
  cases u.limit? with
  | none => exact ⟨nofun, fun _ => rfl⟩
  | some limit => cases limit <;> simp

/-- A request to disconnect ends the stream, unless the answer is refused. -/
theorem Regular.handle_fin (hr : h.Regular settings)
    (hsocket : h.server.sockets.socket? id = some ⟨port, y⟩) (hs : y.status = .connected)
    {g : Segment} (hk : g.kind = .fin) (hdest : g.destPort = port) (source : NodeId) :
    (h.handle source g).state.server =
      h.server.set id (if h.link.limit? = some 0 then y else y.leaving h.now) := by
  have hlookup : h.server.lookup g = some (id, ⟨port, y⟩) := by
    rw [Server.lookup, hdest]
    exact hr.apart.find?_port hsocket
  have htakes := refusal_eq_none_iff h.link (g.reply .finAck y.expected)
  rw [ServerHost.handle, Server.handle, hlookup]
  simp only [hs, hk]
  unfold Server.answer
  split
  · next htaken => rw [if_neg (htakes.1 htaken)]
  · next e hrefused =>
    have hlimit : h.link.limit? = some 0 := by
      by_contra hlimit
      rw [htakes.2 hlimit] at hrefused
      cases hrefused
    rw [if_pos hlimit]

/-- A piece of the stream changes nothing exactly if it is empty, not the next one, or has no
room. -/
theorem absorb_eq_self_iff (y : ServerConnection) (capacity : Nat) (g : Segment) :
    y.absorb capacity g = y ↔ ¬ (g.seq = y.expected ∧ g.payload ≠ [] ∧
      y.buffer.length + g.payload.length ≤ capacity) := by
  constructor
  · rintro habsorb ⟨hseq, hsome, hroom⟩
    rw [ServerConnection.absorb_of_room hseq hroom] at habsorb
    have hbuffer := congrArg ServerConnection.buffer habsorb
    exact hsome (List.append_right_eq_self.1 hbuffer)
  · intro hnot
    unfold ServerConnection.absorb ServerConnection.accepts
    split
    · next haccepts =>
      rw [Bool.and_eq_true, beq_iff_eq, decide_eq_true_iff] at haccepts
      have hnone : g.payload = [] := by
        by_contra hsome
        exact hnot ⟨haccepts.1, hsome, haccepts.2⟩
      rw [hnone, List.append_nil]
      simp
    · rfl

/-- **What anyone does to a connected socket.**  A segment from any node and port has the effect it
would have if the peer of the socket had sent it, but for where the answer goes.  The next piece of
the stream is put into the buffer, and a request to disconnect ends the stream.  The socket stays as
it is only if the piece is empty, not the next one, or has no room, and if the answer to the request
is refused. -/
theorem Reached.handle_anyone (hreached : h.Reached settings)
    (hsocket : h.server.sockets.socket? id = some ⟨port, y⟩) (hs : y.status = .connected)
    (source : NodeId) {g : Segment} (hdest : g.destPort = port) :
    (g.kind ≠ .syn → h.handle source g =
      (h.handle y.clientNode (g.sentFrom y.clientPort)).redirect source g.sourcePort) ∧
    (g.kind = .data →
      (h.handle source g).state.server =
        h.server.set id (y.absorb settings.receiveCapacity g) ∧
      (y.absorb settings.receiveCapacity g = y ↔
        ¬ (g.seq = y.expected ∧ g.payload ≠ [] ∧
          y.buffer.length + g.payload.length ≤ settings.receiveCapacity))) ∧
    (g.kind = .fin →
      (h.handle source g).state.server = h.server.set id
        (if h.link.limit? = some 0 then y
          else { y with status := .closeWait, closeWaitSince := some h.now })) := by
  have hr := hreached.sound.toRegular
  refine ⟨fun hk => ?_, fun hk => ⟨hr.handle_data hsocket hs hk hdest source, ?_⟩, fun hk => ?_⟩
  · exact h.handle_sentFrom y.clientNode source (g := g.sentFrom y.clientPort) hk g.sourcePort
  · exact absorb_eq_self_iff y _ g
  · rw [hr.handle_fin hsocket hs hk hdest source, ServerConnection.leaving, if_pos hs]

/-! ### A stream with an intruder -/

/-- A host whose one socket, at port 9, is connected to port 7 of node 1. -/
def linked : ServerHost :=
  (performAll { server := ⟨fiveBytes, .free 10⟩, link := { reason := "" } }
    [.openSocket 9, .accept 0, .handle 1 (Segment.synOf 7 9 0)]).1

theorem reached_linked : linked.Reached fiveBytes :=
  (Reached.start rfl _).performAll _

/-- The connection of that host. -/
def peered : ServerConnection :=
  { clientNode := 1, clientPort := 7, status := .connected, expected := 1 }

/-- Port 8 of node 3 asks to disconnect. -/
theorem handle_anyone_linked :
    linked.Reached fiveBytes ∧ linked.server.sockets.socket? 0 = some ⟨9, peered⟩ ∧
      peered.status = .connected ∧ (Segment.finOf 8 9 0).destPort = 9 ∧
      (linked.handle 3 (Segment.finOf 8 9 0)).state.server = linked.server.set 0
        { peered with status := .closeWait, closeWaitSince := some 0 } := by
  have hsocket : linked.server.sockets.socket? 0 = some ⟨9, peered⟩ := rfl
  obtain ⟨-, -, hfin⟩ := reached_linked.handle_anyone hsocket rfl 3
    (show (Segment.finOf 8 9 0).destPort = 9 from rfl)
  exact ⟨reached_linked, hsocket, rfl, rfl, hfin rfl⟩

/-- **A stream with an intruder.**  The socket is connected to port 7 of node 1.  Port 8 of node 3
writes a byte into its stream, or ends it. -/
theorem intruder :
    linked.Reached fiveBytes ∧ linked.server.sockets.socket? 0 = some ⟨9, peered⟩ ∧
      (linked.handle 3 (Segment.dataOf 8 9 1 [66])).state.server.sockets.socket? 0 =
        some ⟨9, { peered with buffer := [66], expected := 2 }⟩ ∧
      (linked.handle 3 (Segment.finOf 8 9 0)).state.server.sockets.socket? 0 =
        some ⟨9, { peered with status := .closeWait, closeWaitSince := some 0 }⟩ :=
  ⟨reached_linked, rfl, rfl, rfl⟩

end ServerHost

end Transport

end OverlayStack
