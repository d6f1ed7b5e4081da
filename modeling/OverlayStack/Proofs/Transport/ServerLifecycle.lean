import OverlayStack.Proofs.Transport.BusyServers

/-!
# The life of a server's socket

A socket of a server goes round: it is closed, it listens, it is connected, it waits after its
client has left, and it is closed again.  Each of these changes has one cause, and the loss of the
link closes it from anywhere.  The time at which the client has left is noted with the change, is
not moved by further requests to disconnect, and is forgotten when the socket is closed, which a
sweep does only when the client has left long enough ago.

## Main definitions

* `Status.Expects` — the segments that a socket answers.
* `ServerConnection.Regular` — the invariant of the connections of a server.
* `BusyServer.LeftAt` — when the client of a socket has left.
* `BusyServer.Changes` — the changes of a socket, with their causes.

## Main results

* `BusyServer.regular_run` — connections are regular after any turns.
* `BusyServer.leftAt_run` — the time that is noted is the one at which the client has left.
* `BusyServer.changes_step` — every change has one of the causes.
* `BusyServer.socket_lifecycle` — the life of a socket, and what it does with segments.
-/

namespace OverlayStack.Transport

/-- The segments that a socket answers. -/
def Status.Expects (status : Status) : SegmentKind → Prop
  | .syn => status = .listening ∨ status = .connected
  | .fin => status = .connected ∨ status = .closeWait
  | .data => status = .connected
  | _ => False

/-! ### One connection -/

namespace ServerConnection

variable {y : ServerConnection}

/-- The connections of a server: a time is noted exactly while a socket waits after its client has
left. -/
structure Regular (y : ServerConnection) : Prop where
  status_mem : y.status ∈ [.closed, .listening, .connected, .closeWait]
  stamped : y.closeWaitSince ≠ none ↔ y.status = .closeWait

theorem Regular.closeWaitSince_eq_none (h : y.Regular) (hs : y.status ≠ .closeWait) :
    y.closeWaitSince = none :=
  not_not.1 fun hsome => hs (h.stamped.1 hsome)

/-- Without a time, a connection is in one of the other states. -/
theorem Regular.of_none (hs : y.status ∈ [.closed, .listening, .connected])
    (hnone : y.closeWaitSince = none) : y.Regular := by
  simp only [List.mem_cons, List.not_mem_nil, or_false] at hs
  constructor
  · rcases hs with hs | hs | hs <;> simp [hs]
  · rcases hs with hs | hs | hs <;> simp [hs, hnone]

theorem regular_ended (y : ServerConnection) : y.ended.Regular :=
  .of_none (List.mem_cons_self ..) rfl

/-- Only the state and the time that is noted matter. -/
theorem Regular.congr (h : y.Regular) {z : ServerConnection} (hstatus : z.status = y.status)
    (hsince : z.closeWaitSince = y.closeWaitSince) : z.Regular where
  status_mem := hstatus ▸ h.status_mem
  stamped := by rw [hstatus, hsince, h.stamped]

theorem closeWaitSince_absorb (y : ServerConnection) (capacity : Nat) (g : Segment) :
    (y.absorb capacity g).closeWaitSince = y.closeWaitSince := by
  unfold absorb
  split <;> rfl

/-- The time is noted when the client leaves. -/
theorem leaving_of_connected (hs : y.status = .connected) (now : Nat) :
    y.leaving now = { y with status := .closeWait, closeWaitSince := some now } :=
  if_pos hs

/-- **Repeated requests to disconnect change nothing.** -/
theorem leaving_of_closeWait (hs : y.status = .closeWait) (now : Nat) : y.leaving now = y :=
  if_neg (by rw [hs]; decide)

/-- A socket does not answer exactly those segments that it does not expect. -/
theorem reaction_eq_none_iff {capacity now : Nat} {source : NodeId} {g : Segment} :
    y.reaction capacity source g now = none ↔ ¬ y.status.Expects g.kind := by
  unfold reaction
  cases y.status <;> cases g.kind <;> simp [Status.Expects]

theorem isExpired_eq_true {timeout now : Nat} (h : y.isExpired timeout now = true) :
    y.status = .closeWait ∧ ∃ since, y.closeWaitSince = some since ∧ timeout ≤ now - since := by
  unfold isExpired at h
  split at h
  · next since hs hsince => exact ⟨hs, since, hsince, of_decide_eq_true h⟩
  · cases h

end ServerConnection

namespace BusyServer

variable {b : BusyServer} {turns : List ServerTurn} {t : ServerTurn} {id : SocketId}
  {s : Socket ServerConnection}

/-! ### States and times -/

/-- **A turn keeps connections regular.** -/
theorem regular_step
    (h : ∀ s, b.server.sockets.socket? id = some s → s.state.Regular)
    (hs : (b.step t).1.server.sockets.socket? id = some s) : s.state.Regular := by
  cases socket?_step hs with
  | fresh => exact .of_none (List.mem_cons_self ..) rfl
  | kept hs₀ => exact h _ hs₀
  | listened hs₀ _ hclosed =>
    refine .of_none (by simp) ((h _ hs₀).closeWaitSince_eq_none ?_)
    rw [hclosed]
    decide
  | read hs₀ => exact (h _ hs₀).congr rfl rfl
  | answered hs₀ _ _ hr =>
    obtain ⟨-, -, rfl⟩ | ⟨hleaves, -, rfl⟩ | ⟨-, -, rfl⟩ := ServerConnection.reaction_cases hr
    · exact .of_none (by simp) rfl
    · rcases hleaves with hconnected | hwait
      · dsimp only
        rw [ServerConnection.leaving_of_connected hconnected]
        exact ⟨by simp, by simp⟩
      · dsimp only
        rw [ServerConnection.leaving_of_closeWait hwait]
        exact h _ hs₀
    · exact (h _ hs₀).congr (ServerConnection.status_absorb ..)
        (ServerConnection.closeWaitSince_absorb ..)
  | unanswered hs₀ hr =>
    obtain ⟨hopen, -, rfl⟩ | ⟨-, -, rfl⟩ | ⟨-, -, rfl⟩ := ServerConnection.reaction_cases hr
    · refine .of_none ?_ rfl
      rcases hopen with hopen | hopen <;> simp [ServerConnection.restarted, hopen]
    · exact h _ hs₀
    · exact (h _ hs₀).congr (ServerConnection.status_absorb ..)
        (ServerConnection.closeWaitSince_absorb ..)
  | expired => exact ServerConnection.regular_ended _
  | ended => exact ServerConnection.regular_ended _

theorem regular_run (h : ∀ s, b.server.sockets.socket? id = some s → s.state.Regular)
    (turns : List ServerTurn) :
    ∀ s, (b.run turns).server.sockets.socket? id = some s → s.state.Regular := by
  induction turns using List.reverseRecOn with
  | nil => exact h
  | append_singleton turns t ih =>
    intro s hs
    rw [run_concat] at hs
    exact regular_step ih hs

/-- The client of a socket has left at a time: in a turn at that time it asked to disconnect, which
was confirmed, and since then the socket has been waiting with that time. -/
def LeftAt (b : BusyServer) (turns : List ServerTurn) (id : SocketId) (since : Nat) : Prop :=
  ∃ before t after source g s, turns = before ++ t :: after ∧
    t.move = .handle source g ∧ g.kind = .fin ∧ t.now = since ∧
    (b.run before).server.sockets.socket? id = some s ∧ g.destPort = s.port ∧
    s.state.status = .connected ∧
    ((b.run before).step t).2 = [(source, g.reply .finAck s.state.expected)] ∧
    ∀ front, front <+: after → ∃ s', s'.state.status = .closeWait ∧
      s'.state.closeWaitSince = some since ∧
      (b.run (before ++ t :: front)).server.sockets.socket? id = some s'

/-- The time goes on to be the one at which the client has left while it is noted. -/
theorem LeftAt.concat {since : Nat} (h : b.LeftAt turns id since)
    (hs : ((b.run turns).step t).1.server.sockets.socket? id = some s)
    (hwait : s.state.status = .closeWait) (hsince : s.state.closeWaitSince = some since) :
    b.LeftAt (turns ++ [t]) id since := by
  obtain ⟨before, t', after, source, g, s₀, rfl, hmove, hk, hnow, hs₀, hport, hconnected, hsent,
    hfronts⟩ := h
  refine ⟨before, t', after ++ [t], source, g, s₀, by simp, hmove, hk, hnow, hs₀, hport, hconnected,
    hsent, fun front hfront => ?_⟩
  rcases List.prefix_concat_iff.1 hfront with rfl | hfront
  · refine ⟨s, hwait, hsince, ?_⟩
    rw [← List.cons_append, ← List.append_assoc, run_concat]
    exact hs
  · exact hfronts front hfront

/-- **The time that is noted** is the one at which the client has left. -/
theorem leftAt_run (h : ∀ s, b.server.sockets.socket? id = some s → s.state.closeWaitSince = none)
    (hregular : ∀ s, b.server.sockets.socket? id = some s → s.state.Regular)
    (turns : List ServerTurn) {since : Nat} :
    ∀ s, (b.run turns).server.sockets.socket? id = some s →
      s.state.closeWaitSince = some since → b.LeftAt turns id since := by
  induction turns using List.reverseRecOn with
  | nil =>
    intro s hs hsince
    cases (h s hs).symm.trans hsince
  | append_singleton turns t ih =>
    intro s hs hsince
    have hwait : s.state.status = .closeWait :=
      (regular_run hregular _ s hs).stamped.1 (hsince ▸ nofun)
    have hbefore := regular_run hregular turns
    rw [run_concat] at hs
    -- a socket that has had the time before
    have hkept : ∀ s₀, (b.run turns).server.sockets.socket? id = some s₀ →
        s₀.state.closeWaitSince = some since → b.LeftAt (turns ++ [t]) id since :=
      fun s₀ hs₀ hsince₀ => (ih s₀ hs₀ hsince₀).concat hs hwait hsince
    cases socket?_step hs with
    | fresh => cases hsince
    | kept hs₀ => exact hkept s hs₀ hsince
    | listened => cases hwait
    | read hs₀ => exact hkept _ hs₀ hsince
    | @answered s₀ source g _ hs₀ hmove hport hr hsent =>
      obtain ⟨-, -, rfl⟩ | ⟨hleaves, hk, rfl⟩ | ⟨hconnected, -, rfl⟩ :=
        ServerConnection.reaction_cases hr
      · cases hwait
      · rcases hleaves with hconnected | hwaited
        · -- the client leaves in this turn
          dsimp only at hs hwait hsince
          have hnow := hsince
          rw [ServerConnection.leaving_of_connected hconnected] at hnow
          refine ⟨turns, t, [], source, g, s₀, rfl, hmove, hk, Option.some.inj hnow, hs₀, hport,
            hconnected, hsent, fun front hfront => ?_⟩
          rw [List.prefix_nil.1 hfront, run_concat]
          exact ⟨_, hwait, hsince, hs⟩
        · dsimp only at hsince
          rw [ServerConnection.leaving_of_closeWait hwaited] at hsince
          exact hkept _ hs₀ hsince
      · dsimp only at hwait
        rw [ServerConnection.status_absorb, hconnected] at hwait
        cases hwait
    | unanswered hs₀ hr =>
      obtain ⟨-, -, rfl⟩ | ⟨-, -, rfl⟩ | ⟨hconnected, -, rfl⟩ := ServerConnection.reaction_cases hr
      · cases hsince
      · exact hkept _ hs₀ hsince
      · dsimp only at hwait
        rw [ServerConnection.status_absorb, hconnected] at hwait
        cases hwait
    | expired => cases hsince
    | ended => cases hsince

/-! ### Changes -/

/-- The changes of the state of a socket after some turns, with their causes. -/
inductive Changes (b : BusyServer) (turns : List ServerTurn) (t : ServerTurn) (id : SocketId)
    (s : Socket ServerConnection) : Status → Prop where
  /-- A call begins to wait for a client. -/
  | listens (hs : s.state.status = .closed) (hmove : t.move = .accept id) :
      Changes b turns t id s .listening
  /-- A request to connect was granted, and the link has taken the answer. -/
  | connects {source : NodeId} {g : Segment} (hs : s.state.status = .listening)
      (hmove : t.move = .handle source g) (hport : g.destPort = s.port) (hk : g.kind = .syn)
      (hsent : ((b.run turns).step t).2 = [(source, g.reply .synAck (g.seq + 1))]) :
      Changes b turns t id s .connected
  /-- A request to disconnect was confirmed, and the link has taken the answer. -/
  | leaves {source : NodeId} {g : Segment} (hs : s.state.status = .connected)
      (hmove : t.move = .handle source g) (hport : g.destPort = s.port) (hk : g.kind = .fin)
      (hsent : ((b.run turns).step t).2 = [(source, g.reply .finAck s.state.expected)]) :
      Changes b turns t id s .closeWait
  /-- A sweep finds that the client has left long enough ago. -/
  | expires {since : Nat} (hs : s.state.status = .closeWait) (hmove : t.move = .sweep)
      (hleft : b.LeftAt turns id since) (hlong : b.server.settings.closeWait ≤ t.now - since) :
      Changes b turns t id s .closed
  /-- The link is lost. -/
  | lost (hmove : t.move = .linkLost) : Changes b turns t id s .closed

/-- **Every change has one of the causes**, and a socket that goes on to wait keeps its time. -/
theorem changes_step (hbefore : (b.run turns).server.sockets.socket? id = some s)
    (hregular : s.state.Regular)
    (hleft : ∀ since, s.state.closeWaitSince = some since → b.LeftAt turns id since)
    {s' : Socket ServerConnection}
    (hs : ((b.run turns).step t).1.server.sockets.socket? id = some s') :
    s'.port = s.port ∧
      (s'.state.status = s.state.status ∧ s'.state.closeWaitSince = s.state.closeWaitSince ∨
        b.Changes turns t id s s'.state.status) := by
  have hsame : ∀ {s₀}, (b.run turns).server.sockets.socket? id = some s₀ → s₀ = s :=
    fun hs₀ => Option.some.inj (hs₀.symm.trans hbefore)
  have hsince : s.state.status ≠ .closeWait → s.state.closeWaitSince = none :=
    hregular.closeWaitSince_eq_none
  cases socket?_step hs with
  | fresh hfree => cases hbefore.symm.trans hfree
  | kept hs₀ =>
    obtain rfl := hsame hs₀
    exact ⟨rfl, .inl ⟨rfl, rfl⟩⟩
  | listened hs₀ hmove hclosed =>
    obtain rfl := hsame hs₀
    exact ⟨rfl, .inr (.listens hclosed hmove)⟩
  | read hs₀ =>
    obtain rfl := hsame hs₀
    exact ⟨rfl, .inl ⟨rfl, rfl⟩⟩
  | answered hs₀ hmove hport hr hsent =>
    obtain rfl := hsame hs₀
    refine ⟨rfl, ?_⟩
    obtain ⟨hopen, hk, rfl⟩ | ⟨hleaves, hk, rfl⟩ | ⟨hconnected, -, rfl⟩ :=
      ServerConnection.reaction_cases hr
    · rcases hopen with hlistening | hconnected
      · exact .inr (.connects hlistening hmove hport hk hsent)
      · refine .inl ⟨hconnected.symm, (hsince ?_).symm⟩
        rw [hconnected]
        decide
    · rcases hleaves with hconnected | hwait
      · right
        dsimp only
        rw [ServerConnection.leaving_of_connected hconnected]
        exact .leaves hconnected hmove hport hk hsent
      · left
        dsimp only
        rw [ServerConnection.leaving_of_closeWait hwait]
        exact ⟨rfl, rfl⟩
    · exact .inl ⟨ServerConnection.status_absorb .., ServerConnection.closeWaitSince_absorb ..⟩
  | unanswered hs₀ hr =>
    obtain rfl := hsame hs₀
    refine ⟨rfl, .inl ?_⟩
    obtain ⟨hopen, -, rfl⟩ | ⟨-, -, rfl⟩ | ⟨-, -, rfl⟩ := ServerConnection.reaction_cases hr
    · refine ⟨rfl, (hsince ?_).symm⟩
      rcases hopen with hopen | hopen <;> simp [hopen]
    · exact ⟨rfl, rfl⟩
    · exact ⟨ServerConnection.status_absorb .., ServerConnection.closeWaitSince_absorb ..⟩
  | expired hs₀ hmove hlong =>
    obtain rfl := hsame hs₀
    obtain ⟨hwait, since, hsome, hlong⟩ := ServerConnection.isExpired_eq_true hlong
    rw [settings_run] at hlong
    exact ⟨rfl, .inr (.expires hwait hmove (hleft since hsome) hlong)⟩
  | ended hs₀ hmove =>
    obtain rfl := hsame hs₀
    exact ⟨rfl, .inr (.lost hmove)⟩

end BusyServer

/-! ### Segments that are not expected -/

/-- **A segment that a socket does not expect** changes nothing and is not answered. -/
theorem Server.handle_of_not_expects {s : Server} {id : SocketId}
    {socket : Socket ServerConnection} {g : Segment} (hapart : s.sockets.Apart)
    (hsocket : s.sockets.socket? id = some socket) (hport : g.destPort = socket.port)
    (hnot : ¬ socket.state.status.Expects g.kind) (source : NodeId) (now : Nat)
    (refuse : Refusal Error) :
    s.handle source g now refuse = ⟨s, [], silence socket g⟩ := by
  rw [handle_eq (lookup_of_port hapart hsocket hport),
    ServerConnection.reaction_eq_none_iff.2 hnot]
  rfl

namespace BusyServer

/-! ### The life of a socket -/

/-- **The life of a socket of a server.**  After any turns, a socket is closed, listens, is
connected, or waits after its client has left, and exactly in the last state a time is noted.  In
the next turn a socket is new and closed, or it stays in its state and keeps the time, or its state
changes for one of the causes: a call begins to wait for a client; a request to connect or to
disconnect was answered; a sweep comes long enough after the time at which the client has left; the
link is lost.  A closed socket ignores all segments, and a segment that a socket in another state
does not expect is reported; both change nothing and are not answered. -/
theorem socket_lifecycle {settings : Settings} {server : Server}
    (hstart : Server.start settings = .ok server) (turns : List ServerTurn) (id : SocketId) :
    (∀ s, (run { server } turns).server.sockets.socket? id = some s →
      s.state.status ∈ [.closed, .listening, .connected, .closeWait] ∧
      (s.state.closeWaitSince ≠ none ↔ s.state.status = .closeWait)) ∧
    (∀ t s', ((run { server } turns).step t).1.server.sockets.socket? id = some s' →
      (run { server } turns).server.sockets.socket? id = none ∧ s'.state.status = .closed ∨
      ∃ s, (run { server } turns).server.sockets.socket? id = some s ∧ s'.port = s.port ∧
        (s'.state.status = s.state.status ∧ s'.state.closeWaitSince = s.state.closeWaitSince ∨
          Changes { server } turns t id s s'.state.status)) ∧
    ∀ s, (run { server } turns).server.sockets.socket? id = some s →
      ∀ source g now refuse, g.destPort = s.port →
        (s.state.status = .closed →
          (run { server } turns).server.handle source g now refuse =
            ⟨(run { server } turns).server, [], .ok ()⟩) ∧
        (s.state.status ≠ .closed → ¬ s.state.status.Expects g.kind →
          (run { server } turns).server.handle source g now refuse =
            ⟨(run { server } turns).server, [],
              .error (.protocolViolation s.port s.state.status g.kind)⟩) := by
  obtain rfl := Server.start_eq_ok hstart
  have hnone : ∀ s, (SocketTable.free settings.maxConnections :
      SocketTable ServerConnection).socket? id ≠ some s := fun s hs => by
    rw [SocketTable.socket?_free] at hs
    cases hs
  have hregular :=
    regular_run (b := ⟨⟨settings, .free _⟩, []⟩) (fun s hs => absurd hs (hnone s)) turns
  refine ⟨fun s hs => ⟨(hregular s hs).status_mem, (hregular s hs).stamped⟩, fun t s' hs' => ?_,
    fun s hs source g now refuse hport => ?_⟩
  · cases hs : (run ⟨⟨settings, .free _⟩, []⟩ turns).server.sockets.socket? id with
    | none =>
      cases socket?_step hs' with
      | fresh => exact .inl ⟨rfl, rfl⟩
      | kept hs₀ | listened hs₀ | read hs₀ | answered hs₀ | unanswered hs₀ | expired hs₀
      | ended hs₀ => cases hs.symm.trans hs₀
    | some s =>
      refine .inr ⟨s, rfl, changes_step hs (hregular s hs) (fun since hsince => ?_) hs'⟩
      exact leftAt_run (fun s hs => absurd hs (hnone s)) (fun s hs => absurd hs (hnone s))
        turns s hs hsince
  · have hapart := apart_run (b := ⟨⟨settings, .free _⟩, []⟩)
      (SocketTable.apart_free settings.maxConnections) turns
    have hhandle := Server.handle_of_not_expects hapart hs hport
    refine ⟨fun hclosed => ?_, fun hopen hnot => ?_⟩
    · have hnot : ¬ s.state.status.Expects g.kind := by
        rw [hclosed]
        cases g.kind <;> simp [Status.Expects]
      rw [hhandle hnot source now refuse, Server.silence, if_pos hclosed]
    · rw [hhandle hnot source now refuse, Server.silence, if_neg hopen]

/-- Port 9 of a server is connected to port 7 of node 1, which leaves after five milliseconds, and
asks once more because the confirmation was late. -/
def departure : List ServerTurn :=
  [{ move := .openSocket 9 }, { move := .accept 0 },
    { move := .handle 1 (Segment.synOf 7 9 0), now := 1 },
    { move := .handle 1 (Segment.finOf 7 9 1), now := 5 },
    { move := .handle 1 (Segment.finOf 7 9 1), now := 105 }]

/-- A sweep after one second closes the socket. -/
theorem socket_lifecycle_departure :
    Server.start {} = .ok ⟨{}, .free 10⟩ ∧ ∃ s,
      (run ⟨⟨{}, .free 10⟩, []⟩ departure).server.sockets.socket? 0 = some s ∧
      s.state.status = .closeWait ∧ s.state.closeWaitSince = some 5 ∧
      Changes ⟨⟨{}, .free 10⟩, []⟩ departure { move := .sweep, now := 1005 } 0 s .closed := by
  obtain ⟨-, hchanges, -⟩ :=
    socket_lifecycle (show Server.start {} = .ok ⟨{}, .free 10⟩ from rfl) departure 0
  let swept := ((run ⟨⟨{}, .free 10⟩, []⟩ departure).step { move := .sweep, now := 1005 }).1
  have hbefore : ((run ⟨⟨{}, .free 10⟩, []⟩ departure).server.sockets.socket? 0).map (fun s =>
      (s.state.status, s.state.closeWaitSince)) = some (.closeWait, some 5) := by decide +kernel
  have hafter : (swept.server.sockets.socket? 0).map (·.state.status) = some .closed := by
    decide +kernel
  obtain ⟨s', hs', hclosed⟩ := Option.map_eq_some_iff.1 hafter
  obtain ⟨s, hs, heq⟩ := Option.map_eq_some_iff.1 hbefore
  simp only [Prod.mk.injEq] at heq
  refine ⟨rfl, s, hs, heq.1, heq.2, ?_⟩
  rcases hchanges _ s' hs' with ⟨hnone, -⟩ | ⟨s₀, hs₀, -, ⟨hsame, -⟩ | hchange⟩
  · cases hs.symm.trans hnone
  · obtain rfl := Option.some.inj (hs.symm.trans hs₀)
    cases heq.1.symm.trans (hsame.symm.trans hclosed)
  · obtain rfl := Option.some.inj (hs.symm.trans hs₀)
    rwa [hclosed] at hchange

end BusyServer

end OverlayStack.Transport
