import OverlayStack.Proofs.Transport.SoleSocket
import OverlayStack.Transport.ServerHost

/-!
# Hosts that can be reached

What holds of a server and its waiting calls after any commands.  No two sockets have the same port,
so that a segment finds the socket that it is meant for.  Calls are looked at after every command,
so that the calls that are left really have to wait.

## Main definitions

* `SocketTable.Apart` — no two sockets have the same port.
* `Server.Keeps` — what all operations of a server but the opening of a socket leave alone.
* `ServerHost.Reached` — the hosts that can be reached from the start.
* `ServerHost.Sound` — the invariant of hosts.

## Main results

* `SocketTable.Apart.find?_port` — a port finds its socket.
* `ServerHost.pollEach_spec` — what is left when calls were looked at.
* `ServerHost.Reached.sound` — the invariant holds of all hosts that can be reached.
-/

namespace OverlayStack.Transport

universe u

/-! ### Ports -/

namespace SocketTable

variable {σ : Type u} {t t' : SocketTable σ} {id : SocketId}

/-- No two sockets have the same port. -/
def Apart (t : SocketTable σ) : Prop :=
  ∀ i j a b, t.socket? i = some a → t.socket? j = some b → a.port = b.port → i = j

/-- Every socket of the second table is at the same place in the first one, with the same port. -/
def SamePorts (t t' : SocketTable σ) : Prop :=
  ∀ i s', t'.socket? i = some s' → ∃ s, t.socket? i = some s ∧ s.port = s'.port

theorem SamePorts.refl (t : SocketTable σ) : t.SamePorts t :=
  fun _ s h => ⟨s, h, rfl⟩

theorem SamePorts.trans {t'' : SocketTable σ} (h : t.SamePorts t') (h' : t'.SamePorts t'') :
    t.SamePorts t'' := by
  intro i s'' hs''
  obtain ⟨s', hs', hport'⟩ := h' i s'' hs''
  obtain ⟨s, hs, hport⟩ := h i s' hs'
  exact ⟨s, hs, hport.trans hport'⟩

theorem samePorts_set (t : SocketTable σ) (id : SocketId) (x : σ) : t.SamePorts (t.set id x) := by
  intro i s' hs'
  rw [socket?_set] at hs'
  split at hs'
  · obtain ⟨s, hs, rfl⟩ := Option.map_eq_some_iff.1 hs'
    exact ⟨s, hs, rfl⟩
  · exact ⟨s', hs', rfl⟩

theorem samePorts_map (t : SocketTable σ) (f : σ → σ) : t.SamePorts (t.map f) := by
  intro i s' hs'
  rw [socket?_map] at hs'
  obtain ⟨s, hs, rfl⟩ := Option.map_eq_some_iff.1 hs'
  exact ⟨s, hs, rfl⟩

theorem samePorts_close (t : SocketTable σ) (id : SocketId) : t.SamePorts (t.close id) := by
  intro i s' hs'
  rw [close, socket?, List.getElem?_set] at hs'
  split at hs'
  · split at hs' <;> cases hs'
  · exact ⟨s', hs', rfl⟩

theorem Apart.of_samePorts (h : t.Apart) (hports : t.SamePorts t') : t'.Apart := by
  intro i j a' b' ha' hb' hport
  obtain ⟨a, ha, hpa⟩ := hports i a' ha'
  obtain ⟨b, hb, hpb⟩ := hports j b' hb'
  exact h i j a b ha hb (hpa.trans (hport.trans hpb.symm))

theorem socket?_free (slots : Nat) (id : SocketId) :
    (free slots : SocketTable σ).socket? id = none := by
  rw [free, socket?, List.getElem?_replicate]
  split <;> rfl

theorem apart_free (slots : Nat) : (free slots : SocketTable σ).Apart := by
  intro i j a b ha
  cases (socket?_free slots i).symm.trans ha

/-- A socket is only opened with a port that no other socket has. -/
theorem Apart.openSocket (h : t.Apart) {port : UInt32} {start : σ}
    (hopen : t.openSocket port start = .ok (id, t')) : t'.Apart := by
  unfold SocketTable.openSocket at hopen
  split at hopen
  · cases hopen
  · next hnone =>
    have hfree : ∀ i s, t.socket? i = some s → s.port ≠ port := by
      intro i s hs hport
      have := List.find?_eq_none.1 hnone (i, s) (mem_sockets_iff.2 hs)
      exact this (beq_iff_eq.2 hport)
    split at hopen
    · cases hopen
    · next place hplace =>
      cases hopen
      obtain ⟨hlt, -⟩ := List.findIdx?_eq_some_iff_getElem.1 hplace
      have hsocket : ∀ i s, SocketTable.socket? ⟨t.slots.set id (some ⟨port, start⟩)⟩ i = some s →
          i = id ∧ s.port = port ∨ i ≠ id ∧ t.socket? i = some s := by
        intro i s hs
        rw [socket?, List.getElem?_set] at hs
        by_cases hi : id = i
        · rw [if_pos hi, if_pos (hi ▸ hlt)] at hs
          obtain rfl := Option.some.inj hs
          exact .inl ⟨hi.symm, rfl⟩
        · rw [if_neg hi] at hs
          exact .inr ⟨Ne.symm hi, hs⟩
      intro i j a b ha hb hport
      rcases hsocket i a ha with ⟨hi, hpa⟩ | ⟨-, ha'⟩
      · rcases hsocket j b hb with ⟨hj, -⟩ | ⟨-, hb'⟩
        · rw [hi, hj]
        · exact absurd (hport.symm.trans hpa) (hfree j b hb')
      · rcases hsocket j b hb with ⟨-, hpb⟩ | ⟨-, hb'⟩
        · exact absurd (hport.trans hpb) (hfree i a ha')
        · exact h i j a b ha' hb' hport

/-- The port of a socket finds that socket. -/
theorem Apart.find?_port (h : t.Apart) {s : Socket σ} (hs : t.socket? id = some s) :
    (t.find? fun s' => s'.port == s.port) = some (id, s) := by
  have hmem := mem_sockets_iff.2 hs
  rw [find?]
  cases hfound : t.sockets.find? fun e => e.2.port == s.port with
  | none => exact absurd (beq_self_eq_true s.port) (List.find?_eq_none.1 hfound (id, s) hmem)
  | some e =>
    obtain ⟨j, s'⟩ := e
    have htest := List.find?_some hfound
    have hport : s'.port = s.port := beq_iff_eq.1 htest
    have hs' := mem_sockets_iff.1 (List.mem_of_find?_eq_some hfound)
    obtain rfl := h j id s' s hs' hs hport
    rw [Option.some.inj (hs'.symm.trans hs)]

/-- Setting the state that a socket has changes nothing. -/
theorem set_self {s : Socket σ} (hs : t.socket? id = some s) : t.set id s.state = t := by
  obtain ⟨slots⟩ := t
  rw [set]
  congr 1
  apply List.ext_getElem?
  intro j
  rw [List.getElem?_modify]
  by_cases hj : id = j
  · subst hj
    rw [socket?, Option.join_eq_some_iff] at hs
    dsimp only at hs
    rw [hs]
    simp
  · simp only [hj, if_false]
    cases slots[j]? <;> rfl

/-- An operation on a socket only succeeds if there is one. -/
theorem require_bind_eq_ok {ρ : Type u} {f : Socket σ → Except Error ρ} {result : ρ}
    (h : (t.require id >>= f) = .ok result) :
    ∃ socket, t.socket? id = some socket ∧ f socket = .ok result := by
  unfold require at h
  cases hsocket : t.socket? id with
  | none =>
    rw [hsocket] at h
    cases h
  | some socket =>
    rw [hsocket] at h
    exact ⟨socket, rfl, h⟩

end SocketTable

/-! ### Operations of a server -/

namespace Server

/-- The settings stay and no socket gets another port. -/
structure Keeps (s s' : Server) : Prop where
  settings_eq : s'.settings = s.settings
  samePorts : s.sockets.SamePorts s'.sockets

variable {s s' : Server}

theorem Keeps.refl (s : Server) : s.Keeps s :=
  ⟨rfl, .refl _⟩

theorem Keeps.trans {s'' : Server} (h : s.Keeps s') (h' : s'.Keeps s'') : s.Keeps s'' :=
  ⟨h'.settings_eq.trans h.settings_eq, h.samePorts.trans h'.samePorts⟩

theorem keeps_set (s : Server) (id : SocketId) (x : ServerConnection) : s.Keeps (s.set id x) :=
  ⟨rfl, SocketTable.samePorts_set _ _ _⟩

theorem keeps_sweep (s : Server) (now : Nat) : s.Keeps (s.sweep now) :=
  ⟨rfl, SocketTable.samePorts_map _ _⟩

theorem keeps_linkLost (s : Server) : s.Keeps s.linkLost :=
  ⟨rfl, SocketTable.samePorts_map _ _⟩

theorem keeps_answer (s : Server) (id : SocketId) (source : NodeId) (reply : Segment)
    (refuse : Refusal Error) (taken refused : ServerConnection) :
    s.Keeps (s.answer id source reply refuse taken refused).state := by
  unfold answer
  split
  · exact s.keeps_set id taken
  · exact s.keeps_set id refused

theorem keeps_handle (s : Server) (source : NodeId) (g : Segment) (now : Nat)
    (refuse : Refusal Error) : s.Keeps (s.handle source g now refuse).state := by
  unfold handle
  split
  · exact .refl s
  · dsimp only
    split <;> first | exact .refl s | exact s.keeps_answer _ _ _ _ _ _

theorem keeps_close {id : SocketId} (h : s.close id = .ok s') : s.Keeps s' := by
  unfold close at h
  obtain ⟨socket, -, h⟩ := SocketTable.require_bind_eq_ok h
  dsimp only at h
  split at h
  · cases h
    exact ⟨rfl, SocketTable.samePorts_close _ _⟩
  · cases h

theorem keeps_listen {id : SocketId} {call : ServerCall} (h : s.listen id = .ok (s', call)) :
    s.Keeps s' ∧ call = .accept id := by
  unfold listen at h
  obtain ⟨socket, -, h⟩ := SocketTable.require_bind_eq_ok h
  split at h
  · cases h
    exact ⟨s.keeps_set id _, rfl⟩
  · cases h

/-- No call waits for more bytes than a socket holds. -/
theorem receive_eq_ok {id : SocketId} {length : Nat} {call : ServerCall}
    (h : s.receive id length = .ok call) :
    call = .receive id length ∧ length ≤ s.settings.receiveCapacity := by
  unfold receive at h
  obtain ⟨socket, -, h⟩ := SocketTable.require_bind_eq_ok h
  split at h
  · cases h
  · next hle =>
    split at h
    · cases h
      exact ⟨rfl, Nat.not_lt.1 hle⟩
    · cases h

/-! ### Looking at a call -/

/-- The state of a socket, or of a new one if there is none at the place. -/
def stateAt (s : Server) (id : SocketId) : ServerConnection :=
  ((s.sockets.socket? id).map (·.state)).getD {}

theorem stateAt_eq {id : SocketId} {socket : Socket ServerConnection}
    (h : s.sockets.socket? id = some socket) : s.stateAt id = socket.state := by
  rw [stateAt, h]
  rfl

/-- Taking bytes from the front of a buffer changes no other state. -/
theorem stateAt_set_drop (s : Server) (id : SocketId) (n : Nat) (j : SocketId) :
    (s.set id { s.stateAt id with buffer := (s.stateAt id).buffer.drop n }).stateAt j =
      if j = id then { s.stateAt id with buffer := (s.stateAt id).buffer.drop n }
      else s.stateAt j := by
  rw [stateAt, set, SocketTable.socket?_set]
  by_cases hj : j = id
  · subst hj
    rw [if_pos rfl, if_pos rfl]
    cases hsocket : s.sockets.socket? j with
    | none => simp [stateAt, hsocket]
    | some socket => rfl
  · rw [if_neg hj, if_neg hj, stateAt]

theorem poll_receive (s : Server) (id : SocketId) (length : Nat) :
    s.poll (.receive id length) =
      if length ≤ (s.stateAt id).buffer.length then
        some (s.set id { s.stateAt id with buffer := (s.stateAt id).buffer.drop length },
          .ok (.received ((s.stateAt id).buffer.take length)))
      else if (s.stateAt id).status = .connected then none
      else some (s, .error (.connectionLost id (s.stateAt id).status)) := rfl

theorem poll_accept (s : Server) (id : SocketId) :
    s.poll (.accept id) =
      if (s.stateAt id).status = .listening then none
      else if (s.stateAt id).status = .closed then
        some (s, .error (.connectionLost id (s.stateAt id).status))
      else some (s, .ok (.accepted (s.stateAt id).clientNode (s.stateAt id).clientPort)) := rfl

theorem poll_accept_eq_none_iff {id : SocketId} :
    s.poll (.accept id) = none ↔ (s.stateAt id).status = .listening := by
  rw [poll_accept]
  split
  · next hs => exact ⟨fun _ => hs, fun _ => rfl⟩
  · next hs =>
    split <;> exact ⟨nofun, fun h => absurd h hs⟩

/-- A call waits for bytes exactly if there are too few and more can come. -/
theorem poll_receive_eq_none_iff {id : SocketId} {length : Nat} :
    s.poll (.receive id length) = none ↔
      (s.stateAt id).buffer.length < length ∧ (s.stateAt id).status = .connected := by
  rw [poll_receive]
  split
  · next hle => exact ⟨nofun, fun h => absurd hle (Nat.not_le.2 h.1)⟩
  · next hlt =>
    split
    · next hs => exact ⟨fun _ => ⟨Nat.not_le.1 hlt, hs⟩, fun _ => rfl⟩
    · next hs => exact ⟨nofun, fun h => absurd h.2 hs⟩

/-- A call that returns at most takes bytes from the front of a buffer. -/
theorem poll_eq_some {call : ServerCall} {r : Except Error ServerAnswer}
    (h : s.poll call = some (s', r)) :
    s' = s ∨ ∃ id n, s' = s.set id
      { s.stateAt id with buffer := (s.stateAt id).buffer.drop n } := by
  cases call with
  | accept id =>
    rw [poll_accept] at h
    split at h
    · cases h
    · split at h
      · cases h
        exact .inl rfl
      · cases h
        exact .inl rfl
  | receive id length =>
    rw [poll_receive] at h
    split at h
    · cases h
      exact .inr ⟨id, length, rfl⟩
    · split at h
      · cases h
      · cases h
        exact .inl rfl

theorem keeps_poll {call : ServerCall} {r : Except Error ServerAnswer}
    (h : s.poll call = some (s', r)) : s.Keeps s' := by
  rcases poll_eq_some h with rfl | ⟨id, n, rfl⟩
  · exact .refl _
  · exact s.keeps_set id _

/-- A call that waits goes on waiting when another one returns. -/
theorem poll_eq_none_of_poll {call call' : ServerCall} {r : Except Error ServerAnswer}
    (h : s.poll call = none) (h' : s.poll call' = some (s', r)) : s'.poll call = none := by
  rcases poll_eq_some h' with rfl | ⟨id, n, rfl⟩
  · exact h
  · cases call with
    | accept j =>
      rw [poll_accept_eq_none_iff] at *
      rw [stateAt_set_drop]
      by_cases hj : j = id
      · subst hj
        rw [if_pos rfl]
        exact h
      · rw [if_neg hj]
        exact h
    | receive j length =>
      rw [poll_receive_eq_none_iff] at *
      rw [stateAt_set_drop]
      by_cases hj : j = id
      · subst hj
        rw [if_pos rfl]
        refine ⟨?_, h.2⟩
        rw [List.length_drop]
        omega
      · rw [if_neg hj]
        exact h

end Server

/-! ### Hosts -/

namespace ServerHost

/-- The hosts that can be reached with valid settings, when commands are performed and time
passes. -/
inductive Reached (settings : Settings) : ServerHost → Prop where
  | start {s : Server} (hstart : Server.start settings = .ok s) (link : Uplink) :
      Reached settings { server := s, link }
  | step {h : ServerHost} (hreached : Reached settings h) (c : ServerCommand) :
      Reached settings (h.step c).host
  | wait {h : ServerHost} (hreached : Reached settings h) {now : Nat} (hle : h.now ≤ now) :
      Reached settings { h with now }

/-- Sockets have their own ports, and calls wait for no more bytes than a socket holds. -/
structure Regular (settings : Settings) (h : ServerHost) : Prop where
  settings_eq : h.server.settings = settings
  apart : h.server.sockets.Apart
  admitted : ∀ number id length, (number, .receive id length) ∈ h.calls →
    length ≤ settings.receiveCapacity

/-- The host is regular, and no call can return. -/
structure Sound (settings : Settings) (h : ServerHost) : Prop extends Regular settings h where
  waits : ∀ call ∈ h.calls, h.server.poll call.2 = none

variable {settings : Settings} {h h' : ServerHost}

theorem Regular.of_keeps (hr : h.Regular settings) (hkeeps : h.server.Keeps h'.server)
    (hcalls : h'.calls ⊆ h.calls) : h'.Regular settings where
  settings_eq := hkeeps.settings_eq.trans hr.settings_eq
  apart := hr.apart.of_samePorts hkeeps.samePorts
  admitted := fun number id length hmem => hr.admitted number id length (hcalls hmem)

/-- When calls were looked at, those that are left have to wait. -/
theorem pollEach_spec (calls : List (Nat × ServerCall)) :
    ∀ h : ServerHost, h.server.Keeps (h.pollEach calls).1.server ∧
      (h.pollEach calls).1.calls ⊆ calls ∧
      (∀ call, h.server.poll call = none → (h.pollEach calls).1.server.poll call = none) ∧
      ∀ call ∈ (h.pollEach calls).1.calls, (h.pollEach calls).1.server.poll call.2 = none := by
  induction calls with
  | nil => exact fun h => ⟨.refl _, List.Subset.refl _, fun _ hwait => hwait, nofun⟩
  | cons entry calls ih =>
    obtain ⟨number, call⟩ := entry
    intro h
    rw [pollEach]
    cases hpoll : h.server.poll call with
    | none =>
      obtain ⟨hkeeps, hsub, hwait, hwaits⟩ := ih h
      refine ⟨hkeeps, ?_, hwait, ?_⟩
      · exact List.cons_subset_cons _ hsub
      · intro call' hmem
        rcases List.mem_cons.1 hmem with rfl | hmem
        · exact hwait _ hpoll
        · exact hwaits call' hmem
    | some result =>
      obtain ⟨server, result⟩ := result
      obtain ⟨hkeeps, hsub, hwait, hwaits⟩ := ih { h with server }
      refine ⟨(Server.keeps_poll hpoll).trans hkeeps, ?_, ?_, hwaits⟩
      · exact List.subset_cons_of_subset _ hsub
      · intro call' hwait'
        exact hwait call' (Server.poll_eq_none_of_poll hwait' hpoll)

/-- Calls that have to wait are all kept. -/
theorem pollEach_eq_of_waits {calls : List (Nat × ServerCall)}
    (hwaits : ∀ call ∈ calls, h.server.poll call.2 = none) :
    h.pollEach calls = ({ h with calls }, []) := by
  induction calls with
  | nil => rfl
  | cons entry calls ih =>
    rw [pollEach, hwaits entry List.mem_cons_self,
      ih fun call hmem => hwaits call (List.mem_cons_of_mem _ hmem)]

theorem Regular.pollCalls (hr : h.Regular settings) : h.pollCalls.1.Sound settings := by
  obtain ⟨hkeeps, hsub, -, hwaits⟩ := pollEach_spec h.calls h
  exact ⟨hr.of_keeps hkeeps hsub, hwaits⟩

theorem keeps_handle (h : ServerHost) (source : NodeId) (g : Segment) :
    h.server.Keeps (h.handle source g).state.server :=
  h.server.keeps_handle source g _ _

/-- A call that is begun waits for no more bytes than a socket holds. -/
theorem Regular.beginCall (hr : h.Regular settings) (id : SocketId) (needed : Status)
    {call : Except Error (Server × ServerCall)}
    (hcall : ∀ s' c, call = .ok (s', c) → h.server.Keeps s' ∧
      ∀ j length, c = .receive j length → length ≤ settings.receiveCapacity) :
    (h.beginCall id needed call).host.Regular settings := by
  unfold ServerHost.beginCall
  split
  · next s' c =>
    obtain ⟨hkeeps, hlength⟩ := hcall s' c rfl
    refine ⟨hkeeps.settings_eq.trans hr.settings_eq, hr.apart.of_samePorts hkeeps.samePorts, ?_⟩
    intro number j length hmem
    rcases List.mem_append.1 hmem with hmem | hmem
    · exact hr.admitted number j length hmem
    · exact hlength j length (Prod.mk.inj (List.mem_singleton.1 hmem)).2.symm
  · split <;> exact hr
  · exact hr

/-- **A command keeps a host regular.** -/
theorem Regular.perform (hr : h.Regular settings) (c : ServerCommand) :
    (h.perform c).host.Regular settings := by
  cases c with
  | openSocket port =>
    rw [ServerHost.perform]
    split
    · exact hr
    · next id server hopen =>
      unfold Server.openSocket at hopen
      cases htable : h.server.sockets.openSocket port ({} : ServerConnection) with
      | error e =>
        rw [htable] at hopen
        cases hopen
      | ok opened =>
        rw [htable] at hopen
        cases hopen
        exact ⟨hr.settings_eq, hr.apart.openSocket htable, hr.admitted⟩
  | close id =>
    rw [ServerHost.perform]
    split
    · exact hr
    · next server hclose =>
      exact hr.of_keeps (Server.keeps_close hclose) (List.Subset.refl _)
  | status id =>
    rw [ServerHost.perform]
    split <;> exact hr
  | accept id =>
    refine hr.beginCall id .closed fun s' c hlisten => ?_
    obtain ⟨hkeeps, rfl⟩ := Server.keeps_listen hlisten
    exact ⟨hkeeps, nofun⟩
  | receive id length =>
    refine hr.beginCall id .connected fun s' c hreceive => ?_
    cases hcall : h.server.receive id length with
    | error e =>
      rw [hcall] at hreceive
      cases hreceive
    | ok call =>
      rw [hcall] at hreceive
      cases hreceive
      obtain ⟨rfl, hle⟩ := Server.receive_eq_ok hcall
      rw [hr.settings_eq] at hle
      refine ⟨.refl _, ?_⟩
      rintro _ _ ⟨⟩
      exact hle
  | handle source segment =>
    rw [ServerHost.perform]
    split <;> exact hr.of_keeps (h.keeps_handle source segment) (List.Subset.refl _)
  | arrive arrival =>
    cases arrival with
    | none => exact hr
    | some message =>
      obtain ⟨source, segment⟩ := message
      rw [ServerHost.perform, ServerHost.arrive]
      dsimp only
      split
      · exact hr.of_keeps ((h.keeps_handle source segment).trans (Server.keeps_sweep _ _))
          (List.Subset.refl _)
      · exact hr
  | sweep => exact hr.of_keeps (Server.keeps_sweep _ _) (List.Subset.refl _)
  | limit allowance => exact hr.of_keeps (.refl _) (List.Subset.refl _)
  | loseLink =>
    rw [ServerHost.perform, ServerHost.loseLink]
    split
    · exact hr.of_keeps (Server.keeps_linkLost _) (List.Subset.refl _)
    · exact hr

theorem Regular.step (hr : h.Regular settings) (c : ServerCommand) :
    (h.step c).host.Sound settings := by
  obtain ⟨⟨hsettings, hapart, hadmitted⟩, hwaits⟩ := (hr.perform c).pollCalls
  exact ⟨⟨hsettings, hapart, hadmitted⟩, hwaits⟩

/-- **The invariant holds of all hosts that can be reached.** -/
theorem Reached.sound (hreached : h.Reached settings) : h.Sound settings := by
  induction hreached with
  | @start s hstart link =>
    unfold Server.start at hstart
    cases hvalid : settings.validate with
    | error e =>
      rw [hvalid] at hstart
      cases hstart
    | ok _ =>
      rw [hvalid] at hstart
      cases hstart
      exact ⟨⟨rfl, SocketTable.apart_free _, nofun⟩, nofun⟩
  | step hreached c ih => exact ih.toRegular.step c
  | wait hreached hle ih => exact ⟨⟨ih.settings_eq, ih.apart, ih.admitted⟩, ih.waits⟩

end ServerHost

end OverlayStack.Transport
