import OverlayStack.Proofs.Transport.Ports

/-!
# When a client counts on a timer

A socket of a client remembers whether there is a timer that sends again what is in flight.  Calls
to send make it count on a timer if there is anything to send, and only a timer that looks at the
socket and has nothing to do changes that.  So a connection with anything to send counts on a timer,
unless the timer has looked at the socket while there was no connection.  Nothing is left to send
then, except while a call to disconnect, which throws it away, has not returned.

## Main definitions

* `ClientConnection.AtRest` — a timer has nothing to do.
* `ClientConnection.timing` — what a connection counts on.
* `BusyClient.Covered` — the invariant of what a socket has to send.

## Main results

* `Client.timers_send`, `Client.timers_pollTimer`, `BusyClient.timers_step` — how this changes.
* `BusyClient.Covered.step` — a turn leaves nothing without a timer.
-/

namespace OverlayStack.Transport

/-! ### Connections and sockets -/

namespace ClientConnection

/-- A timer has nothing to do. -/
def AtRest (x : ClientConnection) : Prop :=
  x.status ≠ .connected ∨ x.buffer.isEmpty = true

instance decidableAtRest (x : ClientConnection) : Decidable x.AtRest :=
  inferInstanceAs (Decidable (_ ∨ _))

/-- Whether the connection counts on a timer, and how many there are. -/
def timing (x : ClientConnection) : Bool × Nat :=
  (x.timerRunning, x.timers)

/-- A queue is empty after a call to send exactly if it was empty and there were no bytes. -/
theorem isEmpty_enqueue_eq_false_iff (x : ClientConnection) (port : UInt32) (n : Nat)
    (data : Bytes) : (x.enqueue port n data).buffer.isEmpty = false ↔
      data ≠ [] ∨ x.buffer.isEmpty = false := by
  rw [← Bool.not_eq_true, ← Bool.not_eq_true, SendBuffer.isEmpty_eq_true_iff_segments,
    SendBuffer.isEmpty_eq_true_iff_segments, segments_enqueue, List.append_eq_nil_iff]
  cases data with
  | nil => simp [segmentsOf]
  | cons byte rest => simp [segmentsOf]

/-- A connection that has a timer asks for no other one, and so does one with nothing to send. -/
theorem withTimer_eq_self {x : ClientConnection}
    (h : x.timerRunning = true ∨ x.buffer.isEmpty = true) : x.withTimer = x := by
  rw [withTimer, if_pos]
  rcases h with h | h <;> simp [h]

/-- A connection that has no timer gets one if there is anything to send. -/
theorem withTimer_of_not_running {x : ClientConnection} (hrunning : x.timerRunning = false)
    (hsome : x.buffer.isEmpty = false) :
    x.withTimer = { x with timerRunning := true, timers := x.timers + 1 } := by
  rw [withTimer, if_neg]
  simp [hrunning, hsome]

end ClientConnection

namespace Client

variable {c : Client} {id : SocketId} {s : Socket ClientConnection}

/-- The state of a socket, or of a new one if there is none at the place. -/
def stateAt (c : Client) (id : SocketId) : ClientConnection :=
  ((c.sockets.socket? id).map (·.state)).getD {}

theorem stateAt_eq (hs : c.sockets.socket? id = some s) : c.stateAt id = s.state := by
  simp [stateAt, hs]

theorem stateAt_of_none (hs : c.sockets.socket? id = none) : c.stateAt id = {} := by
  simp [stateAt, hs]

/-- Only a socket that exists is not like a new one. -/
theorem exists_socket (h : (c.stateAt id).status ≠ .closed) :
    ∃ s, c.sockets.socket? id = some s ∧ c.stateAt id = s.state := by
  cases hs : c.sockets.socket? id with
  | none =>
    rw [stateAt_of_none hs] at h
    exact absurd rfl h
  | some s => exact ⟨s, rfl, stateAt_eq hs⟩

theorem stateAt_set_self (hs : c.sockets.socket? id = some s) (x : ClientConnection) :
    (c.set id x).stateAt id = x :=
  stateAt_eq (socket?_set_self hs x)

theorem stateAt_set_of_ne {j : SocketId} (hj : j ≠ id) (x : ClientConnection) :
    (c.set j x).stateAt id = c.stateAt id := by
  rw [stateAt, set, SocketTable.socket?_set, if_neg hj.symm, stateAt]

theorem stateAt_linkLost (c : Client) (id : SocketId) :
    c.linkLost.stateAt id = (c.stateAt id).ended := by
  rw [stateAt, linkLost, SocketTable.socket?_map, stateAt]
  cases c.sockets.socket? id <;> rfl

/-- Opening a socket changes no state, since a place without a socket is taken for a new socket. -/
theorem stateAt_openSocket {c' : Client} {port : UInt32} {j : SocketId}
    (h : c.openSocket port = .ok (j, c')) : c'.stateAt id = c.stateAt id := by
  obtain ⟨sockets, hopen, rfl⟩ := openSocket_eq_ok h
  cases hs : c.sockets.socket? id with
  | some s =>
    rw [stateAt_eq hs, stateAt_eq (SocketTable.socket?_openSocket hopen hs)]
  | none =>
    rw [stateAt_of_none hs]
    cases hs' : sockets.socket? id with
    | none => exact stateAt_of_none hs'
    | some s =>
      rw [stateAt_eq hs']
      rcases SocketTable.socket?_of_openSocket hopen hs' with rfl | hold
      · rfl
      · cases hs.symm.trans hold

/-- A call to send fails unless the socket is connected. -/
theorem state_send_of_ne (h : (c.stateAt id).status ≠ .connected) (data : Bytes) (now : Nat)
    (refuse : Refusal Error) : (c.send id data now refuse).state = c := by
  unfold send
  split
  · rfl
  · next s hs =>
    rw [stateAt_eq (socket?_of_require hs)] at h
    rw [if_neg h]
    rfl

theorem stateAt_send (h : (c.stateAt id).status = .connected) (data : Bytes) (now : Nat)
    (refuse : Refusal Error) : ∃ port, (c.send id data now refuse).state.stateAt id =
      (((c.stateAt id).enqueue port c.settings.maxSegment data).withTimer.transmit
        c.settings.window now refuse).1 := by
  have hopen : (c.stateAt id).status ≠ .closed := by simp [h]
  obtain ⟨s, hs, hstate⟩ := exists_socket hopen
  rw [hstate] at h ⊢
  refine ⟨s.port, ?_⟩
  rw [send, require_eq hs]
  dsimp only
  rw [if_pos h]
  exact stateAt_set_self hs _

/-- **A call to send starts a timer** if there is none, and anything to send. -/
theorem timers_send (hconnected : (c.stateAt id).status = .connected) {data : Bytes}
    (hsome : data ≠ [] ∨ (c.stateAt id).buffer.isEmpty = false)
    (hrunning : (c.stateAt id).timerRunning = false) (now : Nat) (refuse : Refusal Error) :
    ((c.send id data now refuse).state.stateAt id).timing = (true, (c.stateAt id).timers + 1) := by
  obtain ⟨port, hstate⟩ := stateAt_send hconnected data now refuse
  rw [← ClientConnection.isEmpty_enqueue_eq_false_iff _ port c.settings.maxSegment] at hsome
  have htimer := ClientConnection.withTimer_of_not_running
    (x := (c.stateAt id).enqueue port c.settings.maxSegment data) hrunning hsome
  rw [hstate, htimer]
  rfl

/-- Otherwise it starts none. -/
theorem timers_send_of_running {data : Bytes}
    (h : (c.stateAt id).status = .connected →
      data ≠ [] ∨ (c.stateAt id).buffer.isEmpty = false → (c.stateAt id).timerRunning = true)
    (now : Nat) (refuse : Refusal Error) :
    ((c.send id data now refuse).state.stateAt id).timing = (c.stateAt id).timing := by
  by_cases hconnected : (c.stateAt id).status = .connected
  · obtain ⟨port, hstate⟩ := stateAt_send hconnected data now refuse
    have hsame : ((c.stateAt id).enqueue port c.settings.maxSegment data).withTimer =
        (c.stateAt id).enqueue port c.settings.maxSegment data := by
      apply ClientConnection.withTimer_eq_self
      by_cases hempty : ((c.stateAt id).enqueue port c.settings.maxSegment data).buffer.isEmpty
      · exact .inr hempty
      · rw [Bool.not_eq_true, ClientConnection.isEmpty_enqueue_eq_false_iff] at hempty
        exact .inl (h hconnected hempty)
    rw [hstate, hsame]
    rfl
  · rw [state_send_of_ne hconnected]

/-- **A timer stops** at the first look at which it has nothing to do. -/
theorem timers_pollTimer (htimers : (c.stateAt id).timers ≠ 0) (hrest : (c.stateAt id).AtRest)
    (now : Nat) (refuse : Refusal Error) :
    ((c.pollTimer id now refuse).state.stateAt id).timing = (false, (c.stateAt id).timers - 1) := by
  cases hs : c.sockets.socket? id with
  | none =>
    rw [stateAt_of_none hs] at htimers
    exact absurd rfl htimers
  | some s =>
    rw [stateAt_eq hs] at htimers hrest ⊢
    rw [ClientConnection.AtRest] at hrest
    rw [pollTimer, hs]
    dsimp only
    rw [if_neg htimers, if_pos hrest]
    dsimp only [Effect.quiet]
    rw [stateAt_set_self hs]
    rfl

/-- A timer that has anything to do goes on. -/
theorem timers_pollTimer_of_not_atRest (h : ¬ (c.stateAt id).AtRest) (now : Nat)
    (refuse : Refusal Error) :
    ((c.pollTimer id now refuse).state.stateAt id).timing = (c.stateAt id).timing := by
  unfold pollTimer
  cases hs : c.sockets.socket? id with
  | none => rfl
  | some s =>
    rw [stateAt_eq hs] at h ⊢
    rw [ClientConnection.AtRest] at h
    have hquiet : (Effect.quiet c (.ok ()) : Effect Client Unit).state.stateAt id = s.state :=
      stateAt_eq hs
    dsimp only
    by_cases htimers : s.state.timers = 0
    · rw [if_pos htimers, hquiet]
    · rw [if_neg htimers, if_neg h]
      split
      · rw [stateAt_set_self hs]
        rfl
      · rw [hquiet]

/-- Closing a socket leaves no socket at its place. -/
theorem socket?_close {c' : Client} (h : c.close id = .ok c') : c'.sockets.socket? id = none := by
  rw [close_eq_ok h, SocketTable.close, SocketTable.socket?, List.getElem?_set_self']
  cases c.sockets.slots[id]? <;> rfl

end Client

/-! ### Turns -/

namespace BusyClient

variable {b : BusyClient} {t : ClientTurn} {id : SocketId}

/-- Turns that neither send from a socket nor close it, and in which no timer looks at it, do not
change whether the socket counts on a timer. -/
theorem timers_step (hsend : ∀ data, t.move ≠ .send id data) (htimer : t.move ≠ .timer id)
    (hclose : t.move ≠ .close id) :
    ((b.step t).1.client.stateAt id).timing = (b.client.stateAt id).timing := by
  have h := b.step_cases t
  generalize (b.step t).1.client = c at h ⊢
  generalize (b.step t).2 = sent at h
  cases h with
  | idle => rfl
  | @shifted j s x _ hs hshift =>
    by_cases hj : j = id
    · subst hj
      rw [Client.stateAt_set_self hs, Client.stateAt_eq hs]
      cases hshift with
      | sent hmove => exact absurd hmove (hsend _)
      | stopped _ hmove => exact absurd hmove htimer
      | asked | granted | acknowledged | resent => rfl
      | leaving | confirmed | called | gaveUp | left => rfl
    · rw [Client.stateAt_set_of_ne hj]
  | opened _ hopen => rw [Client.stateAt_openSocket hopen]
  | @closed j _ hmove hok =>
    have hne : j ≠ id := by
      rintro rfl
      exact hclose hmove
    rw [Client.close_eq_ok hok, Client.stateAt, SocketTable.close, SocketTable.socket?,
      List.getElem?_set_ne hne]
    rfl
  | lost =>
    rw [Client.stateAt_linkLost]
    rfl

/-- A socket without a connection is gone after it was closed. -/
theorem socket?_step_close (hmove : t.move = .close id)
    (hclosed : (b.client.stateAt id).status = .closed) :
    (b.step t).1.client.sockets.socket? id = none := by
  rw [step, hmove]
  dsimp only
  cases hclose : b.client.close id with
  | ok c => exact Client.socket?_close hclose
  | error e =>
    -- there was no socket
    dsimp only
    cases hs : b.client.sockets.socket? id with
    | none => rfl
    | some s =>
      rw [Client.stateAt_eq hs] at hclosed
      rw [Client.close, Client.require_eq hs] at hclose
      simp [bind, Except.bind, hclosed, pure, Except.pure] at hclose

/-- A socket with a connection cannot be closed. -/
theorem step_close_of_ne (hmove : t.move = .close id)
    (hopen : (b.client.stateAt id).status ≠ .closed) : (b.step t).1 = b := by
  obtain ⟨s, hs, hstate⟩ := Client.exists_socket hopen
  rw [hstate] at hopen
  rw [step, hmove]
  dsimp only
  rw [Client.close, Client.require_eq hs]
  simp [bind, Except.bind, hopen, throw, throwThe, MonadExceptOf.throw]

/-! ### What there is to send -/

/-- A connection has nothing to send, or counts on a timer, or a call to disconnect has still to
throw away what there is to send. -/
inductive Covered (b : BusyClient) (id : SocketId) (x : ClientConnection) : Prop where
  | empty (hempty : x.buffer.isEmpty = true) : Covered b id x
  | timed (hconnected : x.status = .connected) (hrunning : x.timerRunning = true) : Covered b id x
  | leaving (hleaving : b.Leaving id) : Covered b id x

namespace Covered

variable {x : ClientConnection} {s : Socket ClientConnection}

/-- A turn that queues nothing, if it takes care of a connection that counts on a timer. -/
theorem followed (h : b.Covered id x)
    (hs : (b.step t).1.client.sockets.socket? id = some s)
    (hempty : x.buffer.isEmpty = true → s.state.buffer.isEmpty = true)
    (htimed : x.status = .connected → x.timerRunning = true →
      (b.step t).1.Covered id s.state) : (b.step t).1.Covered id s.state := by
  cases h with
  | empty hnone => exact .empty (hempty hnone)
  | timed hconnected hrunning => exact htimed hconnected hrunning
  | leaving hleaving =>
    rcases leaving_step hleaving hs with hleaving | ⟨-, hnone⟩
    · exact .leaving hleaving
    · exact .empty hnone

/-- A turn that finds the socket without a connection. -/
theorem of_ne (h : b.Covered id x) (hs : (b.step t).1.client.sockets.socket? id = some s)
    (hbuffer : s.state.buffer = x.buffer) (hne : x.status ≠ .connected) :
    (b.step t).1.Covered id s.state := by
  apply h.followed hs
  · intro hnone
    rw [hbuffer, hnone]
  · intro hconnected
    exact absurd hconnected hne

/-- A shift of a connection leaves nothing without a timer. -/
theorem shifted {sent : Outgoing} (h : b.Covered id s.state)
    (hs₀ : b.client.sockets.socket? id = some s)
    (hs : (b.step t).1.client.sockets.socket? id = some { s with state := x })
    (hshift : b.Shift t id s x sent) : (b.step t).1.Covered id x := by
  cases hshift with
  | asked _ hclosed => exact h.of_ne hs rfl (by simp [hclosed])
  | granted hwaits => exact h.of_ne hs rfl (by simp [hwaits])
  | @sent data _ hconnected =>
    have hstatus := (ClientConnection.sameStream_withTimer
      (s.state.enqueue s.port b.client.settings.maxSegment data)).status_eq.trans hconnected
    generalize s.state.enqueue s.port b.client.settings.maxSegment data = y at hstatus ⊢
    by_cases hnone : y.withTimer.buffer.isEmpty = true
    · refine .empty ?_
      rwa [ClientConnection.isEmpty_transmit]
    · refine .timed hstatus ?_
      rw [Bool.not_eq_true] at hnone
      exact ClientConnection.timerRunning_withTimer _ hnone
  | acknowledged =>
    refine h.followed hs (fun hnone => ?_) fun hconnected hrunning => .timed hconnected hrunning
    rw [ClientConnection.isEmpty_transmit]
    exact SendBuffer.isEmpty_acknowledge hnone _
  | resent =>
    refine h.followed hs (fun hnone => ?_) fun hconnected hrunning => .timed hconnected hrunning
    exact (SendBuffer.isEmpty_congr (SendBuffer.segments_retransmit _ _ _)).trans hnone
  | stopped hstop =>
    refine h.followed hs (fun hnone => hnone) fun hconnected _ => .empty ?_
    exact hstop.resolve_left fun hne => hne hconnected
  | leaving hmove hconnected => exact .leaving (leaving_of_disconnect hs₀ hmove hconnected)
  | confirmed hwaits => exact h.of_ne hs rfl (by simp [hwaits])
  | called => exact h.followed hs (fun hnone => hnone) .timed
  | gaveUp _ _ hwaits => exact h.of_ne hs rfl (by simp [hwaits])
  | left => exact .empty rfl

/-- **A turn leaves nothing without a timer.** -/
theorem step (h : b.Covered id (b.client.stateAt id)) (t : ClientTurn) :
    (b.step t).1.Covered id ((b.step t).1.client.stateAt id) := by
  cases hs : (b.step t).1.client.sockets.socket? id with
  | none =>
    rw [Client.stateAt_of_none hs]
    exact .empty rfl
  | some s =>
    rw [Client.stateAt_eq hs]
    cases socket?_step hs with
    | fresh => exact .empty rfl
    | kept hs₀ =>
      rw [Client.stateAt_eq hs₀] at h
      exact h.followed hs (fun hnone => hnone) .timed
    | ended => exact .empty rfl
    | shifted hs₀ hshift =>
      rw [Client.stateAt_eq hs₀] at h
      exact h.shifted hs₀ hs hshift

end Covered

end BusyClient

end OverlayStack.Transport
