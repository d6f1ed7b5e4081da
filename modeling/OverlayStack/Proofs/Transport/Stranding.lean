import OverlayStack.Proofs.Transport.BusyClients
import OverlayStack.Proofs.Transport.StreamSafety

/-!
# Stranded segments

The timer of a socket sends what is in flight again.  Nothing is in flight when the link refuses the
first segment that a client tries to send, or the first one after an acknowledgment of everything
that was in flight.  The segments that wait are then stranded: the timer goes on looking at the
socket and never sends anything, no acknowledgment is on its way, and only more bytes that are
sent, or the end of the connection, change that.  In all other cases at least one segment is in
flight while there are any, and the timer sends it again when it is due.

A client does not lose its timer either, unless a socket is connected again while a call to
disconnect still waits on it.

## Main definitions

* `SendBuffer.Stranded` — segments wait and none is in flight.
* `BusyClient.Strands` — a turn in which segments become stranded.
* `BusyClient.StrandedSince` — segments became stranded in some turn and nothing happened since.
* `BusyClient.Tended` — the invariant of connections with regard to their timers.

## Main results

* `BusyClient.stranded_step`, `BusyClient.stranded_run_iff` — how segments become stranded.
* `BusyClient.bufferAt_step_of_stranded` — what becomes of stranded segments.
* `BusyClient.Tended.step`, `BusyClient.tended_run` — connections keep their timers.
* `BusyClient.timer_reaches_run` — which segments the timer of a socket reaches.
-/

namespace OverlayStack.Transport

/-! ### Send buffers -/

namespace SendBuffer

variable {b : SendBuffer} {refuse : Refusal Error} {window now timeout : Nat}

/-- Segments wait and none is in flight. -/
def Stranded (b : SendBuffer) : Prop :=
  b.inFlight = [] ∧ b.waiting ≠ []

/-- Nothing is in flight, and the link refuses the first segment that waits. -/
def HeldBack (b : SendBuffer) (refuse : Refusal Error) : Prop :=
  b.inFlight = [] ∧ ∃ first rest, b.waiting = first :: rest ∧ refuse 0 first ≠ none

theorem HeldBack.stranded (h : b.HeldBack refuse) : b.Stranded := by
  obtain ⟨hnone, first, rest, hwait, -⟩ := h
  exact ⟨hnone, hwait ▸ List.cons_ne_nil first rest⟩

theorem not_stranded_empty : ¬ ({} : SendBuffer).Stranded :=
  fun h => h.2 rfl

/-- If the link refuses the first segment, nothing happens. -/
theorem HeldBack.transmit_eq (h : b.HeldBack refuse) (hw : 0 < window) :
    (b.transmit window now refuse).1 = b := by
  obtain ⟨hnone, first, rest, hwait, hrefuse⟩ := h
  obtain ⟨n, rfl⟩ := Nat.exists_eq_succ_of_ne_zero (Nat.ne_of_gt hw)
  obtain ⟨e, he⟩ := Option.ne_none_iff_exists'.1 hrefuse
  have hnothing :
      handOver refuse 0 (b.waiting.take (n + 1 - b.inFlight.length)) = ([], some e) := by
    rw [hnone, hwait, List.length_nil, Nat.sub_zero, List.take_succ_cons, handOver, he]
  rw [transmit, hnothing]
  simp

/-- **Sending strands segments** exactly if the link refuses the first one. -/
theorem stranded_transmit_iff (hw : 0 < window) :
    (b.transmit window now refuse).1.Stranded ↔ b.HeldBack refuse := by
  constructor
  · rintro ⟨hflight, hwaiting⟩
    obtain ⟨n, rfl⟩ := Nat.exists_eq_succ_of_ne_zero (Nat.ne_of_gt hw)
    rw [transmit] at hflight hwaiting
    obtain ⟨hnone, htaken⟩ := List.append_eq_nil_iff.1 hflight
    rw [List.map_eq_nil_iff] at htaken
    dsimp only at hwaiting
    rw [htaken, List.length_nil, List.drop_zero] at hwaiting
    obtain ⟨first, rest, hwait⟩ := List.exists_cons_of_ne_nil hwaiting
    refine ⟨hnone, first, rest, hwait, fun htake => ?_⟩
    rw [hnone, hwait, List.length_nil, Nat.sub_zero, List.take_succ_cons, handOver, htake] at htaken
    cases htaken
  · intro h
    rw [h.transmit_eq hw]
    exact h.stranded

/-- Segments that are stranded never time out. -/
theorem Stranded.isTimedOut_eq (h : b.Stranded) : b.isTimedOut timeout now = false := by
  rw [isTimedOut, oldestSentAt?, h.1]
  rfl

/-- Sending again strands nothing. -/
theorem not_stranded_retransmit (hdue : b.isTimedOut timeout now = true) :
    ¬ (b.retransmit now refuse).1.Stranded := by
  rintro ⟨hnone, -⟩
  obtain ⟨hfront, hback⟩ := List.append_eq_nil_iff.1 hnone
  rw [List.map_eq_nil_iff] at hfront
  rw [hfront, List.length_nil, List.drop_zero] at hback
  rw [isTimedOut, oldestSentAt?, hback] at hdue
  cases hdue

/-- Segments that are not stranded are in flight, or there are none. -/
theorem exists_inFlight (h : ¬ b.Stranded) (hsome : b.isEmpty = false) :
    ∃ oldest rest, b.inFlight = oldest :: rest := by
  refine List.exists_cons_of_ne_nil fun hnone => h ⟨hnone, fun hwait => ?_⟩
  rw [isEmpty_eq_true_iff.2 ⟨hnone, hwait⟩] at hsome
  cases hsome

/-- What is left after an acknowledgment was there before. -/
theorem isEmpty_acknowledge (h : b.isEmpty = true) (ack : UInt32) :
    (b.acknowledge ack).1.isEmpty = true := by
  rw [isEmpty_eq_true_iff_segments] at h ⊢
  have hsplit := b.segments_acknowledge ack
  rw [h] at hsplit
  exact (List.append_eq_nil_iff.1 hsplit.symm).2

end SendBuffer

@[simp] theorem ClientConnection.status_transmit (x : ClientConnection) (window now : Nat)
    (refuse : Refusal Error) : (x.transmit window now refuse).1.status = x.status :=
  rfl

theorem ClientConnection.isEmpty_transmit (x : ClientConnection) (window now : Nat)
    (refuse : Refusal Error) :
    (x.transmit window now refuse).1.buffer.isEmpty = x.buffer.isEmpty :=
  SendBuffer.isEmpty_congr (SendBuffer.segments_transmit _ _ _ _)

/-! ### Sockets of a client -/

namespace Client

variable {c : Client} {id : SocketId} {s : Socket ClientConnection}

/-- The queue of a socket, if there is such a socket. -/
def bufferAt (c : Client) (id : SocketId) : Option SendBuffer :=
  (c.sockets.socket? id).map (·.state.buffer)

theorem bufferAt_eq (hs : c.sockets.socket? id = some s) : c.bufferAt id = some s.state.buffer := by
  rw [bufferAt, hs]
  rfl

theorem bufferAt_set (hs : c.sockets.socket? id = some s) (x : ClientConnection) :
    (c.set id x).bufferAt id = some x.buffer := by
  rw [bufferAt, set, SocketTable.socket?_set, if_pos rfl, hs]
  rfl

theorem require_eq (hs : c.sockets.socket? id = some s) : c.sockets.require id = .ok s := by
  rw [SocketTable.require, hs]

/-- **What a timer sends**: the segments in flight, if it is due, until the link refuses one. -/
theorem sent_pollTimer (hs : c.sockets.socket? id = some s)
    (hconnected : s.state.status = .connected) (htimer : 0 < s.state.timers)
    {oldest : InFlight} {rest : List InFlight}
    (hflight : s.state.buffer.inFlight = oldest :: rest) {now : Nat}
    (hdue : c.settings.dataTimeout ≤ now - oldest.sentAt) (refuse : Refusal Error) :
    (c.pollTimer id now refuse).sent =
      (handOver refuse 0 (s.state.buffer.inFlight.map (·.segment))).1.map
        fun g => (s.state.serverNode, g) := by
  have hsome : s.state.buffer.isEmpty = false := by
    rw [SendBuffer.isEmpty, hflight]
    rfl
  have htimed : s.state.buffer.isTimedOut c.settings.dataTimeout now = true := by
    rw [SendBuffer.isTimedOut, SendBuffer.oldestSentAt?, hflight]
    exact decide_eq_true hdue
  rw [pollTimer, hs]
  dsimp only
  rw [if_neg (Nat.ne_of_gt htimer), if_neg (by simp [hconnected, hsome]), if_pos htimed]
  rfl

/-- A timer sends nothing if the segments of its socket are stranded. -/
theorem sent_pollTimer_of_stranded (hs : c.sockets.socket? id = some s)
    (h : s.state.buffer.Stranded) (now : Nat) (refuse : Refusal Error) :
    (c.pollTimer id now refuse).sent = [] := by
  rw [pollTimer, hs]
  dsimp only
  split
  · rfl
  · split
    · rfl
    · rw [if_neg (by rw [h.isTimedOut_eq]; decide)]
      rfl

/-- Nothing is acknowledged while the segments of a socket are stranded. -/
theorem sent_handle_of_stranded {g : Segment} (hfound : c.lookup g = some (id, s))
    (h : s.state.buffer.Stranded) (now : Nat) (refuse : Refusal Error) :
    (c.handle g now refuse).sent = [] := by
  have hnone : (s.state.buffer.acknowledge g.ack).2 = 0 := by
    rw [SendBuffer.acknowledge, h.1]
    rfl
  unfold handle
  rw [hfound]
  dsimp only
  split
  · rfl
  · rfl
  · rw [if_pos hnone]
    rfl
  · rfl
  · rfl
  · rfl

end Client

namespace BusyClient

variable {b : BusyClient} {t : ClientTurn} {id : SocketId} {buffer : SendBuffer}

/-! ### How segments become stranded -/

/-- A turn in which a client tries to send what waits in the queue of a socket: after bytes were
added to it, or after an acknowledgment removed segments from it. -/
inductive Tries (b : BusyClient) (t : ClientTurn) (id : SocketId) : SendBuffer → Prop where
  | send {s : Socket ClientConnection} {data : Bytes} (hs : b.client.sockets.socket? id = some s)
      (hmove : t.move = .send id data) (hconnected : s.state.status = .connected) :
      Tries b t id (s.state.enqueue s.port b.client.settings.maxSegment data).buffer
  | acknowledge {s : Socket ClientConnection} {g : Segment} (hmove : t.move = .handle g)
      (hfound : b.client.lookup g = some (id, s)) (hconnected : s.state.status = .connected)
      (hkind : g.kind = .dataAck) (hsome : (s.state.buffer.acknowledge g.ack).2 ≠ 0) :
      Tries b t id (s.state.buffer.acknowledge g.ack).1

/-- A turn in which segments become stranded: the client tries to send them while nothing is in
flight, and the link refuses the first one. -/
def Strands (b : BusyClient) (t : ClientTurn) (id : SocketId) (buffer : SendBuffer) : Prop :=
  b.Tries t id buffer ∧ buffer.HeldBack t.refuse

/-- The queue of a socket after the client has tried to send what waits in it. -/
theorem Tries.bufferAt_step (h : b.Tries t id buffer) :
    (b.step t).1.client.bufferAt id =
      some (buffer.transmit b.client.settings.window t.now t.refuse).1 := by
  cases h with
  | @send s data hs hmove hconnected =>
    rw [step, hmove]
    dsimp only [after]
    rw [Client.send, Client.require_eq hs]
    dsimp only
    rw [if_pos hconnected]
    dsimp only
    rw [Client.bufferAt_set hs, ClientConnection.transmit, ClientConnection.buffer_withTimer]
  | @acknowledge s g hmove hfound hconnected hkind hsome =>
    have hs := (Client.socket?_of_lookup hfound).1
    rw [step, hmove]
    dsimp only [after]
    rw [Client.handle, hfound]
    dsimp only
    rw [hconnected, hkind]
    dsimp only
    rw [if_neg hsome]
    dsimp only
    rw [Client.bufferAt_set hs]
    rfl

/-- **What a turn makes of the queue of a socket.**  The queue is empty or as it was before, or the
client has tried to send what waits in it, or the timer has sent again what is in flight. -/
theorem buffer_step {s : Socket ClientConnection}
    (hs : (b.step t).1.client.sockets.socket? id = some s) :
    s.state.buffer = {} ∨ b.client.bufferAt id = some s.state.buffer ∨
      (∃ tried, b.Tries t id tried) ∨
      ∃ queue, b.client.bufferAt id = some queue ∧
        queue.isTimedOut b.client.settings.dataTimeout t.now = true ∧
        s.state.buffer = (queue.retransmit t.now t.refuse).1 := by
  cases socket?_step hs with
  | fresh => exact .inl rfl
  | ended => exact .inl rfl
  | kept hs₀ => exact .inr (.inl (Client.bufferAt_eq hs₀))
  | shifted hs₀ hshift =>
    have hbefore := Client.bufferAt_eq hs₀
    cases hshift with
    | sent hmove hconnected => exact .inr (.inr (.inl ⟨_, .send hs₀ hmove hconnected⟩))
    | acknowledged hmove hfound hconnected hkind hsome =>
      exact .inr (.inr (.inl ⟨_, .acknowledge hmove hfound hconnected hkind hsome⟩))
    | resent _ hdue => exact .inr (.inr (.inr ⟨_, hbefore, hdue, rfl⟩))
    | left => exact .inl rfl
    | asked => exact .inr (.inl hbefore)
    | granted => exact .inr (.inl hbefore)
    | stopped => exact .inr (.inl hbefore)
    | leaving => exact .inr (.inl hbefore)
    | confirmed => exact .inr (.inl hbefore)
    | called => exact .inr (.inl hbefore)
    | gaveUp => exact .inr (.inl hbefore)

/-- **How segments are stranded after a turn**: they became stranded in it, or they were stranded
before it and it left them alone. -/
theorem stranded_step (hw : 0 < b.client.settings.window)
    (hbuffer : (b.step t).1.client.bufferAt id = some buffer) (h : buffer.Stranded) :
    b.Strands t id buffer ∨ b.client.bufferAt id = some buffer := by
  obtain ⟨s, hs, rfl⟩ := Option.map_eq_some_iff.1 hbuffer
  rcases buffer_step hs with hnone | hkept | ⟨tried, htries⟩ | ⟨queue, -, hdue, hresent⟩
  · rw [hnone] at h
    exact absurd h SendBuffer.not_stranded_empty
  · exact .inr hkept
  · have hafter := Option.some.inj (hbuffer.symm.trans htries.bufferAt_step)
    rw [hafter] at h ⊢
    have hheld := (SendBuffer.stranded_transmit_iff hw).1 h
    rw [hheld.transmit_eq hw]
    exact .inl ⟨htries, hheld⟩
  · rw [hresent] at h
    exact absurd h (SendBuffer.not_stranded_retransmit hdue)

/-- Only new bytes make a client try to send segments that are stranded. -/
theorem Tries.exists_send {queue : SendBuffer} (h : b.Tries t id queue)
    (hbuffer : b.client.bufferAt id = some buffer) (hstranded : buffer.Stranded) :
    ∃ data, t.move = .send id data := by
  cases h with
  | send _ hmove _ => exact ⟨_, hmove⟩
  | acknowledge _ hfound _ _ hsome =>
    have hs := (Client.socket?_of_lookup hfound).1
    obtain rfl := Option.some.inj (hbuffer.symm.trans (Client.bufferAt_eq hs))
    rw [SendBuffer.acknowledge, hstranded.1] at hsome
    exact absurd rfl hsome

/-- **What becomes of stranded segments**: they stay stranded unless more bytes are sent, or the
connection ends and they are thrown away. -/
theorem bufferAt_step_of_stranded (hbuffer : b.client.bufferAt id = some buffer)
    (h : buffer.Stranded) (hmove : ∀ data, t.move ≠ .send id data) :
    (b.step t).1.client.bufferAt id ∈ [some buffer, some {}, none] := by
  cases hafter : (b.step t).1.client.sockets.socket? id with
  | none =>
    rw [Client.bufferAt, hafter]
    simp
  | some s =>
    rw [Client.bufferAt_eq hafter]
    rcases buffer_step hafter with hnone | hkept | ⟨tried, htries⟩ | ⟨queue, hqueue, hdue, -⟩
    · simp [hnone]
    · simp [hkept.symm.trans hbuffer]
    · obtain ⟨data, hsend⟩ := htries.exists_send hbuffer h
      exact absurd hsend (hmove data)
    · obtain rfl := Option.some.inj (hbuffer.symm.trans hqueue)
      rw [h.isTimedOut_eq] at hdue
      cases hdue

/-- The segments of a socket became stranded in some turn, and no turn since has changed its
queue. -/
def StrandedSince (b : BusyClient) (turns : List ClientTurn) (id : SocketId) (buffer : SendBuffer) :
    Prop :=
  ∃ before t after, turns = before ++ t :: after ∧ (b.run before).Strands t id buffer ∧
    ∀ front, front <+: after → (b.run (before ++ t :: front)).client.bufferAt id = some buffer

/-- **How segments are stranded after a run.** -/
theorem stranded_run_iff (hw : 0 < b.client.settings.window)
    (hstart : ∀ buffer, b.client.bufferAt id = some buffer → ¬ buffer.Stranded)
    {turns : List ClientTurn} (hbuffer : (b.run turns).client.bufferAt id = some buffer) :
    buffer.Stranded ↔ b.StrandedSince turns id buffer := by
  refine ⟨fun h => ?_, fun ⟨_, _, _, _, hstrands, _⟩ => hstrands.2.stranded⟩
  induction turns using List.reverseRecOn with
  | nil => exact absurd h (hstart _ hbuffer)
  | append_singleton turns t ih =>
    have hrun := hbuffer
    rw [run_concat] at hrun
    rcases stranded_step (by rw [settings_run]; exact hw) hrun h with hstrands | hkept
    · refine ⟨turns, t, [], rfl, hstrands, fun front hfront => ?_⟩
      rw [List.prefix_nil.1 hfront]
      exact hbuffer
    · obtain ⟨before, t', after, rfl, hstrands, hsince⟩ := ih hkept
      refine ⟨before, t', after ++ [t], by simp, hstrands, fun front hfront => ?_⟩
      rcases List.prefix_concat_iff.1 hfront with rfl | hfront
      · rw [List.append_assoc] at hbuffer
        exact hbuffer
      · exact hsince front hfront

/-! ### How connections keep their timers -/

/-- A call to disconnect waits on a socket. -/
def Leaving (b : BusyClient) (id : SocketId) : Prop :=
  ∃ call ∈ b.calls, call.socket = id ∧ call.kind = .disconnect

/-- No call to connect begins on a socket while a call to disconnect still waits on it. -/
def Orderly (b : BusyClient) : List ClientTurn → Prop
  | [] => True
  | t :: turns =>
    (∀ id node port, t.move = .connect id node port → ¬ b.Leaving id) ∧ (b.step t).1.Orderly turns

/-- A connection with anything to send has a timer.  There is nothing to send before there is a
connection and after its end, unless a call to disconnect has still to throw it away. -/
structure Tended (b : BusyClient) (id : SocketId) (x : ClientConnection) : Prop where
  timers_pos : x.timerRunning = true → 0 < x.timers
  timed : x.status = .connected → x.buffer.isEmpty = false → x.timerRunning = true
  opening : x.status = .synSent → x.buffer.isEmpty = true
  leaving : x.status = .finWait → b.Leaving id
  ended : x.status = .closed → x.buffer.isEmpty = true ∨ b.Leaving id

theorem orderly_concat {turns : List ClientTurn} (h : b.Orderly (turns ++ [t])) :
    b.Orderly turns ∧
      ∀ id node port, t.move = .connect id node port → ¬ (b.run turns).Leaving id := by
  induction turns generalizing b with
  | nil => exact ⟨trivial, h.1⟩
  | cons t' turns ih =>
    obtain ⟨horderly, hlast⟩ := ih h.2
    exact ⟨⟨h.1, horderly⟩, hlast⟩

/-- A call that waits on another socket, or for another thing, does not matter. -/
theorem leaving_of_subset {b' : BusyClient} (h : b.Leaving id)
    (hsub : ∀ call ∈ b.calls, call.socket = id → call.kind = .disconnect → call ∈ b'.calls) :
    b'.Leaving id := by
  obtain ⟨call, hmem, hsocket, hkind⟩ := h
  exact ⟨call, hsub call hmem hsocket hkind, hsocket, hkind⟩

theorem leaving_begin (h : b.Leaving id) (call : Except Error (Client × Handshake)) :
    (b.begin call).Leaving id := by
  cases call with
  | error e => exact h
  | ok begun => exact leaving_of_subset h fun call hmem _ _ => List.mem_append_left _ hmem

/-- A call to disconnect goes on to wait, or throws away what is left of the connection. -/
theorem leaving_wake (h : b.Leaving id) {place : Nat} (now : Nat) (refuse : Refusal Error)
    {s : Socket ClientConnection}
    (hs : (b.wake place now refuse).1.client.sockets.socket? id = some s) :
    (b.wake place now refuse).1.Leaving id ∨
      s.state.status = .closed ∧ s.state.buffer.isEmpty = true := by
  unfold wake at hs ⊢
  cases hcall : b.calls[place]? with
  | none => exact .inl h
  | some call =>
    rw [hcall] at hs
    obtain ⟨-, -, -, hwoken⟩ := b.client.woken_advanceFrom call now 0 refuse
    rw [← Client.advance] at hwoken
    dsimp only at hs ⊢
    obtain ⟨other, hmem, hsocket, hkind⟩ := h
    obtain ⟨i, hi⟩ := List.mem_iff_getElem?.1 hmem
    generalize Advance.client _ = c at hwoken hs ⊢
    generalize Advance.state _ = state at hwoken hs ⊢
    by_cases hplace : i = place
    · -- the call that wakes up is the one that waits for the end of the connection
      rw [hplace, hcall] at hi
      cases hi
      cases hwoken with
      | waits hsocket' hkind' =>
        have hlt := (List.getElem?_eq_some_iff.1 hcall).1
        exact .inl ⟨_, List.mem_set hlt _, hsocket'.trans hsocket, hkind'.trans hkind⟩
      | returned hconnect => cases hkind.symm.trans hconnect
      | gaveUp hconnect => cases hkind.symm.trans hconnect
      | ended =>
        dsimp only at hs
        rw [hsocket, Client.set, SocketTable.socket?_set, if_pos rfl] at hs
        obtain ⟨_, -, rfl⟩ := Option.map_eq_some_iff.1 hs
        exact .inr ⟨rfl, rfl⟩
    · refine .inl ⟨other, ?_, hsocket, hkind⟩
      cases state with
      | waiting later =>
        exact List.mem_of_getElem? ((List.getElem?_set_ne (Ne.symm hplace)).trans hi)
      | finished r => exact List.mem_eraseIdx_iff_getElem?.2 ⟨i, hplace, hi⟩

/-- A call to disconnect that waits on a socket waits after a turn as well, or nothing is left of
the connection. -/
theorem leaving_step (h : b.Leaving id) {s : Socket ClientConnection}
    (hs : (b.step t).1.client.sockets.socket? id = some s) :
    (b.step t).1.Leaving id ∨ s.state.status = .closed ∧ s.state.buffer.isEmpty = true := by
  unfold step at hs ⊢
  cases hmove : t.move with
  | openSocket port =>
    dsimp only
    split <;> exact .inl h
  | close j =>
    rw [hmove] at hs
    dsimp only at hs ⊢
    cases hclose : b.client.close j with
    | error e => exact .inl h
    | ok c =>
      rw [hclose] at hs
      dsimp only at hs
      rw [Client.close_eq_ok hclose] at hs
      have hne : id ≠ j := by
        rintro rfl
        rw [SocketTable.close, SocketTable.socket?, List.getElem?_set] at hs
        split at hs
        · split at hs <;> cases hs
        · next hself => exact hself rfl
      refine .inl (leaving_of_subset h fun call hmem hsocket _ => ?_)
      exact List.mem_filter.2 ⟨hmem, decide_eq_true (hsocket ▸ hne)⟩
  | connect j node port => exact .inl (leaving_begin h _)
  | disconnect j => exact .inl (leaving_begin h _)
  | wake place =>
    rw [hmove] at hs
    exact leaving_wake h _ _ hs
  | send j data => exact .inl h
  | handle g => exact .inl h
  | timer j => exact .inl h
  | linkLost => exact .inl h

/-- A call to disconnect waits from its beginning on. -/
theorem leaving_of_disconnect {s : Socket ClientConnection}
    (hs : b.client.sockets.socket? id = some s) (hmove : t.move = .disconnect id)
    (hconnected : s.state.status = .connected) : (b.step t).1.Leaving id := by
  rw [step, hmove]
  dsimp only
  rw [Client.disconnect, Client.require_eq hs]
  simp only [bind, Except.bind, hconnected, if_true, pure, Except.pure, begin]
  exact ⟨_, List.mem_append_right _ (List.mem_singleton_self _), rfl, rfl⟩

namespace Tended

variable {x : ClientConnection}

/-- A turn that changes at most the timers of a connection. -/
theorem followed {s : Socket ClientConnection} (h : b.Tended id x)
    (hs : (b.step t).1.client.sockets.socket? id = some s) (hstatus : s.state.status = x.status)
    (hbuffer : s.state.buffer = x.buffer)
    (htimers : s.state.timerRunning = true → 0 < s.state.timers)
    (htimed : x.status = .connected → x.buffer.isEmpty = false → s.state.timerRunning = true) :
    (b.step t).1.Tended id s.state where
  timers_pos := htimers
  timed := by rwa [hstatus, hbuffer]
  opening := by
    rw [hstatus, hbuffer]
    exact h.opening
  leaving := fun hwait => by
    rw [hstatus] at hwait
    rcases leaving_step (h.leaving hwait) hs with hleaving | ⟨hclosed, -⟩
    · exact hleaving
    · cases hwait.symm.trans (hstatus.symm.trans hclosed)
  ended := fun hclosed => by
    rw [hstatus] at hclosed
    rcases h.ended hclosed with hnone | hleaving
    · exact .inl (hbuffer ▸ hnone)
    · exact (leaving_step hleaving hs).symm.imp_left (·.2)

/-- A connection that goes on. -/
theorem of_connected {x' : ClientConnection} (hstatus : x'.status = .connected)
    (htimers : x'.timerRunning = true → 0 < x'.timers)
    (htimed : x'.buffer.isEmpty = false → x'.timerRunning = true) : b.Tended id x' where
  timers_pos := htimers
  timed := fun _ hsome => htimed hsome
  opening := fun hs => by cases hstatus.symm.trans hs
  leaving := fun hs => by cases hstatus.symm.trans hs
  ended := fun hs => by cases hstatus.symm.trans hs

/-- Without anything to send, a connection that has ended needs no timer. -/
theorem of_closed {x' : ClientConnection} (hstatus : x'.status = .closed)
    (hnone : x'.buffer.isEmpty = true) (htimers : x'.timerRunning = true → 0 < x'.timers) :
    b.Tended id x' where
  timers_pos := htimers
  timed := fun hs => by cases hstatus.symm.trans hs
  opening := fun _ => hnone
  leaving := fun hs => by cases hstatus.symm.trans hs
  ended := fun _ => .inl hnone

/-- A shift of a connection keeps its timer. -/
theorem shifted {s : Socket ClientConnection} {sent : Outgoing} (h : b.Tended id s.state)
    (horderly : ∀ id node port, t.move = .connect id node port → ¬ b.Leaving id)
    (hs₀ : b.client.sockets.socket? id = some s)
    (hs : (b.step t).1.client.sockets.socket? id = some { s with state := x })
    (hshift : b.Shift t id s x sent) : (b.step t).1.Tended id x := by
  cases hshift with
  | asked hmove hclosed =>
    have hnone := (h.ended hclosed).resolve_right (horderly _ _ _ hmove)
    exact ⟨h.timers_pos, nofun, fun _ => hnone, nofun, nofun⟩
  | granted hsyn =>
    refine .of_connected rfl h.timers_pos fun hsome => ?_
    cases (h.opening hsyn).symm.trans hsome
  | @sent data _ hconnected =>
    refine .of_connected ?_ (ClientConnection.timers_pos_withTimer h.timers_pos) fun hsome => ?_
    · rw [ClientConnection.status_transmit, (ClientConnection.sameStream_withTimer _).status_eq]
      exact hconnected
    · refine ClientConnection.timerRunning_withTimer _ ?_
      rwa [ClientConnection.isEmpty_transmit] at hsome
  | acknowledged _ _ hconnected _ _ =>
    refine .of_connected hconnected h.timers_pos fun hsome => h.timed hconnected ?_
    rw [ClientConnection.isEmpty_transmit] at hsome
    cases hbefore : s.state.buffer.isEmpty with
    | false => rfl
    | true => cases (SendBuffer.isEmpty_acknowledge hbefore _).symm.trans hsome
  | resent hconnected _ =>
    refine .of_connected hconnected h.timers_pos fun hsome => ?_
    refine h.timed hconnected ?_
    rwa [SendBuffer.isEmpty_congr (SendBuffer.segments_retransmit _ _ _)] at hsome
  | stopped hstop =>
    refine h.followed hs rfl rfl nofun fun hconnected hsome => ?_
    rcases hstop with hstop | hnone
    · exact absurd hconnected hstop
    · cases hnone.symm.trans hsome
  | leaving hmove hconnected =>
    exact ⟨h.timers_pos, nofun, nofun, fun _ => leaving_of_disconnect hs₀ hmove hconnected, nofun⟩
  | confirmed hwait =>
    refine ⟨h.timers_pos, nofun, nofun, nofun, fun _ => ?_⟩
    exact (leaving_step (h.leaving hwait) hs).symm.imp_left (·.2)
  | called => exact h.followed hs rfl rfl h.timers_pos h.timed
  | gaveUp _ _ hsyn => exact .of_closed rfl (h.opening hsyn) h.timers_pos
  | left => exact .of_closed rfl rfl h.timers_pos

/-- **A turn keeps the timers of connections.** -/
theorem step
    (htended : ∀ s, b.client.sockets.socket? id = some s → b.Tended id s.state)
    (horderly : ∀ id node port, t.move = .connect id node port → ¬ b.Leaving id)
    {s : Socket ClientConnection} (hs : (b.step t).1.client.sockets.socket? id = some s) :
    (b.step t).1.Tended id s.state := by
  cases socket?_step hs with
  | fresh => exact .of_closed rfl rfl nofun
  | kept hs₀ =>
    have h := htended s hs₀
    exact h.followed hs rfl rfl h.timers_pos h.timed
  | ended hs₀ => exact .of_closed rfl rfl (htended _ hs₀).timers_pos
  | shifted hs₀ hshift => exact (htended _ hs₀).shifted horderly hs₀ hs hshift

end Tended

/-- **All connections keep their timers** in an orderly run. -/
theorem tended_run (hstart : ∀ id s, b.client.sockets.socket? id = some s → b.Tended id s.state)
    {turns : List ClientTurn} (horderly : b.Orderly turns) :
    ∀ id s, (b.run turns).client.sockets.socket? id = some s → (b.run turns).Tended id s.state := by
  induction turns using List.reverseRecOn with
  | nil => exact hstart
  | append_singleton turns t ih =>
    obtain ⟨hbefore, hlast⟩ := orderly_concat horderly
    intro id s hs
    rw [run_concat] at hs ⊢
    exact Tended.step (ih hbefore id) hlast hs

/-! ### What the timer reaches -/

/-- **The segments that the timer of a socket reaches.**  After any turns of a client, the segments
of a socket are stranded exactly if, in some turn since which nothing has happened to them, the
client tried to send while nothing was in flight and the link refused the first segment.  As long as
they are stranded, neither the timer nor a segment that arrives makes the client send anything for
the socket, and only more bytes that are sent or the end of the connection change them.  Otherwise
the oldest segment, if there is any, is in flight, and the timer sends it again when it is due,
unless the link refuses it.  In an orderly run a connection with anything to send has a timer. -/
theorem timer_reaches_run {settings : Settings} {c : Client}
    (hstart : Client.start settings = .ok c) (turns : List ClientTurn) {id : SocketId}
    {s : Socket ClientConnection}
    (hs : (run { client := c } turns).client.sockets.socket? id = some s) :
    (s.state.buffer.Stranded ↔ StrandedSince { client := c } turns id s.state.buffer) ∧
    (s.state.buffer.Stranded →
      (∀ now refuse, ((run { client := c } turns).client.pollTimer id now refuse).sent = []) ∧
      (∀ g now refuse, (run { client := c } turns).client.lookup g = some (id, s) →
        ((run { client := c } turns).client.handle g now refuse).sent = []) ∧
      ∀ t, (∀ data, t.move ≠ .send id data) →
        ((run { client := c } turns).step t).1.client.bufferAt id ∈
          [some s.state.buffer, some {}, none]) ∧
    (¬ s.state.buffer.Stranded → s.state.buffer.isEmpty = false →
      ∃ oldest rest, s.state.buffer.inFlight = oldest :: rest ∧
        (s.state.status = .connected → 0 < s.state.timers → ∀ now refuse,
          settings.dataTimeout ≤ now - oldest.sentAt →
          ((run { client := c } turns).client.pollTimer id now refuse).sent =
            (handOver refuse 0 (s.state.buffer.inFlight.map (·.segment))).1.map
              fun g => (s.state.serverNode, g))) ∧
    (Orderly { client := c } turns → s.state.status = .connected →
      s.state.buffer.isEmpty = false → s.state.timerRunning = true ∧ 0 < s.state.timers) := by
  obtain ⟨hvalid, rfl⟩ := Client.start_eq_ok hstart
  have hnone : ∀ id,
      (SocketTable.free settings.maxConnections : SocketTable ClientConnection).socket? id = none :=
    SocketTable.socket?_free _
  have hsettings := settings_run { client := ⟨settings, .free settings.maxConnections⟩ } turns
  refine ⟨?_, fun h => ⟨fun now refuse => ?_, fun g now refuse hfound => ?_, fun t hmove => ?_⟩,
    fun h hsome => ?_, fun horderly hconnected hsome => ?_⟩
  · refine stranded_run_iff (Settings.window_of_valid hvalid) (fun buffer hbuffer => ?_)
      (Client.bufferAt_eq hs)
    rw [Client.bufferAt, hnone] at hbuffer
    cases hbuffer
  · exact Client.sent_pollTimer_of_stranded hs h now refuse
  · exact Client.sent_handle_of_stranded hfound h now refuse
  · exact bufferAt_step_of_stranded (Client.bufferAt_eq hs) h hmove
  · obtain ⟨oldest, rest, hflight⟩ := SendBuffer.exists_inFlight h hsome
    refine ⟨oldest, rest, hflight, fun hconnected htimer now refuse hdue => ?_⟩
    exact Client.sent_pollTimer hs hconnected htimer hflight (by rwa [hsettings]) refuse
  · have htended := tended_run (fun id s hs => by cases (hnone id).symm.trans hs) horderly id s hs
    have hrunning := htended.timed hconnected hsome
    exact ⟨hrunning, htended.timers_pos hrunning⟩

/-! ### A byte that is never sent -/

/-- Port 7 of a client is connected to port 9 of node 1.  Then a byte is sent, which the link
refuses. -/
def refusedByte : List ClientTurn :=
  [{ move := .openSocket 7 }, { move := .connect 0 1 9 }, { move := .wake 0 },
    { move := .handle ((Segment.synOf 7 9 0).reply .synAck 1), now := 1 },
    { move := .wake 0, now := 2 },
    { move := .send 0 [5], now := 3,
      refuse := Uplink.refusal { allowance := some 0, reason := "" } }]

/-- The client after that. -/
def withRefusedByte : BusyClient :=
  run { client := ⟨{}, .free 10⟩ } refusedByte

theorem exists_refusedByte : ∃ s, withRefusedByte.client.sockets.socket? 0 = some s ∧
    s.state.status = .connected ∧ s.state.buffer.inFlight.length = 0 ∧
    s.state.buffer.waiting = [Segment.dataOf 7 9 1 [5]] ∧ s.state.timers = 1 := by
  have hmap : (withRefusedByte.client.sockets.socket? 0).map (fun s =>
      (s.state.status, s.state.buffer.inFlight.length, s.state.buffer.waiting, s.state.timers)) =
        some (.connected, 0, [Segment.dataOf 7 9 1 [5]], 1) := by decide +kernel
  obtain ⟨s, hs, heq⟩ := Option.map_eq_some_iff.1 hmap
  simp only [Prod.mk.injEq] at heq
  exact ⟨s, hs, heq⟩

/-- The byte became stranded, and the connection has a timer. -/
theorem timer_reaches_refusedByte :
    Client.start {} = .ok ⟨{}, .free 10⟩ ∧ ∃ s,
      withRefusedByte.client.sockets.socket? 0 = some s ∧ s.state.buffer.Stranded ∧
      StrandedSince { client := ⟨{}, .free 10⟩ } refusedByte 0 s.state.buffer ∧
      Orderly { client := ⟨{}, .free 10⟩ } refusedByte ∧ s.state.timerRunning = true := by
  obtain ⟨s, hs, hconnected, hflight, hwait, -⟩ := exists_refusedByte
  obtain ⟨hsince, -, -, htimer⟩ :=
    timer_reaches_run (show Client.start {} = _ from rfl) refusedByte hs
  have hstranded : s.state.buffer.Stranded :=
    ⟨List.length_eq_zero_iff.1 hflight, hwait ▸ List.cons_ne_nil _ _⟩
  have hsome : s.state.buffer.isEmpty = false := by
    rw [SendBuffer.isEmpty, hwait, Bool.and_eq_false_imp]
    exact fun _ => rfl
  -- there are no calls when the only call to connect begins
  have horderly : Orderly { client := ⟨{}, .free 10⟩ } refusedByte := by
    have hnone : ¬ Leaving { client := ⟨{}, .free 10⟩ } 0 := by
      rintro ⟨call, hmem, -⟩
      cases hmem
    refine ⟨?_, ?_, ?_, ?_, ?_, ?_, trivial⟩
    all_goals
      intro id node port hmove
      cases hmove
    exact hnone
  exact ⟨rfl, s, hs, hstranded, hsince.1 hstranded, horderly, (htimer horderly hconnected hsome).1⟩

/-- **A byte that is never sent.**  The socket is connected, its byte waits, nothing is in flight,
and the timer sends nothing, however long it waits. -/
theorem silent_timer :
    Client.start {} = .ok ⟨{}, .free 10⟩ ∧ ∃ s,
      withRefusedByte.client.sockets.socket? 0 = some s ∧ s.state.status = .connected ∧
      s.state.buffer.isEmpty = false ∧ s.state.buffer.inFlight = [] ∧ 0 < s.state.timers ∧
      ∀ now, (withRefusedByte.client.pollTimer 0 now neverRefused).sent = [] := by
  obtain ⟨s, hs, hconnected, hflight, hwait, htimers⟩ := exists_refusedByte
  have hnone := List.length_eq_zero_iff.1 hflight
  refine ⟨rfl, s, hs, hconnected, ?_, hnone, htimers ▸ Nat.one_pos, fun now => ?_⟩
  · rw [SendBuffer.isEmpty, hwait, Bool.and_eq_false_imp]
    exact fun _ => rfl
  · exact Client.sent_pollTimer_of_stranded hs ⟨hnone, hwait ▸ List.cons_ne_nil _ _⟩ now _

end BusyClient

end OverlayStack.Transport
