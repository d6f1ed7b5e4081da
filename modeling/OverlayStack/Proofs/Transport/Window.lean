import OverlayStack.Proofs.Transport.Endpoints

/-!
# Windows and timers

No segment of a client waits while there is room in the window, everything in flight was sent at
some earlier time, and a connection with anything to send has a timer.  All operations of a client
with one socket keep this.  It is what makes a client go on once its segments get through: an
acknowledgment makes room for the segments that wait, and if no acknowledgment comes, the timer
sends what is in flight again.

## Main definitions

* `SendBuffer.Full` — no segment waits while there is room in the window.
* `ClientConnection.Paced` — the invariant of a connection.
* `ClientConnection.afterAck` — what an acknowledgment does.

## Main results

* `SendBuffer.exists_acknowledge`, `ClientConnection.exists_afterAck` — what is removed and sent.
* `ClientConnection.Paced.sent_of_timed` — what a timer sends that is due.
* `Client.Sole.handle_dataAck` — what an acknowledgment for the socket does.
* `Client.Sole.paced_handle`, `Client.Sole.paced_send`, `Client.Sole.paced_pollTimer` — the
  operations keep the invariant.
-/

namespace OverlayStack.Transport

/-! ### Send buffers -/

namespace SendBuffer

variable {b : SendBuffer} {window now : Nat}

/-- No segment waits while there is room in the window. -/
def Full (b : SendBuffer) (window : Nat) : Prop :=
  b.waiting = [] ∨ window ≤ b.inFlight.length

theorem isEmpty_eq_true_iff : b.isEmpty = true ↔ b.inFlight = [] ∧ b.waiting = [] := by
  rw [isEmpty, Bool.and_eq_true, List.isEmpty_iff, List.isEmpty_iff]

theorem isEmpty_eq_true_iff_segments : b.isEmpty = true ↔ b.segments = [] := by
  rw [isEmpty_eq_true_iff, segments, List.append_eq_nil_iff, List.map_eq_nil_iff]

theorem isEmpty_congr {b' : SendBuffer} (h : b'.segments = b.segments) :
    b'.isEmpty = b.isEmpty := by
  rw [Bool.eq_iff_iff, isEmpty_eq_true_iff_segments, isEmpty_eq_true_iff_segments, h]

/-- With nothing in flight, a full window is an empty one. -/
theorem Full.isEmpty_of_inFlight (h : b.Full window) (hw : 0 < window) (hnone : b.inFlight = []) :
    b.isEmpty = true := by
  rcases h with hwait | hle
  · exact isEmpty_eq_true_iff.2 ⟨hnone, hwait⟩
  · rw [hnone, List.length_nil] at hle
    omega

/-- The segments that there is room for are sent. -/
theorem transmit_eq (b : SendBuffer) (window now : Nat) :
    b.transmit window now neverRefused =
      ({ inFlight := b.inFlight ++
          (b.waiting.take (window - b.inFlight.length)).map fun s => ⟨s, now⟩
         waiting := b.waiting.drop (window - b.inFlight.length) },
        b.waiting.take (window - b.inFlight.length), none) := by
  have hdrop : b.waiting.drop (b.waiting.take (window - b.inFlight.length)).length =
      b.waiting.drop (window - b.inFlight.length) := by
    rw [List.length_take]
    rcases Nat.le_total (window - b.inFlight.length) b.waiting.length with hle | hle
    · rw [Nat.min_eq_left hle]
    · rw [Nat.min_eq_right hle, List.drop_length, List.drop_eq_nil_of_le hle]
  rw [transmit, handOver_neverRefused]
  dsimp only
  rw [hdrop]

theorem full_transmit (b : SendBuffer) (window now : Nat) :
    (b.transmit window now neverRefused).1.Full window := by
  rw [transmit_eq]
  by_cases hle : b.waiting.length ≤ window - b.inFlight.length
  · exact .inl (List.drop_eq_nil_of_le hle)
  · refine .inr ?_
    rw [List.length_append, List.length_map, List.length_take]
    omega

/-- An acknowledgment removes the front of what is in flight whose numbers are below it. -/
theorem exists_acknowledge (b : SendBuffer) (ack : UInt32) :
    ∃ gone kept, b.inFlight = gone ++ kept ∧
      b.acknowledge ack = ({ b with inFlight := kept }, gone.length) ∧
      (∀ f ∈ gone, f.segment.seq < ack) ∧ ∀ f ∈ kept.head?, ¬ f.segment.seq < ack := by
  have hsplit := (List.takeWhile_append_dropWhile (p := fun f : InFlight => f.segment.seq < ack)
    (l := b.inFlight)).symm
  refine ⟨_, _, hsplit, ?_, fun f hf => ?_, fun f hf => ?_⟩
  · rw [acknowledge]
    conv => lhs; arg 2; arg 1; rw [hsplit]
    rw [List.length_append, Nat.add_sub_cancel]
  · simpa using List.mem_takeWhile_imp hf
  · have hnot := List.head?_dropWhile_not (fun f : InFlight => decide (f.segment.seq < ack))
      b.inFlight
    rw [hf] at hnot
    simpa using hnot

end SendBuffer

/-! ### Connections -/

namespace ClientConnection

variable {x : ClientConnection} {window now : Nat}

/-- The window is full, everything in flight was sent by now, and a connection with anything to send
has a timer.  Before there is a connection there is nothing to send. -/
structure Paced (window now : Nat) (x : ClientConnection) : Prop where
  full : x.buffer.Full window
  sentAt_le : ∀ f ∈ x.buffer.inFlight, f.sentAt ≤ now
  timers_pos : x.timerRunning = true → 0 < x.timers
  timed : x.status = .connected → x.buffer.isEmpty = false → x.timerRunning = true
  opening : x.status = .synSent → x.buffer.isEmpty = true

namespace Paced

theorem later (h : x.Paced window now) {now' : Nat} (hle : now ≤ now') : x.Paced window now' :=
  { h with sentAt_le := fun f hf => Nat.le_trans (h.sentAt_le f hf) hle }

/-- A connection that is granted. -/
theorem granted (h : x.Paced window now) (hs : x.status = .synSent) :
    Paced window now { x with status := .connected } :=
  { h with
    timed := fun _ hsome => by
      have hnone := h.opening hs
      rw [show x.buffer.isEmpty = false from hsome] at hnone
      cases hnone
    opening := nofun }

/-- A connection that is on its way to its end. -/
theorem leaving (h : x.Paced window now) {status : Status} (hs : status ≠ .connected)
    (hs' : status ≠ .synSent) : Paced window now { x with status } :=
  { h with
    timed := fun hc => absurd hc hs
    opening := fun hc => absurd hc hs' }

/-- A connection that is asked for while there is nothing to send. -/
theorem asked (h : x.Paced window now) (hnone : x.buffer.isEmpty = true) {node : NodeId}
    {port seq : UInt32} :
    Paced window now
      { x with serverNode := node, serverPort := port, nextSeq := seq, status := .synSent } :=
  ⟨h.full, h.sentAt_le, h.timers_pos, nofun, fun _ => hnone⟩

/-- Everything in flight has been sent again now. -/
theorem retransmit (h : x.Paced window now) :
    Paced window now { x with buffer := { x.buffer with
      inFlight := x.buffer.inFlight.map fun f => ⟨f.segment, now⟩ } } := by
  have hempty : SendBuffer.isEmpty { x.buffer with
      inFlight := x.buffer.inFlight.map fun f => ⟨f.segment, now⟩ } = x.buffer.isEmpty :=
    SendBuffer.isEmpty_congr (by simp [SendBuffer.segments, Function.comp_def])
  refine ⟨?_, fun f hf => ?_, h.timers_pos, fun hs hsome => h.timed hs (hempty ▸ hsome),
    fun hs => hempty.trans (h.opening hs)⟩
  · refine h.full.imp_right fun hle => ?_
    rwa [List.length_map]
  · obtain ⟨_, -, rfl⟩ := List.mem_map.1 hf
    exact Nat.le_refl _

theorem ended (h : x.Paced window now) : x.ended.Paced window now where
  full := .inl rfl
  sentAt_le := fun _ hf => absurd hf List.not_mem_nil
  timers_pos := h.timers_pos
  timed := nofun
  opening := nofun

theorem of_left (h : x.Paced window now) {x' : ClientConnection} (hx : x.Left x') :
    x'.Paced window now := by
  cases hx with
  | kept => exact h
  | closed => exact h.leaving (by decide) (by decide)
  | ended => exact h.ended

theorem of_timed (h : x.Paced window now) {timeout : Nat} {x' : ClientConnection}
    {sent : List Segment} (hx : x.Timed timeout now x' sent) : x'.Paced window now := by
  cases hx with
  | waiting => exact h
  | stopped hstop =>
    refine ⟨h.full, h.sentAt_le, nofun, fun hs hsome => ?_, h.opening⟩
    rcases hstop with hstop | hstop
    · exact absurd hs hstop
    · rw [show x.buffer.isEmpty = false from hsome] at hstop
      cases hstop
  | resent => exact h.retransmit

/-- A timer that is due sends everything in flight again. -/
theorem sent_of_timed {before timeout : Nat} (h : x.Paced window before)
    (hs : x.status = .connected) (hdue : before + timeout ≤ now) {x' : ClientConnection}
    {sent : List Segment} (hx : x.Timed timeout now x' sent) :
    x'.buffer = (x.buffer.retransmit now neverRefused).1 ∧
      sent = (x.buffer.retransmit now neverRefused).2.1 := by
  rw [SendBuffer.retransmit_eq]
  have hquiet : x.buffer.inFlight = [] →
      x.buffer = { x.buffer with inFlight := x.buffer.inFlight.map fun f => ⟨f.segment, now⟩ } ∧
        [] = x.buffer.inFlight.map (·.segment) := fun hnone => by
    rw [hnone]
    exact ⟨congrArg (SendBuffer.mk · x.buffer.waiting) hnone, rfl⟩
  cases hx with
  | waiting hwait =>
    refine hquiet ?_
    -- otherwise there would be a timer, and the oldest segment would have been there for too long
    refine List.eq_nil_iff_forall_not_mem.2 fun f hf => ?_
    obtain ⟨oldest, rest, hflight⟩ := List.exists_cons_of_ne_nil (List.ne_nil_of_mem hf)
    have hsome : x.buffer.isEmpty = false := by
      rw [SendBuffer.isEmpty, hflight]
      rfl
    rcases hwait with hwait | hwait
    · exact Nat.ne_of_gt (h.timers_pos (h.timed hs hsome)) hwait
    · have hle := h.sentAt_le oldest (hflight ▸ List.mem_cons_self)
      rw [SendBuffer.isTimedOut, SendBuffer.oldestSentAt?, hflight] at hwait
      simp only [List.head?_cons, Option.map_some, decide_eq_false_iff_not] at hwait
      omega
  | stopped hstop =>
    exact hquiet (SendBuffer.isEmpty_eq_true_iff.1 (hstop.resolve_left fun hne => hne hs)).1
  | resent => exact ⟨rfl, rfl⟩

end Paced

theorem buffer_withTimer (x : ClientConnection) :
    x.withTimer.buffer = x.buffer := by
  unfold withTimer
  split <;> rfl

/-- A connection that looks for a timer has one, unless there is nothing to send. -/
theorem timerRunning_withTimer (x : ClientConnection)
    (hsome : x.withTimer.buffer.isEmpty = false) : x.withTimer.timerRunning = true := by
  rw [buffer_withTimer] at hsome
  unfold withTimer
  split
  · next hor =>
    rw [hsome, Bool.false_or] at hor
    exact hor
  · rfl

theorem timers_pos_withTimer (h : x.timerRunning = true → 0 < x.timers) :
    x.withTimer.timerRunning = true → 0 < x.withTimer.timers := by
  unfold withTimer
  split
  · exact h
  · exact fun _ => Nat.succ_pos _

/-- A connection that has filled its window. -/
theorem paced_transmit (hs : x.status = .connected)
    (hsent : ∀ f ∈ x.buffer.inFlight, f.sentAt ≤ now)
    (htimers : x.timerRunning = true → 0 < x.timers)
    (htimed : x.buffer.isEmpty = false → x.timerRunning = true) :
    Paced window now (x.transmit window now neverRefused).1 where
  full := x.buffer.full_transmit window now
  sentAt_le := fun f hf => by
    change f ∈ (x.buffer.transmit window now neverRefused).1.inFlight at hf
    rw [SendBuffer.transmit_eq] at hf
    rcases List.mem_append.1 hf with hf | hf
    · exact hsent f hf
    · obtain ⟨g, -, rfl⟩ := List.mem_map.1 hf
      exact Nat.le_refl _
  timers_pos := htimers
  timed := fun _ hsome => by
    change (x.buffer.transmit window now neverRefused).1.isEmpty = false at hsome
    rw [SendBuffer.isEmpty_congr (SendBuffer.segments_transmit _ _ _ _)] at hsome
    exact htimed hsome
  opening := fun hs' => by
    cases hs.symm.trans hs'

/-- The connection after an acknowledgment, and the segments that it sends then. -/
def afterAck (x : ClientConnection) (ack : UInt32) (window now : Nat) :
    ClientConnection × List Segment :=
  let acknowledged := x.buffer.acknowledge ack
  let x := { x with buffer := acknowledged.1 }
  if acknowledged.2 = 0 then (x, [])
  else
    let sent := x.transmit window now neverRefused
    (sent.1, sent.2.1.map (·.2))

theorem status_afterAck (x : ClientConnection) (ack : UInt32) (window now : Nat) :
    (x.afterAck ack window now).1.status = x.status := by
  unfold afterAck
  dsimp only
  split <;> rfl

theorem heeds_afterAck (hs : x.status = .connected) {g : Segment} (hk : g.kind = .dataAck)
    (window now : Nat) :
    x.Heeds g (x.afterAck g.ack window now).1 (x.afterAck g.ack window now).2 := by
  unfold afterAck
  dsimp only
  split
  · exact .acknowledged hs hk (.refl _) (List.nil_subset _)
  · exact .acknowledged hs hk (sameStream_transmit _ _ _) (sent_transmit _ _ _)

/-- **What an acknowledgment does**: a front of what is in flight is removed, and segments that
waited are sent. -/
theorem exists_afterAck (x : ClientConnection) (ack : UInt32) (window now : Nat) :
    ∃ gone kept sent waiting, x.buffer.inFlight = gone ++ kept ∧
      (∀ f ∈ gone, f.segment.seq < ack) ∧ (∀ f ∈ kept.head?, ¬ f.segment.seq < ack) ∧
      x.buffer.waiting = sent ++ waiting ∧
      x.afterAck ack window now =
        ({ x with buffer := ⟨kept ++ sent.map fun s => ⟨s, now⟩, waiting⟩ }, sent) := by
  obtain ⟨gone, kept, hsplit, hack, hgone, hkept⟩ := x.buffer.exists_acknowledge ack
  rw [afterAck, hack]
  dsimp only
  split
  · exact ⟨gone, kept, [], x.buffer.waiting, hsplit, hgone, hkept, rfl, by simp⟩
  · refine ⟨gone, kept, _, _, hsplit, hgone, hkept,
      (List.take_append_drop (window - kept.length) x.buffer.waiting).symm, ?_⟩
    rw [transmit, SendBuffer.transmit_eq]
    simp [Function.comp_def]

theorem Paced.afterAck (h : x.Paced window now) (hs : x.status = .connected) (ack : UInt32) :
    Paced window now (x.afterAck ack window now).1 := by
  obtain ⟨gone, kept, hsplit, hack, -, -⟩ := x.buffer.exists_acknowledge ack
  have hsent : ∀ f ∈ kept, f.sentAt ≤ now := fun f hf =>
    h.sentAt_le f (hsplit ▸ List.mem_append_right _ hf)
  rw [ClientConnection.afterAck, hack]
  dsimp only
  split
  · next hnone =>
    rw [List.length_eq_zero_iff] at hnone
    rw [hnone, List.nil_append] at hsplit
    rw [← hsplit]
    exact h
  -- something was in flight, so that there is a timer
  · next hsome =>
    have htimer : x.timerRunning = true := by
      refine h.timed hs (Bool.eq_false_iff.2 fun hempty => hsome ?_)
      rw [(SendBuffer.isEmpty_eq_true_iff.1 hempty).1] at hsplit
      rw [(List.append_eq_nil_iff.1 hsplit.symm).1, List.length_nil]
    exact paced_transmit hs hsent h.timers_pos fun _ => htimer

end ClientConnection

/-! ### Clients -/

namespace Client.Sole

variable {c : Client} {settings : Settings} {id : SocketId} {port : UInt32} {x : ClientConnection}
  {now : Nat}

/-- A client with one socket has one connection. -/
theorem connection_eq (h : c.Sole settings id port x) {settings' : Settings} {port' : UInt32}
    {x' : ClientConnection} (h' : c.Sole settings' id port' x') : x' = x := by
  have hsame := (h'.sockets id).symm.trans (h.sockets id)
  rw [if_pos rfl, if_pos rfl] at hsame
  exact (Socket.mk.inj (Option.some.inj hsame)).2

/-- An acknowledgment for the socket of a connection. -/
theorem handle_dataAck (h : c.Sole settings id port x) (hs : x.status = .connected) {g : Segment}
    (hk : g.kind = .dataAck) (hdest : g.destPort = port) (hsource : g.sourcePort = x.serverPort)
    (now : Nat) :
    (c.handle g now neverRefused).state.Sole settings id port
        (x.afterAck g.ack settings.window now).1 ∧
      (c.handle g now neverRefused).sent.map (·.2) = (x.afterAck g.ack settings.window now).2 := by
  have hfound : c.lookup g = some (id, ⟨port, x⟩) := by
    rw [Client.lookup, h.sockets.find?_eq, hdest, hsource, hs]
    simp
  unfold Client.handle ClientConnection.afterAck
  rw [hfound, h.settings_eq]
  simp only [hs, hk]
  split
  · exact ⟨h.set _, rfl⟩
  · exact ⟨h.set _, rfl⟩

/-- Nothing else does anything to a connection. -/
theorem handle_of_ne (h : c.Sole settings id port x) (hs : x.status = .connected) {g : Segment}
    (hne : ¬ (g.kind = .dataAck ∧ g.destPort = port ∧ g.sourcePort = x.serverPort)) (now : Nat) :
    (c.handle g now neverRefused).state = c ∧ (c.handle g now neverRefused).sent = [] := by
  unfold Client.handle Client.lookup
  rw [h.sockets.find?_eq]
  split
  · exact ⟨rfl, rfl⟩
  · next hfound =>
    split at hfound
    · next hmatch =>
      cases hfound
      simp only [Bool.and_eq_true, beq_iff_eq] at hmatch
      dsimp only
      split
      · next hs' _ => cases hs.symm.trans hs'
      · next hs' _ => cases hs.symm.trans hs'
      · next hk => exact absurd ⟨hk, hmatch.1.1.symm, hmatch.2.symm⟩ hne
      · exact ⟨rfl, rfl⟩
      · exact ⟨rfl, rfl⟩
      · exact ⟨rfl, rfl⟩
    · cases hfound

theorem paced_handle (h : c.Sole settings id port x) (hp : x.Paced settings.window now)
    (g : Segment) :
    ∃ x', (c.handle g now neverRefused).state.Sole settings id port x' ∧
      x'.Paced settings.window now := by
  by_cases hs : x.status = .connected
  · by_cases hack : g.kind = .dataAck ∧ g.destPort = port ∧ g.sourcePort = x.serverPort
    · obtain ⟨hk, hdest, hsource⟩ := hack
      exact ⟨_, (h.handle_dataAck hs hk hdest hsource now).1, hp.afterAck hs g.ack⟩
    · rw [(h.handle_of_ne hs hack now).1]
      exact ⟨x, h, hp⟩
  · obtain ⟨x', sent, hx, hsole, -⟩ := h.handle g now
    refine ⟨x', hsole, ?_⟩
    cases hx with
    | ignored => exact hp
    | granted hsyn => exact hp.granted hsyn
    | left => exact hp.leaving (by decide) (by decide)
    | acknowledged hs' => exact absurd hs' hs

theorem paced_send (h : c.Sole settings id port x) (hp : x.Paced settings.window now)
    (j : SocketId) (data : Bytes) :
    ∃ x', (c.send j data now neverRefused).state.Sole settings id port x' ∧
      x'.Paced settings.window now := by
  by_cases hs : j = id ∧ x.status = .connected
  · obtain ⟨rfl, hs⟩ := hs
    unfold Client.send
    rw [h.sockets.require_self]
    dsimp only
    rw [if_pos hs, h.settings_eq]
    refine ⟨_, h.set _, ?_⟩
    apply ClientConnection.paced_transmit
    · exact (ClientConnection.sameStream_withTimer _).status_eq.trans hs
    · rw [ClientConnection.buffer_withTimer]
      exact hp.sentAt_le
    · exact ClientConnection.timers_pos_withTimer hp.timers_pos
    · exact ClientConnection.timerRunning_withTimer _
  · obtain ⟨err, herr⟩ := h.send_of_ne (fun hid hc => hs ⟨hid, hc⟩) data now
    rw [herr]
    exact ⟨x, h, hp⟩

theorem paced_pollTimer (h : c.Sole settings id port x) (hp : x.Paced settings.window now)
    (j : SocketId) :
    ∃ x', (c.pollTimer j now neverRefused).state.Sole settings id port x' ∧
      x'.Paced settings.window now := by
  by_cases hj : j = id
  · subst hj
    obtain ⟨x', sent, hx, hsole, -⟩ := h.pollTimer_self now
    exact ⟨x', hsole, hp.of_timed hx⟩
  · rw [h.pollTimer_of_ne hj]
    exact ⟨x, h, hp⟩

end Client.Sole

end OverlayStack.Transport
