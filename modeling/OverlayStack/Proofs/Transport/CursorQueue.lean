import OverlayStack.Proofs.Transport.SendLedger

/-!
# Send buffers as queues with a cursor

A send buffer can be kept as one queue, with a cursor that counts the segments in flight.  The shape
of such a queue does not say that the cursor lies in the queue, or that just the segments before the
cursor have a time at which they were sent.  It is the operations that see to this, which go through
the queue one segment after another.

The queues for which this holds are just those of send buffers, and each operation does to the queue
of a send buffer what the operation of the same name does to the buffer.  So whatever happens to an
empty queue, it remains the queue of the send buffer to which the same has happened.

## Main definitions

* `CursorQueue` — segments with the times of their last transmissions, and a cursor.
* `CursorQueue.push`, `CursorQueue.transmit`, `CursorQueue.acknowledge`, `CursorQueue.retransmit` —
  its operations, one segment after another.
* `CursorQueue.Divided` — the cursor divides what was sent from what was not.
* `SendBuffer.toQueue` — the queue of a send buffer.

## Main results

* `CursorQueue.divided_iff` — which queues are those of send buffers.
* `SendBuffer.transmit_toQueue`, `SendBuffer.acknowledge_toQueue`, `SendBuffer.retransmit_toQueue` —
  the operations on the queue of a send buffer.
* `SendBuffer.move_toQueue`, `CursorQueue.Divided.move` — one move.
* `CursorQueue.simulates_sendBuffer` — a queue after any moves.
-/

namespace OverlayStack.Transport

variable {ε : Type}

/-- Segments, oldest first, with the times of their last transmissions if they were sent. -/
structure CursorQueue where
  entries : List (Segment × Option Nat) := []
  /-- How many of the segments are in flight. -/
  cursor : Nat := 0

namespace CursorQueue

/-! ### Operations -/

/-- The number of segments that wait for room in the window. -/
def unsent (q : CursorQueue) : Nat :=
  q.entries.length - q.cursor

/-- The queue with one more segment at the end, and whether it was empty before. -/
def push (q : CursorQueue) (s : Segment) : CursorQueue × Bool :=
  ({ q with entries := q.entries ++ [(s, none)] }, q.entries.isEmpty)

/-- The queue after the segment at the cursor was sent. -/
def advance (q : CursorQueue) (s : Segment) (now : Nat) : CursorQueue :=
  ⟨q.entries.set q.cursor (s, some now), q.cursor + 1⟩

/-- Sends the segment at the cursor and moves the cursor on, for as long as there is a segment and
fewer than `window` are in flight.  The first segment is the `n`-th of the operation. -/
def transmitFrom (window now : Nat) (refuse : Refusal ε) (n : Nat) (q : CursorQueue) :
    CursorQueue × List Segment × Option ε :=
  if h : q.cursor < window ∧ q.cursor < q.entries.length then
    let s := q.entries[q.cursor].1
    match refuse n s with
    | some e => (q, [], some e)
    | none =>
      let (q', sent, e) := transmitFrom window now refuse (n + 1) (q.advance s now)
      (q', s :: sent, e)
  else (q, [], none)
termination_by q.entries.length - q.cursor
decreasing_by
  simp only [advance, List.length_set]
  omega

theorem transmitFrom_of_room {window now n : Nat} {refuse : Refusal ε} {q : CursorQueue}
    {s : Segment} {sentAt : Option Nat} (hroom : q.cursor < window)
    (hs : q.entries[q.cursor]? = some (s, sentAt)) :
    transmitFrom window now refuse n q =
      match refuse n s with
      | some e => (q, [], some e)
      | none =>
        let (q', sent, e) := transmitFrom window now refuse (n + 1) (q.advance s now)
        (q', s :: sent, e) := by
  obtain ⟨hlt, hget⟩ := List.getElem?_eq_some_iff.1 hs
  rw [transmitFrom, dif_pos ⟨hroom, hlt⟩]
  simp only [hget]

theorem transmitFrom_of_full {window now n : Nat} {refuse : Refusal ε} {q : CursorQueue}
    (h : ¬ (q.cursor < window ∧ q.cursor < q.entries.length)) :
    transmitFrom window now refuse n q = (q, [], none) := by
  rw [transmitFrom, dif_neg h]

/-- Sends waiting segments while fewer than `window` are in flight. -/
def transmit (q : CursorQueue) (window now : Nat) (refuse : Refusal ε) :
    CursorQueue × List Segment × Option ε :=
  transmitFrom window now refuse 0 q

/-- Takes segments from the front for as long as they are in flight and have numbers below `ack`,
and counts them. -/
def acknowledgeFrom (ack : UInt32) : List (Segment × Option Nat) → Nat → CursorQueue × Nat
  | [], cursor => (⟨[], cursor⟩, 0)
  | entry :: rest, 0 => (⟨entry :: rest, 0⟩, 0)
  | entry :: rest, cursor + 1 =>
    if entry.1.seq < ack then
      let (q, removed) := acknowledgeFrom ack rest cursor
      (q, removed + 1)
    else (⟨entry :: rest, cursor + 1⟩, 0)

/-- Removes the segments in flight from the oldest one on whose numbers are below `ack`, and counts
them. -/
def acknowledge (q : CursorQueue) (ack : UInt32) : CursorQueue × Nat :=
  acknowledgeFrom ack q.entries q.cursor

/-- When the oldest segment in flight was last sent. -/
def oldestSentAt? (q : CursorQueue) : Option Nat :=
  if q.cursor = 0 then none else q.entries.head?.bind (·.2)

/-- Whether the oldest segment in flight has been there for a given time. -/
def isTimedOut (q : CursorQueue) (timeout now : Nat) : Bool :=
  q.oldestSentAt?.any fun sentAt => timeout ≤ now - sentAt

/-- Sends segments again one after another, and notes the time for each that the link takes.  The
first segment is the `n`-th of the operation. -/
def resendFrom (now : Nat) (refuse : Refusal ε) (n : Nat) :
    List (Segment × Option Nat) → List (Segment × Option Nat) × List Segment × Option ε
  | [] => ([], [], none)
  | (s, sentAt) :: rest =>
    match refuse n s with
    | some e => ((s, sentAt) :: rest, [], some e)
    | none =>
      let (rest', sent, e) := resendFrom now refuse (n + 1) rest
      ((s, some now) :: rest', s :: sent, e)

/-- Sends everything in flight again. -/
def retransmit (q : CursorQueue) (now : Nat) (refuse : Refusal ε) :
    CursorQueue × List Segment × Option ε :=
  let (front, sent, e) := resendFrom now refuse 0 (q.entries.take q.cursor)
  ({ q with entries := front ++ q.entries.drop q.cursor }, sent, e)

/-- The queue after a move. -/
def move (q : CursorQueue) : BufferMove ε → CursorQueue
  | .push s => (q.push s).1
  | .transmit window now refuse => (q.transmit window now refuse).1
  | .acknowledge ack => (q.acknowledge ack).1
  | .retransmit now refuse => (q.retransmit now refuse).1
  | .clear => {}

/-- The queue after some moves of an empty queue. -/
def run (moves : List (BufferMove ε)) : CursorQueue :=
  moves.foldl move {}

/-- The cursor lies in the queue, and divides the segments that were sent from the others. -/
structure Divided (q : CursorQueue) : Prop where
  cursor_le : q.cursor ≤ q.entries.length
  sent_iff : ∀ i s sentAt, q.entries[i]? = some (s, sentAt) →
    (sentAt.isSome = true ↔ i < q.cursor)

end CursorQueue

/-! ### Queues of send buffers -/

namespace SendBuffer

/-- The queue of a send buffer. -/
def toQueue (b : SendBuffer) : CursorQueue :=
  ⟨b.entries, b.cursor⟩

@[simp] theorem entries_toQueue (b : SendBuffer) : b.toQueue.entries = b.entries := rfl

@[simp] theorem cursor_toQueue (b : SendBuffer) : b.toQueue.cursor = b.inFlight.length := rfl

@[simp] theorem length_entries (b : SendBuffer) : b.entries.length = b.length := by
  simp [entries, length]

@[simp] theorem isEmpty_entries (b : SendBuffer) : b.entries.isEmpty = b.isEmpty := by
  rw [Bool.eq_iff_iff]
  simp [entries, isEmpty]

theorem entries_mk_cons (f : InFlight) (inFlight : List InFlight) (waiting : List Segment) :
    entries ⟨f :: inFlight, waiting⟩ =
      (f.segment, some f.sentAt) :: entries ⟨inFlight, waiting⟩ := rfl

theorem divided_toQueue (b : SendBuffer) : b.toQueue.Divided where
  cursor_le := by simp [length]
  sent_iff i _ _ := b.isSome_entries_iff i

end SendBuffer

namespace CursorQueue

/-- The send buffer of a queue. -/
def toBuffer (q : CursorQueue) : SendBuffer where
  inFlight := (q.entries.take q.cursor).map fun entry => ⟨entry.1, entry.2.getD 0⟩
  waiting := (q.entries.drop q.cursor).map (·.1)

theorem Divided.toQueue_toBuffer {q : CursorQueue} (h : q.Divided) : q.toBuffer.toQueue = q := by
  have hsent : ∀ entry ∈ q.entries.take q.cursor, (entry.1, some (entry.2.getD 0)) = entry := by
    rintro ⟨s, sentAt⟩ hmem
    obtain ⟨i, hi, hentry⟩ := List.mem_take_iff_getElem.1 hmem
    have hsome := (h.sent_iff i s sentAt (by simp [← hentry])).2 (by omega)
    obtain ⟨time, rfl⟩ := Option.isSome_iff_exists.1 hsome
    rfl
  have hwaits : ∀ entry ∈ q.entries.drop q.cursor, (entry.1, none) = entry := by
    rintro ⟨s, sentAt⟩ hmem
    obtain ⟨i, hi, hentry⟩ := List.mem_drop_iff_getElem.1 hmem
    have hnot := h.sent_iff (q.cursor + i) s sentAt (by simp [← hentry])
    cases sentAt with
    | none => rfl
    | some time => exact absurd (hnot.1 rfl) (by omega)
  have hentries : q.toBuffer.entries = q.entries := by
    simp only [toBuffer, SendBuffer.entries, List.map_map, Function.comp_def]
    rw [List.map_congr_left hsent, List.map_congr_left hwaits, List.map_id', List.map_id',
      List.take_append_drop]
  have hcursor : q.toBuffer.cursor = q.cursor := by
    simp [toBuffer, SendBuffer.cursor, h.cursor_le]
  rw [SendBuffer.toQueue, hentries, hcursor]

/-- **The queues that a cursor divides are those of send buffers.** -/
theorem divided_iff {q : CursorQueue} : q.Divided ↔ ∃ b : SendBuffer, b.toQueue = q := by
  constructor
  · intro h
    exact ⟨q.toBuffer, h.toQueue_toBuffer⟩
  · rintro ⟨b, rfl⟩
    exact b.divided_toQueue

end CursorQueue

/-! ### Operations on queues of send buffers -/

namespace SendBuffer

open CursorQueue

theorem push_toQueue (b : SendBuffer) (s : Segment) :
    b.toQueue.push s = ((b.push s).toQueue, b.isEmpty) := by
  rw [CursorQueue.push, entries_toQueue, isEmpty_entries]
  simp [SendBuffer.push, toQueue, entries, cursor]

theorem advance_toQueue (inFlight : List InFlight) (s : Segment) (rest : List Segment) (now : Nat) :
    (toQueue ⟨inFlight, s :: rest⟩).advance s now = toQueue ⟨inFlight ++ [⟨s, now⟩], rest⟩ := by
  simp [CursorQueue.advance, toQueue, entries, cursor]

theorem transmitFrom_toQueue (window now : Nat) (refuse : Refusal ε) (waiting : List Segment) :
    ∀ (n : Nat) (inFlight : List InFlight),
      transmitFrom window now refuse n (toQueue ⟨inFlight, waiting⟩) =
        let (taken, e) := handOver refuse n (waiting.take (window - inFlight.length))
        (toQueue ⟨inFlight ++ taken.map (InFlight.mk · now), waiting.drop taken.length⟩, taken,
          e) := by
  induction waiting with
  | nil =>
    intro n inFlight
    rw [transmitFrom_of_full (by simp [length])]
    simp [handOver]
  | cons s rest ih =>
    intro n inFlight
    by_cases hroom : inFlight.length < window
    · have hnext : (toQueue ⟨inFlight, s :: rest⟩).entries[inFlight.length]? = some (s, none) := by
        simp [entries]
      have htake :
          window - inFlight.length = window - (inFlight ++ [InFlight.mk s now]).length + 1 := by
        simp only [List.length_append, List.length_singleton]
        omega
      rw [transmitFrom_of_room hroom hnext, advance_toQueue, ih, htake, List.take_succ_cons,
        handOver]
      cases refuse n s <;> simp
    · rw [transmitFrom_of_full fun h => hroom h.1, Nat.sub_eq_zero_of_le (Nat.not_lt.1 hroom)]
      simp [handOver]

/-- **Sending** from the queue of a buffer is sending from the buffer. -/
theorem transmit_toQueue (b : SendBuffer) (window now : Nat) (refuse : Refusal ε) :
    b.toQueue.transmit window now refuse =
      ((b.transmit window now refuse).1.toQueue, (b.transmit window now refuse).2) :=
  transmitFrom_toQueue window now refuse b.waiting 0 b.inFlight

theorem acknowledgeFrom_entries (ack : UInt32) (waiting : List Segment) (inFlight : List InFlight) :
    acknowledgeFrom ack (entries ⟨inFlight, waiting⟩) inFlight.length =
      ((acknowledge ⟨inFlight, waiting⟩ ack).1.toQueue,
        (acknowledge ⟨inFlight, waiting⟩ ack).2) := by
  induction inFlight with
  | nil => cases waiting <;> rfl
  | cons f rest ih =>
    rw [entries_mk_cons, List.length_cons, acknowledgeFrom]
    by_cases hbelow : f.segment.seq < ack
    · have hle : (rest.dropWhile fun f => f.segment.seq < ack).length ≤ rest.length :=
        (List.dropWhile_suffix _).length_le
      rw [if_pos hbelow, ih]
      simp [SendBuffer.acknowledge, hbelow, Nat.sub_add_comm hle]
    · rw [if_neg hbelow]
      simp [SendBuffer.acknowledge, hbelow, toQueue, cursor, entries_mk_cons]

/-- **An acknowledgment** removes the same segments from the queue of a buffer. -/
theorem acknowledge_toQueue (b : SendBuffer) (ack : UInt32) :
    b.toQueue.acknowledge ack = ((b.acknowledge ack).1.toQueue, (b.acknowledge ack).2) :=
  acknowledgeFrom_entries ack b.waiting b.inFlight

theorem resendFrom_map (now : Nat) (refuse : Refusal ε) (inFlight : List InFlight) :
    ∀ n, resendFrom now refuse n (inFlight.map fun f => (f.segment, some f.sentAt)) =
      let (taken, e) := handOver refuse n (inFlight.map (·.segment))
      ((taken.map (InFlight.mk · now) ++ inFlight.drop taken.length).map fun f =>
        (f.segment, some f.sentAt), taken, e) := by
  induction inFlight with
  | nil => intro n; rfl
  | cons f rest ih =>
    intro n
    rw [List.map_cons, List.map_cons, resendFrom, handOver, ih]
    cases refuse n f.segment <;> simp

/-- **Sending again** from the queue of a buffer is sending again from the buffer. -/
theorem retransmit_toQueue (b : SendBuffer) (now : Nat) (refuse : Refusal ε) :
    b.toQueue.retransmit now refuse =
      ((b.retransmit now refuse).1.toQueue, (b.retransmit now refuse).2) := by
  have hfront : b.entries.take b.inFlight.length =
      b.inFlight.map fun f => (f.segment, some f.sentAt) :=
    List.take_left' (List.length_map _)
  have hback : b.entries.drop b.inFlight.length = b.waiting.map fun s => (s, none) :=
    List.drop_left' (List.length_map _)
  have hcursor := (b.resends_retransmit now refuse).cursor_eq
  rw [CursorQueue.retransmit, entries_toQueue, cursor_toQueue, hfront, hback, resendFrom_map]
  simp only [toQueue, hcursor]
  rfl

/-- Segments that are pushed one after another. -/
theorem foldl_push_toQueue (b : SendBuffer) (segments : List Segment) :
    segments.foldl (fun q s => (q.push s).1) b.toQueue = (b.pushAll segments).toQueue := by
  induction segments generalizing b with
  | nil => simp [pushAll]
  | cons s rest ih =>
    rw [List.foldl_cons, push_toQueue, ih]
    simp [pushAll, SendBuffer.push]

theorem unsent_toQueue (b : SendBuffer) : b.toQueue.unsent = b.waiting.length := by
  simp [unsent, length]

theorem oldestSentAt?_toQueue (b : SendBuffer) : b.toQueue.oldestSentAt? = b.oldestSentAt? := by
  obtain ⟨inFlight, waiting⟩ := b
  cases inFlight <;> simp [CursorQueue.oldestSentAt?, oldestSentAt?, entries]

theorem isTimedOut_toQueue (b : SendBuffer) (timeout now : Nat) :
    b.toQueue.isTimedOut timeout now = b.isTimedOut timeout now := by
  rw [CursorQueue.isTimedOut, oldestSentAt?_toQueue, isTimedOut]
  cases b.oldestSentAt? <;> rfl

/-- **A move of the queue of a buffer** is that move of the buffer. -/
theorem move_toQueue (l : Ledger) (m : BufferMove ε) :
    l.buffer.toQueue.move m = (l.move m).buffer.toQueue := by
  cases m with
  | push s => rw [CursorQueue.move, push_toQueue, Ledger.move]
  | transmit window now refuse => rw [CursorQueue.move, transmit_toQueue, Ledger.move]
  | acknowledge ack => rw [CursorQueue.move, acknowledge_toQueue, Ledger.move]
  | retransmit now refuse => rw [CursorQueue.move, retransmit_toQueue, Ledger.move]
  | clear => rfl

end SendBuffer

/-! ### Runs -/

namespace CursorQueue

/-- A move leaves the cursor where it divides the queue. -/
theorem Divided.move {q : CursorQueue} (h : q.Divided) (m : BufferMove ε) : (q.move m).Divided := by
  obtain ⟨b, rfl⟩ := divided_iff.1 h
  rw [SendBuffer.move_toQueue { buffer := b }]
  apply SendBuffer.divided_toQueue

/-- So do any moves. -/
theorem divided_run (moves : List (BufferMove ε)) : (run moves).Divided := by
  have hfold : ∀ q : CursorQueue, q.Divided → (moves.foldl CursorQueue.move q).Divided := by
    induction moves with
    | nil => exact fun q h => h
    | cons m moves ih => exact fun q h => ih _ (h.move m)
  exact hfold {} (SendBuffer.divided_toQueue {})

theorem run_eq_toQueue (moves : List (BufferMove ε)) :
    run moves = (Ledger.run moves).buffer.toQueue := by
  have hfold : ∀ l : Ledger, moves.foldl CursorQueue.move l.buffer.toQueue =
      (moves.foldl Ledger.move l).buffer.toQueue := by
    induction moves with
    | nil => intro l; rfl
    | cons m moves ih =>
      intro l
      rw [List.foldl_cons, List.foldl_cons, SendBuffer.move_toQueue, ih]
  exact hfold {}

/-- **Queues with a cursor and send buffers do the same.**  After any moves of an empty queue, which
may be refused by the link below, its cursor lies in the queue and divides the segments that were
sent from those that wait.  The queue is that of the send buffer after the same moves: the numbers
of segments are the same, the oldest segment in flight has been there for the same time, and the
next move sends or removes the same segments and ends alike.  Pushing many segments at once is
pushing them one after another. -/
theorem simulates_sendBuffer (moves : List (BufferMove ε)) {q : CursorQueue} {b : SendBuffer}
    (hq : run moves = q) (hb : (Ledger.run moves).buffer = b) :
    q.Divided ∧ q = b.toQueue ∧
    q.entries.length = b.length ∧ q.unsent = b.waiting.length ∧
    q.cursor + q.unsent = q.entries.length ∧
    (∀ timeout now, q.isTimedOut timeout now = b.isTimedOut timeout now) ∧
    (∀ s, (q.push s).2 = b.isEmpty) ∧
    (∀ segments, segments.foldl (fun q s => (q.push s).1) q = (b.pushAll segments).toQueue) ∧
    (∀ window now (refuse : Refusal ε),
      (q.transmit window now refuse).2 = (b.transmit window now refuse).2) ∧
    (∀ ack, (q.acknowledge ack).2 = (b.acknowledge ack).2) ∧
    ∀ now (refuse : Refusal ε), (q.retransmit now refuse).2 = (b.retransmit now refuse).2 := by
  have hdivided : q.Divided := hq ▸ divided_run moves
  have hqueue : q = b.toQueue := by rw [← hq, ← hb, run_eq_toQueue]
  subst hqueue
  refine ⟨hdivided, rfl, b.length_entries, b.unsent_toQueue, ?_, b.isTimedOut_toQueue, ?_,
    b.foldl_push_toQueue, ?_, ?_, ?_⟩
  · simp [SendBuffer.unsent_toQueue, SendBuffer.length]
  · intro s
    rw [SendBuffer.push_toQueue]
  · intro window now refuse
    rw [SendBuffer.transmit_toQueue]
  · intro ack
    rw [SendBuffer.acknowledge_toQueue]
  · intro now refuse
    rw [SendBuffer.retransmit_toQueue]

end CursorQueue

end OverlayStack.Transport
