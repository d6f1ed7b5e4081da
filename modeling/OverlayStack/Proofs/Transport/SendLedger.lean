import OverlayStack.Proofs.Transport.Window

/-!
# A send buffer is a queue with a cursor

Segments are pushed to the end of a send buffer, and acknowledgments remove them from its front.
Between them a cursor divides what was sent from what was not.  Whatever happens to a buffer, and
whichever segments the link below refuses, nothing is lost, doubled or put out of order: the
segments that were removed and those that are in the buffer are the ones that were pushed, and the
link has taken a front of them for the first time, which ends at the cursor.

What has happened to a buffer is kept beside it, in a ledger that starts anew whenever the buffer is
cleared.  One move of the buffer keeps the ledger in order (`Ledger.InOrder.move`), and so does a
run of moves by induction.

## Main definitions

* `SendBuffer.cursor`, `SendBuffer.entries` — how much was sent, and the queue as a whole.
* `SendBuffer.Sends`, `SendBuffer.Removes`, `SendBuffer.Resends` — what the operations do.
* `BufferMove`, `Ledger`, `Ledger.run` — what happens to a buffer, and the account of it.
* `Ledger.InOrder` — the account agrees with the buffer.

## Main results

* `SendBuffer.sends_transmit`, `SendBuffer.removes_acknowledge`, `SendBuffer.resends_retransmit` —
  what the operations do.
* `Ledger.InOrder.move` — one move keeps the ledger in order.
* `Ledger.inOrder_run` — any moves do.
* `Ledger.cursor_divides` — the buffer and the account after any moves.
-/

namespace OverlayStack.Transport

variable {ε : Type}

/-! ### Handing over -/

/-- The link takes the segments that are handed over one by one, in order. -/
theorem refuse_of_handOver (refuse : Refusal ε) (n : Nat) (segments : List Segment) (i : Nat)
    (hi : i < (handOver refuse n segments).1.length) :
    refuse (n + i) (handOver refuse n segments).1[i] = none := by
  induction segments generalizing n i with
  | nil => cases hi
  | cons s rest ih =>
    cases hs : refuse n s with
    | some e =>
      simp only [handOver, hs] at hi
      cases hi
    | none =>
      simp only [handOver, hs] at hi ⊢
      cases i with
      | zero => exact hs
      | succ i =>
        have := ih (n + 1) i (Nat.lt_of_succ_lt_succ hi)
        rwa [Nat.add_assoc, Nat.add_comm 1 i] at this

/-- If the link refuses a segment, that is the first one that it does not take. -/
theorem exists_refused_of_handOver {refuse : Refusal ε} {n : Nat} {segments : List Segment} {e : ε}
    (h : (handOver refuse n segments).2 = some e) :
    ∃ s rest, segments = (handOver refuse n segments).1 ++ s :: rest ∧
      refuse (n + (handOver refuse n segments).1.length) s = some e := by
  induction segments generalizing n with
  | nil => cases h
  | cons s rest ih =>
    cases hs : refuse n s with
    | some e' =>
      simp only [handOver, hs] at h ⊢
      exact ⟨s, rest, rfl, by rw [← h]; exact hs⟩
    | none =>
      simp only [handOver, hs] at h ⊢
      obtain ⟨s', rest', hsplit, hrefused⟩ := ih h
      refine ⟨s', rest', ?_, ?_⟩
      · conv => lhs; rw [hsplit]
        rfl
      · rw [List.length_cons, Nat.add_comm _ 1, ← Nat.add_assoc]
        exact hrefused

namespace SendBuffer

variable {b b' : SendBuffer} {window now : Nat} {refuse : Refusal ε} {ack : UInt32}

/-! ### Operations -/

/-- The place in the queue up to which segments were sent. -/
def cursor (b : SendBuffer) : Nat :=
  b.inFlight.length

/-- The queue as a whole: the segments, oldest first, with the times of their last transmissions if
they were sent. -/
def entries (b : SendBuffer) : List (Segment × Option Nat) :=
  b.inFlight.map (fun f => (f.segment, some f.sentAt)) ++ b.waiting.map fun s => (s, none)

/-- The buffer `b` has become `b'` by sending the segments `taken`, which come next in the queue.
The link has taken each of them.  If it has refused none, the window is full or nothing waits; if it
has refused one, that is the first one that still waits. -/
structure Sends (window now : Nat) (refuse : Refusal ε) (b b' : SendBuffer) (taken : List Segment)
    (error : Option ε) : Prop where
  waiting_eq : b.waiting = taken ++ b'.waiting
  inFlight_eq : b'.inFlight = b.inFlight ++ taken.map fun s => ⟨s, now⟩
  accepted : ∀ i (hi : i < taken.length), refuse i taken[i] = none
  cursor_le : b'.cursor ≤ max b.cursor window
  stopped : error = none → window ≤ b'.cursor ∨ b'.waiting = []
  refused : ∀ e, error = some e →
    b'.cursor < window ∧ ∃ s ∈ b'.waiting.head?, refuse taken.length s = some e

/-- The buffer `b` has become `b'` by the removal of the segments `gone`.  They are the longest run
of segments in flight with numbers below an acknowledged one, from the oldest segment on. -/
structure Removes (ack : UInt32) (b b' : SendBuffer) (gone : List InFlight) : Prop where
  inFlight_eq : b.inFlight = gone ++ b'.inFlight
  waiting_eq : b'.waiting = b.waiting
  below : ∀ f ∈ gone, f.segment.seq < ack
  stopped : ∀ f ∈ b'.inFlight.head?, ¬ f.segment.seq < ack

/-- The buffer `b` has become `b'` by sending the segments `taken` again, which are the oldest ones
in flight.  The link has taken each of them.  If it has refused none, they are all that is in
flight; if it has refused one, that is the one after them. -/
structure Resends (now : Nat) (refuse : Refusal ε) (b b' : SendBuffer) (taken : List Segment)
    (error : Option ε) : Prop where
  segments_eq : taken = (b.inFlight.take taken.length).map (·.segment)
  inFlight_eq : b'.inFlight = taken.map (fun s => ⟨s, now⟩) ++ b.inFlight.drop taken.length
  waiting_eq : b'.waiting = b.waiting
  cursor_eq : b'.cursor = b.cursor
  queue_eq : b'.segments = b.segments
  accepted : ∀ i (hi : i < taken.length), refuse i taken[i] = none
  stopped : error = none → taken = b.inFlight.map (·.segment)
  refused : ∀ e, error = some e →
    ∃ f ∈ (b.inFlight.drop taken.length).head?, refuse taken.length f.segment = some e

/-- **What sending does.** -/
theorem sends_transmit (b : SendBuffer) (window now : Nat) (refuse : Refusal ε) :
    Sends window now refuse b (b.transmit window now refuse).1 (b.transmit window now refuse).2.1
      (b.transmit window now refuse).2.2 := by
  have hpre := handOver_isPrefix refuse 0 (b.waiting.take (window - b.inFlight.length))
  have hlen := hpre.length_le
  rw [List.length_take] at hlen
  constructor
  case waiting_eq =>
    have htake := List.prefix_iff_eq_take.1 (hpre.trans (List.take_prefix _ _))
    conv => lhs; rw [← List.take_append_drop _ b.waiting, ← htake]
    rfl
  case inFlight_eq => rfl
  case accepted =>
    intro i hi
    have htaken := refuse_of_handOver refuse 0 _ i hi
    rwa [Nat.zero_add] at htaken
  case cursor_le =>
    rw [cursor, transmit, List.length_append, List.length_map, cursor]
    omega
  case stopped =>
    intro hnone
    have hall := congrArg List.length (handOver_eq_of_none hnone)
    rw [List.length_take] at hall
    rw [cursor, transmit, List.length_append, List.length_map, List.drop_eq_nil_iff]
    omega
  case refused =>
    intro e he
    obtain ⟨s, rest, hsplit, hrefused⟩ := exists_refused_of_handOver he
    have hfront := congrArg List.length hsplit
    rw [List.length_take, List.length_append, List.length_cons] at hfront
    rw [Nat.zero_add] at hrefused
    have hnext : (b.waiting.take (window - b.inFlight.length))[
        (b.transmit window now refuse).2.1.length]? = some s := by
      rw [hsplit]
      exact (List.getElem?_append_right (Nat.le_refl _)).trans (by rw [Nat.sub_self]; rfl)
    constructor
    · rw [cursor, transmit, List.length_append, List.length_map]
      omega
    · refine ⟨s, ?_, hrefused⟩
      show (b.waiting.drop (b.transmit window now refuse).2.1.length).head? = some s
      rw [List.head?_drop, ← hnext, List.getElem?_take_of_lt]
      show (handOver refuse 0 (b.waiting.take (window - b.inFlight.length))).1.length < _
      omega

/-- **What an acknowledgment does.** -/
theorem removes_acknowledge (b : SendBuffer) (ack : UInt32) :
    ∃ gone, Removes ack b (b.acknowledge ack).1 gone ∧ (b.acknowledge ack).2 = gone.length := by
  obtain ⟨gone, kept, hsplit, hack, hgone, hkept⟩ := b.exists_acknowledge ack
  rw [hack]
  exact ⟨gone, ⟨hsplit, rfl, hgone, hkept⟩, rfl⟩

/-- **What sending again does.** -/
theorem resends_retransmit (b : SendBuffer) (now : Nat) (refuse : Refusal ε) :
    Resends now refuse b (b.retransmit now refuse).1 (b.retransmit now refuse).2.1
      (b.retransmit now refuse).2.2 := by
  have hpre := handOver_isPrefix refuse 0 (b.inFlight.map (·.segment))
  have hlen := hpre.length_le
  rw [List.length_map] at hlen
  constructor
  case segments_eq =>
    rw [List.map_take]
    exact List.prefix_iff_eq_take.1 hpre
  case inFlight_eq => rfl
  case waiting_eq => rfl
  case cursor_eq =>
    rw [cursor, retransmit, List.length_append, List.length_map, List.length_drop, cursor]
    omega
  case queue_eq => exact b.segments_retransmit now refuse
  case accepted =>
    intro i hi
    have htaken := refuse_of_handOver refuse 0 _ i hi
    rwa [Nat.zero_add] at htaken
  case stopped => exact handOver_eq_of_none
  case refused =>
    intro e he
    obtain ⟨s, rest, hsplit, hrefused⟩ := exists_refused_of_handOver he
    rw [Nat.zero_add] at hrefused
    have hdrop : (b.inFlight.drop (b.retransmit now refuse).2.1.length).map (·.segment) =
        s :: rest := by
      rw [List.map_drop, hsplit]
      exact List.drop_left
    obtain ⟨f, rest', hflight, rfl, -⟩ := List.map_eq_cons_iff.1 hdrop
    exact ⟨f, by rw [hflight]; rfl, hrefused⟩

/-- Just the segments before the cursor have been sent. -/
theorem isSome_entries_iff (b : SendBuffer) (i : Nat) {s : Segment} {sentAt : Option Nat}
    (h : b.entries[i]? = some (s, sentAt)) : sentAt.isSome = true ↔ i < b.cursor := by
  rw [entries] at h
  by_cases hi : i < b.cursor
  · rw [List.getElem?_append_left (by rwa [List.length_map]), List.getElem?_map,
      Option.map_eq_some_iff] at h
    obtain ⟨f, -, hf⟩ := h
    cases hf
    simp [hi]
  · rw [List.getElem?_append_right (by rw [List.length_map]; exact Nat.not_lt.1 hi),
      List.getElem?_map, Option.map_eq_some_iff] at h
    obtain ⟨f, -, hf⟩ := h
    cases hf
    simp [hi]

theorem map_fst_entries (b : SendBuffer) : b.entries.map (·.1) = b.segments := by
  simp [entries, segments, Function.comp_def]

end SendBuffer

/-! ### The ledger -/

/-- What can happen to a send buffer. -/
inductive BufferMove (ε : Type) where
  /-- A segment is pushed. -/
  | push (s : Segment)
  /-- Segments are sent while there is room in a window. -/
  | transmit (window now : Nat) (refuse : Refusal ε)
  /-- An acknowledgment arrives. -/
  | acknowledge (ack : UInt32)
  /-- What is in flight is sent again. -/
  | retransmit (now : Nat) (refuse : Refusal ε)
  /-- The buffer is emptied. -/
  | clear

/-- A send buffer, and what has happened to it since it was last cleared. -/
structure Ledger where
  buffer : SendBuffer := {}
  /-- The segments that were pushed, in order. -/
  pushed : List Segment := []
  /-- The segments that acknowledgments have removed, in order. -/
  removed : List Segment := []
  /-- The segments that the link has taken when they were sent for the first time, in order. -/
  sent : List Segment := []

namespace Ledger

/-- The ledger after a move of the buffer. -/
def move (l : Ledger) : BufferMove ε → Ledger
  | .push s => { l with buffer := l.buffer.push s, pushed := l.pushed ++ [s] }
  | .transmit window now refuse =>
    { l with
      buffer := (l.buffer.transmit window now refuse).1
      sent := l.sent ++ (l.buffer.transmit window now refuse).2.1 }
  | .acknowledge ack =>
    { l with
      buffer := (l.buffer.acknowledge ack).1
      removed := l.removed ++ l.buffer.segments.take (l.buffer.acknowledge ack).2 }
  | .retransmit now refuse => { l with buffer := (l.buffer.retransmit now refuse).1 }
  | .clear => {}

/-- The ledger after some moves of an empty buffer. -/
def run (moves : List (BufferMove ε)) : Ledger :=
  moves.foldl move {}

/-- The account agrees with the buffer: the segments that were pushed are those that were removed
and those in the queue, and the segments that were sent are those that were removed and those in
flight. -/
structure InOrder (l : Ledger) : Prop where
  pushed_eq : l.pushed = l.removed ++ l.buffer.segments
  sent_eq : l.sent = l.removed ++ l.buffer.inFlight.map (·.segment)

namespace InOrder

variable {l : Ledger}

theorem push (h : l.InOrder) (s : Segment) : (l.move (.push s : BufferMove ε)).InOrder where
  pushed_eq := by
    show l.pushed ++ [s] = l.removed ++ (l.buffer.push s).segments
    rw [h.pushed_eq, SendBuffer.segments_push, List.append_assoc]
  sent_eq := h.sent_eq

theorem transmit (h : l.InOrder) (window now : Nat) (refuse : Refusal ε) :
    (l.move (.transmit window now refuse)).InOrder where
  pushed_eq := by
    show l.pushed = l.removed ++ (l.buffer.transmit window now refuse).1.segments
    rw [SendBuffer.segments_transmit]
    exact h.pushed_eq
  sent_eq := by
    have hsends := l.buffer.sends_transmit window now refuse
    show l.sent ++ (l.buffer.transmit window now refuse).2.1 =
      l.removed ++ (l.buffer.transmit window now refuse).1.inFlight.map (·.segment)
    rw [hsends.inFlight_eq, h.sent_eq, List.map_append, List.map_map, ← List.append_assoc]
    exact congrArg _ (List.map_id' _).symm

theorem acknowledge (h : l.InOrder) (ack : UInt32) :
    (l.move (.acknowledge ack : BufferMove ε)).InOrder := by
  obtain ⟨gone, hremoves, hcount⟩ := l.buffer.removes_acknowledge ack
  have hgone : l.buffer.segments.take (l.buffer.acknowledge ack).2 = gone.map (·.segment) := by
    rw [hcount, SendBuffer.segments, hremoves.inFlight_eq, List.map_append, List.append_assoc]
    exact List.take_left' (List.length_map _)
  constructor
  case pushed_eq =>
    show l.pushed = (l.removed ++ l.buffer.segments.take (l.buffer.acknowledge ack).2) ++
      (l.buffer.acknowledge ack).1.segments
    rw [List.append_assoc, ← SendBuffer.segments_acknowledge]
    exact h.pushed_eq
  case sent_eq =>
    show l.sent = (l.removed ++ l.buffer.segments.take (l.buffer.acknowledge ack).2) ++
      (l.buffer.acknowledge ack).1.inFlight.map (·.segment)
    rw [h.sent_eq, hgone, List.append_assoc, ← List.map_append, ← hremoves.inFlight_eq]

theorem retransmit (h : l.InOrder) (now : Nat) (refuse : Refusal ε) :
    (l.move (.retransmit now refuse)).InOrder where
  pushed_eq := by
    show l.pushed = l.removed ++ (l.buffer.retransmit now refuse).1.segments
    rw [SendBuffer.segments_retransmit]
    exact h.pushed_eq
  sent_eq := by
    have hresends := l.buffer.resends_retransmit now refuse
    have hqueue := hresends.queue_eq
    rw [SendBuffer.segments, SendBuffer.segments, hresends.waiting_eq] at hqueue
    show l.sent = l.removed ++ (l.buffer.retransmit now refuse).1.inFlight.map (·.segment)
    rw [List.append_cancel_right hqueue]
    exact h.sent_eq

/-- **One move keeps the ledger in order.** -/
theorem move (h : l.InOrder) (m : BufferMove ε) : (l.move m).InOrder := by
  cases m with
  | push s => exact h.push s
  | transmit window now refuse => exact h.transmit window now refuse
  | acknowledge ack => exact h.acknowledge ack
  | retransmit now refuse => exact h.retransmit now refuse
  | clear => exact ⟨rfl, rfl⟩

end InOrder

/-- **Any moves keep the ledger in order.** -/
theorem inOrder_run (moves : List (BufferMove ε)) : (run moves).InOrder := by
  have hfold : ∀ l : Ledger, l.InOrder → (moves.foldl move l).InOrder := by
    induction moves with
    | nil => exact fun l h => h
    | cons m moves ih => exact fun l h => ih _ (h.move m)
  exact hfold {} ⟨rfl, rfl⟩

/-- The account starts anew when the buffer is cleared. -/
theorem run_clear (before moves : List (BufferMove ε)) :
    run (before ++ .clear :: moves) = run moves := by
  rw [run, List.foldl_append]
  rfl

/-- **A send buffer is a queue with a cursor**, whatever has happened to it and whichever segments
the link has refused.  The segments that were removed since it was last cleared and those in the
queue are just those that were pushed, in order.  The cursor lies in the queue; just the segments
before it have a time at which they were sent, and up to it the link has taken the segments that
were pushed, each once and in order.  From there on, sending takes the next segments until the
window is full, nothing waits or the link refuses one; an acknowledgment removes the longest run of
segments in flight whose numbers are below it; and sending again takes what is in flight from the
oldest segment on, with no change to the queue or the cursor. -/
theorem cursor_divides (moves : List (BufferMove ε)) :
    let l := run moves
    l.pushed = l.removed ++ l.buffer.entries.map (·.1) ∧
    l.buffer.cursor ≤ l.buffer.length ∧
    (∀ i s sentAt, l.buffer.entries[i]? = some (s, sentAt) →
      (sentAt.isSome = true ↔ i < l.buffer.cursor)) ∧
    l.sent = l.removed ++ (l.buffer.entries.take l.buffer.cursor).map (·.1) ∧
    l.sent = l.pushed.take (l.removed.length + l.buffer.cursor) ∧
    (∀ before, run (before ++ .clear :: moves) = l) ∧
    (∀ window now (refuse : Refusal ε),
      SendBuffer.Sends window now refuse l.buffer (l.buffer.transmit window now refuse).1
        (l.buffer.transmit window now refuse).2.1 (l.buffer.transmit window now refuse).2.2) ∧
    (∀ ack, ∃ gone, SendBuffer.Removes ack l.buffer (l.buffer.acknowledge ack).1 gone ∧
      (l.buffer.acknowledge ack).2 = gone.length) ∧
    ∀ now (refuse : Refusal ε),
      SendBuffer.Resends now refuse l.buffer (l.buffer.retransmit now refuse).1
        (l.buffer.retransmit now refuse).2.1 (l.buffer.retransmit now refuse).2.2 := by
  intro l
  have h : l.InOrder := inOrder_run moves
  have hfront : (l.buffer.entries.take l.buffer.cursor).map (·.1) =
      l.buffer.inFlight.map (·.segment) := by
    rw [List.map_take, SendBuffer.map_fst_entries]
    exact List.take_left' (List.length_map _)
  refine ⟨?_, Nat.le_add_right _ _, fun i s sentAt => l.buffer.isSome_entries_iff i, ?_, ?_,
    fun before => run_clear before moves, l.buffer.sends_transmit,
    l.buffer.removes_acknowledge, l.buffer.resends_retransmit⟩
  · rw [SendBuffer.map_fst_entries]
    exact h.pushed_eq
  · rw [hfront]
    exact h.sent_eq
  · rw [h.pushed_eq, List.take_length_add_append, h.sent_eq, ← hfront, List.map_take,
      SendBuffer.map_fst_entries]

/-- Three segments are pushed, and the link refuses the second one. -/
def refusedSecond : List (BufferMove String) :=
  [.push (Segment.dataOf 7 9 1 [10]), .push (Segment.dataOf 7 9 2 [20]),
    .push (Segment.dataOf 7 9 3 [30]),
    .transmit 3 0 fun n _ => if n = 1 then some "link down" else none]

/-- The cursor stands behind the first segment, which is the only one that was sent.  Sending again
takes the other two, which fills the window. -/
theorem cursor_divides_refusedSecond :
    (run refusedSecond).sent = [Segment.dataOf 7 9 1 [10]] ∧
      (run refusedSecond).buffer.entries[1]? = some (Segment.dataOf 7 9 2 [20], none) ∧
      ¬ 1 < (run refusedSecond).buffer.cursor ∧
      let sent := (run refusedSecond).buffer.transmit 3 5 fun _ _ => (none : Option String)
      sent.2.1 = [Segment.dataOf 7 9 2 [20], Segment.dataOf 7 9 3 [30]] ∧
        (3 ≤ sent.1.cursor ∨ sent.1.waiting = []) := by
  obtain ⟨-, -, htimes, -, hsent, -, hsends, -⟩ := cursor_divides refusedSecond
  have hunsent : ¬ 1 < (run refusedSecond).buffer.cursor := by
    rw [← htimes 1 (Segment.dataOf 7 9 2 [20]) none rfl]
    decide
  exact ⟨hsent, rfl, hunsent, rfl, (hsends 3 5 _).stopped rfl⟩

end Ledger

end OverlayStack.Transport
