import Mathlib.Data.List.Forall2
import OverlayStack.Proofs.Wire.Segment
import OverlayStack.Transport.Loopback

/-!
# What a lossy link delivers

A message that the link takes is delivered as it was sent or dropped: a segment whose kind has a
meaning is delivered if nothing happened to its bytes, and dropped if they were lost or damaged.
The messages to one end stay in order, whatever is sent and taken in between, so that the segments
that arrive at it are some of those that were sent, in the same order.

The dice of the link are left out of account: a run takes messages with any outcomes that can be.

## Main definitions

* `Outcome.Possible` — what can happen to a message.
* `Loopback.Takes`, `Loopback.Polls` — one message is taken, or all up to the next segment.
* `Loopback.Step`, `Loopback.Run` — what can be done at a link, and in which order.

## Main results

* `Delivery.ofWire_wire` — a segment arrives as it is or not at all.
* `Loopback.step_receive`, `Loopback.step_poll` — what the dice choose is possible.
* `Loopback.Run.conserves` — what was taken is what was sent, up to what is still on its way.
* `Loopback.delivers_in_order` — what the two ends see of each other.
-/

namespace OverlayStack

/-! ### Outcomes -/

/-- The outcome can happen to the bytes of a message: if a bit is flipped, it is one of theirs. -/
def Outcome.Possible (o : Outcome) (bs : Bytes) : Prop :=
  o.explains bs (o.damage bs) = true

theorem Outcome.possible_delivered (bs : Bytes) : delivered.Possible bs :=
  beq_self_eq_true bs

theorem Outcome.possible_lost (bs : Bytes) : lost.Possible bs :=
  beq_self_eq_true bs

theorem Outcome.possible_flipped_iff {bit : Nat} {bs : Bytes} :
    (flipped bit).Possible bs ↔ bit < 8 * bs.length := by
  rw [Possible, explains, damage, Bool.and_eq_true, decide_eq_true_eq]
  exact and_iff_left (beq_self_eq_true _)

/-- The dice choose what is possible. -/
theorem Impairment.possible_draw (i : Impairment) (bs : Bytes) : (i.draw bs).1.Possible bs := by
  unfold draw
  split
  · exact Outcome.possible_delivered bs
  · next hempty =>
    dsimp only
    split
    · exact Outcome.possible_delivered bs
    · split
      · exact Outcome.possible_lost bs
      · rw [Outcome.possible_flipped_iff]
        have hlength : bs.length ≠ 0 := by simpa using hempty
        exact Nat.mod_lt _ (by omega)

namespace Transport

/-! ### One message -/

namespace Delivery

/-- The segment that is delivered. -/
def segment? : Delivery → Option (NodeId × Segment)
  | segment source s => some (source, s)
  | dropped => none

variable {source : NodeId} {s : Segment}

theorem ofWire_delivered (source : NodeId) (h : s.payload.length ≤ 65535)
    (hk : s.kind ≠ .unknown) : ofWire .delivered source s.wire = segment source s.stamped := by
  simp only [ofWire, Outcome.arrival?, Segment.read_wire h hk]

theorem ofWire_delivered_of_unknown (source : NodeId) (hk : s.kind = .unknown) :
    ofWire .delivered source s.wire = dropped := by
  obtain ⟨e, he⟩ := Segment.read_wire_of_unknown hk
  simp only [ofWire, Outcome.arrival?, he]

theorem ofWire_flipped (source : NodeId) (h : s.payload.length ≤ 65535) {bit : Nat}
    (hbit : bit < 8 * s.wire.length) : ofWire (.flipped bit) source s.wire = dropped := by
  obtain ⟨e, he⟩ := Segment.read_flipBit_wire h hbit
  simp only [ofWire, Outcome.arrival?, he]

/-- A message that was hit is dropped. -/
theorem ofWire_of_hit (source : NodeId) (h : s.payload.length ≤ 65535) {o : Outcome}
    (ho : o.Possible s.wire) (hhit : o ≠ .delivered) : ofWire o source s.wire = dropped := by
  cases o with
  | delivered => exact absurd rfl hhit
  | lost => rfl
  | flipped bit => exact ofWire_flipped source h (Outcome.possible_flipped_iff.1 ho)

/-- **A segment arrives as it was sent, or not at all.** -/
theorem ofWire_wire (o : Outcome) (source : NodeId) (h : s.payload.length ≤ 65535) :
    ofWire o source s.wire = dropped ∨ ofWire o source s.wire = segment source s.stamped := by
  have hwhole : ofWire .delivered source s.wire = dropped ∨
      ofWire .delivered source s.wire = segment source s.stamped := by
    by_cases hk : s.kind = .unknown
    · exact .inl (ofWire_delivered_of_unknown source hk)
    · exact .inr (ofWire_delivered source h hk)
  cases o with
  | delivered => exact hwhole
  | lost => exact .inl rfl
  | flipped bit =>
    rcases Nat.lt_or_ge bit (8 * s.wire.length) with hlt | hge
    · exact .inl (ofWire_flipped source h hlt)
    -- there is no such bit
    · simp only [ofWire, Outcome.arrival?, flipBit_of_le hge] at hwhole ⊢
      exact hwhole

end Delivery

/-! ### What can be done at a link -/

namespace Loopback

@[simp] theorem endAt_setEnd (l : Loopback) (side : Side) (e : LoopbackEnd) :
    (l.setEnd side e).endAt side = e := by
  cases side <;> rfl

@[simp] theorem endAt_setEnd_other (l : Loopback) (side : Side) (e : LoopbackEnd) :
    (l.setEnd side e).endAt side.other = l.endAt side.other := by
  cases side <;> rfl

@[simp] theorem setEnd_endAt (l : Loopback) (side : Side) : l.setEnd side (l.endAt side) = l := by
  cases side <;> rfl

@[simp] theorem setEnd_setEnd (l : Loopback) (side : Side) (e e' : LoopbackEnd) :
    (l.setEnd side e).setEnd side e' = l.setEnd side e' := by
  cases side <;> rfl

/-- The link after the next message on a side is taken: the messages behind it are left, and the
dice may be at any place. -/
def without (l : Loopback) (side : Side) (rest : List (NodeId × Bytes))
    (dice : Option Impairment) : Loopback :=
  l.setEnd side { l.endAt side with inbox := rest, impairment := dice }

/-- `Takes side l o d l'` says that the next message on a side of the link `l` is taken as `d` when
its outcome is `o`, which leaves the link `l'`. -/
inductive Takes (side : Side) : Loopback → Outcome → Delivery → Loopback → Prop where
  | take {l : Loopback} {source : NodeId} {bs : Bytes} {rest : List (NodeId × Bytes)} {o : Outcome}
      {d : Delivery} {dice : Option Impairment}
      (hinbox : (l.endAt side).inbox = (source, bs) :: rest) (ho : o.Possible bs)
      (hd : d = Delivery.ofWire o source bs) : Takes side l o d (l.without side rest dice)

/-- `Polls side l met result l'` says that messages on a side of the link `l` are taken until there
is a segment or there are none left.  `met` has their outcomes and what they are taken as. -/
inductive Polls (side : Side) : Loopback → List (Outcome × Delivery) →
    Option (NodeId × Segment) → Loopback → Prop where
  | nothing {l : Loopback} (h : (l.endAt side).inbox = []) : Polls side l [] none l
  | segment {l l' : Loopback} {o : Outcome} {source : NodeId} {s : Segment}
      (h : Takes side l o (.segment source s) l') :
      Polls side l [(o, .segment source s)] (some (source, s)) l'
  | dropped {l l' l'' : Loopback} {o : Outcome} {met : List (Outcome × Delivery)}
      {result : Option (NodeId × Segment)} (h : Takes side l o .dropped l')
      (hrest : Polls side l' met result l'') :
      Polls side l ((o, .dropped) :: met) result l''

/-- What is done at a link. -/
inductive Act where
  /-- A segment is sent from a side. -/
  | sent (side : Side) (s : Segment)
  /-- A message is taken on a side. -/
  | received (side : Side) (o : Outcome) (d : Delivery)
  /-- Messages are taken on a side up to the next segment. -/
  | polled (side : Side) (met : List (Outcome × Delivery)) (result : Option (NodeId × Segment))

/-- One thing is done at a link. -/
inductive Step : Loopback → Act → Loopback → Prop where
  | send {l l' : Loopback} {side : Side} {s : Segment} (h : l.send side s = .ok l') :
      Step l (.sent side s) l'
  | receive {l l' : Loopback} {side : Side} {o : Outcome} {d : Delivery}
      (h : Takes side l o d l') : Step l (.received side o d) l'
  | poll {l l' : Loopback} {side : Side} {met : List (Outcome × Delivery)}
      {result : Option (NodeId × Segment)} (h : Polls side l met result l') :
      Step l (.polled side met result) l'

/-- One thing after another is done at a link. -/
inductive Run : Loopback → List Act → Loopback → Prop where
  | nil {l : Loopback} : Run l [] l
  | cons {l l' l'' : Loopback} {a : Act} {acts : List Act} (h : Step l a l')
      (hrest : Run l' acts l'') : Run l (a :: acts) l''

/-! ### The link does what is possible -/

/-- What the dice choose for a message. -/
def drawn (dice : Option Impairment) (bs : Bytes) : Outcome :=
  match dice with
  | none => .delivered
  | some i => (i.draw bs).1

/-- What happens to the next message on a side. -/
def outcome (l : Loopback) (side : Side) : Outcome :=
  match (l.endAt side).inbox with
  | [] => .delivered
  | (_, bs) :: _ => drawn (l.endAt side).impairment bs

theorem possible_drawn (dice : Option Impairment) (bs : Bytes) : (drawn dice bs).Possible bs := by
  cases dice with
  | none => exact Outcome.possible_delivered bs
  | some i => exact i.possible_draw bs

theorem deliver_fst (dice : Option Impairment) (source : NodeId) (bs : Bytes) :
    (deliver dice source bs).1 = Delivery.ofWire (drawn dice bs) source bs := by
  cases dice <;> rfl

theorem idle_ne_got {α : Type} (l : Loopback) (side : Side) (x : α) : l.idle side ≠ .got x := by
  unfold idle
  split <;> exact nofun

/-- A message that is received is taken with the outcome that the dice choose. -/
theorem step_receive {l l' : Loopback} {side : Side} {d : Delivery}
    (h : l.receive side = (.got d, l')) : Step l (.received side (l.outcome side) d) l' := by
  unfold receive at h
  dsimp only at h
  split at h
  · exact absurd (Prod.mk.inj h).1 (l.idle_ne_got side d)
  · next source bs rest hinbox =>
    obtain ⟨hd, rfl⟩ := Prod.mk.inj h
    obtain rfl := Reception.got.inj hd
    rw [deliver_fst, outcome, hinbox]
    exact .receive (.take hinbox (possible_drawn _ bs) rfl)

/-- Whatever is on its way can be received. -/
theorem exists_receive {l : Loopback} {side : Side} (h : (l.endAt side).inbox ≠ []) :
    ∃ d l', l.receive side = (.got d, l') := by
  unfold receive
  dsimp only
  split
  · contradiction
  · exact ⟨_, _, rfl⟩

theorem polls_firstSegment (side : Side) (inbox : List (NodeId × Bytes)) :
    ∀ {l : Loopback} {first : Option (NodeId × Segment)} {rest : List (NodeId × Bytes)}
      {dice : Option Impairment}, (l.endAt side).inbox = inbox →
      firstSegment (l.endAt side).impairment inbox = (first, rest, dice) →
      ∃ met, Polls side l met first (l.without side rest dice) := by
  induction inbox with
  | nil =>
    intro l first rest dice hinbox hfirst
    rw [firstSegment, Prod.mk.injEq, Prod.mk.injEq] at hfirst
    obtain ⟨rfl, rfl, rfl⟩ := hfirst
    have hsame : l.without side [] (l.endAt side).impairment = l := by
      rw [without, ← hinbox]
      exact l.setEnd_endAt side
    rw [hsame]
    exact ⟨[], .nothing hinbox⟩
  | cons m inbox ih =>
    intro l first rest dice hinbox hfirst
    obtain ⟨source, bs⟩ := m
    have ho := possible_drawn (l.endAt side).impairment bs
    have heq := deliver_fst (l.endAt side).impairment source bs
    generalize drawn (l.endAt side).impairment bs = o at ho heq
    rw [firstSegment] at hfirst
    cases hdeliver : deliver (l.endAt side).impairment source bs with
    | mk d dice' =>
      rw [hdeliver] at heq hfirst
      have htake : Takes side l o d (l.without side inbox dice') := .take hinbox ho heq
      cases d with
      | segment source' s =>
        dsimp only at hfirst
        rw [Prod.mk.injEq, Prod.mk.injEq] at hfirst
        obtain ⟨rfl, rfl, rfl⟩ := hfirst
        exact ⟨[(o, .segment source' s)], .segment htake⟩
      | dropped =>
        obtain ⟨met, hmet⟩ := ih (l := l.without side inbox dice') (by simp [without])
          (by simpa [without] using hfirst)
        refine ⟨(o, .dropped) :: met, .dropped htake ?_⟩
        simpa [without] using hmet

/-- What is polled is taken with the outcomes that the dice choose. -/
theorem step_poll {l l' : Loopback} {side : Side} {r : Reception (NodeId × Segment)}
    (h : l.poll side = (r, l')) : ∃ met result, Step l (.polled side met result) l' ∧
      ∀ x, r = .got x ↔ result = some x := by
  unfold poll at h
  dsimp only at h
  cases hfirst : firstSegment (l.endAt side).impairment (l.endAt side).inbox with
  | mk first after =>
    obtain ⟨met, hpolls⟩ := polls_firstSegment side _ rfl hfirst
    rw [hfirst] at h
    cases first with
    | some y =>
      obtain ⟨rfl, rfl⟩ := Prod.mk.inj h
      exact ⟨met, some y, .poll hpolls, fun x => by rw [Reception.got.injEq, Option.some.injEq]⟩
    | none =>
      obtain ⟨rfl, rfl⟩ := Prod.mk.inj h
      exact ⟨met, none, .poll hpolls, fun x => iff_of_false (idle_ne_got _ side x) nofun⟩

/-! ### What is sent and what is taken -/

/-- The segments that an act sends from a side. -/
def Act.sentFrom (side : Side) : Act → List Segment
  | sent at' s => if at' = side then [s] else []
  | _ => []

/-- What an act takes on a side, with the outcomes. -/
def Act.metAt (side : Side) : Act → List (Outcome × Delivery)
  | sent _ _ => []
  | received at' o d => if at' = side then [(o, d)] else []
  | polled at' met _ => if at' = side then met else []

/-- What a poll returns on a side. -/
def Act.polledAt (side : Side) : Act → List (NodeId × Segment)
  | polled at' _ result => if at' = side then result.toList else []
  | _ => []

/-- The message is taken with the outcome as what it then becomes. -/
def Fate (m : NodeId × Bytes) (x : Outcome × Delivery) : Prop :=
  x.1.Possible m.2 ∧ x.2 = Delivery.ofWire x.1 m.1 m.2

/-- The link `l'` is the link `l` without some messages on a side, which are the first ones there,
up to the dice. -/
structure Removed (side : Side) (l : Loopback) (taken : List (NodeId × Bytes)) (l' : Loopback) :
    Prop where
  inbox_eq : (l.endAt side).inbox = taken ++ (l'.endAt side).inbox
  other_eq : l'.endAt side.other = l.endAt side.other
  node_eq : (l'.endAt side).node = (l.endAt side).node

theorem Takes.removed {l l' : Loopback} {side : Side} {o : Outcome} {d : Delivery}
    (h : Takes side l o d l') : ∃ m, Fate m (o, d) ∧ Removed side l [m] l' := by
  cases h with
  | @take source bs _ _ _ _ hinbox ho hd =>
    refine ⟨(source, bs), ⟨ho, hd⟩, ?_, ?_, ?_⟩
    · rw [hinbox, without, endAt_setEnd]
      rfl
    · rw [without, endAt_setEnd_other]
    · rw [without, endAt_setEnd]

theorem Polls.removed {l l' : Loopback} {side : Side} {met : List (Outcome × Delivery)}
    {result : Option (NodeId × Segment)} (h : Polls side l met result l') :
    ∃ taken, List.Forall₂ Fate taken met ∧ Removed side l taken l' := by
  induction h with
  | nothing => exact ⟨[], .nil, rfl, rfl, rfl⟩
  | segment htake =>
    obtain ⟨m, hfate, hremoved⟩ := htake.removed
    exact ⟨[m], .cons hfate .nil, hremoved⟩
  | dropped htake _ ih =>
    obtain ⟨m, hfate, hfirst⟩ := htake.removed
    obtain ⟨taken, hfates, hrest⟩ := ih
    refine ⟨m :: taken, .cons hfate hfates, ?_, hrest.other_eq.trans hfirst.other_eq,
      hrest.node_eq.trans hfirst.node_eq⟩
    rw [hfirst.inbox_eq, hrest.inbox_eq]
    rfl

/-- What is removed on one side is still there on the other one. -/
theorem Removed.at_side {l l' : Loopback} {at' : Side} {taken : List (NodeId × Bytes)}
    (h : Removed at' l taken l') (side : Side) :
    (l.endAt side).inbox = (if at' = side then taken else []) ++ (l'.endAt side).inbox ∧
      (l'.endAt side.other).node = (l.endAt side.other).node := by
  obtain ⟨hinbox, hother, hnode⟩ := h
  cases at' <;> cases side <;> simp_all [Side.other]

theorem endAt_post (l : Loopback) (at' side : Side) (s : Segment) :
    (l.post at' s).endAt side =
      if at' = side.other then
        { l.endAt side with inbox := (l.endAt side).inbox ++ [((l.endAt at').node, s.wire)] }
      else l.endAt side := by
  cases at' <;> cases side <;> rfl

/-- **One act keeps count**: what was on its way to a side and what is sent to it is what is taken
there and what is on its way then. -/
theorem Step.conserves {l l' : Loopback} {a : Act} (h : Step l a l') (side : Side) :
    ∃ taken, List.Forall₂ Fate taken (a.metAt side) ∧
      (l.endAt side).inbox ++
          (a.sentFrom side.other).map (fun s => ((l.endAt side.other).node, s.wire)) =
        taken ++ (l'.endAt side).inbox ∧
      (l'.endAt side.other).node = (l.endAt side.other).node := by
  cases h with
  | @send _ at' s h =>
    unfold Loopback.send at h
    split at h
    · obtain rfl := Except.ok.inj h
      refine ⟨[], .nil, ?_, ?_⟩
      · rw [endAt_post, Act.sentFrom]
        split
        · next heq => rw [heq]; rfl
        · exact List.append_nil _
      · rw [endAt_post]
        split <;> rfl
    · cases h
  | @receive _ at' o d h =>
    obtain ⟨m, hfate, hremoved⟩ := h.removed
    obtain ⟨hinbox, hnode⟩ := hremoved.at_side side
    refine ⟨_, ?_, (List.append_nil _).trans hinbox, hnode⟩
    rw [Act.metAt]
    split
    · exact .cons hfate .nil
    · exact .nil
  | @poll _ at' met result h =>
    obtain ⟨taken, hfates, hremoved⟩ := h.removed
    obtain ⟨hinbox, hnode⟩ := hremoved.at_side side
    refine ⟨_, ?_, (List.append_nil _).trans hinbox, hnode⟩
    rw [Act.metAt]
    split
    · exact hfates
    · exact .nil

/-- **A run keeps count** of the messages to a side. -/
theorem Run.conserves {l l' : Loopback} {acts : List Act} (h : Run l acts l') (side : Side) :
    ∃ taken, List.Forall₂ Fate taken (acts.flatMap (Act.metAt side)) ∧
      (l.endAt side).inbox ++ (acts.flatMap (Act.sentFrom side.other)).map
          (fun s => ((l.endAt side.other).node, s.wire)) =
        taken ++ (l'.endAt side).inbox := by
  induction h with
  | nil => exact ⟨[], .nil, List.append_nil _⟩
  | cons hstep _ ih =>
    obtain ⟨first, hfates, hcount, hnode⟩ := hstep.conserves side
    obtain ⟨rest, hfates', hcount'⟩ := ih
    refine ⟨first ++ rest, ?_, ?_⟩
    · rw [List.flatMap_cons]
      exact List.rel_append hfates hfates'
    · rw [List.flatMap_cons, List.map_append, ← List.append_assoc, hcount, List.append_assoc,
        List.append_assoc, ← hcount', hnode]

/-! ### In order, and as it was sent -/

/-- What may become of a segment from a node. -/
structure Arrives (node : NodeId) (s : Segment) (x : Outcome × Delivery) : Prop where
  whole_or_dropped : x.2 = .dropped ∨ x.2 =
    .segment node { s with length := s.stamped.length, checksum := s.stamped.checksum }
  of_delivered : x.1 = .delivered → s.kind ≠ .unknown → x.2 =
    .segment node { s with length := s.stamped.length, checksum := s.stamped.checksum }
  of_hit : x.1 ≠ .delivered → x.2 = .dropped

theorem Fate.arrives {node : NodeId} {s : Segment} {x : Outcome × Delivery}
    (h : Fate (node, s.wire) x) (hfit : s.payload.length ≤ 65535) : Arrives node s x := by
  obtain ⟨o, d⟩ := x
  obtain ⟨ho, rfl⟩ : o.Possible s.wire ∧ d = Delivery.ofWire o node s.wire := h
  refine ⟨Delivery.ofWire_wire o node hfit, ?_, Delivery.ofWire_of_hit node hfit ho⟩
  rintro rfl hk
  exact Delivery.ofWire_delivered node hfit hk

/-- The segments that arrive are some of those that were sent, in the same order. -/
theorem segments_sublist {node : NodeId} {sent : List Segment} {met : List (Outcome × Delivery)}
    (h : List.Forall₂ (Arrives node) sent met) :
    (met.filterMap (·.2.segment?)).Sublist (sent.map fun s => (node, s.stamped)) := by
  induction h with
  | nil => exact .slnil
  | @cons s x _ _ hx _ ih =>
    rw [List.map_cons]
    rcases hx.whole_or_dropped with hd | hd
    · have hnone : x.2.segment? = none := congrArg Delivery.segment? hd
      simp only [List.filterMap_cons, hnone]
      exact ih.cons _
    · have hsome : x.2.segment? = some (node, s.stamped) := congrArg Delivery.segment? hd
      simp only [List.filterMap_cons, hsome]
      exact ih.cons_cons _

/-- What is taken on a side is what was sent to it first, and the rest is still on its way. -/
theorem Run.arrives {l l' : Loopback} {acts : List Act} {side : Side} (h : Run l acts l')
    (hempty : (l.endAt side).inbox = [])
    (hfit : ∀ s ∈ acts.flatMap (Act.sentFrom side.other), s.payload.length ≤ 65535) :
    ∃ first rest, acts.flatMap (Act.sentFrom side.other) = first ++ rest ∧
      List.Forall₂ (Arrives (l.endAt side.other).node) first (acts.flatMap (Act.metAt side)) ∧
      rest.length = (l'.endAt side).inbox.length := by
  obtain ⟨taken, hfates, hcount⟩ := h.conserves side
  rw [hempty, List.nil_append] at hcount
  obtain ⟨first, rest, hsent, htaken, hleft⟩ := List.map_eq_append_iff.1 hcount
  rw [← htaken, List.forall₂_map_left_iff] at hfates
  rw [hsent] at hfit
  have hfirst : ∀ s ∈ first, s.payload.length ≤ 65535 := fun s hs =>
    hfit s (List.mem_append_left _ hs)
  refine ⟨first, rest, hsent, ?_, by rw [← hleft, List.length_map]⟩
  exact ((List.forall₂_and_left _ _).2 ⟨hfirst, hfates⟩).imp fun _ _ hx => hx.2.arrives hx.1

theorem Polls.segments_met {l l' : Loopback} {side : Side} {met : List (Outcome × Delivery)}
    {result : Option (NodeId × Segment)} (h : Polls side l met result l') :
    met.filterMap (·.2.segment?) = result.toList := by
  induction h with
  | nothing => rfl
  | segment => rfl
  | dropped _ _ ih => exact ih

/-- What polls return is among what is taken. -/
theorem Run.polled_sublist {l l' : Loopback} {acts : List Act} (h : Run l acts l') (side : Side) :
    (acts.flatMap (Act.polledAt side)).Sublist
      ((acts.flatMap (Act.metAt side)).filterMap (·.2.segment?)) := by
  induction h with
  | nil => exact .slnil
  | cons hstep _ ih =>
    rw [List.flatMap_cons, List.flatMap_cons, List.filterMap_append]
    refine List.Sublist.append ?_ ih
    cases hstep with
    | send => exact List.nil_sublist _
    | receive => exact List.nil_sublist _
    | poll hpolls =>
      rw [Act.polledAt, Act.metAt]
      split
      · rw [hpolls.segments_met]
      · exact .slnil

theorem exists_of_forall₂ {α β : Type} {R : α → β → Prop} {xs : List α} {ys : List β}
    (h : List.Forall₂ R xs ys) {i : Nat} {y : β} (hy : ys[i]? = some y) :
    ∃ x, xs[i]? = some x ∧ R x y := by
  obtain ⟨hi, rfl⟩ := List.getElem?_eq_some_iff.1 hy
  have hi' : i < xs.length := h.length_eq ▸ hi
  exact ⟨xs[i], List.getElem?_eq_getElem hi', h.get hi' hi⟩

/-- **What the two ends of a link see of each other.**  The `i`-th message that an end takes is the
`i`-th segment that the other one sent, or it is dropped; it is not dropped if nothing happened to
it and its kind has a meaning, and it is dropped if it was hit.  As long as fewer messages were
taken than sent, there is one to receive.  The segments that polls return are some of those that
were sent, in the same order. -/
theorem delivers_in_order {l l' : Loopback} {acts : List Act} (side : Side) (h : Run l acts l')
    (hempty : (l.endAt side).inbox = [])
    (hfit : ∀ s ∈ acts.flatMap (Act.sentFrom side.other), s.payload.length ≤ 65535) :
    (∀ (i : Nat) (x : Outcome × Delivery), (acts.flatMap (Act.metAt side))[i]? = some x →
        ∃ s, (acts.flatMap (Act.sentFrom side.other))[i]? = some s ∧
          Arrives (l.endAt side.other).node s x) ∧
      (acts.flatMap (Act.polledAt side)).Sublist
        ((acts.flatMap (Act.sentFrom side.other)).map fun s =>
          ((l.endAt side.other).node, s.stamped)) ∧
      ((acts.flatMap (Act.metAt side)).length <
          (acts.flatMap (Act.sentFrom side.other)).length →
        ∃ d l'', l'.receive side = (.got d, l'')) ∧
      (∀ (d : Delivery) (l'' : Loopback), l'.receive side = (.got d, l'') →
        Step l' (.received side (l'.outcome side) d) l'') ∧
      ∀ (r : Reception (NodeId × Segment)) (l'' : Loopback), l'.poll side = (r, l'') →
        ∃ met result, Step l' (.polled side met result) l'' ∧
          ∀ x, r = .got x ↔ result = some x := by
  obtain ⟨first, rest, hsent, hfirst, hrest⟩ := h.arrives hempty hfit
  refine ⟨?_, ?_, ?_, ?_, ?_⟩
  · intro i x hx
    obtain ⟨s, hs, harrives⟩ := exists_of_forall₂ hfirst hx
    refine ⟨s, ?_, harrives⟩
    rw [hsent]
    exact List.getElem?_append_left (List.getElem?_eq_some_iff.1 hs).1 ▸ hs
  · refine (h.polled_sublist side).trans ((segments_sublist hfirst).trans ?_)
    rw [hsent, List.map_append]
    exact List.sublist_append_left _ _
  · intro hlt
    refine exists_receive fun hnil => ?_
    rw [hsent, List.length_append, ← hfirst.length_eq, hrest, hnil] at hlt
    exact Nat.lt_irrefl _ hlt
  · exact fun _ _ => step_receive
  · exact fun _ _ => step_poll

/-- Three segments are sent.  The first one is damaged and the second one has no kind, so that a
poll after the first one returns the third one. -/
theorem pair_delivers_in_order :
    let first := Segment.dataOf 7 9 1 [1, 2]
    let second : Segment := { first with kind := .unknown }
    let third := Segment.dataOf 7 9 3 [3]
    ∃ acts l', Run (pair 1 2) acts l' ∧
      acts.flatMap (Act.sentFrom .a) = [first, second, third] ∧
      acts.flatMap (Act.metAt .b) =
        [(.flipped 3, .dropped), (.delivered, .dropped), (.delivered, .segment 1 third.stamped)] ∧
      acts.flatMap (Act.polledAt .b) = [(1, third.stamped)] ∧
      (∃ s, [first, second, third][2]? = some s ∧
        Arrives 1 s (.delivered, .segment 1 third.stamped)) := by
  intro first second third
  let l := (((pair 1 2).post .a first).post .a second).post .a third
  let l₁ := l.without .b [(1, second.wire), (1, third.wire)] none
  let l₂ := l₁.without .b [(1, third.wire)] none
  let l₃ := l₂.without .b [] none
  have hfirst : Takes .b l (.flipped 3) .dropped l₁ :=
    .take rfl (Outcome.possible_flipped_iff.2 (by decide))
      (Delivery.ofWire_flipped 1 (by decide) (by decide)).symm
  have hsecond : Takes .b l₁ .delivered .dropped l₂ :=
    .take rfl (Outcome.possible_delivered _) (Delivery.ofWire_delivered_of_unknown 1 rfl).symm
  have hthird : Takes .b l₂ .delivered (.segment 1 third.stamped) l₃ :=
    .take rfl (Outcome.possible_delivered _)
      (Delivery.ofWire_delivered 1 (by decide) (by decide)).symm
  have hrun : Run (pair 1 2)
      [.sent .a first, .sent .a second, .sent .a third, .received .b (.flipped 3) .dropped,
        .polled .b [(.delivered, .dropped), (.delivered, .segment 1 third.stamped)]
          (some (1, third.stamped))] l₃ :=
    .cons (.send rfl) (.cons (.send rfl) (.cons (.send rfl) (.cons (.receive hfirst)
      (.cons (.poll (.dropped hsecond (.segment hthird))) .nil))))
  refine ⟨_, l₃, hrun, rfl, rfl, rfl, ?_⟩
  exact (delivers_in_order .b hrun rfl (by decide)).1 2 _ rfl

end Loopback

end Transport

end OverlayStack
