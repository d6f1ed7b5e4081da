import OverlayStack.Proofs.Wire.Framing

/-!
# Reading arbitrary bytes

Whatever the bytes of a stream are, each read of it takes a front of what is left, up to the end of
a frame or of a header that announces too much, or finds the end of the stream.  The fronts follow
each other, so that the stream is cut into pieces, and what the reads get stands in them.

## Main definitions

* `Frame.Span` — the bytes that a read takes and what it gets for them.
* `Frame.Exhausts` — a stream ends before a read of it does.
* `Frame.Cuts` — a stream cut into the spans that its reads take.
* `Frame.gotten`, `Frame.EndsOnce` — what the reads have got, and where they find the end.

## Main results

* `Frame.readRaw_eq_iff` — a read takes a span.
* `Frame.cuts_readAllRaw` — the reads of a stream cut it into spans.
* `Frame.reads_of_any_stream` — how many reads a stream has, and where they find what they get.
-/

namespace OverlayStack.Frame

variable {α : Type} [Message α] {withNode : Bool}

/-! ### What a read takes -/

/-- `Span α withNode taken result` says that a read which finds the bytes `taken` in front of it
takes them and nothing else, and gets `result`. -/
inductive Span (α : Type) [Message α] (withNode : Bool) :
    Bytes → Except FrameError (Option NodeId × Bytes) → Prop where
  /-- Noise and a frame. -/
  | frame {i : Item Bytes} (hclean : i.Clean withNode) (hfits : Fits α i.content) :
      Span α withNode i.wire (.ok (i.node, i.content))
  /-- Noise and a frame with other bytes at its end. -/
  | badTrailer {i : Item Bytes} {a b : UInt8} (hclean : i.Clean withNode)
      (hfits : Fits α i.content) (hne : [a, b] ≠ trailer) :
      Span α withNode (i.noise ++ (start ++ nodeWire i.node ++ i.content ++ [a, b]))
        (.error (.badTrailer a b))
  /-- Noise and the front of a frame, up to a header that announces too much. -/
  | oversized {i : Item Bytes} (hclean : i.Clean withNode)
      (hlength : i.content.length = Message.headerLength α)
      (hlt : Message.maxPayload α < Message.announced α i.content) :
      Span α withNode (i.noise ++ (start ++ nodeWire i.node ++ i.content))
        (.error (.oversized (Message.layer α) (Message.announced α i.content)
          (Message.maxPayload α)))

/-- The stream ends before a read of it does: no front of it is all that a read takes. -/
def Exhausts (α : Type) [Message α] (withNode : Bool) (stream : Bytes) : Prop :=
  ∀ taken result, Span α withNode taken result → ¬ taken <+: stream

theorem Span.isEnd_eq {taken : Bytes} {result : Except FrameError (Option NodeId × Bytes)}
    (h : Span α withNode taken result) : isEnd result = false := by
  cases h <;> rfl

/-- A span has at least the start of a frame and a header. -/
theorem Span.length_le {taken : Bytes} {result : Except FrameError (Option NodeId × Bytes)}
    (h : Span α withNode taken result) : 2 + Message.headerLength α ≤ taken.length := by
  have hstart : start.length = 2 := rfl
  cases h with
  | frame _ hfits =>
    have hlength := hfits.length_eq
    simp only [Item.wire, wire, List.length_append]
    omega
  | badTrailer _ hfits _ =>
    have hlength := hfits.length_eq
    simp only [List.length_append]
    omega
  | oversized _ hlength _ =>
    simp only [List.length_append]
    omega

/-- A read takes the span in front of it. -/
theorem Span.readRaw_append {taken : Bytes} {result : Except FrameError (Option NodeId × Bytes)}
    (h : Span α withNode taken result) (rest : Bytes) :
    readRaw α withNode (taken ++ rest) = (result, rest) := by
  cases h with
  | frame hclean hfits => exact readRaw_item hclean hfits rest
  | badTrailer hclean hfits hne => rw [readRaw_body hclean hfits, if_neg hne]
  | oversized hclean hlength hlt => rw [readRaw_header hclean hlength, if_pos hlt]

/-! ### Every read takes a span or finds the end -/

theorem exists_noise {stream rest : Bytes} (h : afterStart stream = some rest) :
    ∃ noise, ¬ start <:+: noise ∧ stream = noise ++ (start ++ rest) := by
  fun_induction afterStart stream with
  | case1 a b tail hab =>
    obtain ⟨rfl, rfl⟩ := hab
    obtain rfl := Option.some.inj h
    exact ⟨[], by simp [start], rfl⟩
  | case2 a b tail hab ih =>
    obtain ⟨noise, hnoise, heq⟩ := ih h
    refine ⟨a :: noise, ?_, by rw [heq, List.cons_append]⟩
    rw [start, List.infix_cons_iff]
    rintro (hfront | hinfix)
    -- the byte after the first one of the noise is that after the first one of the stream
    · cases noise with
      | nil => simp at hfront
      | cons c noise =>
        rw [List.cons_append] at heq
        obtain ⟨rfl, -⟩ := List.cons.inj heq
        simp only [List.cons_prefix_cons] at hfront
        exact hab ⟨hfront.1.symm, hfront.2.1.symm⟩
    · exact hnoise hinfix
  | case3 => simp at h

theorem splitNode?_eq_some {bs rest : Bytes} {node : Option NodeId}
    (h : splitNode? withNode bs = some (node, rest)) :
    node.isSome = withNode ∧ bs = nodeWire node ++ rest := by
  rw [splitNode?] at h
  cases withNode with
  | false =>
    obtain ⟨rfl, rfl⟩ := Prod.mk.inj (Option.some.inj h)
    exact ⟨rfl, rfl⟩
  | true =>
    rw [if_pos rfl, Option.map_eq_some_iff] at h
    obtain ⟨⟨w, tail⟩, hsplit, heq⟩ := h
    obtain ⟨rfl, rfl⟩ := Prod.mk.inj heq
    exact ⟨rfl, Bytes.splitWord32?_eq_some_iff.1 hsplit⟩

/-- A read that does not find the end finds a header. -/
theorem exists_header {stream : Bytes} (h : isEnd (readRaw α withNode stream).1 = false) :
    ∃ (i : Item Bytes) (rest : Bytes), i.Clean withNode ∧
      i.content.length = Message.headerLength α ∧
      stream = i.noise ++ (start ++ nodeWire i.node ++ i.content) ++ rest := by
  rw [readRaw] at h
  split at h
  · cases h
  · next afterNoise hstart =>
    obtain ⟨noise, hnoise, rfl⟩ := exists_noise hstart
    split at h
    · cases h
    · next node afterNode hnode =>
      obtain ⟨hsome, rfl⟩ := splitNode?_eq_some hnode
      split at h
      · cases h
      · next header rest hheader =>
        obtain ⟨hlength, rfl⟩ := Bytes.splitExact?_eq_some_iff.1 hheader
        refine ⟨⟨noise, node, header⟩, rest, ⟨hnoise, hsome⟩, hlength, ?_⟩
        simp only [List.append_assoc]

/-- A read that does not find the end takes a span. -/
theorem exists_span {stream : Bytes} (h : isEnd (readRaw α withNode stream).1 = false) :
    ∃ taken, stream = taken ++ (readRaw α withNode stream).2 ∧
      Span α withNode taken (readRaw α withNode stream).1 := by
  obtain ⟨i, rest, hclean, hlength, rfl⟩ := exists_header h
  rw [readRaw_header hclean hlength] at h ⊢
  by_cases hlt : Message.announced α i.content > Message.maxPayload α
  · rw [if_pos hlt] at h ⊢
    exact ⟨_, rfl, .oversized hclean hlength hlt⟩
  · rw [if_neg hlt] at h ⊢
    split at h
    · next payload a b rest' hpayload =>
      obtain ⟨hannounced, rfl⟩ := Bytes.splitExact?_eq_some_iff.1 hpayload
      have hfits : Fits α (i.content ++ payload) := by
        have htake : (i.content ++ payload).take (Message.headerLength α) = i.content := by
          rw [← hlength, List.take_left]
        refine ⟨?_, ?_⟩
        · rw [htake, List.length_append]
          omega
        · rw [htake]
          exact Nat.not_lt.1 hlt
      have hclean' : Item.Clean withNode ⟨i.noise, i.node, i.content ++ payload⟩ :=
        ⟨hclean.noise, hclean.isSome_node⟩
      by_cases hab : [a, b] = trailer
      · rw [if_pos hab]
        obtain ⟨rfl, rfl⟩ : a = 0x21 ∧ b = 0x23 := by simpa [trailer] using hab
        refine ⟨_, ?_, .frame hclean' hfits⟩
        simp [Item.wire, wire, trailer]
      · rw [if_neg hab]
        refine ⟨_, ?_, .badTrailer hclean' hfits hab⟩
        simp
    · cases h

/-- **A read takes a span**, and every span in front of a read is taken. -/
theorem readRaw_eq_iff {stream rest : Bytes} {result : Except FrameError (Option NodeId × Bytes)}
    (h : isEnd result = false) :
    readRaw α withNode stream = (result, rest) ↔
      ∃ taken, stream = taken ++ rest ∧ Span α withNode taken result := by
  constructor
  · intro hread
    have hgoes : isEnd (readRaw α withNode stream).1 = false := by rwa [hread]
    have hspan := exists_span hgoes
    rwa [hread] at hspan
  · rintro ⟨taken, rfl, hspan⟩
    exact hspan.readRaw_append rest

/-- A read finds the end exactly if the stream ends before the read does. -/
theorem isEnd_readRaw_iff {stream : Bytes} :
    isEnd (readRaw α withNode stream).1 = true ↔ Exhausts α withNode stream := by
  constructor
  · rintro hend taken result hspan ⟨rest, rfl⟩
    rw [hspan.readRaw_append, hspan.isEnd_eq] at hend
    cases hend
  · intro hexhausts
    by_contra hend
    obtain ⟨taken, heq, hspan⟩ := exists_span (Bool.not_eq_true _ ▸ hend)
    exact hexhausts taken _ hspan ⟨_, heq.symm⟩

/-- A read that finds the end leaves nothing. -/
theorem readRaw_of_isEnd {stream : Bytes} (h : isEnd (readRaw α withNode stream).1 = true) :
    readRaw α withNode stream = (.error (.closed .ended), []) := by
  revert h
  rw [readRaw]
  split
  · exact fun _ => rfl
  · split
    · exact fun _ => rfl
    · split
      · exact fun _ => rfl
      · dsimp only
        split
        · exact fun h => absurd h Bool.false_ne_true
        · split
          · split <;> exact fun h => absurd h Bool.false_ne_true
          · exact fun _ => rfl

/-- Messages that cannot be decoded do not end the reading. -/
theorem isEnd_decoded (result : Except FrameError (Option NodeId × Bytes)) :
    isEnd (decoded α result) = isEnd result := by
  match result with
  | .error e => rfl
  | .ok (node, body) =>
    rw [decoded]
    split <;> rfl

/-! ### A stream cut into spans -/

/-- The reads of a stream, each with the stream after it, cut it into spans until the stream ends
before a read does. -/
inductive Cuts (α : Type) [Message α] (withNode : Bool) :
    Bytes → List (Except FrameError (Option NodeId × Bytes) × Bytes) → Prop where
  | ended {stream : Bytes} (h : Exhausts α withNode stream) :
      Cuts α withNode stream [(.error (.closed .ended), [])]
  | taken {taken rest : Bytes} {result : Except FrameError (Option NodeId × Bytes)}
      {calls : List (Except FrameError (Option NodeId × Bytes) × Bytes)}
      (h : Span α withNode taken result) (hrest : Cuts α withNode rest calls) :
      Cuts α withNode (taken ++ rest) ((result, rest) :: calls)

/-- **The reads of a stream cut it into spans.** -/
theorem cuts_readAllRaw (stream : Bytes) :
    Cuts α withNode stream (readAllRaw α withNode stream) := by
  fun_induction readAllRaw α withNode stream with
  | case1 stream step hgoes ih =>
    obtain ⟨taken, heq, hspan⟩ := exists_span hgoes
    have hcuts := Cuts.taken hspan ih
    rwa [← heq] at hcuts
  | case2 stream step hends =>
    have hend : isEnd (readRaw α withNode stream).1 = true := by simpa using hends
    have hstep : step = (.error (.closed .ended), []) := readRaw_of_isEnd hend
    rw [hstep]
    exact .ended (isEnd_readRaw_iff.1 hend)

/-- What some reads have got. -/
def gotten {γ : Type} (calls : List (Except FrameError γ × Bytes)) : List γ :=
  calls.filterMap (·.1.toOption)

theorem gotten_ok {γ : Type} (x : γ) (rest : Bytes)
    (calls : List (Except FrameError γ × Bytes)) :
    gotten ((.ok x, rest) :: calls) = x :: gotten calls := rfl

/-- The reads find the end of the stream with the last one of them and not before. -/
def EndsOnce {γ : Type} (calls : List (Except FrameError γ × Bytes)) : Prop :=
  ∃ front, calls = front ++ [(.error (.closed .ended), [])] ∧ ∀ c ∈ front, isEnd c.1 = false

variable {stream : Bytes} {calls : List (Except FrameError (Option NodeId × Bytes) × Bytes)}

theorem Cuts.endsOnce (h : Cuts α withNode stream calls) : EndsOnce calls := by
  induction h with
  | ended => exact ⟨[], rfl, by simp⟩
  | @taken taken rest result calls hspan _ ih =>
    obtain ⟨front, rfl, hfront⟩ := ih
    refine ⟨(result, rest) :: front, rfl, ?_⟩
    intro c hc
    rcases List.mem_cons.1 hc with rfl | hc
    · exact hspan.isEnd_eq
    · exact hfront c hc

/-- There is one read more than spans fit into the stream, at most. -/
theorem Cuts.length_le (h : Cuts α withNode stream calls) :
    calls.length ≤ 1 + stream.length / (2 + Message.headerLength α) := by
  have hpos : 0 < 2 + Message.headerLength α := by omega
  induction h with
  | ended => exact Nat.le_add_right 1 _
  | @taken taken rest result calls hspan _ ih =>
    have hdiv : rest.length / (2 + Message.headerLength α) + 1 ≤
        (taken ++ rest).length / (2 + Message.headerLength α) := by
      rw [← Nat.add_div_right _ hpos, List.length_append]
      apply Nat.div_le_div_right
      have := hspan.length_le
      omega
    rw [List.length_cons]
    omega

/-- What the reads get stands in the stream in frames, one behind the other. -/
theorem Cuts.exists_items (h : Cuts α withNode stream calls) :
    ∃ (items : List (Item Bytes)) (tail : Bytes), stream = items.flatMap Item.wire ++ tail ∧
      (∀ i ∈ items, i.node.isSome = withNode ∧ Fits α i.content) ∧
      gotten calls = items.map fun i => (i.node, i.content) := by
  induction h with
  | @ended stream _ => exact ⟨[], stream, rfl, by simp, rfl⟩
  | @taken taken rest result calls hspan _ ih =>
    obtain ⟨items, tail, rfl, hitems, hgotten⟩ := ih
    cases result with
    -- what a read takes without getting anything lies in front of the next frame
    | error e =>
      cases items with
      | nil => exact ⟨[], taken ++ tail, rfl, by simp, hgotten⟩
      | cons i items =>
        refine ⟨⟨taken ++ i.noise, i.node, i.content⟩ :: items, tail, ?_, ?_, hgotten⟩
        · simp [Item.wire]
        · intro j hj
          rcases List.mem_cons.1 hj with rfl | hj
          · exact hitems i List.mem_cons_self
          · exact hitems j (List.mem_cons_of_mem i hj)
    | ok x =>
      cases hspan with
      | @frame i hclean hfits =>
        refine ⟨i :: items, tail, by simp, ?_, ?_⟩
        · intro j hj
          rcases List.mem_cons.1 hj with rfl | hj
          · exact ⟨hclean.isSome_node, hfits⟩
          · exact hitems j hj
        · rw [gotten_ok, hgotten, List.map_cons]

/-! ### Messages -/

theorem EndsOnce.readAll (h : EndsOnce (readAllRaw α withNode stream)) :
    EndsOnce (readAll α withNode stream) := by
  obtain ⟨front, heq, hfront⟩ := h
  refine ⟨front.map fun c => (decoded α c.1, c.2), ?_, ?_⟩
  · rw [Frame.readAll, heq, List.map_append]
    rfl
  · intro c hc
    obtain ⟨c, hmem, rfl⟩ := List.mem_map.1 hc
    exact (isEnd_decoded c.1).trans (hfront c hmem)

/-- The messages that the reads get are decoded from the bytes that the reads of bytes get. -/
theorem gotten_readAll (stream : Bytes) :
    gotten (readAll α withNode stream) =
      (gotten (readAllRaw α withNode stream)).filterMap fun b => (decoded α (.ok b)).toOption := by
  rw [gotten, gotten, readAll, List.filterMap_map, List.filterMap_filterMap]
  congr 1
  funext c
  obtain ⟨result, rest⟩ := c
  cases result <;> rfl

/-- **What reading makes of an arbitrary stream**, with or without nodes in its frames.  A read
finds the end exactly if the stream ends before the read does; else it takes at least the start of a
frame and a header.  So the end is found after no more reads than fit into the stream in this way
and one more, and only the last one finds it.  What the reads get stands in the stream in frames,
one behind the other and none of them overlapping: each has the start, the node if there is to be
one, a header with as much payload as it announces, which is not too much, and the end.  Reads of
messages get those of them that can be decoded. -/
theorem reads_of_any_stream (α : Type) [Message α] (withNode : Bool) (stream : Bytes) :
    (isEnd (readRaw α withNode stream).1 = true ↔ Exhausts α withNode stream) ∧
    (isEnd (read α withNode stream).1 = true ↔ Exhausts α withNode stream) ∧
    (¬ Exhausts α withNode stream → ∃ taken, 2 + Message.headerLength α ≤ taken.length ∧
      stream = taken ++ (readRaw α withNode stream).2 ∧
      stream = taken ++ (read α withNode stream).2) ∧
    EndsOnce (readAllRaw α withNode stream) ∧ EndsOnce (readAll α withNode stream) ∧
    (readAllRaw α withNode stream).length ≤ 1 + stream.length / (2 + Message.headerLength α) ∧
    (readAll α withNode stream).length ≤ 1 + stream.length / (2 + Message.headerLength α) ∧
    ∃ (items : List (Item Bytes)) (tail : Bytes), stream = items.flatMap Item.wire ++ tail ∧
      (∀ i ∈ items, i.node.isSome = withNode ∧ Fits α i.content) ∧
      gotten (readAllRaw α withNode stream) = items.map (fun i => (i.node, i.content)) ∧
      gotten (readAll α withNode stream) =
        items.filterMap fun i => (decoded α (.ok (i.node, i.content))).toOption := by
  have hcuts : Cuts α withNode stream (readAllRaw α withNode stream) := cuts_readAllRaw stream
  have hends := hcuts.endsOnce
  obtain ⟨items, tail, heq, hitems, hgotten⟩ := hcuts.exists_items
  refine ⟨isEnd_readRaw_iff, ?_, ?_, hends, hends.readAll, hcuts.length_le, ?_,
    items, tail, heq, hitems, hgotten, ?_⟩
  · have hsame : isEnd (read α withNode stream).1 = isEnd (readRaw α withNode stream).1 :=
      isEnd_decoded _
    rw [hsame, isEnd_readRaw_iff]
  · intro hgoes
    rw [← isEnd_readRaw_iff, Bool.not_eq_true] at hgoes
    obtain ⟨taken, htaken, hspan⟩ := exists_span hgoes
    exact ⟨taken, hspan.length_le, htaken, htaken⟩
  · rw [readAll, List.length_map]
    exact hcuts.length_le
  · rw [gotten_readAll, hgotten, List.filterMap_map]
    rfl

/-- A frame that lacks its end costs the frame behind it too. -/
example : (readAllRaw Packet false (start ++ Packet.header {} ++
    write none (Packet.failureNotice 7))).map (·.1) =
      [.error (.badTrailer 0x21 0x26), .error (.closed .ended)] := by
  decide +kernel

end OverlayStack.Frame
