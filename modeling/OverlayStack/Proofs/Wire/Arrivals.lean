import OverlayStack.Proofs.Wire.Scanning

/-!
# Streams that arrive in pieces

A stream arrives in pieces, and the frames in it are read as soon as they are complete.  What is
read does not depend on where the stream is cut: neither what the pieces are, nor whether a frame is
complete in one of them.

## Main definitions

* `Frame.inPieces` — what a reader does with the pieces of a stream.
* `Frame.Seamless` — a reader for which it does not matter how a stream is cut.

## Main results

* `Frame.readAvailable_append` — a stream can be cut anywhere.
* `Frame.Seamless.sent_inPieces` — pieces can be read as one.
* `Frame.readAvailable_write` — all messages that were written are read.
-/

namespace OverlayStack.Frame

variable {α : Type} [Message α] {withNode : Bool}

/-! ### Where a stream is cut -/

theorem readAvailable_of_isEnd {stream : Bytes}
    (h : isEnd (readRaw α withNode stream).1 = true) :
    readAvailable α withNode stream = ([], stream) := by
  rw [readAvailable]
  exact dif_neg (by rw [h]; decide)

/-- Once the front of a stream is a span, that is what is read first. -/
theorem readAvailable_of_span {taken : Bytes}
    {result : Except FrameError (Option NodeId × Bytes)} (h : Span α withNode taken result)
    (rest : Bytes) :
    readAvailable α withNode (taken ++ rest) =
      (result :: (readAvailable α withNode rest).1, (readAvailable α withNode rest).2) := by
  rw [readAvailable, h.readRaw_append]
  exact dif_pos h.isEnd_eq

/-- **A stream can be cut anywhere**: what is left of its front is read with what follows. -/
theorem readAvailable_append (front back : Bytes) :
    readAvailable α withNode (front ++ back) =
      ((readAvailable α withNode front).1 ++
        (readAvailable α withNode ((readAvailable α withNode front).2 ++ back)).1,
      (readAvailable α withNode ((readAvailable α withNode front).2 ++ back)).2) := by
  generalize hn : front.length = n
  induction n using Nat.strongRecOn generalizing front with
  | ind n ih =>
    cases hend : isEnd (readRaw α withNode front).1 with
    | true => rw [readAvailable_of_isEnd hend, List.nil_append]
    | false =>
      obtain ⟨taken, heq, hspan⟩ := exists_span hend
      have hlt : (readRaw α withNode front).2.length < n := by
        have := length_readRaw_lt hend
        omega
      have hrest := ih _ hlt (readRaw α withNode front).2 rfl
      rw [heq, List.append_assoc, readAvailable_of_span hspan, readAvailable_of_span hspan, hrest]
      rfl

theorem readAvailable_nil : readAvailable α withNode [] = ([], []) :=
  readAvailable_of_isEnd rfl

/-! ### Readers -/

section Readers

variable {σ ω : Type} {feed : σ → Bytes → σ × List ω}

/-- What becomes of a reader when the pieces of a stream arrive one after another, and what it
sends. -/
def inPieces (feed : σ → Bytes → σ × List ω) (s : σ) : List Bytes → σ × List ω
  | [] => (s, [])
  | piece :: rest =>
    let (s, sent) := feed s piece
    let (s, more) := inPieces feed s rest
    (s, sent ++ more)

/-- It does not matter whether two pieces of a stream arrive one after the other or together. -/
def Seamless (feed : σ → Bytes → σ × List ω) : Prop :=
  ∀ s front back, feed s (front ++ back) =
    ((feed (feed s front).1 back).1, (feed s front).2 ++ (feed (feed s front).1 back).2)

/-- A reader that has read all that it can sends nothing without more bytes. -/
theorem Seamless.feed_nil (h : Seamless feed) (s : σ) (piece : Bytes) :
    (feed (feed s piece).1 []).2 = [] := by
  have happend := congrArg Prod.snd (h s piece [])
  rw [List.append_nil] at happend
  exact List.self_eq_append_right.1 happend

/-- **Pieces can be read as one.** -/
theorem Seamless.sent_inPieces (h : Seamless feed) {s : σ} (hs : (feed s []).2 = [])
    (pieces : List Bytes) : (inPieces feed s pieces).2 = (feed s pieces.flatten).2 := by
  induction pieces generalizing s with
  | nil => exact hs.symm
  | cons piece rest ih =>
    rw [inPieces, List.flatten_cons, h]
    dsimp only
    rw [ih (h.feed_nil s piece)]

end Readers

/-! ### Messages that were written -/

/-- **All messages that were written are read.** -/
theorem readAvailable_write [Message.Faithful α] (node : Option NodeId) {messages : List α}
    (h : ∀ m ∈ messages, Message.Faithful.Sound m) :
    readAvailable α node.isSome (messages.flatMap (write node)) =
      (messages.map fun m => .ok (node, Message.encode m), []) := by
  induction messages with
  | nil => exact readAvailable_nil
  | cons m messages ih =>
    have hspan : Span α node.isSome (write node m) (.ok (node, Message.encode m)) :=
      .frame (Item.clean_nil node _) (Message.Faithful.fits (h m List.mem_cons_self))
    rw [List.flatMap_cons, readAvailable_of_span hspan,
      ih fun m' hm' => h m' (List.mem_cons_of_mem _ hm')]
    rfl

theorem decoded_encode [Message.Faithful α] {m : α} (h : Message.Faithful.Sound m)
    (node : Option NodeId) :
    decoded α (.ok (node, Message.encode m)) = .ok (node, Message.Faithful.received m) := by
  rw [decoded, Message.Faithful.decode_encode h]

end OverlayStack.Frame
