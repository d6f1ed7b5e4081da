/-!
# Byte strings and words in network order

Everything that crosses a link is a list of bytes.  Numbers are written as words of two or four
bytes with the most significant byte first.  The main statements say that the splitting functions
read exactly what the writing functions produce: `splitWord16?_eq_some_iff`,
`splitWord32?_eq_some_iff` and `splitExact?_eq_some_iff`.

## Main definitions

* `Bytes` — a string of bytes.
* `Bytes.ofWord16`, `Bytes.ofWord32` — a word as bytes.
* `Bytes.splitWord16?`, `Bytes.splitWord32?` — the word at the front of a byte string.
* `Bytes.splitExact?` — the first `n` bytes, if there are as many.
* `Bytes.chunks` — a byte string cut into pieces of at most `n` bytes.
-/

namespace OverlayStack

/-- A string of bytes. -/
abbrev Bytes := List UInt8

namespace Bytes

/-! ### Words -/

/-- The two bytes of a word, high byte first. -/
def ofWord16 (w : UInt16) : Bytes :=
  [UInt8.ofNat (w.toNat / 256), UInt8.ofNat w.toNat]

/-- The four bytes of a word, high byte first. -/
def ofWord32 (w : UInt32) : Bytes :=
  [UInt8.ofNat (w.toNat / 16777216), UInt8.ofNat (w.toNat / 65536),
    UInt8.ofNat (w.toNat / 256), UInt8.ofNat w.toNat]

/-- The word with the given high and low byte. -/
def word16 (hi lo : UInt8) : UInt16 :=
  UInt16.ofNat (hi.toNat * 256 + lo.toNat)

/-- The word with the given bytes, high byte first. -/
def word32 (a b c d : UInt8) : UInt32 :=
  UInt32.ofNat (a.toNat * 16777216 + b.toNat * 65536 + c.toNat * 256 + d.toNat)

/-- The word in the first two bytes, and the bytes after it. -/
def splitWord16? : Bytes → Option (UInt16 × Bytes)
  | hi :: lo :: rest => some (word16 hi lo, rest)
  | _ => none

/-- The word in the first four bytes, and the bytes after it. -/
def splitWord32? : Bytes → Option (UInt32 × Bytes)
  | a :: b :: c :: d :: rest => some (word32 a b c d, rest)
  | _ => none

@[simp] theorem length_ofWord16 (w : UInt16) : (ofWord16 w).length = 2 := rfl

@[simp] theorem length_ofWord32 (w : UInt32) : (ofWord32 w).length = 4 := rfl

@[simp] theorem toNat_word16 (hi lo : UInt8) :
    (word16 hi lo).toNat = hi.toNat * 256 + lo.toNat := by
  have := hi.toNat_lt
  have := lo.toNat_lt
  simp only [word16, UInt16.toNat_ofNat']
  omega

@[simp] theorem toNat_word32 (a b c d : UInt8) :
    (word32 a b c d).toNat = a.toNat * 16777216 + b.toNat * 65536 + c.toNat * 256 + d.toNat := by
  have := a.toNat_lt
  have := b.toNat_lt
  have := c.toNat_lt
  have := d.toNat_lt
  simp only [word32, UInt32.toNat_ofNat']
  omega

theorem ofWord16_word16 (hi lo : UInt8) : ofWord16 (word16 hi lo) = [hi, lo] := by
  have := hi.toNat_lt
  have := lo.toNat_lt
  simp only [ofWord16, toNat_word16, List.cons.injEq, and_true, ← UInt8.toNat_inj,
    UInt8.toNat_ofNat']
  omega

theorem ofWord32_word32 (a b c d : UInt8) : ofWord32 (word32 a b c d) = [a, b, c, d] := by
  have := a.toNat_lt
  have := b.toNat_lt
  have := c.toNat_lt
  have := d.toNat_lt
  simp only [ofWord32, toNat_word32, List.cons.injEq, and_true, ← UInt8.toNat_inj,
    UInt8.toNat_ofNat']
  omega

@[simp] theorem splitWord16?_ofWord16_append (w : UInt16) (rest : Bytes) :
    splitWord16? (ofWord16 w ++ rest) = some (w, rest) := by
  have := w.toNat_lt
  simp only [ofWord16, List.cons_append, List.nil_append, splitWord16?, Option.some.injEq,
    Prod.mk.injEq, and_true, ← UInt16.toNat_inj, toNat_word16, UInt8.toNat_ofNat']
  omega

@[simp] theorem splitWord32?_ofWord32_append (w : UInt32) (rest : Bytes) :
    splitWord32? (ofWord32 w ++ rest) = some (w, rest) := by
  have := w.toNat_lt
  simp only [ofWord32, List.cons_append, List.nil_append, splitWord32?, Option.some.injEq,
    Prod.mk.injEq, and_true, ← UInt32.toNat_inj, toNat_word32, UInt8.toNat_ofNat']
  omega

/-- The word at the front is the one whose two bytes stand there. -/
theorem splitWord16?_eq_some_iff {bs rest : Bytes} {w : UInt16} :
    splitWord16? bs = some (w, rest) ↔ bs = ofWord16 w ++ rest := by
  refine ⟨fun h => ?_, fun h => h ▸ splitWord16?_ofWord16_append w rest⟩
  match bs, h with
  | hi :: lo :: tail, h =>
    simp only [splitWord16?, Option.some.injEq, Prod.mk.injEq] at h
    obtain ⟨rfl, rfl⟩ := h
    simp [ofWord16_word16]

/-- The word at the front is the one whose four bytes stand there. -/
theorem splitWord32?_eq_some_iff {bs rest : Bytes} {w : UInt32} :
    splitWord32? bs = some (w, rest) ↔ bs = ofWord32 w ++ rest := by
  refine ⟨fun h => ?_, fun h => h ▸ splitWord32?_ofWord32_append w rest⟩
  match bs, h with
  | a :: b :: c :: d :: tail, h =>
    simp only [splitWord32?, Option.some.injEq, Prod.mk.injEq] at h
    obtain ⟨rfl, rfl⟩ := h
    simp [ofWord32_word32]

/-! ### Pieces -/

/-- The first `n` bytes and the rest, if there are that many. -/
def splitExact? : Nat → Bytes → Option (Bytes × Bytes)
  | 0, bs => some ([], bs)
  | _ + 1, [] => none
  | n + 1, b :: bs => (splitExact? n bs).map fun (front, rest) => (b :: front, rest)

/-- A split succeeds exactly when the byte string is a front of the right length and a rest. -/
theorem splitExact?_eq_some_iff {n : Nat} {bs front rest : Bytes} :
    splitExact? n bs = some (front, rest) ↔ front.length = n ∧ bs = front ++ rest := by
  induction n generalizing bs front with
  | zero =>
    simp only [splitExact?, Option.some.injEq, Prod.mk.injEq, List.length_eq_zero_iff]
    constructor
    · rintro ⟨rfl, rfl⟩; simp
    · rintro ⟨rfl, h⟩; simp [h]
  | succ n ih =>
    cases bs with
    | nil => cases front <;> simp [splitExact?]
    | cons b bs =>
      cases front with
      | nil => simp [splitExact?]
      | cons f front =>
        simp only [splitExact?, Option.map_eq_some_iff, Prod.exists, Prod.mk.injEq,
          List.cons.injEq, List.length_cons, Nat.add_right_cancel_iff, List.cons_append]
        constructor
        · rintro ⟨g, r, h, ⟨rfl, rfl⟩, rfl⟩
          have := ih.1 h
          simp [this.1, this.2]
        · rintro ⟨hl, rfl, rfl⟩
          exact ⟨front, rest, ih.2 ⟨hl, rfl⟩, ⟨rfl, rfl⟩, rfl⟩

/-- The byte string cut from the front into pieces of `n` bytes, the last one possibly shorter.
A piece has at least one byte, so that cutting always makes progress. -/
def chunks (n : Nat) (bs : Bytes) : List Bytes :=
  match bs with
  | [] => []
  | b :: rest => (b :: rest.take (n - 1)) :: chunks n (rest.drop (n - 1))
termination_by bs.length
decreasing_by simp only [List.length_drop, List.length_cons]; omega

@[simp] theorem chunks_nil (n : Nat) : chunks n [] = [] := by
  simp [chunks]

@[simp] theorem chunks_cons (n : Nat) (b : UInt8) (rest : Bytes) :
    chunks n (b :: rest) = (b :: rest.take (n - 1)) :: chunks n (rest.drop (n - 1)) := by
  rw [chunks]

/-- Cutting loses nothing. -/
theorem flatten_chunks (n : Nat) (bs : Bytes) : (chunks n bs).flatten = bs := by
  fun_induction chunks n bs with
  | case1 => rfl
  | case2 b rest ih => simp [ih]

end Bytes

end OverlayStack
