import Mathlib.Algebra.Order.BigOperators.Group.List
import Mathlib.Algebra.Order.Ring.Nat
import OverlayStack.Proofs.Wire.Checksum
import OverlayStack.Wire.Segment

/-!
# The arithmetic of checksums

A checksum is worked out in two steps.  The words of a byte string are added up in 32 bits; then the
carry in the high half of the sum is added to its low half until there is none.  Up to 131074 bytes
are 65537 words, whose sum still fits into 32 bits, and a longer byte string need not fit.  What is
left of the sum is its remainder modulo 65535, where only a sum of zero leaves zero.

The order of the words does not matter for this remainder.  Two words leave the same remainder only
if they are the same or the two zeros of the ones' complement, so that a change inside one word goes
unnoticed only if it turns one zero into the other.

## Main definitions

* `Bytes.words` — the words of a byte string.
* `checkedSumFrom` — words added up one after the other, unless an addition overflows.
* `Folds` — the rounds in which the carry of a sum is added to its low half.

## Main results

* `checkedSumFrom_words`, `checkedSumFrom_replicate` — how many bytes can be added up.
* `exists_folds` — the rounds come to an end, and what they leave.
* `exists_residue` — the checksum is the complement of a remainder.
* `zeros_of_validate` — which changes inside one word go unnoticed.
* `checksum_of_words` — all of this together.
-/

namespace OverlayStack

/-! ### Words -/

namespace Bytes

/-- The words of a byte string, high byte first.  A last odd byte is the high byte of a word. -/
def words : Bytes → List UInt16
  | [] => []
  | [hi] => [word16 hi 0]
  | hi :: lo :: rest => word16 hi lo :: words rest

theorem word16_inj {a b c d : UInt8} (h : word16 a b = word16 c d) : a = c ∧ b = d := by
  have hbytes := congrArg ofWord16 h
  rw [ofWord16_word16, ofWord16_word16] at hbytes
  simpa using hbytes

/-- Byte strings of one length are told apart by their words. -/
theorem eq_of_words_eq {bs bs' : Bytes} (hlen : bs'.length = bs.length)
    (h : bs'.words = bs.words) : bs' = bs := by
  induction bs using words.induct generalizing bs' with
  | case1 => exact List.length_eq_zero_iff.1 hlen
  | case2 hi =>
    match bs', hlen with
    | [hi'], _ =>
      simp only [words, List.cons.injEq, and_true] at h
      rw [(word16_inj h).1]
  | case3 hi lo rest ih =>
    match bs', hlen with
    | hi' :: lo' :: rest', hlen =>
      simp only [words, List.cons.injEq] at h
      obtain ⟨rfl, rfl⟩ := word16_inj h.1
      rw [ih (by simpa using hlen) h.2]

/-- A zero after an odd byte only fills up the last word. -/
theorem words_concat_zero {bs : Bytes} (h : bs.length % 2 = 1) : words (bs ++ [0]) = words bs := by
  induction bs using words.induct with
  | case1 => simp at h
  | case2 hi => rfl
  | case3 hi lo rest ih =>
    simp only [List.length_cons] at h
    rw [List.cons_append, List.cons_append, words, words, ih (by omega)]

/-- If two byte strings of one length differ, but only inside one word, then so do their words. -/
theorem exists_words_of_ne {bs bs' : Bytes} {i : Nat} (hlen : bs'.length = bs.length)
    (hsame : ∀ j, j / 2 ≠ i → bs'[j]? = bs[j]?) (hne : bs' ≠ bs) :
    ∃ front w w' back, bs.words = front ++ w :: back ∧ bs'.words = front ++ w' :: back ∧
      front.length = i := by
  induction bs using words.induct generalizing bs' i with
  | case1 => exact absurd (List.length_eq_zero_iff.1 hlen) hne
  | case2 hi =>
    match bs', hlen with
    | [hi'], _ =>
      cases i with
      | zero => exact ⟨[], _, _, [], rfl, rfl, rfl⟩
      | succ i =>
        have hhi := hsame 0 (by omega)
        simp only [List.getElem?_cons_zero, Option.some.injEq] at hhi
        rw [hhi] at hne
        exact absurd rfl hne
  | case3 hi lo rest ih =>
    match bs', hlen with
    | hi' :: lo' :: rest', hlen =>
      have hrest : ∀ j, (j + 2) / 2 ≠ i → rest'[j]? = rest[j]? := by
        intro j hj
        simpa using hsame (j + 2) hj
      cases i with
      | zero =>
        -- all words but the first are the same
        have heq : rest' = rest := List.ext_getElem? fun j => hrest j (by omega)
        rw [heq]
        exact ⟨[], _, _, words rest, rfl, rfl, rfl⟩
      | succ i =>
        have hhi := hsame 0 (by omega)
        have hlo := hsame 1 (by omega)
        simp only [List.getElem?_cons_zero, List.getElem?_cons_succ, Option.some.injEq] at hhi hlo
        subst hhi hlo
        obtain ⟨front, w, w', back, hw, hw', hi⟩ := ih (by simpa using hlen)
          (fun j (hj : j / 2 ≠ i) => hrest j (by omega)) (fun heq => hne (by rw [heq]))
        refine ⟨word16 hi' lo' :: front, w, w', back, ?_, ?_, ?_⟩
        · rw [words, hw, List.cons_append]
        · rw [words, hw', List.cons_append]
        · rw [List.length_cons, hi]

end Bytes

theorem plainSum_eq_sum_words (bs : Bytes) : plainSum bs = (bs.words.map UInt16.toNat).sum := by
  induction bs using plainSum.induct with
  | case1 => rfl
  | case2 hi => simp [plainSum, Bytes.words]
  | case3 hi lo rest ih => simp [plainSum, Bytes.words, ih]

/-- Only zeros add up to zero. -/
theorem plainSum_eq_zero_iff (bs : Bytes) : plainSum bs = 0 ↔ ∀ b ∈ bs, b = 0 := by
  have hzero : ∀ b : UInt8, b.toNat = 0 ↔ b = 0 := fun b => by simp [← UInt8.toNat_inj]
  induction bs using plainSum.induct with
  | case1 => simp [plainSum]
  | case2 hi => simp [plainSum, hzero]
  | case3 hi lo rest ih => simp [plainSum, hzero, ih, and_assoc]

/-! ### Adding up -/

/-- Some words added to a sum one after the other, unless an addition overflows. -/
def checkedSumFrom (sum : UInt32) : List UInt16 → Option UInt32
  | [] => some sum
  | w :: ws =>
    if sum.toNat + w.toNat < 4294967296 then checkedSumFrom (sum + w.toUInt32) ws else none

/-- **No addition overflows** exactly if the plain sum fits into 32 bits. -/
theorem checkedSumFrom_eq_some_iff {ws : List UInt16} {sum total : UInt32} :
    checkedSumFrom sum ws = some total ↔
      total.toNat = sum.toNat + (ws.map UInt16.toNat).sum := by
  induction ws generalizing sum with
  | nil =>
    rw [checkedSumFrom, Option.some.injEq, ← UInt32.toNat_inj]
    exact eq_comm
  | cons w ws ih =>
    rw [checkedSumFrom, List.map_cons, List.sum_cons]
    split
    · next hfits =>
      have hsum : (sum + w.toUInt32).toNat = sum.toNat + w.toNat := by
        rw [UInt32.toNat_add, UInt16.toNat_toUInt32, Nat.mod_eq_of_lt hfits]
      rw [ih, hsum, Nat.add_assoc]
    · next hover =>
      have := total.toNat_lt
      constructor
      · nofun
      · intro htotal
        omega

theorem plainSum_lt {bs : Bytes} (h : bs.length ≤ 131074) : plainSum bs < 4294967296 := by
  have hle := plainSum_le bs
  omega

/-- **No addition overflows** with up to 131074 bytes. -/
theorem checkedSumFrom_words {bs : Bytes} (h : bs.length ≤ 131074) :
    checkedSumFrom 0 bs.words = some (wordSum bs) := by
  rw [checkedSumFrom_eq_some_iff, ← plainSum_eq_sum_words, toNat_wordSum_of_lt (plainSum_lt h)]
  exact (Nat.zero_add _).symm

theorem plainSum_replicate :
    ∀ n, plainSum (List.replicate n 255) = 65535 * (n / 2) + 65280 * (n % 2)
  | 0 => rfl
  | 1 => rfl
  | n + 2 => by
    have hbyte : (255 : UInt8).toNat = 255 := rfl
    rw [List.replicate_succ, List.replicate_succ, plainSum, plainSum_replicate n, hbyte]
    omega

/-- With more bytes an addition can overflow. -/
theorem checkedSumFrom_replicate {n : Nat} (h : 131074 < n) :
    checkedSumFrom 0 (Bytes.words (List.replicate n 255)) = none := by
  rw [Option.eq_none_iff_forall_ne_some]
  intro total htotal
  rw [checkedSumFrom_eq_some_iff, ← plainSum_eq_sum_words, plainSum_replicate] at htotal
  have := total.toNat_lt
  omega

/-! ### Folding -/

/-- The rounds in which the carry of a sum is added to its low half, until there is no carry. -/
inductive Folds : Nat → UInt32 → UInt32 → Prop where
  /-- There is no carry. -/
  | done {sum : UInt32} (hcarry : sum / 65536 = 0) : Folds 0 sum sum
  /-- The carry is added, and the rounds go on. -/
  | again {n : Nat} {sum result : UInt32} (hcarry : sum / 65536 ≠ 0)
      (hrest : Folds n (foldCarry sum) result) : Folds (n + 1) sum result

theorem div_eq_zero_iff (sum : UInt32) : sum / 65536 = 0 ↔ sum.toNat < 65536 := by
  rw [← UInt32.toNat_inj, UInt32.toNat_div]
  exact Nat.div_eq_zero_iff_lt (by decide)

/-- **The rounds come to an end**, after two rounds at most. -/
theorem exists_folds (sum : UInt32) : ∃ n ≤ 2, Folds n sum (foldCarry (foldCarry sum)) := by
  by_cases hnone : sum / 65536 = 0
  · have hsum := foldCarry_of_lt ((div_eq_zero_iff sum).1 hnone)
    rw [hsum, hsum]
    exact ⟨0, by omega, .done hnone⟩
  · by_cases hone : foldCarry sum / 65536 = 0
    · rw [foldCarry_of_lt ((div_eq_zero_iff _).1 hone)]
      exact ⟨1, by omega, .again hnone (.done hone)⟩
    · have htwo := (div_eq_zero_iff _).2 (foldCarry_foldCarry_lt sum)
      exact ⟨2, by omega, .again hnone (.again hone (.done htwo))⟩

/-! ### The remainder -/

/-- **The checksum is the complement of a remainder** of the plain sum, which is zero only if the
sum is. -/
theorem exists_residue {bs : Bytes} (h : bs.length ≤ 131074) :
    ∃ r, (checksum bs).toNat = 65535 - r ∧ r ≤ 65535 ∧ (r = 0 ↔ plainSum bs = 0) ∧
      r % 65535 = plainSum bs % 65535 := by
  obtain ⟨hmod, hzero⟩ := toNat_foldCarry_foldCarry (wordSum bs)
  have hlt := foldCarry_foldCarry_lt (wordSum bs)
  rw [toNat_wordSum_of_lt (plainSum_lt h)] at hmod hzero
  exact ⟨_, toNat_checksum bs, by omega, hzero, hmod⟩

/-- The checksum depends on the plain sum only. -/
theorem checksum_eq_of_plainSum_eq {bs bs' : Bytes} (h : plainSum bs' = plainSum bs) :
    checksum bs' = checksum bs := by
  have hsum : wordSum bs' = wordSum bs := by
    rw [← UInt32.toNat_inj, wordSum, wordSum, toNat_wordSumFrom, toNat_wordSumFrom, h]
  rw [checksum, checksum, hsum]

/-- Valid byte strings have a plain sum that is a positive multiple of 65535. -/
theorem plainSum_of_validate {bs : Bytes} (hlen : bs.length ≤ 131074)
    (h : Segment.validate bs = .ok ()) : 0 < plainSum bs ∧ plainSum bs % 65535 = 0 := by
  have hsum : checksum bs = 0 := by
    unfold Segment.validate at h
    dsimp only at h
    split at h
    · assumption
    · cases h
  obtain ⟨r, hr, hle, hzero, hmod⟩ := exists_residue hlen
  rw [hsum] at hr
  have hval : (0 : UInt16).toNat = 0 := rfl
  omega

/-- **Changes inside one word that go unnoticed** turn one zero into the other. -/
theorem zeros_of_validate {bs bs' : Bytes} {i : Nat} (h : bs.length ≤ 131074)
    (hlen : bs'.length = bs.length) (hsame : ∀ j, j / 2 ≠ i → bs'[j]? = bs[j]?) (hne : bs' ≠ bs)
    (hvalid : Segment.validate bs = .ok ()) (hvalid' : Segment.validate bs' = .ok ()) :
    bs.words[i]? = some 0 ∧ bs'.words[i]? = some 0xffff ∨
      bs.words[i]? = some 0xffff ∧ bs'.words[i]? = some 0 := by
  obtain ⟨front, w, w', back, hw, hw', hi⟩ := Bytes.exists_words_of_ne hlen hsame hne
  obtain ⟨-, hmod⟩ := plainSum_of_validate h hvalid
  obtain ⟨-, hmod'⟩ := plainSum_of_validate (by omega) hvalid'
  have hdiffer : w.toNat ≠ w'.toNat := by
    intro heq
    refine hne (Bytes.eq_of_words_eq hlen ?_)
    rw [hw, hw', UInt16.toNat_inj.1 heq]
  rw [plainSum_eq_sum_words, hw, List.map_append, List.sum_append, List.map_cons,
    List.sum_cons] at hmod
  rw [plainSum_eq_sum_words, hw', List.map_append, List.sum_append, List.map_cons,
    List.sum_cons] at hmod'
  have := w.toNat_lt
  have := w'.toNat_lt
  -- both words leave the same remainder
  have hzeros : w.toNat = 0 ∧ w'.toNat = 65535 ∨ w.toNat = 65535 ∧ w'.toNat = 0 := by omega
  have hplace : ∀ v : UInt16, (front ++ v :: back)[i]? = some v := by
    intro v
    rw [← hi, List.getElem?_append_right (Nat.le_refl _), Nat.sub_self, List.getElem?_cons_zero]
  simpa [hw, hw', hplace, ← UInt16.toNat_inj] using hzeros

/-- **The arithmetic of checksums.**  With up to 131074 bytes no addition of a word overflows, the
carry is folded in two rounds at most, and the checksum is the complement of what they leave.  This
is zero if all bytes are zero, and otherwise the one number from 1 to 65535 that is congruent to the
sum of the words modulo 65535.  So the checksum is the same for all byte strings with these words in
any order, and with a zero after an odd last byte; and of two byte strings of one length that
differ, but only inside one word, both are valid only if one has the word 0 there and the other
65535. -/
theorem checksum_of_words {bs : Bytes} (h : bs.length ≤ 131074) :
    checkedSumFrom 0 bs.words = some (wordSum bs) ∧
    (∃ rounds ≤ 2, ∃ folded, Folds rounds (wordSum bs) folded ∧
      checksum bs = ~~~ folded.toUInt16) ∧
    (∃ r, (checksum bs).toNat = 0xffff - r ∧ ((∀ b ∈ bs, b = 0) → r = 0) ∧
      ((∃ b ∈ bs, b ≠ 0) →
        1 ≤ r ∧ r ≤ 65535 ∧ r % 65535 = (bs.words.map UInt16.toNat).sum % 65535)) ∧
    (∀ bs' : Bytes, bs'.words.Perm bs.words → checksum bs' = checksum bs) ∧
    (bs.length % 2 = 1 → checksum (bs ++ [0]) = checksum bs) ∧
    ∀ (bs' : Bytes) (i : Nat), bs'.length = bs.length → (∀ j, j / 2 ≠ i → bs'[j]? = bs[j]?) →
      bs' ≠ bs → Segment.validate bs = .ok () → Segment.validate bs' = .ok () →
      bs.words[i]? = some 0 ∧ bs'.words[i]? = some 0xffff ∨
        bs.words[i]? = some 0xffff ∧ bs'.words[i]? = some 0 := by
  have hcongr : ∀ bs' : Bytes, bs'.words.Perm bs.words → checksum bs' = checksum bs := by
    intro bs' hperm
    apply checksum_eq_of_plainSum_eq
    rw [plainSum_eq_sum_words, plainSum_eq_sum_words]
    exact (hperm.map UInt16.toNat).sum_nat
  refine ⟨checkedSumFrom_words h, ?_, ?_, hcongr, fun hodd => ?_, fun bs' i => zeros_of_validate h⟩
  · obtain ⟨rounds, hle, hfolds⟩ := exists_folds (wordSum bs)
    exact ⟨rounds, hle, _, hfolds, rfl⟩
  · obtain ⟨r, hr, hle, hzero, hmod⟩ := exists_residue h
    rw [plainSum_eq_zero_iff] at hzero
    refine ⟨r, hr, hzero.2, fun ⟨b, hb, hne⟩ => ⟨?_, hle, ?_⟩⟩
    · have : r ≠ 0 := fun heq => hne (hzero.1 heq b hb)
      omega
    · rw [← plainSum_eq_sum_words]
      exact hmod
  · apply hcongr
    rw [Bytes.words_concat_zero hodd]

/-- Five bytes whose first word is one of the two zeros.  They are as valid with the other one, with
another byte at the end, and with their words in another order. -/
theorem checksum_of_words_fiveBytes :
    List.length ([0, 0, 255, 255, 0] : Bytes) ≤ 131074 ∧
      checksum [0, 0, 255, 255, 0, 0] = 0 ∧ checksum [255, 255, 0, 0, 0] = 0 ∧
      Segment.validate [0, 0, 255, 255, 0] = .ok () ∧
      Segment.validate [255, 255, 255, 255, 0] = .ok () ∧
      (Bytes.words [0, 0, 255, 255, 0])[0]? = some 0 ∧
      (Bytes.words [255, 255, 255, 255, 0])[0]? = some 0xffff := by
  have hlength : List.length ([0, 0, 255, 255, 0] : Bytes) ≤ 131074 := by decide
  have hzero : checksum [0, 0, 255, 255, 0] = 0 := by decide
  have hvalid : Segment.validate [0, 0, 255, 255, 0] = .ok () := by decide
  have hvalid' : Segment.validate [255, 255, 255, 255, 0] = .ok () := by decide
  obtain ⟨-, -, -, hperm, hfilled, hzeros⟩ := checksum_of_words hlength
  have hfirst := hzeros [255, 255, 255, 255, 0] 0 rfl (fun j hj => ?_) (by decide) hvalid hvalid'
  · exact ⟨hlength, (hfilled rfl).trans hzero, (hperm _ (by decide)).trans hzero, hvalid, hvalid',
      hfirst.resolve_right (by decide)⟩
  · match j, hj with
    | j + 2, _ => rfl

end OverlayStack
