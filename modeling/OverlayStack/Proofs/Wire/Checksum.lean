import Mathlib.Tactic.Common
import OverlayStack.Impairment
import OverlayStack.Wire.Checksum

/-!
# What a checksum detects

The complement of the folded sum of a byte string is zero exactly when the sum of its words is a
positive multiple of 65535.  A flipped bit changes the sum by less than that, so that the checksum
of the damaged bytes is not zero.

## Main results

* `checksum_eq_zero_iff` — the byte strings whose checksum is zero.
* `checksum_flipBit_ne_zero` — a flipped bit does not go unnoticed.
-/

namespace OverlayStack

/-- The sum of the words of a byte string as a number without a greatest value. -/
def plainSum : Bytes → Nat
  | [] => 0
  | [hi] => hi.toNat * 256
  | hi :: lo :: rest => hi.toNat * 256 + lo.toNat + plainSum rest

theorem plainSum_le (bs : Bytes) : plainSum bs ≤ 65535 * ((bs.length + 1) / 2) := by
  induction bs using plainSum.induct with
  | case1 => exact Nat.le_refl _
  | case2 hi =>
    have := hi.toNat_lt
    rw [plainSum, List.length_singleton]
    omega
  | case3 hi lo rest ih =>
    have := hi.toNat_lt
    have := lo.toNat_lt
    rw [plainSum, List.length_cons, List.length_cons]
    omega

/-- A byte string that ends between two words is summed up by itself. -/
theorem plainSum_append {front : Bytes} (h : front.length % 2 = 0) (back : Bytes) :
    plainSum (front ++ back) = plainSum front + plainSum back := by
  induction front using plainSum.induct with
  | case1 => simp [plainSum]
  | case2 hi => simp at h
  | case3 hi lo rest ih =>
    rw [List.length_cons, List.length_cons] at h
    rw [List.cons_append, List.cons_append, plainSum, plainSum, ih (by omega)]
    omega

theorem toNat_wordSumFrom (bs : Bytes) :
    ∀ sum : UInt32, (wordSumFrom sum bs).toNat = (sum.toNat + plainSum bs) % 4294967296 := by
  induction bs using plainSum.induct with
  | case1 =>
    intro sum
    have := sum.toNat_lt
    rw [wordSumFrom, plainSum]
    omega
  | case2 hi =>
    intro sum
    have hword := Bytes.toNat_word16 hi 0
    have hzero : (0 : UInt8).toNat = 0 := rfl
    rw [wordSumFrom, plainSum, UInt32.toNat_add, UInt16.toNat_toUInt32]
    omega
  | case3 hi lo rest ih =>
    intro sum
    have hword := Bytes.toNat_word16 hi lo
    rw [wordSumFrom, plainSum, ih, UInt32.toNat_add, UInt16.toNat_toUInt32]
    omega

/-- A sum that fits into 32 bits is the plain sum. -/
theorem toNat_wordSum_of_lt {bs : Bytes} (h : plainSum bs < 4294967296) :
    (wordSum bs).toNat = plainSum bs := by
  have hzero : (0 : UInt32).toNat = 0 := rfl
  rw [wordSum, toNat_wordSumFrom]
  omega

theorem toNat_wordSum {bs : Bytes} (h : bs.length ≤ 65559) : (wordSum bs).toNat = plainSum bs := by
  have hle := plainSum_le bs
  exact toNat_wordSum_of_lt (by omega)

/-- The folded sum leaves the same remainder as the sum, and is zero only for zero. -/
theorem toNat_foldCarry_foldCarry (sum : UInt32) :
    (foldCarry (foldCarry sum)).toNat % 65535 = sum.toNat % 65535 ∧
      ((foldCarry (foldCarry sum)).toNat = 0 ↔ sum.toNat = 0) := by
  rw [toNat_foldCarry, toNat_foldCarry]
  omega

theorem toNat_checksum (bs : Bytes) :
    (checksum bs).toNat = 65535 - (foldCarry (foldCarry (wordSum bs))).toNat := by
  have hlt := foldCarry_foldCarry_lt (wordSum bs)
  rw [checksum, UInt16.toNat_not, UInt32.toNat_toUInt16, Nat.mod_eq_of_lt hlt]
  rfl

/-- **A checksum is zero** exactly when the words add up to a positive multiple of 65535. -/
theorem checksum_eq_zero_iff {bs : Bytes} (h : bs.length ≤ 65559) :
    checksum bs = 0 ↔ 0 < plainSum bs ∧ plainSum bs % 65535 = 0 := by
  obtain ⟨hmod, hzero⟩ := toNat_foldCarry_foldCarry (wordSum bs)
  have hlt := foldCarry_foldCarry_lt (wordSum bs)
  rw [toNat_wordSum h] at hmod hzero
  have hval : (0 : UInt16).toNat = 0 := rfl
  rw [← UInt16.toNat_inj, toNat_checksum, hval]
  omega

/-! ### A flipped bit -/

/-- Flipping a bit of a byte changes it by no more than 128. -/
theorem toNat_xor_bit (b : UInt8) {j : Nat} (hj : j < 8) :
    (b ^^^ (1 <<< UInt8.ofNat j)).toNat ≠ b.toNat ∧
      (b ^^^ (1 <<< UInt8.ofNat j)).toNat ≤ b.toNat + 128 ∧
      b.toNat ≤ (b ^^^ (1 <<< UInt8.ofNat j)).toNat + 128 := by
  have hall : ∀ n : Fin 256, ∀ j : Fin 8,
      (UInt8.ofNat n ^^^ (1 <<< UInt8.ofNat j)).toNat ≠ n ∧
        (UInt8.ofNat n ^^^ (1 <<< UInt8.ofNat j)).toNat ≤ (n : Nat) + 128 ∧
        (n : Nat) ≤ (UInt8.ofNat n ^^^ (1 <<< UInt8.ofNat j)).toNat + 128 := by
    decide +kernel
  have := hall ⟨b.toNat, b.toNat_lt⟩ ⟨j, hj⟩
  rwa [UInt8.ofNat_toNat] at this

theorem flipBit_of_le {bit : Nat} {bs : Bytes} (h : 8 * bs.length ≤ bit) : flipBit bit bs = bs := by
  rw [flipBit, List.modify_eq_self]
  omega

@[simp] theorem length_flipBit (bit : Nat) (bs : Bytes) : (flipBit bit bs).length = bs.length := by
  rw [flipBit, List.length_modify]

/-- Flipping a bit of a byte string changes the sum, by no more than 32768. -/
theorem plainSum_flipBit (bs : Bytes) : ∀ {bit : Nat}, bit < 8 * bs.length →
    plainSum (flipBit bit bs) ≠ plainSum bs ∧
      plainSum (flipBit bit bs) ≤ plainSum bs + 32768 ∧
      plainSum bs ≤ plainSum (flipBit bit bs) + 32768 := by
  induction bs using plainSum.induct with
  | case1 =>
    intro bit hbit
    simp at hbit
  | case2 hi =>
    intro bit hbit
    rw [List.length_singleton] at hbit
    obtain ⟨hplace, hmod⟩ : bit / 8 = 0 ∧ bit % 8 = bit := by omega
    have hbyte := toNat_xor_bit hi hbit
    rw [flipBit, hplace, hmod, List.modify_zero_cons, plainSum, plainSum]
    omega
  | case3 hi lo rest ih =>
    intro bit hbit
    rw [List.length_cons, List.length_cons] at hbit
    rcases Nat.lt_or_ge bit 8 with hlt | hge
    -- a bit of the high byte
    · obtain ⟨hplace, hmod⟩ : bit / 8 = 0 ∧ bit % 8 = bit := by omega
      have hbyte := toNat_xor_bit hi hlt
      rw [flipBit, hplace, hmod, List.modify_zero_cons, plainSum, plainSum]
      omega
    · rcases Nat.lt_or_ge bit 16 with hlt | hge'
      -- a bit of the low byte
      · have hplace : bit / 8 = 0 + 1 := by omega
        have hbyte := toNat_xor_bit lo (show bit % 8 < 8 by omega)
        rw [flipBit, hplace, List.modify_succ_cons, List.modify_zero_cons, plainSum, plainSum]
        omega
      -- a bit of the rest
      · have hplace : bit / 8 = (bit - 16) / 8 + 1 + 1 := by omega
        have hmod : bit % 8 = (bit - 16) % 8 := by omega
        have hrest := ih (show bit - 16 < 8 * rest.length by omega)
        rw [flipBit] at hrest
        rw [flipBit, hplace, hmod, List.modify_succ_cons, List.modify_succ_cons, plainSum, plainSum]
        omega

/-- **A flipped bit does not go unnoticed.** -/
theorem checksum_flipBit_ne_zero {bs : Bytes} (hlen : bs.length ≤ 65559) (h : checksum bs = 0)
    {bit : Nat} (hbit : bit < 8 * bs.length) : checksum (flipBit bit bs) ≠ 0 := by
  rw [Ne, checksum_eq_zero_iff (by rwa [length_flipBit])]
  rw [checksum_eq_zero_iff hlen] at h
  -- two multiples of 65535 are further apart
  have hsum := plainSum_flipBit bs hbit
  omega

end OverlayStack
