import OverlayStack.Bytes

/-!
# Checksums

A segment is protected by the complement of the sum of its 16 bit words, where a carry out of the
high bit is added again at the low end.  The checksum of a byte string that contains its own
checksum is zero.

## Main definitions

* `wordSum` — the plain sum of the words of a byte string.
* `foldCarry` — one addition of the carry to the low half of a sum.
* `checksum` — the complement of the folded sum.
-/

namespace OverlayStack

/-- The sum of the 16 bit words of a byte string, added to a sum so far.  A last odd byte counts as
the high byte of a word. -/
def wordSumFrom (sum : UInt32) : Bytes → UInt32
  | [] => sum
  | [hi] => sum + (Bytes.word16 hi 0).toUInt32
  | hi :: lo :: rest => wordSumFrom (sum + (Bytes.word16 hi lo).toUInt32) rest

/-- The sum of the 16 bit words of a byte string. -/
def wordSum (bs : Bytes) : UInt32 :=
  wordSumFrom 0 bs

/-- The low half of a sum with the carry in its high half added. -/
def foldCarry (sum : UInt32) : UInt32 :=
  sum % 65536 + sum / 65536

/-- The checksum of a byte string.  Folding twice leaves no carry, as `foldCarry_foldCarry_lt`
says. -/
def checksum (bs : Bytes) : UInt16 :=
  ~~~ (foldCarry (foldCarry (wordSum bs))).toUInt16

theorem toNat_foldCarry (sum : UInt32) :
    (foldCarry sum).toNat = sum.toNat % 65536 + sum.toNat / 65536 := by
  have := sum.toNat_lt
  simp only [foldCarry, UInt32.toNat_add, UInt32.toNat_mod, UInt32.toNat_div, UInt32.reduceToNat]
  omega

/-- Two additions of the carry leave a number of 16 bits. -/
theorem foldCarry_foldCarry_lt (sum : UInt32) : (foldCarry (foldCarry sum)).toNat < 65536 := by
  have := sum.toNat_lt
  simp only [toNat_foldCarry]
  omega

/-- A sum without a carry is not changed. -/
theorem foldCarry_of_lt {sum : UInt32} (h : sum.toNat < 65536) : foldCarry sum = sum := by
  rw [← UInt32.toNat_inj, toNat_foldCarry]
  omega

end OverlayStack
