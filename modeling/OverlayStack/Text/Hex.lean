import OverlayStack.Bytes
import OverlayStack.Text.Number

/-!
# Byte strings as text

A byte string is written as two hexadecimal digits for each byte.

## Main definitions

* `Text.hexText` — a byte string as hexadecimal digits.
* `Text.hexBytes?` — the byte string that hexadecimal digits denote.
-/

namespace OverlayStack.Text

/-- The value of a hexadecimal digit, in lower or upper case. -/
def hexDigit? (c : Char) : Option Nat :=
  if '0' ≤ c ∧ c ≤ '9' then some (c.toNat - '0'.toNat)
  else if 'a' ≤ c ∧ c ≤ 'f' then some (c.toNat - 'a'.toNat + 10)
  else if 'A' ≤ c ∧ c ≤ 'F' then some (c.toNat - 'A'.toNat + 10)
  else none

/-- The bytes that hexadecimal digits denote, after some bytes in reverse order. -/
def hexBytesFrom? (acc : Bytes) : List Char → Option Bytes
  | [] => some acc.reverse
  | [_] => none
  | hi :: lo :: rest =>
    match hexDigit? hi, hexDigit? lo with
    | some h, some l => hexBytesFrom? (UInt8.ofNat (16 * h + l) :: acc) rest
    | _, _ => none

/-- The byte string that an even number of hexadecimal digits denote. -/
def hexBytes? (s : String) : Option Bytes :=
  hexBytesFrom? [] s.toList

/-- A byte string as hexadecimal digits, in lower case. -/
def hexText (bs : Bytes) : String :=
  bs.foldl (fun s b => s ++ hexByte b) ""

end OverlayStack.Text
