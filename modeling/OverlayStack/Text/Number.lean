/-!
# Whole numbers as text

How numbers are read from a topology file and written into tables and messages.

## Main definitions

* `Text.digits?` — the number that a run of decimal digits denotes.
* `Text.word32?` — a 32 bit number, with an optional plus sign.
* `Text.octet?` — a number below 256 without leading zeros.
* `Text.hex`, `Text.hexByte` — hexadecimal digits in lower case.
* `Text.column` — a number right-aligned in a column of a table.
-/

namespace OverlayStack.Text

/-! ### Reading -/

/-- The value of an ASCII decimal digit. -/
def digit? (c : Char) : Option Nat :=
  if '0' ≤ c ∧ c ≤ '9' then some (c.toNat - '0'.toNat) else none

/-- The number denoted by decimal digits that follow the digits of `acc`. -/
def digitsFrom? (acc : Nat) : List Char → Option Nat
  | [] => some acc
  | c :: cs => (digit? c).bind fun d => digitsFrom? (10 * acc + d) cs

/-- The number denoted by a non-empty run of decimal digits. -/
def digits? : List Char → Option Nat
  | [] => none
  | cs => digitsFrom? 0 cs

/-- A 32 bit number: decimal digits, leading zeros allowed, after an optional plus sign. -/
def word32? (cs : List Char) : Option UInt32 :=
  let unsigned := match cs with
    | '+' :: rest => rest
    | _ => cs
  (digits? unsigned).bind fun n => if n < UInt32.size then some (UInt32.ofNat n) else none

/-- One part of a dotted address: one to three digits that denote a number below 256 and start
with a zero only if the number is zero. -/
def octet? (cs : List Char) : Option UInt8 :=
  match cs with
  | '0' :: _ :: _ => none
  | _ =>
    if cs.length ≤ 3 then
      (digits? cs).bind fun n => if n < UInt8.size then some (UInt8.ofNat n) else none
    else none

/-! ### Writing -/

/-- A number in hexadecimal, in lower case and without leading zeros. -/
def hex (n : Nat) : String :=
  String.ofList (Nat.toDigits 16 n)

/-- A byte as two hexadecimal digits. -/
def hexByte (b : UInt8) : String :=
  String.ofList [Nat.digitChar (b.toNat / 16), Nat.digitChar (b.toNat % 16)]

/-- Text in a column of the given width, aligned to the right; wider text is kept whole. -/
def alignRight (width : Nat) (s : String) : String :=
  String.ofList (List.replicate (width - s.length) ' ') ++ s

/-- A number in a column of the given width, aligned to the right. -/
def column (width : Nat) (n : Nat) : String :=
  alignRight width (toString n)

end OverlayStack.Text
