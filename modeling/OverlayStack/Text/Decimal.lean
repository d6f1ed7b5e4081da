/-!
# Fractions as text

A floating-point number stands for a whole multiple of a power of two.  It is written without an
exponent, in one of two ways: with the fewest digits that still denote it, or with a fixed number of
places.  Both work on the exact value, in whole numbers.

## Main definitions

* `Decimal.Binary` — a sign, a mantissa and a power of two.
* `Decimal.shortest` — the decimal grid and the point on it that denote a number with the fewest
  digits.
* `Decimal.text` — a number with the fewest digits.
* `Decimal.fixed` — a number with a given number of places.
-/

namespace OverlayStack.Decimal

/-- A number `± mantissa * 2 ^ exponent`.  The number next below it in size is half as far away as
the one next above if `narrowBelow` holds. -/
structure Binary where
  /-- Whether the number has a minus sign. -/
  negative : Bool
  /-- The whole factor. -/
  mantissa : Nat
  /-- The power of two. -/
  exponent : Int
  /-- Whether the mantissa is the least of its power of two. -/
  narrowBelow : Bool

/-- The parts of a finite number; infinities and the undefined number have none. -/
def Binary.ofFloat? (x : Float) : Option Binary :=
  let bits := x.toBits.toNat
  let negative := bits >>> 63 == 1
  let biased : Nat := (bits >>> 52) % 2048
  let fraction : Nat := bits % (1 <<< 52)
  if biased = 2047 then none
  else if biased = 0 then some ⟨negative, fraction, -1074, false⟩
  else some ⟨negative, fraction + (1 <<< 52), (biased : Int) - 1075, fraction == 0 && biased > 1⟩

/-- A decimal grid: the multiples of `10 ^ exponent`. -/
structure Grid where
  /-- The power of ten. -/
  exponent : Int

/-- The number of steps of the grid that make up `n / 4 * 2 ^ exponent`, as a fraction. -/
def Grid.ratio (g : Grid) (n : Nat) (exponent : Int) : Nat × Nat :=
  ((n <<< exponent.toNat) * Nat.pow 10 (-g.exponent).toNat,
    (4 <<< (-exponent).toNat) * Nat.pow 10 g.exponent.toNat)

/-- The point of the grid, counted in steps, that lies nearest to the number among the points that
denote it; the upper of two that are equally near.  A point denotes the number if it lies no further
away than half the distance to the next number, where the ends count if the mantissa is even. -/
def Grid.point? (g : Grid) (x : Binary) : Option Nat :=
  let (value, scale) := g.ratio (4 * x.mantissa) x.exponent
  let (low, _) := g.ratio (4 * x.mantissa - if x.narrowBelow then 1 else 2) x.exponent
  let (high, _) := g.ratio (4 * x.mantissa + 2) x.exponent
  let even := x.mantissa % 2 == 0
  let below := value / scale
  let above := below + 1
  let belowDenotes := low < below * scale || (even && low == below * scale)
  let aboveDenotes := above * scale < high || (even && above * scale == high)
  if belowDenotes && aboveDenotes then
    if value - below * scale < above * scale - value then some below else some above
  else if belowDenotes then some below
  else if aboveDenotes then some above
  else none

/-- The coarsest grid with a point that denotes the number, and that point.  Every finite number
lies on the grid of `10 ^ (-1074)`, so that the search ends. -/
def shortest (x : Binary) : Grid × Nat :=
  ((List.range 1384).findSome? fun (i : Nat) =>
    let g : Grid := ⟨309 - (i : Int)⟩
    (g.point? x).map fun steps => (g, steps)).getD (⟨0⟩, 0)

/-- A number of steps on a grid, written without an exponent. -/
def positional (g : Grid) (steps : Nat) : String :=
  let places := (-g.exponent).toNat
  let digits := (toString (steps * Nat.pow 10 g.exponent.toNat)).toList
  if places = 0 then String.ofList digits
  else
    let padded := List.replicate (places + 1 - digits.length) '0' ++ digits
    let whole := padded.length - places
    String.ofList (padded.take whole ++ '.' :: padded.drop whole)

/-- The sign in front of a number. -/
def sign (negative : Bool) : String :=
  if negative then "-" else ""

/-- The text of a number that is not finite. -/
def unbounded (x : Float) : String :=
  if x < 0 then "-inf" else if x > 0 then "inf" else "NaN"

/-- A number with the fewest digits that denote it. -/
def text (x : Float) : String :=
  match Binary.ofFloat? x with
  | none => unbounded x
  | some b =>
    if b.mantissa = 0 then sign b.negative ++ "0"
    else
      let (g, steps) := shortest b
      sign b.negative ++ positional g steps

/-- The whole number nearest to a fraction, and the even one of two that are equally near. -/
def roundEven (numerator denominator : Nat) : Nat :=
  let below := numerator / denominator
  let rest := 2 * (numerator % denominator)
  if rest < denominator then below
  else if rest > denominator then below + 1
  else below + below % 2

/-- A number rounded to the given number of places. -/
def fixed (places : Nat) (x : Float) : String :=
  match Binary.ofFloat? x with
  | none => unbounded x
  | some b =>
    let g : Grid := ⟨-(places : Int)⟩
    let (value, scale) := g.ratio (4 * b.mantissa) b.exponent
    sign b.negative ++ positional g (roundEven value scale)

end OverlayStack.Decimal
