import OverlayStack.Bytes

/-!
# Lossy links

A link can be made to lose or damage some of the messages that it carries: a message that is hit is
lost or has one bit flipped, with equal chances.  What happens to a message is an `Outcome`; drawing
outcomes at random is kept apart from applying them.

## Main definitions

* `Outcome`, `Outcome.damage` — what can happen to a message, and what it does to the bytes.
* `Dice` — a source of random numbers.
* `Impairment` — a link's loss rate with its dice.
* `Impairment.draw` — the outcome for one message.
* `Impairment.survey` — how often a message is delivered unharmed.
-/

namespace OverlayStack

/-- What can happen to a message on a link. -/
inductive Outcome where
  /-- It arrives as it was sent. -/
  | delivered
  /-- It does not arrive. -/
  | lost
  /-- It arrives with one bit flipped.  Bits are counted from the low bit of the first byte. -/
  | flipped (bit : Nat)
  deriving DecidableEq, Repr

/-- A byte string with one bit flipped. -/
def flipBit (bit : Nat) (bs : Bytes) : Bytes :=
  bs.modify (bit / 8) fun b => b ^^^ (1 <<< UInt8.ofNat (bit % 8))

/-- The bytes of a message after what happened to it. -/
def Outcome.damage : Outcome → Bytes → Bytes
  | delivered, bs => bs
  | lost, bs => bs
  | flipped bit, bs => flipBit bit bs

/-- What a receiver gets of a message, if it gets anything. -/
def Outcome.arrival? : Outcome → Bytes → Option Bytes
  | delivered, bs => some bs
  | lost, _ => none
  | flipped bit, bs => some (flipBit bit bs)

/-- Whether bytes after a link agree with the outcome reported for them. -/
def Outcome.explains (o : Outcome) (before after : Bytes) : Bool :=
  match o with
  | delivered => after == before
  | lost => after == before
  | flipped bit => bit < 8 * before.length && after == flipBit bit before

/-! ### Random numbers -/

/-- A source of random numbers: a counter, whose values are scrambled. -/
structure Dice where
  /-- The counter. -/
  state : UInt64

/-- A random number, and the dice after the throw. -/
def Dice.throw (d : Dice) : UInt64 × Dice :=
  let state := d.state + 0x9e3779b97f4a7c15
  let x := (state ^^^ (state >>> 30)) * 0xbf58476d1ce4e5b9
  let y := (x ^^^ (x >>> 27)) * 0x94d049bb133111eb
  (y ^^^ (y >>> 31), ⟨state⟩)

/-- Whether something of the given probability happens.  What has probability zero never happens,
and what has probability one always does. -/
def Dice.happens (d : Dice) (probability : Float) : Bool × Dice :=
  let (x, d) := d.throw
  ((x >>> 11).toFloat / 9007199254740992 < probability, d)

/-- A random number below a bound. -/
def Dice.below (d : Dice) (bound : Nat) : Nat × Dice :=
  let (x, d) := d.throw
  (x.toNat % bound, d)

/-! ### Impairments -/

/-- What a link does to its messages. -/
structure Impairment where
  /-- The probability that a message is hit. -/
  rate : Float
  /-- The source of chance. -/
  dice : Dice

namespace Impairment

/-- The impairment with a given loss rate, which is brought between zero and one. -/
def ofRate (rate : Float) (seed : UInt64) : Impairment :=
  ⟨if rate < 0 then 0 else if rate > 1 then 1 else rate, ⟨seed⟩⟩

/-- What happens to a message.  An empty message is always delivered. -/
def draw (i : Impairment) (message : Bytes) : Outcome × Impairment :=
  if message.isEmpty then (.delivered, i)
  else
    let (hit, dice) := i.dice.happens i.rate
    if !hit then (.delivered, { i with dice })
    else
      let (lost, dice) := dice.happens 0.5
      if lost then (.lost, { i with dice })
      else
        let (bit, dice) := dice.below (8 * message.length)
        (.flipped bit, { i with dice })

/-- How many copies of a message fare in which way. -/
structure Survey where
  /-- How many are delivered unharmed. -/
  delivered : Nat := 0
  /-- How many are hit. -/
  hit : Nat := 0
  /-- How many do not agree with the outcome reported for them. -/
  unexplained : Nat := 0

/-- The survey with one more copy. -/
def Survey.add (s : Survey) (o : Outcome) (before after : Bytes) : Survey :=
  let s := if o = .delivered then { s with delivered := s.delivered + 1 }
    else { s with hit := s.hit + 1 }
  if o.explains before after then s else { s with unexplained := s.unexplained + 1 }

/-- How many of a number of copies of a message fare in which way. -/
def survey (i : Impairment) (message : Bytes) : Nat → Survey
  | 0 => {}
  | n + 1 =>
    let (o, i) := i.draw message
    (i.survey message n).add o message (o.damage message)

end Impairment

end OverlayStack
