import Scaffold.Number.Double

/-!
# Shortest digits

The text of a double holds the fewest decimal digits that read back as the same double, and of those
the nearest. The reals that read back form an interval around the value, whose ends belong to it iff
the mantissa is even. `shortest` tries one digit, two digits and so on: on the grid of decimals with
that many digits only the two neighbours of the value can be the answer.
-/

namespace Scaffold.Number

/-- A positive decimal `digits · 10 ^ exponent`. -/
structure Digits where
  digits : Nat
  exponent : Int
  deriving DecidableEq

/-- A value and the two ends of its interval, all three over the denominator `den`. -/
structure Interval where
  low : Nat
  value : Nat
  high : Nat
  den : Nat
  closed : Bool

/-- The reals that read back as `m · 2 ^ q`, in quarters of a unit below and halves above. Below a
power of two the neighbours are half as far. -/
def Interval.ofParts (m : Nat) (q : Int) : Interval :=
  let below := if m = twoTo 52 && q > -1074 then 1 else 2
  match q with
  | .ofNat k => ⟨(4 * m - below) * twoTo k, 4 * m * twoTo k, (4 * m + 2) * twoTo k, 4, m % 2 = 0⟩
  | .negSucc k => ⟨4 * m - below, 4 * m, 4 * m + 2, 4 * twoTo (k + 1), m % 2 = 0⟩

/-- Whether `digits · 10 ^ exponent` lies in the interval. -/
def Interval.holds (i : Interval) (d : Digits) : Bool :=
  let (num, scale) := match d.exponent with
    | .ofNat k => (d.digits * tenTo k * i.den, 1)
    | .negSucc k => (d.digits * i.den, tenTo (k + 1))
  if i.closed then i.low * scale ≤ num && num ≤ i.high * scale
  else i.low * scale < num && num < i.high * scale

/-- The neighbours of the value on the grid of multiples of `10 ^ exponent`: the one below, and
whether the one above is at least as near. -/
def Interval.neighbour (i : Interval) (exponent : Int) : Nat × Bool :=
  let (num, den) := match exponent with
    | .ofNat k => (i.value, i.den * tenTo k)
    | .negSucc k => (i.value * tenTo (k + 1), i.den)
  (num / den, den ≤ 2 * (num % den))

/-- The nearest decimal of the interval on one grid. -/
def Interval.onGrid? (i : Interval) (exponent : Int) : Option Digits :=
  let (below, nearAbove) := i.neighbour exponent
  let low : Digits := ⟨below, exponent⟩
  let high : Digits := ⟨below + 1, exponent⟩
  match i.holds low && below ≠ 0, i.holds high with
  | true, true => some (if nearAbove then high else low)
  | true, false => some low
  | false, true => some high
  | false, false => none

/-- The position of the decimal point: the value lies below `10 ^ point` and not below a tenth of
that. -/
def Interval.point (i : Interval) : Int :=
  if i.value ≥ i.den then Double.digitCount (i.value / i.den)
  else 1 - Double.digitCount (i.den / i.value - if i.den % i.value = 0 then 1 else 0)

/-- The first grid that holds a decimal of the interval, from the coarsest on; seventeen digits
always suffice. -/
def Interval.search (i : Interval) (point : Int) : Nat → Nat → Digits
  | _, 0 => ⟨0, 0⟩
  | count, fuel + 1 =>
    match i.onGrid? (point - count) with
    | some d => d
    | none => i.search point (count + 1) fuel

/-- Drops the zeros at the end of a decimal, at most `fuel` of them. -/
def Digits.trim (d : Digits) : Nat → Digits
  | 0 => d
  | fuel + 1 => if d.digits % 10 = 0 then Digits.trim ⟨d.digits / 10, d.exponent + 1⟩ fuel else d

/-- The fewest digits that read back as `m · 2 ^ q`, for a positive mantissa. -/
def shortest (m : Nat) (q : Int) : Digits :=
  let i := Interval.ofParts m q
  (i.search i.point 1 18).trim 18

end Scaffold.Number
