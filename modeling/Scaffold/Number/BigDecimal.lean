import Scaffold.Number.Layout

/-!
# Decimals of any size

A decimal is an integer and the number of its digits that stand behind the point. Trailing zeros are
kept for printing and play no part in the order: `1.0` and `1.00` print differently and compare
equal.
-/

namespace Scaffold.Number

/-- The number `unscaled / 10 ^ scale`. -/
structure BigDecimal where
  unscaled : Int
  scale : Int
  deriving DecidableEq

namespace BigDecimal

/-- Order by value: both are brought to the larger scale first. -/
def cmp (x y : BigDecimal) : Ordering :=
  let scale := max x.scale y.scale
  let raise (d : BigDecimal) : Int := d.unscaled * tenTo (scale - d.scale).toNat
  compare (raise x) (raise y)

/-- Positional text: as many digits behind the point as the scale says, and zeros in front of the
point for a negative scale. -/
def text (x : BigDecimal) : String :=
  let digits := Nat.toDigits 10 x.unscaled.natAbs
  let sign := if x.unscaled < 0 then "-" else ""
  if x.scale ≤ 0 then sign ++ String.ofList digits ++ zeros (-x.scale).toNat
  else
    let places := x.scale.toNat
    let padded := List.replicate (places + 1 - digits.length) '0' ++ digits
    sign ++ String.ofList (padded.take (padded.length - places)) ++ "." ++
      String.ofList (padded.drop (padded.length - places))

end BigDecimal

end Scaffold.Number
