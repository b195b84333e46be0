import Scaffold.Number.Power

/-!
# Doubles

A double is kept as its 64 bits, so that two of them can be told apart whatever arithmetic says
about them. A finite double is a sign and a magnitude `m · 2 ^ q`; `Double.ofRatio` finds the double
nearest to a fraction, a tie going to the even mantissa, and `Double.ofDecimal` the one nearest to
`digits · 10 ^ exponent`. Both work on natural numbers only.
-/

namespace Scaffold

/-- A double precision number, as its bits. -/
structure Double where
  bits : UInt64
  deriving DecidableEq, Inhabited

namespace Double

/-- What the bits stand for. -/
inductive Class where
  | nan
  | infinite (negative : Bool)
  | finite (negative : Bool) (mantissa : Nat) (exponent : Int)

/-- The sign bit. -/
def isNegative (x : Double) : Bool := twoTo 63 ≤ x.bits.toNat

/-- The eleven bits of the exponent. -/
def exponentField (x : Double) : Nat := x.bits.toNat / twoTo 52 % twoTo 11

/-- The fifty-two bits of the fraction. -/
def fractionField (x : Double) : Nat := x.bits.toNat % twoTo 52

/-- Reads the three fields. -/
def classify (x : Double) : Class :=
  if x.exponentField = 2047 then
    if x.fractionField = 0 then .infinite x.isNegative else .nan
  else if x.exponentField = 0 then .finite x.isNegative x.fractionField (-1074)
  else .finite x.isNegative (twoTo 52 + x.fractionField) (x.exponentField - 1075 : Int)

/-- Whether the double is a number at all, infinities excluded. -/
def isFinite (x : Double) : Bool := x.exponentField ≠ 2047

/-- Whether the double is zero of either sign. -/
def isZero (x : Double) : Bool := x.bits.toNat % twoTo 63 = 0

/-- A key by which finite doubles are ordered as numbers; the two zeros share one. -/
def key (x : Double) : Int :=
  let magnitude : Int := x.bits.toNat % twoTo 63
  if x.isNegative then -magnitude else magnitude

/-- Puts a sign bit in front of the other bits. -/
def ofFields (negative : Bool) (magnitude : Nat) : Double :=
  ⟨UInt64.ofNat (magnitude + if negative then twoTo 63 else 0)⟩

/-- Infinity of the given sign. -/
def infinity (negative : Bool) : Double := ofFields negative (2047 * twoTo 52)

/-- Zero of the given sign. -/
def zero (negative : Bool) : Double := ofFields negative 0

/-- A fraction rounded to the nearest natural number, a tie going to the even one. -/
def roundHalfEven (num den : Nat) : Nat :=
  let low := num / den
  let rest := 2 * (num % den)
  if rest < den || (rest = den && low % 2 = 0) then low else low + 1

/-- The mantissa `num / (den · 2 ^ q)`, rounded. -/
def mantissaAt (num den : Nat) (q : Int) : Nat :=
  match q with
  | .ofNat k => roundHalfEven num (den * twoTo k)
  | .negSucc k => roundHalfEven (num * twoTo (k + 1)) den

/-- The exponent `q` for which `num / den` lies between `2 ^ 52` and `2 ^ 53` units of `2 ^ q`, or
the least exponent there is. -/
def unitExponent (num den : Nat) : Int :=
  let guess : Int := (num.log2 : Int) - den.log2 - 53
  let q := if mantissaFloor num den guess ≥ twoTo 53 then guess + 1 else guess
  max q (-1074)
where
  /-- The mantissa at an exponent, cut off. -/
  mantissaFloor (num den : Nat) (q : Int) : Nat :=
    match q with
    | .ofNat k => num / (den * twoTo k)
    | .negSucc k => num * twoTo (k + 1) / den

/-- The double nearest to `num / den`. Rounding up to the next power of two needs no case of its own:
the carry moves into the exponent field. -/
def ofRatio (negative : Bool) (num den : Nat) : Double :=
  if num = 0 || den = 0 then zero negative
  else
    let q := unitExponent num den
    let m := mantissaAt num den q
    let magnitude := (q + 1074).toNat * twoTo 52 + m
    if magnitude ≥ 2047 * twoTo 52 then infinity negative else ofFields negative magnitude

/-- The number of decimal digits of a natural number. -/
def digitCount (n : Nat) : Nat := (Nat.toDigits 10 n).length

/-- The double nearest to `digits · 10 ^ exponent`. Far outside the range of doubles the answer is
known before the power is computed. -/
def ofDecimal (negative : Bool) (digits : Nat) (exponent : Int) : Double :=
  if digits = 0 then zero negative
  else if digitCount digits + exponent > 400 then infinity negative
  else if digitCount digits + exponent < -400 then zero negative
  else
    match exponent with
    | .ofNat k => ofRatio negative (digits * tenTo k) 1
    | .negSucc k => ofRatio negative digits (tenTo (k + 1))

/-- The double nearest to an integer. -/
def ofInt (n : Int) : Double := ofRatio (n < 0) n.natAbs 1

/-- The double as a machine number, for arithmetic. -/
def toFloat (x : Double) : Float := Float.ofBits x.bits

/-- The bits of a machine number. -/
def ofFloat (x : Float) : Double := ⟨x.toBits⟩

/-- Equality of numbers: the two zeros are equal, and not-a-number differs from itself. -/
def numEq (x y : Double) : Bool :=
  match x.classify, y.classify with
  | .nan, _ => false
  | _, .nan => false
  | _, _ => x = y || (x.isZero && y.isZero)

/-- The integer that the double is equal to, if there is one. -/
def toInt? (x : Double) : Option Int :=
  match x.classify with
  | .finite negative m q =>
    let signed (n : Nat) : Int := if negative then -(n : Int) else n
    match q with
    | .ofNat k => some (signed (m * twoTo k))
    | .negSucc k => if m % twoTo (k + 1) = 0 then some (signed (m / twoTo (k + 1))) else none
  | _ => none

/-- The integer part of the double, toward zero. -/
def truncate? (x : Double) : Option Int :=
  match x.classify with
  | .finite negative m q =>
    let signed (n : Nat) : Int := if negative then -(n : Int) else n
    match q with
    | .ofNat k => some (signed (m * twoTo k))
    | .negSucc k => some (signed (m / twoTo (k + 1)))
  | _ => none

end Double

end Scaffold
