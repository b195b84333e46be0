import Scaffold.Number.Layout

/-!
# Fixed numbers of digits

A double written with a given number of decimal places, or with a given number of digits and an
exponent. The value is rounded to the nearest text, a tie going to the even digit.
-/

namespace Scaffold.Number

/-- Digits with at least so many characters, filled up with zeros in front. -/
def paddedDigits (width : Nat) (n : Nat) : List Char :=
  let digits := Nat.toDigits 10 n
  List.replicate (width - digits.length) '0' ++ digits

/-- Digits with a decimal point in front of the last `places` ones. -/
def withPoint (places : Nat) (n : Nat) : String :=
  let digits := paddedDigits (places + 1) n
  let whole := digits.take (digits.length - places)
  String.ofList whole ++
    if places = 0 then "" else "." ++ String.ofList (digits.drop (digits.length - places))

/-- The fraction that a magnitude `m · 2 ^ q` is. -/
def fractionOf (m : Nat) : Int → Nat × Nat
  | .ofNat k => (m * twoTo k, 1)
  | .negSucc k => (m, twoTo (k + 1))

/-- A magnitude with a fixed number of decimal places. -/
def fixedText (places : Nat) (m : Nat) (q : Int) : String :=
  let (num, den) := fractionOf m q
  withPoint places (Double.roundHalfEven (num * tenTo places) den)

/-- A fraction rounded to a multiple of a power of ten, counted in that power. -/
def roundAt (num den : Nat) : Int → Nat
  | .ofNat k => Double.roundHalfEven num (den * tenTo k)
  | .negSucc k => Double.roundHalfEven (num * tenTo (k + 1)) den

/-- The `count` leading digits of a positive magnitude and the power of ten of the first of them. -/
def leadingDigits (count m : Nat) (q : Int) : Nat × Int :=
  let (num, den) := fractionOf m q
  let guess : Int := Double.digitCount num - Double.digitCount den
  let low := roundAt num den (guess - 1 - (count - 1 : Nat))
  let top := if low ≥ tenTo count then guess else guess - 1
  let top := if low < tenTo (count - 1) then top - 1 else top
  let digits := roundAt num den (top - (count - 1 : Nat))
  if digits ≥ tenTo count then (digits / 10, top + 1) else (digits, top)

/-- An exponent with its sign and at least two digits. -/
def exponentText (n : Int) : String :=
  (if n < 0 then "-" else "+") ++ String.ofList (paddedDigits 2 n.natAbs)

/-- A magnitude with one digit in front of the point, a fixed number of places and an exponent. -/
def scientificText (places : Nat) (m : Nat) (q : Int) : String :=
  let (digits, top) := if m = 0 then (0, 0) else leadingDigits (places + 1) m q
  withPoint places digits ++ "e" ++ exponentText top

/-- Drops the zeros at the end of the decimal places, and then a point that ends the text. -/
def dropTrailingZeros (s : String) : String :=
  let cs := s.toList
  if cs.contains '.' then
    let rest := cs.reverse.dropWhile (· = '0')
    String.ofList (if rest.head? = some '.' then rest.drop 1 else rest).reverse
  else s

/-- A magnitude with a number of significant digits, in the shorter of the two ways. -/
def generalText (precision : Nat) (m : Nat) (q : Int) : String :=
  let precision := max precision 1
  if m = 0 then "0"
  else
    let (_, top) := leadingDigits precision m q
    if top < -4 ∨ top ≥ precision then
      let (digits, top) := leadingDigits precision m q
      dropTrailingZeros (withPoint (precision - 1) digits) ++ "e" ++ exponentText top
    else dropTrailingZeros (fixedText (precision - 1 - top).toNat m q)

end Scaffold.Number
