import Scaffold.Number.Shortest

/-!
# Layouts of a double

The writers of this project agree on the digits of a double and differ in how they lay them out: in
which range they write positionally, whether a whole number keeps a fraction, and whether a positive
exponent has a sign. `DoubleLayout` records these decisions and `DoubleLayout.write` applies them.
-/

namespace Scaffold.Number

/-- The decisions of one writer. A value whose decimal point stands at position `point` is written
positionally iff `above < point` and `point ≤ upTo`. -/
structure DoubleLayout where
  above : Option Int
  upTo : Option Int
  wholeFraction : Bool
  plusSign : Bool
  nan : String
  infinite : String

/-- Always positional; a whole number has no fraction. -/
def plainLayout : DoubleLayout := ⟨none, none, false, false, "NaN", "inf"⟩

/-- Always positional; a whole number has the fraction `.0`. -/
def outputLayout : DoubleLayout := ⟨none, none, true, false, "NaN", "inf"⟩

/-- Positional from a ten thousandth up to ten to the sixteenth, otherwise with an exponent. -/
def nestedLayout : DoubleLayout := ⟨some (-4), some 16, true, false, "NaN", "inf"⟩

/-- Positional from a hundred thousandth up to ten to the sixteenth, otherwise with a signed
exponent. What is not a number is null. -/
def jsonLayout : DoubleLayout := ⟨some (-5), some 16, true, true, "null", "null"⟩

/-- The decimal digits of a natural number. -/
def natText (n : Nat) : String := String.ofList (Nat.toDigits 10 n)

/-- The decimal digits of an integer, with a minus sign if it is negative. -/
def intText (n : Int) : String :=
  if n < 0 then "-" ++ natText n.natAbs else natText n.natAbs

/-- Zeros in a row. -/
def zeros (n : Nat) : String := String.ofList (List.replicate n '0')

/-- Digits laid out around the decimal point at position `point`. -/
def DoubleLayout.positional (layout : DoubleLayout) (digits : List Char) (point : Int) : String :=
  let tail := if layout.wholeFraction then ".0" else ""
  if point ≤ 0 then "0." ++ zeros (-point).toNat ++ String.ofList digits
  else
    let whole := digits.take point.toNat
    let fraction := digits.drop point.toNat
    String.ofList whole ++ zeros (point.toNat - whole.length) ++
      if fraction.isEmpty then tail else "." ++ String.ofList fraction

/-- Digits with one of them before the decimal point, and an exponent. -/
def DoubleLayout.scientific (layout : DoubleLayout) (digits : List Char) (point : Int) : String :=
  let sign := if layout.plusSign && point ≥ 1 then "+" else ""
  String.ofList (digits.take 1) ++
    (if digits.length ≤ 1 then "" else "." ++ String.ofList (digits.drop 1)) ++
    "e" ++ sign ++ intText (point - 1)

/-- The text of a double under a layout. -/
def DoubleLayout.write (layout : DoubleLayout) (x : Double) : String :=
  let sign (negative : Bool) := if negative then "-" else ""
  match x.classify with
  | .nan => layout.nan
  | .infinite negative => sign negative ++ layout.infinite
  | .finite negative m q =>
    if m = 0 then sign negative ++ "0" ++ if layout.wholeFraction then ".0" else ""
    else
      let d := shortest m q
      let digits := Nat.toDigits 10 d.digits
      let point : Int := digits.length + d.exponent
      let positional := layout.above.all (· < point) && layout.upTo.all (point ≤ ·)
      sign negative ++ if positional then layout.positional digits point
        else layout.scientific digits point

end Scaffold.Number
