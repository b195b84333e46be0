import Scaffold.Number.BigDecimal

/-!
# Reading numbers

Readers for the number texts of the formats in this project. Integers of a fixed width report why a
text is refused: an empty text, a character that is no digit, or a value that does not fit. Digits
are looked at from left to right, so a value that overflows early wins over a bad digit behind it.
-/

namespace Scaffold.Number

/-- Why a text is not an integer of the wanted width. -/
inductive IntFault where
  | empty
  | invalidDigit
  | positiveOverflow
  | negativeOverflow
  deriving DecidableEq, Repr

/-- The value of a decimal digit. -/
def digit? (c : Char) : Option Nat :=
  if '0' ≤ c ∧ c ≤ '9' then some (c.toNat - '0'.toNat) else none

/-- The value of a digit in a base of at most thirty-six. -/
def digitIn? (base : Nat) (c : Char) : Option Nat :=
  let value? :=
    if '0' ≤ c ∧ c ≤ '9' then some (c.toNat - '0'.toNat)
    else if 'a' ≤ c ∧ c ≤ 'z' then some (c.toNat - 'a'.toNat + 10)
    else if 'A' ≤ c ∧ c ≤ 'Z' then some (c.toNat - 'A'.toNat + 10)
    else none
  value?.filter (· < base)

/-- Digits of a base behind a value read so far, up to a limit. -/
def accumulate (base limit : Nat) (overflow : IntFault) : Nat → List Char → Except IntFault Nat
  | n, [] => .ok n
  | n, c :: rest =>
    match digitIn? base c with
    | none => .error .invalidDigit
    | some d =>
      if n * base + d > limit then .error overflow
      else accumulate base limit overflow (n * base + d) rest

/-- A natural number up to a limit, with an optional plus sign. -/
def readNat (base limit : Nat) : List Char → Except IntFault Nat
  | [] => .error .empty
  | ['+'] => .error .invalidDigit
  | '+' :: rest => accumulate base limit .positiveOverflow 0 rest
  | cs => accumulate base limit .positiveOverflow 0 cs

/-- A signed integer of the given number of bits. -/
def readInt (bits : Nat) : List Char → Except IntFault Int
  | [] => .error .empty
  | ['+'] | ['-'] => .error .invalidDigit
  | '-' :: rest =>
    (accumulate 10 (twoTo (bits - 1)) .negativeOverflow 0 rest).map fun n => -(n : Int)
  | '+' :: rest => (accumulate 10 (twoTo (bits - 1) - 1) .positiveOverflow 0 rest).map Int.ofNat
  | cs => (accumulate 10 (twoTo (bits - 1) - 1) .positiveOverflow 0 cs).map Int.ofNat

/-- The value of a row of decimal digits, if there is nothing else. -/
def digitsValue? (cs : List Char) : Option Nat :=
  cs.foldl (fun acc c => acc.bind fun n => (digit? c).map (n * 10 + ·)) (some 0)

/-- The exponent behind the letter that announces it: an optional sign and at least one digit. -/
def readExponent? : List Char → Option Int
  | '-' :: rest => if rest.isEmpty then none else (digitsValue? rest).map fun n => -(n : Int)
  | '+' :: rest => if rest.isEmpty then none else (digitsValue? rest).map Int.ofNat
  | cs => if cs.isEmpty then none else (digitsValue? cs).map Int.ofNat

/-- Digits, an optional point with further digits, and an optional exponent. At least one digit has
to stand in front of the exponent. -/
def readUnsignedDouble? (negative : Bool) (cs : List Char) : Option Double :=
  let (mantissa, tail) := cs.span fun c => c ≠ 'e' && c ≠ 'E'
  let (whole, fraction) := mantissa.span (· ≠ '.')
  let places := fraction.drop 1
  if whole.isEmpty && places.isEmpty then none
  else do
    let digits ← digitsValue? (whole ++ places)
    let exponent ← match tail with
      | [] => some 0
      | _ :: rest => readExponent? rest
    return Double.ofDecimal negative digits (exponent - places.length)

/-- The double nearest to a decimal text. -/
def readDouble? : List Char → Option Double
  | '-' :: rest => readUnsignedDouble? true rest
  | '+' :: rest => readUnsignedDouble? false rest
  | cs => readUnsignedDouble? false cs

/-- The double that a word stands for, in letters of either case. -/
def wordDouble? (negative : Bool) (cs : List Char) : Option Double :=
  let word := String.ofList (cs.map Char.toLower)
  if word = "inf" || word = "infinity" then some (.infinity negative)
  else if word = "nan" then some ⟨if negative then 0xFFF8000000000000 else 0x7FF8000000000000⟩
  else none

/-- The double nearest to a decimal text, or that a word stands for. -/
def readNamedDouble? (cs : List Char) : Option Double :=
  let word := match cs with
    | '-' :: rest => wordDouble? true rest
    | '+' :: rest => wordDouble? false rest
    | _ => wordDouble? false cs
  word.or (readDouble? cs)

/-- Why a text is not an integer of any size. -/
inductive BigFault where
  | empty
  | invalidDigit
  deriving DecidableEq, Repr

/-- A natural number of any size. A plus sign may lead, and underscores between digits are skipped. -/
def readBigNat (cs : List Char) : Except BigFault Nat :=
  let body := match cs with
    | '+' :: rest => if rest.head? = some '+' then cs else rest
    | _ => cs
  match body with
  | [] => .error .empty
  | '_' :: _ => .error .invalidDigit
  | _ =>
    match digitsValue? (body.filter (· ≠ '_')) with
    | some n => .ok n
    | none => .error .invalidDigit

/-- An integer of any size. -/
def readBigInt : List Char → Except BigFault Int
  | '-' :: rest =>
    if rest.head? = some '+' then .error .invalidDigit
    else (readBigNat rest).map fun n => -(n : Int)
  | cs => (readBigNat cs).map Int.ofNat

/-- Why a text is not a decimal of any size. -/
inductive BigDecimalFault where
  | empty
  | exponent (fault : IntFault)
  | digits (fault : BigFault)
  deriving DecidableEq, Repr

/-- A decimal of any size: digits with an optional point, and an optional exponent that fits in 64
bits. -/
def readBigDecimal (cs : List Char) : Except BigDecimalFault BigDecimal :=
  let (base, tail) := cs.span fun c => c ≠ 'e' && c ≠ 'E'
  let exponent : Except IntFault Int := match tail with
    | [] => .ok 0
    | _ :: '+' :: rest => readInt 64 rest
    | _ :: rest => readInt 64 rest
  match exponent with
  | .error fault => .error (.exponent fault)
  | .ok exponent =>
    if base.isEmpty then .error .empty
    else
      let (whole, fraction) := base.span (· ≠ '.')
      let places := fraction.drop 1
      match readBigInt (whole ++ places) with
      | .error fault => .error (.digits fault)
      | .ok unscaled => .ok ⟨unscaled, (String.ofList places).utf8ByteSize - exponent⟩

end Scaffold.Number
