import Scaffold.Number.Layout

/-!
# Instants

An instant is a calendar date, a time of day with nanoseconds, and the offset of that clock from the
common one. `Instant.read` accepts the internet date format and tells why it refuses a text;
`Instant.text` writes the same format with the offset spelled out. Two instants are ordered by the
moment they name, whatever their offsets.
-/

namespace Scaffold.Edn

/-- A date and a time on a clock with an offset. The offset is in seconds. -/
structure Instant where
  year : Nat
  month : Nat
  day : Nat
  hour : Nat
  minute : Nat
  second : Nat
  nanosecond : Nat
  offset : Int
  deriving DecidableEq, Inhabited

/-- Why a text is not an instant. -/
inductive InstantFault where
  | tooShort
  | tooLong
  | invalid
  | outOfRange
  deriving DecidableEq

namespace Instant

/-- Whether a year has a leap day. -/
def isLeapYear (year : Nat) : Bool := year % 4 = 0 && (year % 100 ≠ 0 || year % 400 = 0)

/-- The number of days of a month. -/
def daysInMonth (year month : Nat) : Nat :=
  if month = 2 then if isLeapYear year then 29 else 28
  else if month = 4 || month = 6 || month = 9 || month = 11 then 30
  else 31

/-- Days from the first day of year zero to a date. -/
def dayNumber (year month day : Nat) : Nat :=
  let leapDays := if year = 0 then 0 else (year - 1) / 4 - (year - 1) / 100 + (year - 1) / 400 + 1
  year * 365 + leapDays +
    (List.range (month - 1)).foldl (fun days m => days + daysInMonth year (m + 1)) 0 + (day - 1)

/-- The moment an instant names: seconds on the common clock, and nanoseconds. A leap second counts
as the last second of its minute with more than a thousand million nanoseconds. -/
def moment (t : Instant) : Int × Nat :=
  let leap := t.second = 60
  let second := if leap then 59 else t.second
  let clock := t.hour * 3600 + t.minute * 60 + second
  ((dayNumber t.year t.month t.day * 86400 + clock : Nat) - t.offset,
    t.nanosecond + if leap then 1000000000 else 0)

/-- Order by moment. -/
def cmp (s t : Instant) : Ordering :=
  (compare s.moment.1 t.moment.1).then (compare s.moment.2 t.moment.2)

/-! ## Writing -/

/-- A number with zeros in front up to a width. -/
def padded (width n : Nat) : String :=
  let digits := Nat.toDigits 10 n
  String.ofList (List.replicate (width - digits.length) '0' ++ digits)

/-- The fraction of a second with three, six or nine digits, whichever first suffices. -/
def fractionText (nanosecond : Nat) : String :=
  if nanosecond = 0 then ""
  else if nanosecond % 1000000 = 0 then "." ++ padded 3 (nanosecond / 1000000)
  else if nanosecond % 1000 = 0 then "." ++ padded 6 (nanosecond / 1000)
  else "." ++ padded 9 nanosecond

/-- Hours and minutes of an offset, with a sign. -/
def offsetText (offset : Int) : String :=
  let minutes := offset.natAbs / 60
  (if offset < 0 then "-" else "+") ++ padded 2 (minutes / 60) ++ ":" ++ padded 2 (minutes % 60)

/-- The date, the letter T, the time and the offset. -/
def text (t : Instant) : String :=
  padded 4 t.year ++ "-" ++ padded 2 t.month ++ "-" ++ padded 2 t.day ++ "T" ++
    padded 2 t.hour ++ ":" ++ padded 2 t.minute ++ ":" ++ padded 2 t.second ++
    fractionText t.nanosecond ++ offsetText t.offset

/-! ## Reading -/

/-- A reader of a part of the text. -/
abbrev Part (α : Type) := StateT (List Char) (Except InstantFault) α

/-- A decimal digit in front of the text. -/
def digit : Part Nat := fun cs =>
  match cs with
  | [] => .error .tooShort
  | c :: rest => if '0' ≤ c ∧ c ≤ '9' then .ok (c.toNat - '0'.toNat, rest) else .error .invalid

/-- A number of exactly `width` digits. A text with fewer bytes than that is too short, whatever it
holds. -/
def number (width : Nat) : Part Nat := fun cs =>
  if (String.ofList cs).utf8ByteSize < width then .error .tooShort
  else
    let rec go : Nat → Nat → Part Nat
      | 0, n => pure n
      | k + 1, n => do
        let d ← digit
        go k (n * 10 + d)
    go width 0 cs

/-- One given character. -/
def literal (want : Char) : Part Unit := fun cs =>
  match cs with
  | [] => .error .tooShort
  | c :: rest => if c = want then .ok ((), rest) else .error .invalid

/-- A number of exactly `width` digits between two bounds. -/
def numberIn (width lo hi : Nat) : Part Nat := do
  let n ← number width
  if lo ≤ n ∧ n ≤ hi then return n else throw .outOfRange

/-- The letter between date and time; a blank may stand for it. -/
def separator : Part Unit := fun cs =>
  match cs with
  | [] => .error .tooShort
  | c :: rest => if c = 'T' || c = 't' || c = ' ' then .ok ((), rest) else .error .invalid

/-- The fraction of a second behind its point. Digits beyond the ninth are skipped. -/
def fraction : Part Nat := fun cs =>
  let isDigit (c : Char) : Bool := '0' ≤ c && c ≤ '9'
  let digits := cs.takeWhile isDigit
  match cs, digits with
  | [], _ => .error .tooShort
  | _, [] => .error .invalid
  | _, _ =>
    let kept := digits.take 9
    let value := kept.foldl (fun n c => n * 10 + (c.toNat - '0'.toNat)) 0
    .ok (value * tenTo (9 - kept.length), cs.dropWhile isDigit)

/-- Two digits of an offset; fewer than two bytes are too few. -/
def offsetDigits : Part (Char × Char) := fun cs =>
  if (String.ofList cs).utf8ByteSize < 2 then .error .tooShort
  else
    match cs with
    | a :: b :: rest => .ok ((a, b), rest)
    | _ => .error .invalid

/-- The offset: a letter for none, or a sign, hours, a colon and minutes. -/
def offsetPart : Part Int := fun cs =>
  let isDigit (c : Char) : Bool := '0' ≤ c && c ≤ '9'
  let value (a b : Char) : Nat := (a.toNat - '0'.toNat) * 10 + (b.toNat - '0'.toNat)
  let signed (negative : Bool) : Part Int := do
    let (h1, h2) ← offsetDigits
    if !(isDigit h1 && isDigit h2) then throw .invalid
    literal ':'
    let (m1, m2) ← offsetDigits
    if !(isDigit m1 && isDigit m2) then throw .invalid
    if m1 > '5' then throw .outOfRange
    let seconds : Int := value h1 h2 * 3600 + value m1 m2 * 60
    return if negative then -seconds else seconds
  match cs with
  | [] => .error .tooShort
  | 'Z' :: rest | 'z' :: rest => .ok (0, rest)
  | '+' :: rest => signed false rest
  | '-' :: rest | '−' :: rest => signed true rest
  | _ => .error .invalid

/-- All parts in a row. -/
def parts : Part Instant := do
  let year ← number 4
  literal '-'
  let month ← numberIn 2 1 12
  literal '-'
  let day ← numberIn 2 1 31
  separator
  let hour ← numberIn 2 0 23
  literal ':'
  let minute ← numberIn 2 0 59
  literal ':'
  let second ← numberIn 2 0 60
  let nanosecond ← fun cs =>
    match cs with
    | '.' :: rest => fraction rest
    | _ => .ok (0, cs)
  let offset ← offsetPart
  if offset.natAbs > (23 * 60 + 59) * 60 then throw .outOfRange
  return { year, month, day, hour, minute, second, nanosecond, offset }

/-- Reads a text as an instant. Nothing may follow it, and its day has to exist. -/
def read (s : String) : Except InstantFault Instant :=
  match parts s.toList with
  | .error fault => .error fault
  | .ok (t, []) => if t.day ≤ daysInMonth t.year t.month then .ok t else .error .outOfRange
  | .ok (_, _ :: _) => .error .tooLong

end Instant

end Scaffold.Edn
