import Scaffold.Number.Fixed
import Scaffold.Number.Reading
import Scaffold.Template.Arguments

/-!
# Directives in a text

A text may hold directives that begin with a percent sign: flags, a width, a precision and a letter
that says how the next argument is written. `expand` replaces each directive by its argument.
-/

namespace Scaffold.Template.Format

/-- What a directive says about the layout of its argument. -/
structure Layout where
  left : Bool
  zeros : Bool
  plus : Bool
  space : Bool
  alternate : Bool
  width : Nat
  precision : Option Nat

/-- Applies a flag to a layout. -/
def Layout.flag? (l : Layout) : Char → Option Layout
  | '-' => some { l with left := true }
  | '0' => some { l with zeros := true }
  | '+' => some { l with plus := true }
  | ' ' => some { l with space := true }
  | '#' => some { l with alternate := true }
  | _ => none

/-- The flags at the beginning of a text. -/
def flags (l : Layout) : List Char → Layout × List Char
  | [] => (l, [])
  | c :: rest =>
    match l.flag? c with
    | some l => flags l rest
    | none => (l, c :: rest)

/-- The number at the beginning of a text, if there is one. -/
def leadingNumber (cs : List Char) : Option Nat × List Char :=
  let digits := cs.takeWhile Char.isDigit
  (if digits.isEmpty then none else Number.digitsValue? digits, cs.drop digits.length)

/-- The name in parentheses at the beginning of a text, if there is one. -/
def leadingName? : List Char → Option (String × List Char)
  | '(' :: rest =>
    let name := rest.takeWhile (· ≠ ')')
    match rest.drop name.length with
    | _ :: tail => some (String.ofList name, tail)
    | [] => none
  | _ => none

/-- Fills a text up to the width. Zeros go behind the sign, which is given apart. -/
def Layout.fill (l : Layout) (zerosAllowed : Bool) (sign body : String) : String :=
  let missing := l.width - (sign.length + body.length)
  let filler (c : Char) := String.ofList (List.replicate missing c)
  if l.left then sign ++ body ++ filler ' '
  else if l.zeros && zerosAllowed then sign ++ filler '0' ++ body
  else filler ' ' ++ sign ++ body

/-- The sign of a number. -/
def Layout.sign (l : Layout) (negative : Bool) : String :=
  if negative then "-" else if l.plus then "+" else if l.space then " " else ""

/-- The integer that an argument of an integer directive stands for. -/
def integer (v : Value) : Except FaultKind Int :=
  match v with
  | .int n => .ok n
  | .bool b => .ok b.toNat
  | .float x =>
    match x.truncate? with
    | some n => .ok n
    | none => .error .invalidOperation
  | _ => .error .invalidOperation

/-- An integer in a base. -/
def Layout.integerText (l : Layout) (base : Nat) (mark : String) (upper : Bool) (n : Int) :
    String :=
  let digits := Nat.toDigits base n.natAbs
  let digits := List.replicate (l.precision.getD 0 - digits.length) '0' ++ digits
  let digits := String.ofList (if upper then digits.map Char.toUpper else digits)
  l.fill l.precision.isNone (l.sign (n < 0) ++ if l.alternate then mark else "") digits

/-- A double under a floating point directive. -/
def Layout.floatText (l : Layout) (letter : Char) (x : Double) : String :=
  let upper := letter.isUpper
  let cased (s : String) := if upper then String.ofList (s.toList.map Char.toUpper) else s
  match x.classify with
  | .nan => l.fill false "" (cased "nan")
  | .infinite negative => l.fill false (l.sign negative) (cased "inf")
  | .finite negative m q =>
    let places := l.precision.getD 6
    let body :=
      if letter.toLower = 'f' then Number.fixedText places m q
      else if letter.toLower = 'e' then Number.scientificText places m q
      else Number.generalText places m q
    l.fill true (l.sign negative) (cased body)

/-- An argument under a directive. -/
def Layout.write (l : Layout) (letter : Char) (v : Value) : Except FaultKind String :=
  let cut (s : String) : String :=
    match l.precision with
    | some n => String.ofList (s.toList.take n)
    | none => s
  match letter with
  | 's' => .ok (l.fill false "" (cut v.print))
  | 'r' | 'a' => .ok (l.fill false "" (cut v.inspect))
  | 'd' | 'i' | 'u' => (integer v).map (l.integerText 10 "" false)
  | 'x' => (integer v).map (l.integerText 16 "0x" false)
  | 'X' => (integer v).map (l.integerText 16 "0X" true)
  | 'o' => (integer v).map (l.integerText 8 "0o" false)
  | 'e' | 'E' | 'f' | 'F' | 'g' | 'G' =>
    match v.toDouble? true with
    | some x => .ok (l.floatText letter x)
    | none => .error .invalidOperation
  | 'c' =>
    match v with
    | .str s _ => if s.length = 1 then .ok (l.fill false "" s) else .error .invalidOperation
    | v =>
      match v.toIntIn? 0 0x10FFFF with
      | some n => .ok (l.fill false "" (Char.ofNat n.toNat).toString)
      | none => .error .invalidOperation
  | _ => .error .invalidOperation

/-- A directive behind its percent sign: the name it asks for, its layout, its letter, and what
follows. -/
structure Directive where
  name : Option String
  layout : Layout
  letter : Char
  rest : List Char

/-- Reads a directive. -/
def directive? (cs : List Char) : Option Directive :=
  let (name, cs) := match leadingName? cs with
    | some (name, rest) => (some name, rest)
    | none => (none, cs)
  let (layout, cs) := flags ⟨false, false, false, false, false, 0, none⟩ cs
  let (width, cs) := leadingNumber cs
  let (precision, cs) := match cs with
    | '.' :: rest =>
      let (places, rest) := leadingNumber rest
      (some (places.getD 0), rest)
    | _ => (none, cs)
  let cs := cs.dropWhile fun c => c = 'l' || c = 'h' || c = 'L'
  match cs with
  | [] => none
  | letter :: rest =>
    some ⟨name, { layout with width := width.getD 0, precision }, letter, rest⟩

/-- Replaces the directives of a text by arguments, one after the other or by name. A directive takes
at least one character, so the length of the text bounds their number. -/
def expandFrom (named : List (String × Value)) : Nat → List Value → List Char →
    Except FaultKind String
  | 0, _, _ => .ok ""
  | _ + 1, plain, [] => if plain.isEmpty then .ok "" else .error .invalidOperation
  | fuel + 1, plain, c :: cs => do
    if c ≠ '%' then
      let text := c :: cs.takeWhile (· ≠ '%')
      return String.ofList text ++ (← expandFrom named fuel plain (cs.dropWhile (· ≠ '%')))
    else
      match directive? cs with
      | none => throw .invalidOperation
      | some d =>
        if d.letter = '%' then return "%" ++ (← expandFrom named fuel plain d.rest)
        else
          match d.name, plain with
          | some name, _ =>
            match named.lookup name with
            | none => throw .invalidOperation
            | some v =>
              return (← d.layout.write d.letter v) ++ (← expandFrom named fuel plain d.rest)
          | none, [] => throw .invalidOperation
          | none, v :: plain =>
            return (← d.layout.write d.letter v) ++ (← expandFrom named fuel plain d.rest)

/-- Replaces the directives of a text by arguments. Every plain argument has to be used. -/
def expand (s : String) (plain : List Value) (named : List (String × Value)) :
    Except FaultKind String :=
  expandFrom named (s.length + 1) plain s.toList

end Scaffold.Template.Format
