import Scaffold.Edn.ReadError
import Scaffold.Text.Alphabetic
import Scaffold.Text.Numeric

/-!
# Atoms

An atom is a row of atom characters. `Value.ofAtom` tells which value it spells: one of three words,
a keyword, a symbol or a number. The rules are tried in a fixed order, so that an atom with several
faults reports the first of them.
-/

namespace Scaffold.Edn

/-- Whether a character can be part of an atom. -/
def isAtomChar (c : Char) : Bool :=
  ".*+!-_?$%&=<>/:".toList.contains c || Text.isAlphabetic c || Text.isNumeric c

/-- Whether a text begins like a number: with a numeral, or with a sign and a numeral. -/
def beginsLikeNumber : List Char → Bool
  | [] => false
  | [c] => Text.isNumeric c
  | c :: d :: _ => Text.isNumeric c || ((c = '+' || c = '-') && Text.isNumeric d)

/-- The pieces of a text between occurrences of a character. -/
def splitAt (sep : Char) : List Char → List (List Char)
  | [] => [[]]
  | c :: rest =>
    if c = sep then [] :: splitAt sep rest
    else
      match splitAt sep rest with
      | [] => [[c]]
      | piece :: pieces => (c :: piece) :: pieces

/-- A name with at most one slash in it, which parts the namespace from the name. -/
def Ident.ofChars (ofKeyword : Bool) (cs : List Char) : Except Cause Ident :=
  match splitAt '/' cs with
  | [name] => .ok (.plain (String.ofList name))
  | [ns, name] =>
    if beginsLikeNumber ns then .error (if ofKeyword then .keyword else .symbol)
    else .ok ⟨some (String.ofList ns), String.ofList name⟩
  | _ => .error (.moreThanOneSlash ofKeyword)

/-- Whether a text ends with a letter that it holds nowhere else. -/
def endsWithOnly (mark : Char) (cs : List Char) : Bool :=
  cs.getLast? = some mark && cs.count mark = 1

/-- A number. A final `M` asks for a decimal of any size and a final `N` for an integer of any
size. -/
def Value.ofNumber (cs : List Char) : Except Cause Value :=
  let text := String.ofList cs
  let unsigned := match cs with
    | '+' :: rest | '-' :: rest => rest
    | _ => cs
  if endsWithOnly 'M' cs then
    match Number.readBigDecimal cs.dropLast with
    | .ok x => .ok (.bigDecimal x)
    | .error fault => .error (.badBigDecimal text fault)
  else if cs.any fun c => c = '.' || c = 'e' || c = 'E' then
    match Number.readDouble? cs with
    | some x => .ok (.float x)
    | none => .error (.badFloat text)
  else if unsigned.head? = some '0' && unsigned ≠ ['0'] then .error .leadingZero
  else if endsWithOnly 'N' cs then
    match Number.readBigInt cs.dropLast with
    | .ok n => .ok (.bigInt n)
    | .error fault => .error (.badBigInt text fault)
  else
    match Number.readInt 64 cs with
    | .ok n => .ok (.int n)
    | .error fault => .error (.badInt text fault)

/-- A keyword, from the characters behind its colon. -/
def Value.ofKeyword (cs : List Char) : Except Cause Value :=
  if cs = ['/'] then .ok (.keyword (.plain "/"))
  else if cs.head? = some '/' then .error (.slashAtBeginning true)
  else if cs.getLast? = some '/' then .error (.slashAtEnd true)
  else if cs.contains ':' then .error (.colon true)
  else (Ident.ofChars true cs).map .keyword

/-- The value that an atom spells. -/
def Value.ofAtom (cs : List Char) : Except Cause Value :=
  match cs with
  | ['n', 'i', 'l'] => .ok .nil
  | ['t', 'r', 'u', 'e'] => .ok (.bool true)
  | ['f', 'a', 'l', 's', 'e'] => .ok (.bool false)
  | [':'] => .error .keyword
  | ':' :: rest => Value.ofKeyword rest
  | ['/'] => .ok (.symbol (.plain "/"))
  | _ =>
    if cs.head? = some '/' then .error (.slashAtBeginning false)
    else if cs.getLast? = some '/' then .error (.slashAtEnd false)
    else if cs.contains ':' then .error (.colon false)
    else if beginsLikeNumber cs && !cs.contains '/' then Value.ofNumber cs
    else (Ident.ofChars false cs).map .symbol

end Scaffold.Edn
