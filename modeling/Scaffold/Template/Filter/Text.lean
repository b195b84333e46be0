import Scaffold.Template.Arguments
import Scaffold.Text.Blank
import Scaffold.Text.Case

/-!
# Filters of texts

These filters work on the printed text of a value.
-/

namespace Scaffold.Template.Filter

/-- A filter, as a reader of its further arguments. -/
abbrev Action := Value → Take Value

/-- A filter that gives a text for a text. -/
def onText (f : String → String) : Action := fun v => return .text (f v.print)

/-! ## Case -/

/-- Whether a word begins anew behind the character. -/
def endsWord (c : Char) : Bool :=
  Text.isBlank c || (33 ≤ c.toNat && c.toNat < 127 && !c.isAlphanum)

/-- The first letter of each word in upper case and the others in lower case. -/
def titleFrom : Bool → List Char → List Char
  | _, [] => []
  | atStart, c :: rest =>
    if endsWord c then c :: titleFrom true rest
    else (if atStart then Text.upperChar c else Text.lowerChar c) ++ titleFrom false rest

/-- Every word with a capital letter. -/
def title (s : String) : String := String.ofList (titleFrom true s.toList)

/-- The first character in upper case and the others in lower case. -/
def capitalize (s : String) : String :=
  match s.toList with
  | [] => ""
  | c :: rest => String.ofList (Text.upperChar c) ++ Text.lower (String.ofList rest)

/-! ## Cutting and joining -/

/-- Drops a piece from the beginning of a text. -/
def dropPiece? : List Char → List Char → Option (List Char)
  | [], cs => some cs
  | p :: piece, c :: cs => if p = c then dropPiece? piece cs else none
  | _ :: _, [] => none

/-- The parts of a text around the places where a piece occurs, read from left to right: so many
more cuts are made, and `current` holds the part read so far, in reverse. -/
def partsAround (piece : List Char) : Nat → Nat → List Char → List Char → List (List Char)
  | 0, _, current, cs => [current.reverse ++ cs]
  | _ + 1, 0, current, cs => [current.reverse ++ cs]
  | fuel + 1, cuts + 1, current, cs =>
    match dropPiece? piece cs with
    | some rest => current.reverse :: partsAround piece fuel cuts [] rest
    | none =>
      match cs with
      | [] => [current.reverse]
      | c :: rest => partsAround piece fuel (cuts + 1) (c :: current) rest

/-- The parts of a text around an empty piece: nothing in front, each character, nothing behind. -/
def partsOfAll : Nat → List Char → List (List Char)
  | 0, cs => [cs]
  | 1, cs => [[], cs]
  | cuts + 2, cs => [] :: go cuts cs
where
  /-- Single characters, as long as cuts are left. -/
  go : Nat → List Char → List (List Char)
    | _, [] => [[]]
    | 0, c :: rest => [[c], rest]
    | cuts + 1, c :: rest => [c] :: go cuts rest

/-- The parts of a text around a piece, with at most so many cuts. -/
def splitAround (piece cs : List Char) (cuts : Nat) : List (List Char) :=
  if piece.isEmpty then partsOfAll cuts cs else partsAround piece (cs.length + 1) cuts [] cs

/-- Replaces every occurrence of a piece. -/
def replaceAll (s piece other : String) : String :=
  let cs := s.toList
  other.intercalate ((splitAround piece.toList cs (cs.length + 1)).map String.ofList)

/-- The words of a text, at most so many; the last one takes all that is left. What is left may be
blank. -/
def wordsUpTo : Nat → List Char → List (List Char)
  | 0, _ => []
  | limit + 1, cs =>
    let body := cs.dropWhile Text.isBlank
    if body.isEmpty then (if cs.isEmpty then [] else [cs])
    else if limit = 0 then [body]
    else
      let word := body.takeWhile fun c => !Text.isBlank c
      word :: wordsUpTo limit (body.drop word.length)

/-- All words of a text. -/
def allWords : Nat → List Char → List (List Char)
  | 0, _ => []
  | fuel + 1, cs =>
    let body := cs.dropWhile Text.isBlank
    if body.isEmpty then []
    else
      let word := body.takeWhile fun c => !Text.isBlank c
      word :: allWords fuel (body.drop word.length)

/-- Texts as a row that does not know its length. -/
def streamOf (parts : List (List Char)) : Value :=
  .stream (parts.map fun cs => .text (String.ofList cs)) false

/-- The parts of a text: around a separator or between blanks, at most so many cuts. -/
def split : Action := fun v => do
  let s ← match v.asText? with
    | some s => pure s.toList
    | none => throw .invalidOperation
  let separator ← Take.optional Take.asText
  let cuts := (← Take.optional (Take.asInt 64)).filter (0 ≤ ·)
  let all := s.length + 1
  match separator, cuts with
  | some piece, none => return streamOf (splitAround piece.toList s all)
  | some piece, some cuts => return streamOf (splitAround piece.toList s cuts.toNat)
  | none, none => return streamOf (allWords all s)
  | none, some cuts => return streamOf (wordsUpTo (cuts.toNat + 1) s)

/-- The lines of a text. A carriage return in front of a line end belongs to it. -/
def lines : Action := fun v => do
  match v.asText? with
  | none => throw .invalidOperation
  | some s =>
    let parts := splitAround ['\n'] s.toList (s.length + 1)
    let last := parts.getLast?.getD []
    let ended := parts.dropLast.map fun cs => if cs.getLast? = some '\r' then cs.dropLast else cs
    return streamOf (if last.isEmpty then ended else ended ++ [last])

/-- Drops a line end from the end of a text. -/
def dropLineEnd (cs : List Char) : List Char :=
  let cs := if cs.getLast? = some '\n' then cs.dropLast else cs
  if cs.getLast? = some '\r' then cs.dropLast else cs

/-- Indents the lines of a text. The first line and blank ones are left alone unless asked for. -/
def indentLines (s : String) (width : Nat) (first blank : Bool) : String :=
  let margin := List.replicate width ' '
  let parts := splitAround ['\n'] (dropLineEnd s.toList) (s.length + 1)
  let indented (cs : List Char) : List Char :=
    if cs.isEmpty then (if blank then margin else []) else margin ++ cs
  let parts := match parts with
    | [] => []
    | cs :: rest => (if first then indented cs else cs) :: rest.map indented
  String.ofList (dropLineEnd (['\n'].intercalate parts ++ ['\n']))

/-! ## The filters -/

/-- Drops blanks, or the given characters, from both ends. -/
def trim : Action := fun v => do
  match ← Take.optional Take.asPrinted with
  | none => return .text (Text.trim v.print)
  | some cs => return .text (Text.trimWhile cs.toList.contains v.print)

/-- The filters of texts. -/
def textFilter? : String → Option Action
  | "upper" => some (onText Text.upper)
  | "lower" => some (onText Text.lower)
  | "title" => some (onText title)
  | "capitalize" => some (onText capitalize)
  | "trim" => some trim
  | "split" => some split
  | "lines" => some lines
  | "replace" => some fun v => do
    let piece ← Take.required Take.asPrinted
    let other ← Take.required Take.asPrinted
    return .text (replaceAll v.print piece other)
  | "indent" => some fun v => do
    let width ← Take.required Take.asCount
    let first := (← Take.optional Take.asBool).getD false
    let blank := (← Take.optional Take.asBool).getD false
    return .text (indentLines v.print width first blank)
  | "safe" => some fun v => return .str v.print true
  | "string" => some fun v => return if v.kind = .str then v else .text v.print
  | "pprint" => some fun v => return .text (v.inspectTall 0)
  | _ => none

end Scaffold.Template.Filter
