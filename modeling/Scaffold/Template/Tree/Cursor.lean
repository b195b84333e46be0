import Scaffold.Template.Token
import Scaffold.Template.Tree

/-!
# Reading tokens

A `Parser` takes tokens from the front of a row. A fault that it finds itself lies on the line of the
token it took last. The fault that ended the scan is met when the place is reached where the next
token would be.
-/

namespace Scaffold.Template

/-- What is left to read, and what is known about the surroundings. -/
structure Cursor where
  tokens : List Lexeme
  fault : Option Fault
  line : Nat
  inLoop : Bool
  inMacro : Bool
  blockNames : List String
  blocks : List (String × List Stmt)

/-- A reader of tokens. -/
abbrev Parser (α : Type) := StateT Cursor (Except Fault) α

namespace Parser

/-- Refuses the source on the line of the last token. -/
def refuse {α : Type} : Parser α := do throw ⟨.badSyntax, some (← get).line⟩

/-- The next token, left where it is. -/
def peek : Parser (Option Token) := do
  let c ← get
  match c.tokens, c.fault with
  | t :: _, _ => return some t.token
  | [], none => return none
  | [], some fault => throw { fault with line := fault.line.or (some c.line) }

/-- Takes the next token, if there is one. -/
def next : Parser (Option Token) := do
  let token ← peek
  modify fun c =>
    match c.tokens with
    | [] => c
    | t :: rest => { c with tokens := rest, line := t.line }
  return token

/-- The line of the next token, or of the last one at the end. -/
def nextLine : Parser Nat := do
  let _ ← peek
  let c ← get
  match c.tokens with
  | [] => return c.line
  | t :: _ => return t.line

/-- Takes the next token if it is the given one. -/
def skip (token : Token) : Parser Bool := do
  if (← peek) = some token then
    let _ ← next
    return true
  else return false

/-- Whether the next token is the given one. -/
def sees (token : Token) : Parser Bool := return (← peek) = some token

/-- Takes the given token. -/
def expect (token : Token) : Parser Unit := do
  if (← next) ≠ some token then refuse

/-- Takes a name. -/
def expectName : Parser String := do
  match ← next with
  | some (.name id) => return id
  | _ => refuse

/-- Takes the given name if it comes next. -/
def skipName (id : String) : Parser Bool := skip (.name id)

/-- Takes the given punctuation if it comes next. -/
def skipSign (s : Sign) : Parser Bool := skip (.sign s)

/-- The number of tokens that are left. -/
def remaining : Parser Nat := return (← get).tokens.length

/-- Repeats a step that takes at least one token until it gives nothing more. -/
def iterate {α : Type} (step : α → Parser (Option α)) : Nat → α → Parser α
  | 0, a => return a
  | fuel + 1, a => do
    match ← step a with
    | none => return a
    | some b => iterate step fuel b

/-- Repeats a step as often as there are tokens for it. -/
def repeated {α : Type} (step : α → Parser (Option α)) (a : α) : Parser α := do
  iterate step ((← remaining) + 1) a

end Parser

end Scaffold.Template
