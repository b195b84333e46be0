import Scaffold.Number.Double
import Scaffold.Template.Fault

/-!
# Tokens of a template

A template is literal text with two kinds of inserts: a print insert holds an expression, a tag
insert holds a statement. Each token knows the line on which it begins.
-/

namespace Scaffold.Template

/-- Operators and punctuation inside an insert. -/
inductive Sign where
  | plus | minus | times | divide | floorDivide | percent | power
  | bang | dot | comma | colon | tilde | bar | assign
  | eq | ne | lt | le | gt | ge
  | openParen | closeParen | openBracket | closeBracket | openBrace | closeBrace
  deriving DecidableEq, Repr

/-- A token. -/
inductive Token where
  | text (s : String)
  | openPrint
  | closePrint
  | openTag
  | closeTag
  | name (s : String)
  | str (s : String)
  | int (n : Nat)
  | float (x : Double)
  | sign (s : Sign)
  deriving DecidableEq

/-- A token and the line on which it begins. -/
structure Lexeme where
  token : Token
  line : Nat

/-- The tokens of a source, and the fault that ended the reading of it, if there was one. -/
structure Lexemes where
  tokens : List Lexeme
  fault : Option Fault

/-- Puts a token in front of others. -/
def Lexemes.cons (token : Token) (line : Nat) (rest : Lexemes) : Lexemes :=
  { rest with tokens := ⟨token, line⟩ :: rest.tokens }

/-- No tokens. -/
def Lexemes.done : Lexemes := ⟨[], none⟩

/-- A fault in place of tokens. -/
def Lexemes.stop (kind : FaultKind) (line : Option Nat) : Lexemes := ⟨[], some ⟨kind, line⟩⟩

end Scaffold.Template
