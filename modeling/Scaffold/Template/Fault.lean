/-!
# Faults of templates

A template that cannot be read or rendered reports what kind of fault it is and the line on which it
was noticed.
-/

namespace Scaffold.Template

/-- The kinds of faults. -/
inductive FaultKind where
  | badSyntax
  | badEscape
  | undefinedValue
  | invalidOperation
  | unknownFilter
  | unknownTest
  | unknownFunction
  | unknownMethod
  | unknownBlock
  | templateNotFound
  | cannotUnpack
  | missingArgument
  | tooManyArguments
  | badSerialization
  | evalBlock
  deriving DecidableEq, Repr

/-- A fault and the line of the template it belongs to, counted from one. -/
structure Fault where
  kind : FaultKind
  line : Option Nat
  deriving DecidableEq, Repr

/-- The kind of a fault in words. -/
def FaultKind.text : FaultKind → String
  | .badSyntax => "syntax error"
  | .badEscape => "bad string escape"
  | .undefinedValue => "undefined value"
  | .invalidOperation => "invalid operation"
  | .unknownFilter => "unknown filter"
  | .unknownTest => "unknown test"
  | .unknownFunction => "unknown function"
  | .unknownMethod => "unknown method"
  | .unknownBlock => "unknown block"
  | .templateNotFound => "template not found"
  | .cannotUnpack => "cannot unpack"
  | .missingArgument => "missing argument"
  | .tooManyArguments => "too many arguments"
  | .badSerialization => "could not serialize to internal format"
  | .evalBlock => "could not render block"

/-- The name of a template that is given as a text. -/
def textName : String := "<string>"

/-- A fault in words, with its line if that is known. -/
def Fault.text (f : Fault) : String :=
  match f.line with
  | none => f.kind.text
  | some line => f.kind.text ++ " (in " ++ textName ++ ":" ++ toString line ++ ")"

end Scaffold.Template
