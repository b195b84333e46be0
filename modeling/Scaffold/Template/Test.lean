import Scaffold.Template.Arguments
import Scaffold.Template.Value.Arithmetic
import Scaffold.Text.Cased

/-!
# Tests

A test answers a question about a value, some with the help of a further value.
-/

namespace Scaffold.Template

/-- The names of the filters. -/
def filterNames : List String := [
  "safe", "escape", "e", "lower", "upper", "title", "capitalize", "replace", "length", "count",
  "dictsort", "items", "reverse", "trim", "join", "split", "lines", "default", "d", "round", "abs",
  "int", "float", "attr", "first", "last", "min", "max", "sum", "sort", "list", "string", "bool",
  "batch", "slice", "indent", "select", "reject", "selectattr", "rejectattr", "map", "groupby",
  "unique", "chain", "zip", "pprint", "tojson", "format"]

/-- A test, as a reader of its further arguments. -/
abbrev Question := Value → Take Bool

/-- A test without further arguments. -/
def Question.ofValue (p : Value → Bool) : Question := fun v => return p v

/-- A test of the printed text. -/
def Question.ofText (p : String → Bool) : Question := fun v => return p v.print

/-- A test of the integer that the value stands for. -/
def Question.ofInt (p : Int → Bool) : Question := fun v => return v.toInt128?.any p

/-- A test against a further value. -/
def Question.against (p : Value → Value → Bool) : Question := fun v => do
  return p v (← Take.required Take.asValue)

/-- A test against a further printed text. -/
def Question.againstText (p : List Char → List Char → Bool) : Question := fun v => do
  return p v.print.toList (← Take.required Take.asPrinted).toList

/-- Whether a number is a multiple of another one. -/
def isMultiple (a b : Value) : Bool :=
  match a.align? false b with
  | some (.ints m n) => n ≠ 0 && m % n = 0
  | some (.floats x y) => (Value.floatRem x y).isZero
  | _ => false

/-- Whether a value is an integer. -/
def isInteger : Value → Bool
  | .int _ => true
  | _ => false

/-- Whether two values are one. -/
def isSame (a b : Value) : Bool := a.kind = b.kind && isInteger a = isInteger b && a.equal b

/-- Whether a text is one of the given names. -/
def isNameOf (names : List String) (v : Value) : Take Bool := do
  match v.asText? with
  | some s => return names.contains s
  | none => throw .invalidOperation

/-- The tests of the kind of a value. -/
def kindQuestion? : String → Option Question
  | "undefined" => some (.ofValue Value.isUndefined)
  | "defined" => some (.ofValue fun v => !v.isUndefined)
  | "none" => some (.ofValue fun v => v.kind = .nil)
  | "safe" | "escaped" => some (.ofValue fun v => match v with
    | .str _ safe => safe
    | _ => false)
  | "boolean" => some (.ofValue fun v => v.kind = .bool)
  | "number" => some (.ofValue Value.isNumber)
  | "integer" | "int" => some (.ofValue isInteger)
  | "float" => some (.ofValue fun v => v.isNumber && !isInteger v)
  | "string" => some (.ofValue fun v => v.kind = .str)
  | "sequence" => some (.ofValue fun v => v.kind = .list)
  | "iterable" => some (.ofValue fun v => v.iterate?.isSome)
  | "mapping" => some (.ofValue fun v => v.kind = .dict)
  | _ => none

/-- The tests of what a value holds. -/
def contentQuestion? : String → Option Question
  | "odd" => some (.ofInt fun n => n % 2 ≠ 0)
  | "even" => some (.ofInt fun n => n % 2 = 0)
  | "divisibleby" => some (.against isMultiple)
  | "startingwith" => some (.againstText fun s t => t.isPrefixOf s)
  | "endingwith" => some (.againstText fun s t => t.isSuffixOf s)
  | "lower" => some (.ofText fun s => s.toList.all Text.isLowercase)
  | "upper" => some (.ofText fun s => s.toList.all Text.isUppercase)
  | "true" => some (.ofValue fun v => match v with
    | .bool b => b
    | _ => false)
  | "false" => some (.ofValue fun v => match v with
    | .bool b => !b
    | _ => false)
  | _ => none

/-- The tests that compare two values. -/
def compareQuestion? : String → Option Question
  | "sameas" => some (.against isSame)
  | "eq" | "equalto" | "==" => some (.against Value.equal)
  | "ne" | "!=" => some (.against fun a b => !a.equal b)
  | "lt" | "lessthan" | "<" => some (.against fun a b => (a.cmp b).isLT)
  | "le" | "<=" => some (.against fun a b => (a.cmp b).isLE)
  | "gt" | "greaterthan" | ">" => some (.against fun a b => (a.cmp b).isGT)
  | "ge" | ">=" => some (.against fun a b => (a.cmp b).isGE)
  | "in" => some fun v => do
    match (← Take.required Take.asValue).contains v with
    | .ok b => return b
    | .error e => throw e
  | _ => none

/-- The test of a name. -/
def question? (name : String) : Option Question :=
  (kindQuestion? name).or ((contentQuestion? name).or (compareQuestion? name))

/-- Whether a name is that of a test. -/
def isTestName (name : String) : Bool :=
  name = "filter" || name = "test" || (question? name).isSome

/-- The answer of a test. -/
def answer (name : String) (v : Value) (given : Given) : Except FaultKind Bool :=
  match question? name with
  | some q => Take.runPlain (q v) given
  | none =>
    if name = "filter" then Take.runPlain (isNameOf filterNames v) given
    else if name = "test" then
      Take.runPlain (do
        match v.asText? with
        | some s => return isTestName s
        | none => throw .invalidOperation) given
    else .error .unknownTest

end Scaffold.Template
