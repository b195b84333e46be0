import Scaffold.Number.Layout
import Scaffold.Template.Fault
import Scaffold.Template.Value
import Scaffold.Text.Quoted

/-!
# Texts of values

`Value.print` is what an insert prints. Inside of a row or a dictionary a value is shown in the way
of `Value.inspect`, with texts in quotes, and `Value.inspectTall` puts each item on a line of its
own. `Value.json?` writes JSON.
-/

namespace Scaffold.Template.Value

/-- The name under which a function is shown. -/
def builtinName : Builtin → String
  | .range => "range"
  | .dict => "dict"
  | .debug => "debug"
  | .record => "namespace"

/-- The text of a truth value. -/
def boolText (b : Bool) : String := if b then "True" else "False"

/-- How an object is shown. -/
def objectText : Value → String
  | .builtin f => "<function " ++ builtinName f ++ ">"
  | .routine m _ => "<macro " ++ m.head.name ++ ">"
  | .shown s => s
  | _ => "<object>"

/-- How a value that holds no others is shown inside of one that does. -/
def inspectScalar : Value → String
  | .undefined => "undefined"
  | .nil => "None"
  | .bool b => boolText b
  | .int n => Number.intText n
  | .float x => Number.nestedLayout.write x
  | .str s _ => Text.quoted s
  | v => v.objectText

/-- A row in brackets. -/
def bracketed (texts : List String) : String := "[" ++ ", ".intercalate texts ++ "]"

/-- A row in braces. -/
def braced (texts : List String) : String := "\x7b" ++ ", ".intercalate texts ++ "\x7d"

mutual

/-- How a value is shown inside of another one. -/
def inspect : Value → String
  | .list items _ => bracketed (inspectEach items)
  | .stream items sized => if sized then bracketed (inspectEach items) else "<iterator>"
  | .dict entries => braced (inspectEntries entries)
  | v => inspectScalar v
termination_by structural v => v

/-- How each value of a row is shown. -/
def inspectEach : List Value → List String
  | [] => []
  | v :: rest => inspect v :: inspectEach rest
termination_by structural vs => vs

/-- How each entry of a row is shown. -/
def inspectEntries : List (Value × Value) → List String
  | [] => []
  | (k, v) :: rest => (inspect k ++ ": " ++ inspect v) :: inspectEntries rest
termination_by structural vs => vs

end

/-- What an insert prints. -/
def print : Value → String
  | .undefined => ""
  | .float x => Number.outputLayout.write x
  | .str s _ => s
  | v => v.inspect

/-! ## One item a line -/

/-- Blanks in a row. -/
def blanks (n : Nat) : String := String.ofList (List.replicate n ' ')

/-- A row between brackets, each item on a line of its own and followed by a comma. -/
def tall (opening closing : String) (depth : Nat) (texts : List String) : String :=
  if texts.isEmpty then opening ++ closing
  else
    let line (s : String) := blanks (4 * (depth + 1)) ++ s ++ ",\n"
    opening ++ "\n" ++ String.join (texts.map line) ++ blanks (4 * depth) ++ closing

mutual

/-- How a value is shown with one item a line. -/
def inspectTall (depth : Nat) : Value → String
  | .list items _ => tall "[" "]" depth (inspectTallEach (depth + 1) items)
  | .stream items sized =>
    if sized then tall "[" "]" depth (inspectTallEach (depth + 1) items) else "<iterator>"
  | .dict entries => tall "\x7b" "\x7d" depth (inspectTallEntries (depth + 1) entries)
  | v => inspectScalar v
termination_by structural v => v

/-- How each value of a row is shown with one item a line. -/
def inspectTallEach (depth : Nat) : List Value → List String
  | [] => []
  | v :: rest => inspectTall depth v :: inspectTallEach depth rest
termination_by structural vs => vs

/-- How each entry of a row is shown with one item a line. -/
def inspectTallEntries (depth : Nat) : List (Value × Value) → List String
  | [] => []
  | (k, v) :: rest =>
    (inspectTall depth k ++ ": " ++ inspectTall depth v) :: inspectTallEntries depth rest
termination_by structural vs => vs

end

/-! ## JSON -/

/-- How a key is written; nothing if it cannot be one. -/
def jsonKey? : Value → Option String
  | .str s _ => some (Json.stringText s)
  | .int n => some ("\"" ++ Number.intText n ++ "\"")
  | .bool b => some (if b then "\"true\"" else "\"false\"")
  | .float x => if x.isFinite then some ("\"" ++ Number.jsonLayout.write x ++ "\"") else none
  | _ => none

/-- Items between brackets. With a width each stands on a line of its own, indented by so many blanks
for each bracket around it. -/
def jsonRow (opening closing : String) (width : Option Nat) (depth : Nat)
    (texts : List String) : String :=
  if texts.isEmpty then opening ++ closing
  else
    match width with
    | none => opening ++ ",".intercalate texts ++ closing
    | some width =>
      let indent (n : Nat) := "\n" ++ blanks (width * n)
      opening ++ indent (depth + 1) ++ ("," ++ indent (depth + 1)).intercalate texts ++
        indent depth ++ closing

mutual

/-- The JSON text of a value; nothing if a key cannot be written. -/
def jsonAt? (width : Option Nat) (depth : Nat) : Value → Option String
  | .undefined => some "null"
  | .nil => some "null"
  | .bool b => some (if b then "true" else "false")
  | .int n => some (Number.intText n)
  | .float x => some (Number.jsonLayout.write x)
  | .str s _ => some (Json.stringText s)
  | .list items _ => (jsonEach? width (depth + 1) items).map (jsonRow "[" "]" width depth)
  | .stream items _ => (jsonEach? width (depth + 1) items).map (jsonRow "[" "]" width depth)
  | .dict entries =>
    (jsonEntries? width (depth + 1) entries).map (jsonRow "\x7b" "\x7d" width depth)
  | v => some (Json.stringText v.objectText)
termination_by structural v => v

/-- The JSON texts of a row of values. -/
def jsonEach? (width : Option Nat) (depth : Nat) : List Value → Option (List String)
  | [] => some []
  | v :: rest => do return (← jsonAt? width depth v) :: (← jsonEach? width depth rest)
termination_by structural vs => vs

/-- The JSON texts of a row of entries. -/
def jsonEntries? (width : Option Nat) (depth : Nat) : List (Value × Value) → Option (List String)
  | [] => some []
  | (k, v) :: rest => do
    let key ← jsonKey? k
    let value ← jsonAt? width depth v
    let colon := if width.isSome then ": " else ":"
    return (key ++ colon ++ value) :: (← jsonEntries? width depth rest)
termination_by structural vs => vs

end

/-- The JSON text of a value, without line breaks or with the given indentation. -/
def json? (width : Option Nat) (v : Value) : Option String := jsonAt? width 0 v

/-- The characters of JSON that mean something to a browser, spelled out. -/
def jsonSafeChar (c : Char) : String :=
  if c = '<' then "\\u003c"
  else if c = '>' then "\\u003e"
  else if c = '&' then "\\u0026"
  else if c = '\'' then "\\u0027"
  else c.toString

/-! ## Escaping -/

/-- A character of text that is put into a page. -/
def pageChar (c : Char) : String :=
  if c = '<' then "&lt;"
  else if c = '>' then "&gt;"
  else if c = '&' then "&amp;"
  else if c = '"' then "&quot;"
  else if c = '\'' then "&#x27;"
  else if c = '/' then "&#x2f;"
  else c.toString

/-- Text that is put into a page. -/
def pageText (s : String) : String := String.join (s.toList.map pageChar)

/-- How printed values are escaped. -/
inductive Escaping where
  | plain
  | page
  | json
  deriving DecidableEq

/-- The printed text of a value under an escaping. Safe texts stay as they are. -/
def escaped (mode : Escaping) (v : Value) : Except FaultKind String :=
  match mode, v with
  | _, .str s true => .ok s
  | .plain, v => .ok v.print
  | .page, v =>
    match v.kind with
    | .undefined | .nil | .bool | .number => .ok v.print
    | _ => .ok (pageText v.print)
  | .json, v =>
    match v.json? none with
    | some s => .ok s
    | none => .error .badSerialization

end Scaffold.Template.Value
