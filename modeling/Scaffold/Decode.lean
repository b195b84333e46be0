import Scaffold.Failure
import Scaffold.Step
import Scaffold.Text.Blank

/-!
# Decoding manifests

A manifest is a map with three keys: its name, the mark of a pack that must not be applied as a
destination, and its steps. A step is a list or a vector whose first member is the word for its
kind. `Step.decode` is the only place that knows the order of a step's members, and `Json.ofEdn` the
only place that turns EDN into argument values.

The text of a manifest is read by a parser that is given.
-/

namespace Scaffold

/-! ## Atoms and keys -/

/-- The text of a value that may stand for a string: a string itself, the name of a symbol, or the
name of a keyword behind a colon. -/
def Edn.Value.atomText? : Edn.Value → Option String
  | .str s => some s
  | .symbol id => some id.name
  | .keyword id => some (":" ++ id.name)
  | _ => none

/-- The name of a keyword without a namespace. -/
def Edn.Value.plainKeyword? : Edn.Value → Option String
  | .keyword ⟨none, name⟩ => some name
  | _ => none

/-- Whether a value counts as true: everything does but nil and false. -/
def Edn.Value.isTruthy : Edn.Value → Bool
  | .nil | .bool false => false
  | _ => true

/-- The members of a list or a vector. -/
def Edn.Value.sequence? : Edn.Value → Option (List Edn.Value)
  | .list items | .vector items => some items
  | _ => none

/-- The name of the member that a map entry becomes. -/
def memberName (key : Edn.Value) : String :=
  match key.plainKeyword? with
  | some name => name
  | none => key.atomText?.getD key.text

/-! ## Argument values -/

mutual

/-- The argument value of an EDN value. Sets become arrays, characters and names become strings, and
whatever JSON has no counterpart for becomes its own text. -/
def Json.ofEdn : Edn.Value → Json
  | .nil => .null
  | .bool b => .bool b
  | .int n => .int n
  | .float x => if x.isFinite then .float x else .null
  | .str s => .str s
  | .char c => .str c.toString
  | .symbol id => .str id.name
  | .keyword id => .str (":" ++ id.name)
  | .vector items => .array (Json.ofItems items)
  | .list items => .array (Json.ofItems items)
  | .set items => .array (Json.ofItems items)
  | .map entries => .ofMembers (Json.ofEntries entries)
  | .bigInt n => .str (Edn.Value.bigInt n).text
  | .bigDecimal x => .str (Edn.Value.bigDecimal x).text
  | .instant t => .str (Edn.Value.instant t).text
  | .uuid n => .str (Edn.Value.uuid n).text
  | .tagged tag value => .str (Edn.Value.tagged tag value).text
termination_by structural v => v

/-- The argument values of a row of values. -/
def Json.ofItems : List Edn.Value → List Json
  | [] => []
  | v :: rest => Json.ofEdn v :: Json.ofItems rest
termination_by structural vs => vs

/-- The members of a row of map entries. -/
def Json.ofEntries : List (Edn.Value × Edn.Value) → List (String × Json)
  | [] => []
  | (k, v) :: rest => (memberName k, Json.ofEdn v) :: Json.ofEntries rest
termination_by structural es => es

end

/-! ## Steps -/

/-- The word for a kind of step: leading colons are dropped and capitals lowered. No character beyond
the English alphabet has a letter of these words as its lower case. -/
def kindWord (s : String) : String :=
  String.ofList ((s.toList.dropWhile (· = ':')).map Char.toLower)

/-- The atom text at a position of a step. -/
def atomAt? (items : List Edn.Value) (i : Nat) : Option String :=
  items[i]?.bind Edn.Value.atomText?

/-- The source and the destination of a step that writes; the source stands for a missing
destination. -/
def decodeTransfer (raw : Edn.Value) (items : List Edn.Value) (conditional : Bool) :
    Except Failure Transfer :=
  match atomAt? items 1 with
  | none => .error (.badManifest (.missing .sourcePath raw))
  | some src => .ok ⟨⟨src⟩, ⟨(atomAt? items 2).getD src⟩, conditional⟩

/-- The value of an argument step: its third member unless that is nil, else its fourth, else
null. -/
def decodeArgument (items : List Edn.Value) : Json :=
  match items[2]?, items[3]? with
  | some Edn.Value.nil, some value => Json.ofEdn value
  | some value, _ => Json.ofEdn value
  | none, _ => .null

/-- Decodes one step. -/
def Step.decode (raw : Edn.Value) : Except Failure Step :=
  match raw.sequence? with
  | none => .error (.badManifest (.stepNotAList raw))
  | some items =>
    match atomAt? items 0 with
    | none => .error (.badManifest (.missing .stepType raw))
    | some kind =>
      match kindWord kind with
      | "copy" => (decodeTransfer raw items false).map .copy
      | "xcopy" => (decodeTransfer raw items true).map .copy
      | "template" => (decodeTransfer raw items false).map .template
      | "xtemplate" => (decodeTransfer raw items true).map .template
      | "arg" =>
        match atomAt? items 1 with
        | none => .error (.badManifest (.missing .name raw))
        | some name => .ok (.bind name (decodeArgument items))
      | "from" =>
        match atomAt? items 1 with
        | none => .error (.badManifest (.missing .tag raw))
        | some tag => .ok (.expand tag)
      | _ => .error (.unknownStep raw)

/-- Decodes steps in order, up to the first that does not decode. -/
def decodeSteps : List Edn.Value → Except Failure (List Step)
  | [] => .ok []
  | raw :: rest => do
    let step ← Step.decode raw
    return step :: (← decodeSteps rest)

/-! ## Manifests -/

/-- The value under a keyword without a namespace. -/
def keyed? (name : String) (entries : List (Edn.Value × Edn.Value)) : Option Edn.Value :=
  (entries.find? fun (k, _) => k.plainKeyword? = some name).map Prod.snd

/-- Decodes the entries of a manifest that was loaded from `root`, which is canonical. A blank name
gives way to the text of the root. -/
def Manifest.ofEntries (root : Path) (entries : List (Edn.Value × Edn.Value)) :
    Except Failure Manifest := do
  let raw ← match (keyed? "steps" entries).bind Edn.Value.sequence? with
    | some items => .ok items
    | none => .error (.badManifest .noSteps)
  let steps ← decodeSteps raw
  let declared := (keyed? "name" entries).bind Edn.Value.atomText?
  let name := (declared.filter fun n => !Text.isBlankText n).getD root.text
  return { name, root, steps, noDest := (keyed? "nodest" entries).any Edn.Value.isTruthy }

/-- Decodes the text of a manifest that was loaded from `root`. -/
def Manifest.decode (parse : Edn.Parser) (content : String) (root : Path) :
    Except Failure Manifest :=
  let root := root.normalize
  match parse content with
  | .error e => .error (.notEdn root e)
  | .ok (.map entries) => Manifest.ofEntries root entries
  | .ok _ => .error (.badManifest (.notAMap root))

end Scaffold
