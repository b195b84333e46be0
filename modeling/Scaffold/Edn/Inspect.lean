import Scaffold.Edn.Value
import Scaffold.Edn.Uuid
import Scaffold.Text.Quoted

/-!
# Values in messages

A message about a manifest that cannot be read shows the value at fault with the name of its kind in
front, so that a symbol and a string of the same spelling can be told apart.
-/

namespace Scaffold.Edn

/-- A kind and what it holds. -/
def shown (kind held : String) : String := kind ++ "(" ++ held ++ ")"

/-- Named parts in braces. -/
def shownParts (kind : String) (parts : List (String × String)) : String :=
  kind ++ " \x7b " ++ ", ".intercalate (parts.map fun (name, held) => name ++ ": " ++ held) ++ " \x7d"

/-- An identifier of the given kind. -/
def Ident.inspect (kind : String) (id : Ident) : String :=
  let ns := match id.ns with
    | none => "None"
    | some ns => shown "Some" (Text.quoted ns)
  shownParts kind [("namespace", ns), ("name", Text.quoted id.name)]

/-- Items in brackets. -/
def bracketed (items : List String) : String := "[" ++ ", ".intercalate items ++ "]"

/-- Items in braces. -/
def braced (items : List String) : String := "\x7b" ++ ", ".intercalate items ++ "\x7d"

mutual

/-- A value with the names of its kinds. -/
def Value.inspect : Value → String
  | .nil => "Nil"
  | .bool b => shown "Boolean" (if b then "true" else "false")
  | .char c => shown "Character" (Text.quotedChar c)
  | .str s => shown "String" (Text.quoted s)
  | .symbol id => shown "Symbol" (id.inspect "Symbol")
  | .keyword id => shown "Keyword" (id.inspect "Keyword")
  | .int n => shown "Integer" (Number.intText n)
  | .float x => shown "Float" (shown "OrderedFloat" (Number.nestedLayout.write x))
  | .bigInt n => shown "BigInt" (Number.intText n)
  | .bigDecimal x => shown "BigDec" (shown "BigDecimal" ("\"" ++ x.text ++ "\""))
  | .list items => shown "List" (bracketed (Value.inspections items))
  | .vector items => shown "Vector" (bracketed (Value.inspections items))
  | .map entries => shown "Map" (braced (Value.entryInspections entries))
  | .set items => shown "Set" (braced (Value.inspections items))
  | .instant t => shown "Inst" t.text
  | .uuid n => shown "Uuid" (Uuid.text n)
  | .tagged tag value => shown "TaggedElement" (tag.inspect "Symbol" ++ ", " ++ Value.inspect value)
termination_by structural v => v

/-- Each value of a row. -/
def Value.inspections : List Value → List String
  | [] => []
  | v :: rest => Value.inspect v :: Value.inspections rest
termination_by structural vs => vs

/-- Each entry as a key, a colon and a value. -/
def Value.entryInspections : List (Value × Value) → List String
  | [] => []
  | (k, v) :: rest => (Value.inspect k ++ ": " ++ Value.inspect v) :: Value.entryInspections rest
termination_by structural es => es

end

end Scaffold.Edn
