import Scaffold.Edn.Value
import Scaffold.Edn.Uuid

/-!
# Writing values

`Value.text` writes a value in the notation it is read from. Members of a collection are separated
by one blank, and only the characters that would end or break a string are escaped in it.
-/

namespace Scaffold.Edn

/-- One character of a string. -/
def stringChar (c : Char) : String :=
  match c with
  | '\t' => "\\t"
  | '\r' => "\\r"
  | '\n' => "\\n"
  | '\\' => "\\\\"
  | '"' => "\\\""
  | _ => c.toString

/-- A string in double quotes. -/
def stringText (s : String) : String := "\"" ++ String.join (s.toList.map stringChar) ++ "\""

/-- A character behind a backslash; four of them have a name. -/
def charText (c : Char) : String :=
  match c with
  | '\n' => "\\newline"
  | '\r' => "\\return"
  | ' ' => "\\space"
  | '\t' => "\\tab"
  | _ => String.ofList ['\\', c]

mutual

/-- The text of a value. -/
def Value.text : Value → String
  | .nil => "nil"
  | .bool b => if b then "true" else "false"
  | .char c => charText c
  | .str s => stringText s
  | .symbol id => id.text
  | .keyword id => ":" ++ id.text
  | .int n => Number.intText n
  | .float x => Number.plainLayout.write x
  | .bigInt n => Number.intText n ++ "N"
  | .bigDecimal x => x.text ++ "M"
  | .list items => "(" ++ " ".intercalate (Value.texts items) ++ ")"
  | .vector items => "[" ++ " ".intercalate (Value.texts items) ++ "]"
  | .map entries => "\x7b" ++ " ".intercalate (Value.entryTexts entries) ++ "\x7d"
  | .set items => "#\x7b" ++ " ".intercalate (Value.texts items) ++ "\x7d"
  | .instant t => "#inst \"" ++ t.text ++ "\""
  | .uuid n => "#uuid \"" ++ Uuid.text n ++ "\""
  | .tagged tag value => "#" ++ tag.text ++ " " ++ Value.text value
termination_by structural v => v

/-- The texts of a row of values. -/
def Value.texts : List Value → List String
  | [] => []
  | v :: rest => Value.text v :: Value.texts rest
termination_by structural vs => vs

/-- The texts of keys and values in turn. -/
def Value.entryTexts : List (Value × Value) → List String
  | [] => []
  | (k, v) :: rest => Value.text k :: Value.text v :: Value.entryTexts rest
termination_by structural es => es

end

end Scaffold.Edn
