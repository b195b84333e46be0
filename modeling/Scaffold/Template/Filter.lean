import Scaffold.Template.Filter.Row
import Scaffold.Template.Format
import Scaffold.Template.Test

/-!
# Filters

A filter makes a new value of a value. Most filters are readers of their further arguments; the
filter `map` applies another filter to each item, with one argument less, and `select` and its kin
ask a test of each item.
-/

namespace Scaffold.Template.Filter

open Value (Escaping)

/-- The text of a value, escaped so that it can be put into a page unless another escaping is in
force. -/
def escape (mode : Escaping) (v : Value) : Except FaultKind Value :=
  match v with
  | .str s true => .ok (.str s true)
  | v => (v.escaped (if mode = .plain then .page else mode)).map (.str · true)

/-- The width that an indentation asks for. -/
def jsonWidth (v : Value) : Except FaultKind Nat :=
  match v with
  | .bool b => .ok (if b then 2 else 0)
  | v =>
    match v.toCount? with
    | some n => .ok n
    | none => .error .invalidOperation

/-- The JSON text of a value, safe in a page. -/
def toJson : Action := fun v => do
  let first ← Take.optional Take.asValue
  let width ← match first with
    | some w => pure (some w)
    | none => Take.named "indent" Take.asValue
  let width ← match width with
    | none => pure none
    | some w => some <$> lift (jsonWidth w)
  match v.json? width with
  | none => throw .invalidOperation
  | some s => return .str (String.join (s.toList.map Value.jsonSafeChar)) true

/-- The items whose answer is as wanted: that of a test, or whether they count as true; asked of the
item itself or of the value at the end of a path. -/
def pick (wanted : Bool) (path : Option String) (v : Value) (given : Given) :
    Except FaultKind Value := do
  let question ← match given.plain with
    | [] => pure none
    | name :: rest =>
      if name.isAbsent then pure none
      else if isTestName name.print then pure (some (name.print, rest))
      else throw .unknownTest
  let items ← itemsOf v
  let kept ← items.filterM fun x => do
    let subject ← match path with
      | none => pure x
      | some p => x.path p
    let reply ← match question with
      | none => pure subject.isTrue
      | some (name, rest) => answer name subject ⟨rest, given.named⟩
    return reply = wanted
  return .ofItems kept

/-- The items picked by the value at the end of a path, which is the first argument. -/
def pickAt (wanted : Bool) (v : Value) (given : Given) : Except FaultKind Value :=
  match given.plain with
  | [] => .error (if given.named.isEmpty then .missingArgument else .invalidOperation)
  | path :: rest => pick wanted (some path.print) v ⟨rest, given.named⟩

/-- The value at the end of a path of each item, or a default for it. -/
def mapPath (path : Value) (default : Value) (v : Value) : Except FaultKind Value := do
  let items ← itemsOf v
  let found ← items.mapM fun x => do
    let reached := match path.asText? with
      | some p => x.path p
      | none => if x.isUndefined then .error .undefinedValue else .ok ((x.item? path).getD .undefined)
    match reached with
    | .ok y => return if y.isUndefined then default else y
    | .error e => if default.isUndefined then throw e else return default
  return .ofItems found

/-- The filters whose named arguments are apart. -/
def withNames? : String → Option Action
  | "tojson" => some toJson
  | name => namedRowFilter? name

/-- The filters that take no named arguments. -/
def withoutNames? (name : String) : Option Action :=
  (textFilter? name).or ((numberFilter? name).or (rowFilter? name))

/-- Applies a filter. The plain arguments come first: `map` hands all but the first of them on. -/
def apply (mode : Escaping) : List Value → List (String × Value) → String → Value →
    Except FaultKind Value
  | plain, named, name, v =>
    match withoutNames? name, withNames? name with
    | some action, _ => Take.runPlain (action v) ⟨plain, named⟩
    | none, some action => Take.runNamed (action v) ⟨plain, named⟩
    | none, none =>
      match name with
      | "escape" | "e" => Take.runPlain (lift (escape mode v)) ⟨plain, named⟩
      | "format" => do
        match v.asText? with
        | some s => return .text (← Format.expand s plain named)
        | none => throw .invalidOperation
      | "select" => pick true none v ⟨plain, named⟩
      | "reject" => pick false none v ⟨plain, named⟩
      | "selectattr" => pickAt true v ⟨plain, named⟩
      | "rejectattr" => pickAt false v ⟨plain, named⟩
      | "map" =>
        match named.lookup "attribute" with
        | some path =>
          if plain.isEmpty then mapPath path ((named.lookup "default").getD .undefined) v
          else .error .tooManyArguments
        | none =>
          match plain with
          | [] => .error .invalidOperation
          | inner :: rest =>
            match inner.asText? with
            | none => .error .invalidOperation
            | some id => do
              if filterNames.contains id then
                let items ← itemsOf v
                return .ofItems (← items.mapM fun x => apply mode rest [] id x)
              else throw .unknownFilter
      | _ => .error .unknownFilter

end Scaffold.Template.Filter
