import Scaffold.Edn.Instant
import Scaffold.Number.BigDecimal

/-!
# Values of the manifest notation

A manifest is written in EDN. A value is an atom, a collection or a tagged value. Maps and sets are
kept in the order of `Scaffold.Edn.Order`, which is the order in which everything else sees them.
-/

namespace Scaffold.Edn

/-- A name with an optional namespace, as in `ns/name`. -/
structure Ident where
  ns : Option String
  name : String
  deriving DecidableEq, Inhabited

/-- A value. -/
inductive Value where
  | nil
  | bool (b : Bool)
  | char (c : Char)
  | str (s : String)
  | symbol (id : Ident)
  | keyword (id : Ident)
  | int (n : Int)
  | float (x : Double)
  | bigInt (n : Int)
  | bigDecimal (x : Number.BigDecimal)
  | list (items : List Value)
  | vector (items : List Value)
  | map (entries : List (Value × Value))
  | set (items : List Value)
  | instant (t : Instant)
  | uuid (n : Nat)
  | tagged (tag : Ident) (value : Value)
  deriving Inhabited

/-- An identifier without a namespace. -/
def Ident.plain (name : String) : Ident := ⟨none, name⟩

/-- The text of an identifier: the namespace and a slash stand in front of the name. -/
def Ident.text (id : Ident) : String :=
  match id.ns with
  | none => id.name
  | some ns => ns ++ "/" ++ id.name

end Scaffold.Edn
