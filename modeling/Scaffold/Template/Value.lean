import Scaffold.Json
import Scaffold.Template.Tree

/-!
# Values of a template

A value is a scalar, a row, a dictionary or an object. Rows come in two kinds: lists, which may name
their items, and streams, which may not know their own length. The entries of a dictionary are kept
in the order of `Scaffold.Template.Value.Order`.

An object that changes while a template runs is known by the address of its cell.
-/

namespace Scaffold.Template

/-- The functions that every template can call. -/
inductive Builtin where
  | range
  | dict
  | debug
  | record
  deriving DecidableEq

/-- A macro: its head and its body. -/
structure Macro where
  head : MacroHead
  body : List Stmt

/-- A value. -/
inductive Value where
  | undefined
  | nil
  | bool (b : Bool)
  | int (n : Int)
  | float (x : Double)
  | str (s : String) (safe : Bool)
  | list (items : List Value) (names : List String)
  | stream (items : List Value) (sized : Bool)
  | dict (entries : List (Value × Value))
  | builtin (f : Builtin)
  | routine (m : Macro) (closure : Nat)
  | record (cell : Nat)
  | loop (cell : Nat)
  | shown (text : String)
  deriving Inhabited

namespace Value

/-- A plain text. -/
def text (s : String) : Value := .str s false

/-- A list whose items have no names. -/
def ofItems (items : List Value) : Value := .list items []

/-- The value of a literal. -/
def ofLiteral : Literal → Value
  | .none => .nil
  | .bool b => .bool b
  | .int n => .int n
  | .float x => .float x
  | .str s => text s

mutual

/-- The value of an argument value. -/
def ofJson : Json → Value
  | .null => .nil
  | .bool b => .bool b
  | .int n => .int n
  | .float x => .float x
  | .str s => text s
  | .array items => ofItems (ofJsons items)
  | .object members => .dict (ofMembers members)
termination_by structural j => j

/-- The values of a row of argument values. -/
def ofJsons : List Json → List Value
  | [] => []
  | j :: rest => ofJson j :: ofJsons rest
termination_by structural js => js

/-- The entries of an object. -/
def ofMembers : List (String × Json) → List (Value × Value)
  | [] => []
  | (name, j) :: rest => (text name, ofJson j) :: ofMembers rest
termination_by structural ms => ms

end

/-! ## Kinds -/

/-- The kinds of values. -/
inductive Kind where
  | undefined | nil | bool | number | str | list | dict | stream | object
  deriving DecidableEq

/-- The kind of a value. -/
def kind : Value → Kind
  | .undefined => .undefined
  | .nil => .nil
  | .bool _ => .bool
  | .int _ | .float _ => .number
  | .str _ _ => .str
  | .list _ _ => .list
  | .dict _ | .record _ => .dict
  | .stream _ _ => .stream
  | .builtin _ | .routine _ _ | .loop _ | .shown _ => .object

/-- The place of a kind in the order of values. -/
def Kind.rank : Kind → Nat
  | .undefined => 0
  | .nil => 1
  | .bool => 2
  | .number => 3
  | .str => 4
  | .list => 6
  | .dict => 7
  | .stream => 8
  | .object => 9

/-- Whether the value is a number. -/
def isNumber (v : Value) : Bool := v.kind = .number

/-- Whether the value is missing or null. -/
def isAbsent : Value → Bool
  | .undefined | .nil => true
  | _ => false

/-- Whether the value is missing. -/
def isUndefined : Value → Bool
  | .undefined => true
  | _ => false

/-- The text of a text. -/
def asText? : Value → Option String
  | .str s _ => some s
  | _ => none

/-! ## What a value holds -/

/-- The items of a row, or the keys of a dictionary. -/
def items? : Value → Option (List Value)
  | .list items _ => some items
  | .stream items _ => some items
  | .dict entries => some (entries.map Prod.fst)
  | _ => none

/-- What a loop over the value runs through. -/
def iterate? : Value → Option (List Value)
  | .undefined | .nil => some []
  | .str s _ => some (s.toList.map fun c => text c.toString)
  | v => v.items?

/-- The number of characters, items or entries, if the value knows it. -/
def size? : Value → Option Nat
  | .str s _ => some s.length
  | .list items _ => some items.length
  | .stream items true => some items.length
  | .dict entries => some entries.length
  | _ => none

/-- Whether a loop over the value knows its length. -/
def isSized : Value → Bool
  | .stream _ sized => sized
  | _ => true

/-- Whether the value counts as true. -/
def isTrue : Value → Bool
  | .undefined | .nil => false
  | .bool b => b
  | .int n => n ≠ 0
  | .float x => !x.isZero
  | v => v.size? ≠ some 0

/-- The integer that the value stands for. -/
def toInt? : Value → Option Int
  | .bool b => some b.toNat
  | .int n => some n
  | .float x => x.toInt?
  | _ => none

/-- The integer that the value stands for, within limits. -/
def toIntIn? (low high : Int) (v : Value) : Option Int :=
  v.toInt?.filter fun n => low ≤ n && n ≤ high

/-- The integer of 64 bits that the value stands for. -/
def toInt64? (v : Value) : Option Int := v.toIntIn? (-twoTo 63) (twoTo 63 - 1)

/-- The count that the value stands for. -/
def toCount? (v : Value) : Option Nat := (v.toIntIn? 0 (twoTo 64 - 1)).map Int.toNat

/-- The place in a row that an index names; a negative one counts from the end. -/
def place? (index : Value) (size : Option Nat) : Option Nat := do
  let n ← index.toInt64?
  if n < 0 then
    let size ← size
    if n.natAbs ≤ size then some (size - n.natAbs) else none
  else some n.toNat

end Value

end Scaffold.Template
