import Scaffold.Edn.Value
import Scaffold.Edn.Uuid

/-!
# The order of values

Maps and sets keep their members in one total order: first by kind, then within a kind by what the
value holds. Collections compare member by member, and a longer one follows its own beginning. The
two zeros are one number, as are decimals that differ in trailing zeros.

Equality is coarser: a list and a vector with equal members are equal, at any depth. Of members that
are neighbours in the order and equal, a collection keeps the last.
-/

namespace Scaffold.Edn

/-- The place of a value's kind in the order. -/
def Value.rank : Value → Nat
  | .nil => 0
  | .bool _ => 1
  | .char _ => 2
  | .str _ => 3
  | .symbol _ => 4
  | .keyword _ => 5
  | .int _ => 6
  | .float _ => 7
  | .bigInt _ => 8
  | .bigDecimal _ => 9
  | .list _ => 10
  | .vector _ => 11
  | .map _ => 12
  | .set _ => 13
  | .instant _ => 14
  | .uuid _ => 15
  | .tagged _ _ => 16

/-- Identifiers without a namespace come first, then by namespace, then by name. -/
def Ident.cmp (a b : Ident) : Ordering :=
  match a.ns, b.ns with
  | none, some _ => .lt
  | some _, none => .gt
  | none, none => compare a.name b.name
  | some m, some n => (compare m n).then (compare a.name b.name)

mutual

/-- The order of values. -/
def Value.cmp : Value → Value → Ordering
  | .bool a, .bool b => compare a.toNat b.toNat
  | .char a, .char b => compare a.toNat b.toNat
  | .str a, .str b => compare a b
  | .symbol a, .symbol b => a.cmp b
  | .keyword a, .keyword b => a.cmp b
  | .int a, .int b => compare a b
  | .float a, .float b => compare a.key b.key
  | .bigInt a, .bigInt b => compare a b
  | .bigDecimal a, .bigDecimal b => a.cmp b
  | .list a, .list b => Value.cmpItems a b
  | .vector a, .vector b => Value.cmpItems a b
  | .map a, .map b => Value.cmpEntries a b
  | .set a, .set b => Value.cmpItems a b
  | .instant a, .instant b => a.cmp b
  | .uuid a, .uuid b => compare a b
  | .tagged s v, .tagged t w => (s.cmp t).then (Value.cmp v w)
  | a, b => compare a.rank b.rank
termination_by structural a => a

/-- The order of rows of values. -/
def Value.cmpItems : List Value → List Value → Ordering
  | [], [] => .eq
  | [], _ :: _ => .lt
  | _ :: _, [] => .gt
  | x :: xs, y :: ys => (Value.cmp x y).then (Value.cmpItems xs ys)
termination_by structural a => a

/-- The order of rows of entries: a key weighs more than its value. -/
def Value.cmpEntries : List (Value × Value) → List (Value × Value) → Ordering
  | [], [] => .eq
  | [], _ :: _ => .lt
  | _ :: _, [] => .gt
  | (k, v) :: xs, (l, w) :: ys =>
    (Value.cmp k l).then ((Value.cmp v w).then (Value.cmpEntries xs ys))
termination_by structural a => a

end

/-- Whether two values are one value to maps and sets. -/
def Value.same (a b : Value) : Bool := (a.cmp b).isEq

/-- Puts a value among ordered values, unless it is there already. -/
def insertItem (x : Value) : List Value → List Value
  | [] => [x]
  | y :: ys =>
    match x.cmp y with
    | .lt => x :: y :: ys
    | .eq => y :: ys
    | .gt => y :: insertItem x ys

/-- Puts an entry among entries ordered by their keys. An entry with the same key takes the new
value. -/
def insertEntry (k v : Value) : List (Value × Value) → List (Value × Value)
  | [] => [(k, v)]
  | (l, w) :: rest =>
    match k.cmp l with
    | .lt => (k, v) :: (l, w) :: rest
    | .eq => (l, v) :: rest
    | .gt => (l, w) :: insertEntry k v rest

mutual

/-- The value with every list in it turned into a vector. -/
def Value.withVectors : Value → Value
  | .list items => .vector (Value.withVectorsEach items)
  | .vector items => .vector (Value.withVectorsEach items)
  | .map entries => .map (Value.withVectorsEntries entries)
  | .set items => .set (Value.withVectorsEach items)
  | .tagged tag value => .tagged tag value.withVectors
  | v => v

/-- The values of a row with every list in them turned into a vector. -/
def Value.withVectorsEach : List Value → List Value
  | [] => []
  | x :: xs => x.withVectors :: Value.withVectorsEach xs

/-- The entries of a row with every list in them turned into a vector. -/
def Value.withVectorsEntries : List (Value × Value) → List (Value × Value)
  | [] => []
  | (k, v) :: rest => (k.withVectors, v.withVectors) :: Value.withVectorsEntries rest

end

/-- Whether two values are equal, lists and vectors being alike. -/
def Value.equal (a b : Value) : Bool := a.withVectors.same b.withVectors

/-- Drops each member of a row that is related to the next one. -/
def keepLast {α : Type} (related : α → α → Bool) : List α → List α
  | [] => []
  | [x] => [x]
  | x :: y :: rest =>
    if related x y then keepLast related (y :: rest) else x :: keepLast related (y :: rest)

end Scaffold.Edn
