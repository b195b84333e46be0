import Scaffold.Number.Reading
import Scaffold.Template.Fault
import Scaffold.Template.Value

/-!
# Equality and order of values

Two scalars are first brought to one type: two doubles, two integers or two texts. Values of
different kinds are ordered by their kinds. `Value.equal` and `Value.cmp` differ where the bits of
doubles differ but the numbers do not, and where a list meets a stream.
-/

namespace Scaffold.Template

/-- Two values of one type. -/
inductive Alike where
  | ints (a b : Int)
  | floats (a b : Double)
  | texts (a b : String)

namespace Value

/-- The double that a number stands for. Unless a loss is accepted, it has to be exact. -/
def toDouble? (lossy : Bool) : Value → Option Double
  | .bool b => some (.ofInt b.toNat)
  | .int n =>
    let x := Double.ofInt n
    if lossy || x.toInt? = some n then some x else none
  | .float x => some x
  | _ => none

/-- The integer of 128 bits that a value stands for. -/
def toInt128? (v : Value) : Option Int := v.toIntIn? (-twoTo 127) (twoTo 127 - 1)

/-- Brings two values to one type. -/
def align? (lossy : Bool) (a b : Value) : Option Alike :=
  match a, b with
  | .str s _, .str t _ => some (.texts s t)
  | .float x, _ => (b.toDouble? lossy).map (.floats x)
  | _, .float y => (a.toDouble? lossy).map (.floats · y)
  | _, _ => do return .ints (← a.toInt128?) (← b.toInt128?)

end Value

/-- A key that orders all doubles, negative zero below zero. -/
def Double.totalKey (x : Double) : Int :=
  let magnitude : Int := (x.bits.toNat % twoTo 63 : Nat)
  if x.isNegative then -magnitude - 1 else magnitude

/-- The order of two values of one type. -/
def Alike.cmp : Alike → Ordering
  | .ints a b => compare a b
  | .floats a b => compare (Double.totalKey a) (Double.totalKey b)
  | .texts a b => compare a b

/-- Whether two values of one type are equal. -/
def Alike.equal : Alike → Bool
  | .ints a b => a = b
  | .floats a b => a.numEq b
  | .texts a b => a = b

namespace Value

/-- The order of two values that hold no others. -/
def cmpScalar (a b : Value) : Ordering :=
  if a.kind ≠ b.kind then compare a.kind.rank b.kind.rank
  else ((a.align? false b).map Alike.cmp).getD .eq

mutual

/-- The order of values. -/
def cmp : Value → Value → Ordering
  | .list a _, .list b _ => cmpItems a b
  | .stream a _, .stream b _ => cmpItems a b
  | .dict a, .dict b => cmpEntries a b
  | a, b => cmpScalar a b
termination_by structural a => a

/-- The order of rows: item by item, and a longer row follows its own beginning. -/
def cmpItems : List Value → List Value → Ordering
  | [], [] => .eq
  | [], _ :: _ => .lt
  | _ :: _, [] => .gt
  | x :: xs, y :: ys => (cmp x y).then (cmpItems xs ys)
termination_by structural a => a

/-- The order of rows of entries. -/
def cmpEntries : List (Value × Value) → List (Value × Value) → Ordering
  | [], [] => .eq
  | [], _ :: _ => .lt
  | _ :: _, [] => .gt
  | (k, v) :: xs, (l, w) :: ys => (cmp k l).then ((cmp v w).then (cmpEntries xs ys))
termination_by structural a => a

end

/-- Whether two values that hold no others are equal. -/
def equalScalar (a b : Value) : Bool :=
  match a, b with
  | .undefined, .undefined => true
  | .nil, .nil => true
  | .builtin f, .builtin g => f = g
  | .record c, .record d => c = d
  | .loop c, .loop d => c = d
  | .routine _ c, .routine _ d => c = d
  | _, _ => ((a.align? false b).map Alike.equal).getD false

mutual

/-- Whether two values are equal. A list and a stream are, if their items are. -/
def equal : Value → Value → Bool
  | .list a _, .list b _ => equalItems a b
  | .list a _, .stream b _ => equalItems a b
  | .stream a _, .list b _ => equalItems a b
  | .stream a _, .stream b _ => equalItems a b
  | .dict a, .dict b => equalEntries a b
  | a, b => equalScalar a b
termination_by structural a => a

/-- Whether two rows are equal. -/
def equalItems : List Value → List Value → Bool
  | [], [] => true
  | x :: xs, y :: ys => equal x y && equalItems xs ys
  | _, _ => false
termination_by structural a => a

/-- Whether two dictionaries, ordered by their keys, are equal. -/
def equalEntries : List (Value × Value) → List (Value × Value) → Bool
  | [], [] => true
  | (k, v) :: xs, (l, w) :: ys => (cmp k l).isEq && equal v w && equalEntries xs ys
  | _, _ => false
termination_by structural a => a

end

/-! ## Dictionaries -/

/-- Puts an entry among entries ordered by their keys. An equal key keeps its place and takes the
new value. -/
def insertEntry (key value : Value) : List (Value × Value) → List (Value × Value)
  | [] => [(key, value)]
  | (k, v) :: rest =>
    match key.cmp k with
    | .lt => (key, value) :: (k, v) :: rest
    | .eq => (k, value) :: rest
    | .gt => (k, v) :: insertEntry key value rest

/-- The dictionary of entries; of two entries with one key the later one counts. -/
def ofEntries (entries : List (Value × Value)) : Value :=
  .dict (entries.foldl (fun acc (k, v) => insertEntry k v acc) [])

/-- The dictionary of named values. -/
def ofNamed (named : List (String × Value)) : Value :=
  ofEntries (named.map fun (name, v) => (text name, v))

/-- The value under a key. -/
def valueAt? (key : Value) (entries : List (Value × Value)) : Option Value :=
  (entries.find? fun (k, _) => (k.cmp key).isEq).map Prod.snd

/-! ## Access -/

/-- The item at an index, or the value under a key. -/
def item? (v key : Value) : Option Value :=
  match v with
  | .dict entries => valueAt? key entries
  | .list items names =>
    match key.asText?.bind (names.idxOf? ·) with
    | some i => items[i]?
    | none => (key.place? (some items.length)).bind (items[·]?)
  | .stream items sized =>
    (key.place? (if sized then some items.length else none)).bind (items[·]?)
  | .str s _ =>
    let cs := s.toList
    (key.place? (some cs.length)).bind fun i => cs[i]?.map fun c => text c.toString
  | _ => none

/-- The field of a name. -/
def field? (v : Value) (name : String) : Option Value :=
  match v with
  | .dict entries => valueAt? (text name) entries
  | .list items names => (names.idxOf? name).bind (items[·]?)
  | _ => none

/-- The value at the end of a path of fields and indices between dots. A step from a missing value
is a fault. -/
def path (v : Value) (p : String) : Except FaultKind Value :=
  (p.splitOn ".").foldlM step v
where
  /-- One step of a path. -/
  step (v : Value) (part : String) : Except FaultKind Value :=
    if v.isUndefined then .error .undefinedValue
    else
      let found :=
        match Number.readNat 10 (twoTo 64 - 1) part.toList with
        | .ok n => v.item? (.int n)
        | .error _ => v.field? part
      .ok (found.getD .undefined)

/-- The value at the end of a path, or a default if there is none. -/
def pathOr (v : Value) (p : String) (default : Value) : Value :=
  match v.path p with
  | .ok found => if found.isUndefined then default else found
  | .error _ => default

end Value

end Scaffold.Template
