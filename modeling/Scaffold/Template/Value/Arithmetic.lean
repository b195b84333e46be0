import Scaffold.Template.Value.Order
import Scaffold.Template.Value.Text

/-!
# Operators on values

Integers have 128 bits, and a result that does not fit is a fault. An operation with a double is one
on doubles. Division of integers by `//` and `%` is Euclidean: the remainder is never negative.
-/

namespace Scaffold.Template.Value

/-- An operation that has no result. -/
def invalid {α : Type} : Except FaultKind α := .error .invalidOperation

/-- An integer as the result of an operation. -/
def intResult (n : Int) : Except FaultKind Value :=
  if -twoTo 127 ≤ n ∧ n < twoTo 127 then .ok (.int n) else invalid

/-- An operation on machine numbers. -/
def onFloats (f : Float → Float → Float) (x y : Double) : Value :=
  .float (.ofFloat (f x.toFloat y.toFloat))

/-- The remainder of doubles, with the sign of the first. -/
def floatRem (x y : Double) : Double :=
  match x.classify, y.classify with
  | .finite negative m p, .finite _ n q =>
    if n = 0 then ⟨0x7FF8000000000000⟩
    else
      let low := min p q
      let a := m * twoTo (p - low).toNat
      let b := n * twoTo (q - low).toNat
      let r := a % b
      match low with
      | .ofNat k => .ofRatio negative (r * twoTo k) 1
      | .negSucc k => .ofRatio negative r (twoTo (k + 1))
  | .finite _ _ _, .infinite _ => x
  | _, _ => ⟨0x7FF8000000000000⟩

/-- The Euclidean quotient of doubles: the remainder that belongs to it is not negative. -/
def floatDivEuclid (x y : Double) : Double :=
  let quotient := x.toFloat / y.toFloat
  let whole := if quotient < 0.0 then quotient.ceil else quotient.floor
  let rest := (floatRem x y).toFloat
  let one : Float := 1.0
  .ofFloat (if rest < 0.0 then (if y.toFloat > 0.0 then whole - one else whole + one) else whole)

/-- The items of both of two rows. -/
def rows? (a b : Value) : Option (List Value × Bool × List Value × Bool) :=
  match a, b with
  | .list xs _, .list ys _ => some (xs, true, ys, true)
  | .list xs _, .stream ys s => some (xs, true, ys, s)
  | .stream xs s, .list ys _ => some (xs, s, ys, true)
  | .stream xs s, .stream ys t => some (xs, s, ys, t)
  | _, _ => none

/-- The sum of numbers, or two texts or rows in a row. -/
def add (a b : Value) : Except FaultKind Value :=
  match rows? a b with
  | some (xs, s, ys, t) => .ok (.stream (xs ++ ys) (s && t))
  | none =>
    match a.align? true b with
    | some (.ints m n) => intResult (m + n)
    | some (.floats x y) => .ok (onFloats (· + ·) x y)
    | some (.texts s t) => .ok (text (s ++ t))
    | none => invalid

/-- The difference of numbers. -/
def sub (a b : Value) : Except FaultKind Value :=
  match a.align? true b with
  | some (.ints m n) => intResult (m - n)
  | some (.floats x y) => .ok (onFloats (· - ·) x y)
  | _ => invalid

/-- A text or row repeated. -/
def repeated (v times : Value) : Except FaultKind Value :=
  match v, times.toCount? with
  | .str s _, some n => .ok (text (String.join (List.replicate n s)))
  | .list items _, some n => .ok (.stream (List.replicate n items).flatten true)
  | .stream items true, some n => .ok (.stream (List.replicate n items).flatten true)
  | _, _ => invalid

/-- Whether a value can be repeated. -/
def isRepeatable (v : Value) : Bool :=
  match v.kind with
  | .str | .list | .stream => true
  | _ => false

/-- The product of numbers, or a text or row repeated. A text decides before a row does. -/
def mul (a b : Value) : Except FaultKind Value :=
  if a.kind = .str then repeated a b
  else if b.kind = .str then repeated b a
  else if a.isRepeatable then repeated a b
  else if b.isRepeatable then repeated b a
  else
    match a.align? true b with
    | some (.ints m n) => intResult (m * n)
    | some (.floats x y) => .ok (onFloats (· * ·) x y)
    | _ => invalid

/-- The quotient of numbers, always a double. -/
def div (a b : Value) : Except FaultKind Value :=
  match a.toDouble? true, b.toDouble? true with
  | some x, some y => .ok (onFloats (· / ·) x y)
  | _, _ => invalid

/-- The whole quotient of numbers. -/
def floorDiv (a b : Value) : Except FaultKind Value :=
  match a.align? true b with
  | some (.ints m n) => if n = 0 then invalid else intResult (m / n)
  | some (.floats x y) => .ok (.float (floatDivEuclid x y))
  | _ => invalid

/-- The remainder of numbers. -/
def rem (a b : Value) : Except FaultKind Value :=
  match a.align? true b with
  | some (.ints m n) => if n = 0 then invalid else intResult (m % n)
  | some (.floats x y) => .ok (.float (floatRem x y))
  | _ => invalid

/-- An integer raised to a power, as long as the result fits in 128 bits. -/
def intPower (m : Int) (n : Nat) : Except FaultKind Value :=
  if m = 0 ∨ m = 1 then intResult (if n = 0 then 1 else m)
  else if m = -1 then intResult (if n % 2 = 0 then 1 else -1)
  else if n > 128 then invalid
  else intResult (m.pow n)

/-- A number raised to a power. -/
def pow (a b : Value) : Except FaultKind Value :=
  match a.align? true b with
  | some (.ints m n) => if 0 ≤ n ∧ n < twoTo 32 then intPower m n.toNat else invalid
  | some (.floats x y) => .ok (onFloats Float.pow x y)
  | _ => invalid

/-- The number with the other sign. -/
def neg (a : Value) : Except FaultKind Value :=
  match a with
  | .int n => intResult (-n)
  | .float x => .ok (.float ⟨x.bits ^^^ 0x8000000000000000⟩)
  | _ => invalid

/-- Whether a text holds another one. -/
def holdsText : List Char → List Char → Bool
  | [], piece => piece.isEmpty
  | c :: rest, piece => piece.isPrefixOf (c :: rest) || holdsText rest piece

/-- Whether a value holds another one. -/
def contains (whole v : Value) : Except FaultKind Bool :=
  match whole with
  | .undefined => .ok false
  | .str s _ => .ok (holdsText s.toList v.print.toList)
  | .dict entries => .ok (valueAt? v entries).isSome
  | .list items _ => .ok (items.any (·.equal v))
  | .stream items _ => .ok (items.any (·.equal v))
  | _ => if whole.kind = .object then .ok false else invalid

/-- The result of an operator. -/
def apply (op : BinaryOp) (a b : Value) : Except FaultKind Value :=
  match op with
  | .eq => .ok (.bool (a.equal b))
  | .ne => .ok (.bool !(a.equal b))
  | .lt => .ok (.bool (a.cmp b).isLT)
  | .le => .ok (.bool (a.cmp b).isLE)
  | .gt => .ok (.bool (a.cmp b).isGT)
  | .ge => .ok (.bool (a.cmp b).isGE)
  | .within => (b.contains a).map .bool
  | .add => a.add b
  | .sub => a.sub b
  | .concat => .ok (text (a.print ++ b.print))
  | .mul => a.mul b
  | .div => a.div b
  | .floorDiv => a.floorDiv b
  | .rem => a.rem b
  | .pow => a.pow b

/-! ## Slices -/

/-- Every so many of the items. -/
def everyNth {α : Type} (step : Nat) : Nat → List α → List α
  | _, [] => []
  | 0, x :: rest => x :: everyNth step (step - 1) rest
  | n + 1, _ :: rest => everyNth step n rest

/-- The items from one place up to another; a negative place counts from the end. -/
def forward {α : Type} (items : List α) (start stop : Option Int) (step : Nat) : List α :=
  let size : Int := items.length
  let place (n : Int) : Nat := (if n < 0 then size + n else n).toNat
  let first := place (start.getD 0)
  let last := place (stop.getD size)
  everyNth step 0 ((items.drop first).take (last - first))

/-- The items from one place back to another. -/
def backward {α : Type} (items : List α) (start stop : Option Int) (step : Nat) : List α :=
  let size : Int := items.length
  let first := match start with
    | none => size - 1
    | some n => min (if n < 0 then size + n else n) (size - 1)
  let last := match stop with
    | none => -1
    | some n => if n < 0 then max (size + n) (-1) else n
  everyNth step 0 (((items.take (first + 1).toNat).drop (last + 1).toNat).reverse)

/-- The bound of a slice, if there is one. -/
def bound? (v : Value) : Except FaultKind (Option Int) :=
  match v with
  | .nil => .ok none
  | v =>
    match v.toInt64? with
    | some n => .ok (some n)
    | none => invalid

/-- A part of a text or row. -/
def slice (v start stop step : Value) : Except FaultKind Value := do
  let start ← start.bound?
  let stop ← stop.bound?
  let step := (← step.bound?).getD 1
  let cut {α : Type} (items : List α) : List α :=
    if step > 0 then forward items start stop step.natAbs
    else backward items start stop step.natAbs
  if step = 0 then invalid
  else
    match v with
    | .str s _ => .ok (text (String.ofList (cut s.toList)))
    | .undefined => .ok (ofItems [])
    | .nil => .ok (ofItems [])
    | .list items _ => .ok (.stream (cut items) true)
    | .stream items sized => .ok (.stream (cut items) sized)
    | _ => invalid

/-! ## Going backward -/

/-- A text or row from its end to its beginning. -/
def reversed (v : Value) : Except FaultKind Value :=
  match v with
  | .undefined => .ok .undefined
  | .nil => .ok .nil
  | .str s _ => .ok (text (String.ofList s.toList.reverse))
  | v =>
    match v.items? with
    | some items => .ok (.stream items.reverse true)
    | none => invalid

end Scaffold.Template.Value
