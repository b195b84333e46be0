import Scaffold.Number.Reading
import Scaffold.Template.Filter.Text
import Scaffold.Template.Value.Arithmetic

/-!
# Filters of numbers
-/

namespace Scaffold.Template.Filter

/-- Goes on with a result of an operation. -/
def lift {α : Type} : Except FaultKind α → Take α
  | .ok a => return a
  | .error e => throw e

/-- The integer part of a double, brought into 128 bits; zero if it is not a number. -/
def clampedInt (x : Double) : Int :=
  match x.classify with
  | .nan => 0
  | .infinite negative => if negative then -twoTo 127 else twoTo 127 - 1
  | .finite _ _ _ => max (-twoTo 127) (min (twoTo 127 - 1) (x.truncate?.getD 0))

/-- The integer that a value or its text stands for. -/
def toInteger (v : Value) : Except FaultKind Value :=
  match v with
  | .undefined => .ok (.int 0)
  | .nil => .ok (.int 0)
  | .bool b => .ok (.int b.toNat)
  | .int n => .ok (.int n)
  | .float x => .ok (.int (clampedInt x))
  | .str s _ =>
    match Number.readInt 128 s.toList with
    | .ok n => .ok (.int n)
    | .error _ =>
      match Number.readNamedDouble? s.toList with
      | some x => .ok (.int (clampedInt x))
      | none => .error .invalidOperation
  | _ => .error .invalidOperation

/-- The double that a value or its text stands for. -/
def toDouble (v : Value) : Except FaultKind Value :=
  match v with
  | .undefined => .ok (.float (.zero false))
  | .nil => .ok (.float (.zero false))
  | .str s _ =>
    match Number.readNamedDouble? s.toList with
    | some x => .ok (.float x)
    | none => .error .invalidOperation
  | v =>
    match v.toDouble? true with
    | some x => .ok (.float x)
    | none => .error .invalidOperation

/-- A double rounded to a number of decimal places, a half going away from zero. -/
def roundTo (x : Double) (places : Int) : Double :=
  match places with
  | .ofNat 0 => .ofFloat x.toFloat.round
  | .ofNat n =>
    let scale := (Double.ofInt (tenTo (min n 400))).toFloat
    .ofFloat ((scale * x.toFloat).round / scale)
  | .negSucc n =>
    let scale := (1.0 : Float) / (Double.ofInt (tenTo (min n 400 + 1))).toFloat
    .ofFloat ((scale * x.toFloat).round / scale)

/-- A number rounded to a number of decimal places. -/
def round (v : Value) (places : Int) : Except FaultKind Value :=
  match v with
  | .int n => .ok (.int n)
  | .float x => .ok (.float (roundTo x places))
  | _ => .error .invalidOperation

/-- A number without its sign. -/
def absolute (v : Value) : Except FaultKind Value :=
  match v with
  | .int n => .ok (.int n.natAbs)
  | .float x => .ok (.float ⟨x.bits &&& 0x7FFFFFFFFFFFFFFF⟩)
  | _ => .error .invalidOperation

/-- The filters of numbers. -/
def numberFilter? : String → Option Action
  | "abs" => some fun v => lift (absolute v)
  | "int" => some fun v => lift (toInteger v)
  | "float" => some fun v => lift (toDouble v)
  | "bool" => some fun v => return .bool v.isTrue
  | "round" => some fun v => do
    let places := (← Take.optional (Take.asInt 32)).getD 0
    lift (round v places)
  | _ => none

end Scaffold.Template.Filter
