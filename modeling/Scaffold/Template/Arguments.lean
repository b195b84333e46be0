import Scaffold.Template.Value.Order
import Scaffold.Template.Value.Text

/-!
# Taking arguments

A filter, a test or a function takes its arguments one after the other. `Take` is such a reader: it
fails if an argument is missing, if it is of the wrong kind, or if some are left over at the end. An
argument that is optional may also be given as a missing value or as null.

What takes no named arguments sees them as one last plain argument, a dictionary.
-/

namespace Scaffold.Template

/-- The arguments of a call. -/
structure Given where
  plain : List Value
  named : List (String × Value)

/-- An argument to be taken. -/
inductive Slot where
  | value (v : Value)
  | names (named : List (String × Value))

/-- The arguments that are still to be taken. -/
structure Pending where
  slots : List Slot
  named : List (String × Value)

/-- A reader of arguments. -/
abbrev Take (α : Type) := StateT Pending (Except FaultKind) α

namespace Take

/-- Takes the next argument, if there is one. -/
def slot? : Take (Option Slot) := do
  let pending ← get
  match pending.slots with
  | [] => return none
  | s :: rest =>
    set { pending with slots := rest }
    return some s

/-- The value of an argument. -/
def Slot.value : Slot → Value
  | .value v => v
  | .names named => .ofNamed named

/-- Whether an optional argument counts as not given. -/
def isGap : Slot → Bool
  | .value v => v.isAbsent
  | .names _ => false

/-- Takes an argument that a reader understands. -/
def required {α : Type} (read : Slot → Except FaultKind α) : Take α := do
  match ← slot? with
  | none => throw .missingArgument
  | some s =>
    match read s with
    | .ok a => return a
    | .error e => throw e

/-- Takes an argument that a reader understands, if it is given. -/
def optional {α : Type} (read : Slot → Except FaultKind α) : Take (Option α) := do
  match ← slot? with
  | none => return none
  | some s =>
    if isGap s then return none
    else
      match read s with
      | .ok a => return some a
      | .error e => throw e

/-! ## Readers -/

/-- Any value. -/
def asValue (s : Slot) : Except FaultKind Value := .ok (Slot.value s)

/-- Any value, as it is printed. -/
def asPrinted : Slot → Except FaultKind String
  | .value v => .ok v.print
  | .names _ => .error .invalidOperation

/-- What a value gives, or a fault. -/
def via {α : Type} (f : Value → Option α) : Slot → Except FaultKind α
  | .value v =>
    match f v with
    | some a => .ok a
    | none => .error .invalidOperation
  | .names _ => .error .invalidOperation

/-- A text. -/
def asText : Slot → Except FaultKind String := via Value.asText?

/-- A count. -/
def asCount : Slot → Except FaultKind Nat := via Value.toCount?

/-- An integer of the given number of bits. -/
def asInt (bits : Nat) : Slot → Except FaultKind Int :=
  via (Value.toIntIn? (-twoTo (bits - 1)) (twoTo (bits - 1) - 1))

/-- A natural number of the given number of bits. -/
def asNat (bits : Nat) : Slot → Except FaultKind Nat :=
  via fun v => (v.toIntIn? 0 (twoTo bits - 1)).map Int.toNat

/-- A truth value. -/
def asBool : Slot → Except FaultKind Bool :=
  via fun v => match v with
    | .bool b => some b
    | _ => none

/-! ## Named arguments and the end -/

/-- Takes a named argument that a reader understands, if it is given. -/
def named {α : Type} (name : String) (read : Slot → Except FaultKind α) : Take (Option α) := do
  let pending ← get
  match pending.named.lookup name with
  | none => return none
  | some v =>
    set { pending with named := pending.named.filter (·.1 ≠ name) }
    if v.isAbsent then return none
    else
      match read (.value v) with
      | .ok a => return some a
      | .error e => throw e

/-- Takes all plain arguments that are left. -/
def rest : Take (List Value) := do
  let pending ← get
  set { pending with slots := [] }
  return pending.slots.map Slot.value

/-- A named truth value that is false if it is not given. -/
def namedFlag (name : String) : Take Bool := return (← named name asBool).getD false

/-- Reads arguments to their end, with the named ones apart. -/
def runNamed {α : Type} (reader : Take α) (given : Given) : Except FaultKind α := do
  let (a, left) ← reader.run ⟨given.plain.map .value, given.named⟩
  if left.slots.isEmpty && left.named.isEmpty then return a else throw .tooManyArguments

/-- Reads arguments to their end, with the named ones as the last plain one. -/
def runPlain {α : Type} (reader : Take α) (given : Given) : Except FaultKind α := do
  let last := if given.named.isEmpty then [] else [.names given.named]
  let (a, left) ← reader.run ⟨given.plain.map .value ++ last, []⟩
  if left.slots.isEmpty then return a else throw .tooManyArguments

end Take

end Scaffold.Template
