import Scaffold.Template.Filter
import Scaffold.Template.Machine

/-!
# Evaluation of expressions

Expressions are evaluated along their structure. What leads away from the structure, a macro, a block
or another run of a loop, is reached through an `Invoke`, which the evaluation is given.
-/

namespace Scaffold.Template

open Value (Escaping)

/-- What leads away from the structure of a template. -/
inductive Invocation where
  | routine (m : Macro) (closure : Nat) (given : Given)
  | again (target : Pattern) (body : List Stmt) (items : Value)
  | block (body : List Stmt)

/-- A way to run an invocation that stands on a line. -/
abbrev Invoke := Invocation → Nat → Eval Value

/-! ## Functions -/

/-- The numbers from one to another in steps. -/
def countUp (start step : Nat) : Nat → List Value
  | 0 => []
  | n + 1 => .int start :: countUp (start + step) step n

/-- How many numbers a range may have. -/
def maxRange : Nat := 100000

/-- The numbers of a range. -/
def rangeValue : Take Value := do
  let first ← Take.required (Take.asNat 32)
  let second ← Take.optional (Take.asNat 32)
  let step := (← Take.optional (Take.asNat 32)).getD 1
  let (start, stop) := match second with
    | some stop => (first, stop)
    | none => (0, first)
  if step = 0 then throw .invalidOperation
  let count := (stop - start + (step - 1)) / step
  if count > maxRange then throw .invalidOperation
  return .stream (countUp start step count) true

/-- A dictionary with further entries. -/
def dictionary : Take Value := do
  let entries ← match ← Take.optional Take.asValue with
    | none => pure []
    | some (.dict entries) => pure entries
    | some _ => throw .invalidOperation
  let pending ← get
  set { pending with named := [] }
  return .ofEntries (entries ++ pending.named.map fun (name, v) => (.text name, v))

/-- The fields that a new record begins with. -/
def recordFields : Take (List (String × Value)) := do
  match ← Take.optional Take.asValue with
  | none => return []
  | some (.dict entries) =>
    match entries.mapM fun (k, v) => k.asText?.map (·, v) with
    | some fields => return fields
    | none => throw .invalidOperation
  | some _ => throw .invalidOperation

/-- How values are shown to one who looks for a mistake. -/
def debugText : Take Value := do
  match ← Take.rest with
  | [] => return .text ""
  | [v] => return .text (v.inspectTall 0)
  | all => return .text ((Value.ofItems all).inspectTall 0)

/-- Calls a function. -/
def Builtin.call (f : Builtin) (given : Given) (line : Nat) : Eval Value := do
  match f with
  | .range => Eval.onLine line (Take.runPlain rangeValue given)
  | .dict => Eval.onLine line (Take.runNamed dictionary given)
  | .debug => Eval.onLine line (Take.runPlain debugText given)
  | .record =>
    let fields ← Eval.onLine line (Take.runPlain recordFields given)
    return .record (← Eval.allocate (.names fields))

/-! ## Access -/

/-- What is known about a loop under a name. -/
def LoopState.field? (s : LoopState) : String → Option Value
  | "index" => some (.int (s.index + 1))
  | "index0" => some (.int s.index)
  | "length" => some (count id)
  | "revindex" => some (count (· - s.index))
  | "revindex0" => some (count (· - s.index - 1))
  | "first" => some (.bool (s.index = 0))
  | "last" => some (.bool s.after.isNone)
  | "depth" => some (.int (s.depth + 1))
  | "depth0" => some (.int s.depth)
  | "previtem" => some (s.before.getD .undefined)
  | "nextitem" => some (s.after.getD .undefined)
  | _ => none
where
  /-- A number that depends on the length; missing if the length is not known. -/
  count (f : Nat → Nat) : Value :=
    match s.length with
    | some n => .int (f n)
    | none => .undefined

/-- What a macro tells about itself under a name. -/
def Macro.field? (m : Macro) : String → Option Value
  | "name" => some (.text m.head.name)
  | "arguments" => some (.ofItems (m.head.params.map .text))
  | "caller" => some (.bool m.head.callsBack)
  | _ => none

/-- The field of a value. -/
def Machine.field? (m : Machine) (v : Value) (id : String) : Option Value :=
  match v with
  | .record c => (m.namesAt c).lookup id
  | .loop c => (m.loopAt? c).bind (·.field? id)
  | .routine r _ => r.field? id
  | v => v.field? id

/-- The item of a value. -/
def Machine.item? (m : Machine) (v key : Value) : Option Value :=
  match v with
  | .record _ | .loop _ | .routine _ _ => key.asText?.bind (m.field? v)
  | v => v.item? key

/-! ## Calls -/

/-- Calls a value. -/
def callValue (invoke : Invoke) (v : Value) (given : Given) (line : Nat) : Eval Value :=
  match v with
  | .builtin f => f.call given line
  | .routine m closure => invoke (.routine m closure given) line
  | _ => Eval.fail .invalidOperation line

/-- Runs the innermost loop on other items. -/
def callLoop (invoke : Invoke) (given : Given) (line : Nat) : Eval Value := do
  match given.plain, given.named with
  | [items], [] =>
    match (← get).currentLoop?.bind LoopFrame.again with
    | some (target, body) => invoke (.again target body items) line
    | none => Eval.fail .invalidOperation line
  | _, _ => Eval.fail .invalidOperation line

/-- Calls what a name stands for. -/
def callName (invoke : Invoke) (id : String) (given : Given) (line : Nat) : Eval Value := do
  if id = "super" then Eval.fail .invalidOperation line
  else if id = "loop" then callLoop invoke given line
  else
    match (← get).lookup? id with
    | some v => callValue invoke v given line
    | none => Eval.fail .unknownFunction line

/-- Whether other values are given to a loop than the last time it was asked. -/
def watch (cell : Nat) (s : LoopState) (values : List Value) : Eval Value := do
  match s.watched with
  | some before =>
    if Value.equalItems before values then return .bool false
  | none => pure ()
  Eval.setCell cell (.loop { s with watched := some values })
  return .bool true

/-- Calls a method. -/
def callMethod (invoke : Invoke) (v : Value) (id : String) (given : Given) (line : Nat) :
    Eval Value := do
  let m ← get
  match v with
  | .loop c =>
    match m.loopAt? c, id with
    | some s, "changed" => watch c s given.plain
    | some s, "cycle" => return given.plain[s.index % given.plain.length]?.getD .undefined
    | _, _ => Eval.fail .unknownMethod line
  | .dict _ | .list _ _ | .record _ | .routine _ _ =>
    match m.field? v id with
    | some f => callValue invoke f given line
    | none => Eval.fail .unknownMethod line
  | _ => Eval.fail .unknownMethod line

/-- Calls a block by its name. -/
def callBlock (invoke : Invoke) (id : String) (line : Nat) : Eval Value := do
  match (← get).blocks.lookup id with
  | some body => invoke (.block body) line
  | none => Eval.fail .unknownBlock line

/-- Calls what is called, with the value that belongs to it. -/
def dispatch (invoke : Invoke) (callee : Callee) (object : Value) (given : Given) (line : Nat) :
    Eval Value :=
  match callee with
  | .function id => callName invoke id given line
  | .method _ id => callMethod invoke object id given line
  | .block id => callBlock invoke id line
  | .value _ => callValue invoke object given line

/-! ## Spreads -/

/-- The items that are spread among the arguments. -/
def spreadItems (v : Value) (line : Nat) : Eval (List Value) := do
  match (← Eval.settled v).iterate? with
  | some items => return items
  | none => Eval.fail .invalidOperation line

/-- The members that are spread among the named arguments. -/
def spreadMembers (v : Value) (line : Nat) : Eval (List (String × Value)) := do
  match ← Eval.settled v with
  | .dict entries =>
    match entries.mapM fun (k, v) => k.asText?.map (·, v) with
    | some members => return members
    | none => Eval.fail .invalidOperation line
  | _ => Eval.fail .invalidOperation line

/-- Arguments as they are found; of two named alike the later one counts. -/
def Given.make (plain : List Value) (named : List (String × Value)) : Given :=
  ⟨plain, named.foldl (fun acc (name, v) => bindName name v acc) []⟩

/-- Arguments with every object in them replaced by what it shows. -/
def Given.settled (given : Given) : Eval Given := do
  let m ← get
  return ⟨given.plain.map m.settle, given.named.map fun (name, v) => (name, m.settle v)⟩

/-- Applies a filter to a value. -/
def applyFilter (id : String) (v : Value) (given : Given) (line : Nat) : Eval Value := do
  let given ← given.settled
  let v ← Eval.settled v
  Eval.onLine line (Filter.apply (← get).escaping given.plain given.named id v)

/-- Asks a test of a value. -/
def applyTest (id : String) (v : Value) (given : Given) (line : Nat) : Eval Value := do
  let given ← given.settled
  return .bool (← Eval.onLine line (answer id (← Eval.settled v) given))

/-- Applies an operator. -/
def applyBinary (op : BinaryOp) (a b : Value) (line : Nat) : Eval Value := do
  Eval.onLine line (Value.apply op (← Eval.settled a) (← Eval.settled b))

/-! ## Expressions -/

mutual

/-- The value of an expression. -/
def Expr.eval (invoke : Invoke) : Expr → Eval Value
  | .literal value _ => return .ofLiteral value
  | .name id _ => return ((← get).lookup? id).getD .undefined
  | .list items _ => return .ofItems (← Expr.evalEach invoke items)
  | .dict entries _ => return .ofEntries (← Expr.evalEntries invoke entries)
  | .choose test yes none => do
    if (← Eval.settled (← test.eval invoke)).isTrue then yes.eval invoke else return .undefined
  | .choose test yes (some no) => do
    if (← Eval.settled (← test.eval invoke)).isTrue then yes.eval invoke else no.eval invoke
  | .both left right => do
    let a ← left.eval invoke
    if (← Eval.settled a).isTrue then right.eval invoke else return a
  | .either left right => do
    let a ← left.eval invoke
    if (← Eval.settled a).isTrue then return a else right.eval invoke
  | .negation operand => return .bool !(← Eval.settled (← operand.eval invoke)).isTrue
  | .minus operand line => do Eval.onLine line (Value.neg (← operand.eval invoke))
  | .binary op left right => do
    let a ← left.eval invoke
    let b ← right.eval invoke
    applyBinary op a b right.endLine
  | .filter operand id args => do
    let v ← operand.eval invoke
    let plain ← Arg.evalPlain invoke args
    let named ← Arg.evalNamed invoke args
    applyFilter id v (.make plain named) (Arg.endLineOf operand.endLine args)
  | .test operand id args => do
    let v ← operand.eval invoke
    let plain ← Arg.evalPlain invoke args
    let named ← Arg.evalNamed invoke args
    applyTest id v (.make plain named) (Arg.endLineOf operand.endLine args)
  | .field operand id => do
    let v ← operand.eval invoke
    if v.isUndefined then Eval.fail .undefinedValue operand.endLine
    else return ((← get).field? v id).getD .undefined
  | .item operand index => do
    let v ← operand.eval invoke
    let key ← index.eval invoke
    if v.isUndefined then Eval.fail .undefinedValue index.endLine
    else return ((← get).item? v key).getD .undefined
  | .slice operand start stop step => do
    let v ← operand.eval invoke
    let a ← Expr.evalBound invoke start
    let b ← Expr.evalBound invoke stop
    let c ← Expr.evalBound invoke step
    Eval.onLine (Expr.slice operand start stop step).endLine (v.slice a b c)
  | .call callee args line => do
    let object ← callee.eval invoke
    let plain ← Arg.evalPlain invoke args
    let named ← Arg.evalNamed invoke args
    dispatch invoke callee object (.make plain named) (Arg.endLineOf (callee.endLine line) args)
termination_by structural e => e

/-- The value that is called, or whose method is. -/
def Callee.eval (invoke : Invoke) : Callee → Eval Value
  | .function _ => return .undefined
  | .block _ => return .undefined
  | .method object _ => object.eval invoke
  | .value callee => callee.eval invoke
termination_by structural c => c

/-- The values of a row of expressions. -/
def Expr.evalEach (invoke : Invoke) : List Expr → Eval (List Value)
  | [] => return []
  | e :: rest => do
    let v ← e.eval invoke
    return v :: (← Expr.evalEach invoke rest)
termination_by structural es => es

/-- The values of a row of entries. -/
def Expr.evalEntries (invoke : Invoke) : List (Expr × Expr) → Eval (List (Value × Value))
  | [] => return []
  | (key, value) :: rest => do
    let k ← key.eval invoke
    let v ← value.eval invoke
    return (k, v) :: (← Expr.evalEntries invoke rest)
termination_by structural es => es

/-- The value of a bound of a slice; null if there is none. -/
def Expr.evalBound (invoke : Invoke) : Option Expr → Eval Value
  | none => return .nil
  | some e => e.eval invoke
termination_by structural e => e

/-- The plain arguments of a call. -/
def Arg.evalPlain (invoke : Invoke) : List Arg → Eval (List Value)
  | [] => return []
  | .plain value :: rest => do
    let v ← value.eval invoke
    return v :: (← Arg.evalPlain invoke rest)
  | .spread items :: rest => do
    let v ← items.eval invoke
    let spread ← spreadItems v items.endLine
    return spread ++ (← Arg.evalPlain invoke rest)
  | .named _ _ :: rest => Arg.evalPlain invoke rest
  | .namedSpread _ :: rest => Arg.evalPlain invoke rest
termination_by structural as => as

/-- The named arguments of a call. -/
def Arg.evalNamed (invoke : Invoke) : List Arg → Eval (List (String × Value))
  | [] => return []
  | .named id value :: rest => do
    let v ← value.eval invoke
    return (id, v) :: (← Arg.evalNamed invoke rest)
  | .namedSpread members :: rest => do
    let v ← members.eval invoke
    let spread ← spreadMembers v members.endLine
    return spread ++ (← Arg.evalNamed invoke rest)
  | .plain _ :: rest => Arg.evalNamed invoke rest
  | .spread _ :: rest => Arg.evalNamed invoke rest
termination_by structural as => as

end

end Scaffold.Template
