import Scaffold.Template.Machine.Expression
import Scaffold.Template.Tree

/-!
# Running statements

A statement prints, binds names, or says how the loop around it goes on. `invokeUpTo` ties the knot:
an invocation is run with one invocation less to come, and the limit on the number of frames is met
before they are used up.
-/

namespace Scaffold.Template

open Value (Escaping)

/-- How the loop around a statement goes on. -/
inductive Flow where
  | on
  | stop
  | next
  deriving DecidableEq

mutual

/-- Binds the names of a pattern to a value. -/
def Pattern.assign (invoke : Invoke) (v : Value) : Pattern → Eval Unit
  | .name id => Eval.bind id v
  | .row items line => do
    match (← Eval.settled v).items? with
    | none => Eval.fail .cannotUnpack line
    | some values =>
      if values.length ≠ items.length then Eval.fail .cannotUnpack line
      else Pattern.assignEach invoke values items
  | .field object id => do
    match ← object.eval invoke with
    | .record cell =>
      let fields := (← get).namesAt cell
      Eval.setCell cell (.names (bindName id v fields))
    | _ => Eval.fail .invalidOperation object.endLine
termination_by structural p => p

/-- Binds the names of patterns to as many values. -/
def Pattern.assignEach (invoke : Invoke) : List Value → List Pattern → Eval Unit
  | v :: values, p :: rest => do
    p.assign invoke v
    Pattern.assignEach invoke values rest
  | _, _ => return
termination_by structural _ ps => ps

end

/-! ## Loops -/

/-- Runs through the items of a loop, and gives the number of those that were run to their end. -/
def runItems (bindItem : Value → Eval Unit) (body : Eval Flow) (cell : Nat) :
    Nat → Option Value → List Value → Eval Nat
  | index, _, [] => return index
  | index, before, v :: rest => do
    if let some s := (← get).loopAt? cell then
      Eval.setCell cell (.loop { s with index, before, after := rest.head? })
    bindItem v
    match ← body with
    | .stop => return index
    | _ => runItems bindItem body cell (index + 1) (some v) rest

/-- Runs a loop in a frame of its own, and gives the number of items that were run to their end. -/
def runLoop (items : Value) (bindItem : Value → Eval Unit) (body : Eval Flow) (isVisible : Bool)
    (again : Option (Pattern × List Stmt)) (line : Nat) : Eval Nat := do
  let items ← if items.kind = .dict then Eval.settled items else pure items
  match items.iterate? with
  | none => Eval.fail .invalidOperation line
  | some values =>
    let m ← get
    let depth := match m.currentLoop? with
      | some ⟨cell, _, some _⟩ => ((m.loopAt? cell).map (·.depth + 1)).getD 0
      | _ => 0
    let length := if items.isSized then some values.length else none
    let cell ← Eval.allocate (.loop ⟨0, length, depth, none, none, none⟩)
    Eval.push { Frame.empty with loop := some ⟨cell, isVisible, again⟩ } line
    let count ← runItems bindItem body cell 0 none values
    Eval.pop
    return count

/-- The items that pass the condition of a loop. -/
def keepItems (items : Value) (bindItem : Value → Eval Unit) (keep : Eval Value) (line : Nat) :
    Eval Value := do
  let before := (← get).frames
  let items ← if items.kind = .dict then Eval.settled items else pure items
  match items.iterate? with
  | none => Eval.fail .invalidOperation line
  | some values =>
    let cell ← Eval.allocate (.loop ⟨0, none, 0, none, none, none⟩)
    Eval.push { Frame.empty with loop := some ⟨cell, false, none⟩ } line
    let kept ← values.filterM fun v => do
      bindItem v
      return (← Eval.settled (← keep)).isTrue
    modify ({ · with frames := before })
    return .ofItems kept

/-! ## Escaping and filters of bodies -/

/-- The escaping that a value asks for. True asks for the one at the beginning, or for that of pages if
nothing is escaped there. -/
def escapingOf? (initial : Escaping) (v : Value) : Option Escaping :=
  match v with
  | .str "html" _ => some .page
  | .str "json" _ => some .json
  | .str "none" _ => some .plain
  | v =>
    if v.equal (.bool true) then some (if initial = .plain then .page else initial)
    else if v.equal (.bool false) then some .plain
    else none

/-- Applies filters to a text, each on the line on which its arguments end. -/
def applyFilters (invoke : Invoke) : Option Nat → List FilterCall → Value → Eval Value
  | _, [], v => return v
  | before, f :: rest, v => do
    let line := Arg.endLineOf (before.getD f.line) f.args
    let plain ← Arg.evalPlain invoke f.args
    let named ← Arg.evalNamed invoke f.args
    applyFilters invoke (some line) rest (← applyFilter f.id v (.make plain named) line)

/-- Prints a value. -/
def printValue (v : Value) (line : Nat) : Eval Unit := do
  let v ← Eval.settled v
  Eval.emit (← Eval.onLine line (v.escaped (← get).escaping))

/-- Prints what another template would print. There is none. -/
def loadTemplate (source : Value) (optional : Bool) (line : Nat) : Eval Unit := do
  let choices := match source with
    | .str _ _ => [source]
    | v => v.items?.getD [v]
  if choices.any fun v => v.kind ≠ .str then Eval.fail .invalidOperation line
  if !choices.isEmpty && !optional then Eval.fail .templateNotFound line

/-- A macro that remembers the values of its free names. -/
def enclose (head : MacroHead) (body : List Stmt) : Eval Value := do
  let cell ← Eval.sharedCell
  head.free.forM (Eval.remember cell)
  return .routine ⟨head, body⟩ cell

/-! ## Statements -/

mutual

/-- Runs a statement. -/
def Stmt.run (invoke : Invoke) : Stmt → Eval Flow
  | .text s => do
    Eval.emit s
    return .on
  | .print value => do
    printValue (← value.eval invoke) value.endLine
    return .on
  | .forEach target items keep recursive body otherwise => do
    let all ← items.eval invoke
    let bindItem (v : Value) : Eval Unit := target.assign invoke v
    let all ← match keep with
      | none => pure all
      | some test => keepItems all bindItem (test.eval invoke) items.endLine
    let again := if recursive then some (target, body) else none
    let count ← runLoop all bindItem (Stmt.runEach invoke body) true again items.endLine
    if count = 0 then Stmt.runEach invoke otherwise else return .on
  | .choose test yes no => do
    if (← Eval.settled (← test.eval invoke)).isTrue then Stmt.runEach invoke yes
    else Stmt.runEach invoke no
  | .scope bindings body => do
    Eval.push Frame.empty ((bindings.head?.map fun b => b.2.endLine).getD 1)
    bindings.forM fun (target, value) => do target.assign invoke (← value.eval invoke)
    let flow ← Stmt.runEach invoke body
    Eval.pop
    return flow
  | .assign target value => do
    target.assign invoke (← value.eval invoke)
    return .on
  | .capture target filters body => do
    let (flow, printed) ← Eval.captured (Stmt.runEach invoke body)
    target.assign invoke (← applyFilters invoke none filters printed)
    return flow
  | .escaping mode body => do
    let outer := (← get).escaping
    match escapingOf? (← get).initialEscaping (← mode.eval invoke) with
    | none => Eval.fail .invalidOperation mode.endLine
    | some inner =>
      modify ({ · with escaping := inner })
      let flow ← Stmt.runEach invoke body
      modify ({ · with escaping := outer })
      return flow
  | .filtered filters body => do
    let (flow, printed) ← Eval.captured (Stmt.runEach invoke body)
    let line := filters.foldl (fun line f => Arg.endLineOf line f.args)
      ((filters.head?.map FilterCall.line).getD 1)
    printValue (← applyFilters invoke none filters printed) line
    return flow
  | .block _ body => do
    Eval.push Frame.empty 1
    let flow ← Stmt.runEach invoke body
    Eval.pop
    return flow
  | .load source optional => do
    loadTemplate (← source.eval invoke) optional source.endLine
    return .on
  | .define head body => do
    Eval.bind head.name (← enclose head body)
    return .on
  | .callWith callee args line head body => do
    let object ← callee.eval invoke
    let plain ← Arg.evalPlain invoke args
    let named ← Arg.evalNamed invoke args
    let given := Given.make plain (named ++ [("caller", ← enclose head body)])
    let last := Arg.endLineOf (callee.endLine line) args
    printValue (← dispatch invoke callee object given last) last
    return .on
  | .perform callee args line => do
    let _ ← (Expr.call callee args line).eval invoke
    return .on
  | .stop => return .stop
  | .next => return .next
termination_by structural s => s

/-- Runs statements until one of them leaves the loop around them. -/
def Stmt.runEach (invoke : Invoke) : List Stmt → Eval Flow
  | [] => return .on
  | s :: rest => do
    match ← s.run invoke with
    | .on => Stmt.runEach invoke rest
    | flow => return flow
termination_by structural ss => ss

end

/-! ## Invocations -/

/-- The value of each parameter: a plain argument or a named one, not both. -/
def parameterValues (given : Given) : Nat → List String → Except FaultKind (List (String × Value))
  | _, [] => .ok []
  | i, id :: rest => do
    let v ← match given.plain[i]?, given.named.lookup id with
      | some _, some _ => throw .tooManyArguments
      | some v, none => pure v
      | none, some v => pure v
      | none, none => pure .undefined
    return (id, v) :: (← parameterValues given (i + 1) rest)

/-- The parameters of a macro with their values. No argument may be left over. -/
def Macro.bindings (m : Macro) (given : Given) : Except FaultKind (List (String × Value)) := do
  if given.plain.length > m.head.params.length then throw .tooManyArguments
  let bindings ← parameterValues given 0 m.head.params
  let known := m.head.params ++ if m.head.callsBack then ["caller"] else []
  if given.named.any fun (id, _) => !known.contains id then throw .tooManyArguments
  return bindings

/-- Binds the parameters from the last to the first; a missing value gives way to the default. -/
def bindParameters (invoke : Invoke) : List (String × Value) → List Expr → Eval Unit
  | [], _ => return
  | (id, v) :: rest, defaults => do
    let v ← match v, defaults with
      | .undefined, e :: _ => e.eval invoke
      | v, _ => pure v
    Eval.bind id v
    bindParameters invoke rest (defaults.drop 1)

/-- Runs a macro in frames of its own. -/
def runMacro (invoke : Invoke) (m : Macro) (closure : Nat) (given : Given) (line : Nat) :
    Eval Value := do
  let bindings ← Eval.onLine line (m.bindings given)
  let before ← get
  let outer := before.depth + callDepth
  if outer + 2 > maxDepth then Eval.fail .invalidOperation line
  let caller := given.named.lookup "caller"
  let names := if m.head.callsBack then [("caller", caller.getD .undefined)] else []
  let frames := [⟨names, .cell closure, none, none⟩, { Frame.empty with backing := .context }]
  set { before with frames, outer, blocks := [] }
  let (_, text) ← Eval.captured do
    bindParameters invoke bindings.reverse m.head.defaults.reverse
    Stmt.runEach invoke m.body
  modify fun after =>
    { after with
      frames := before.frames, outer := before.outer, blocks := before.blocks
      escaping := before.escaping }
  return text

/-- Runs invocations, at most so many inside of each other. -/
def invokeUpTo : Nat → Invoke
  | 0, _, line => Eval.fail .invalidOperation line
  | fuel + 1, invocation, line => do
    let invoke := invokeUpTo fuel
    match invocation with
    | .routine m closure given => runMacro invoke m closure given line
    | .again target body items =>
      let (_, text) ← Eval.captured <|
        runLoop items (target.assign invoke ·) (Stmt.runEach invoke body) true
          (some (target, body)) line
      return text
    | .block body =>
      let (_, text) ← Eval.captured do
        Eval.push Frame.empty line
        let flow ← Stmt.runEach invoke body
        Eval.pop
        return flow
      return text

end Scaffold.Template
