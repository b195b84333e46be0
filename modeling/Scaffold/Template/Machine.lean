import Scaffold.Template.Arguments
import Scaffold.Template.Value.Arithmetic

/-!
# The state of a rendering

Names are looked up in frames, from the innermost one outward, and at last among the functions. A
frame holds the names bound in it; behind them stand the names of the context, or those that a macro
remembers, or none. What changes over time and can be reached from several places lies in a cell:
the fields of a record, the names that macros share, and the state of a loop.

`Eval` is a computation over such a state that may end with a fault.
-/

namespace Scaffold.Template

open Value (Escaping)

/-- The state of a loop. -/
structure LoopState where
  index : Nat
  length : Option Nat
  depth : Nat
  before : Option Value
  after : Option Value
  watched : Option (List Value)

/-- What a cell holds. -/
inductive Cell where
  | names (bindings : List (String × Value))
  | loop (state : LoopState)

/-- A loop that a frame belongs to: its cell, whether its name is visible, and how it is run again on
other items. -/
structure LoopFrame where
  cell : Nat
  isVisible : Bool
  again : Option (Pattern × List Stmt)

/-- The names behind those that a frame binds. -/
inductive Backing where
  | nothing
  | context
  | cell (address : Nat)

/-- A frame. `shared` is the cell of the names that the macros defined in it remember. -/
structure Frame where
  names : List (String × Value)
  backing : Backing
  loop : Option LoopFrame
  shared : Option Nat

/-- A frame without names. -/
def Frame.empty : Frame := ⟨[], .nothing, none, none⟩

/-- The state of a rendering. -/
structure Machine where
  context : List (String × Value)
  frames : List Frame
  outer : Nat
  cells : Array Cell
  out : String
  escaping : Escaping
  initialEscaping : Escaping
  blocks : List (String × List Stmt)

/-- A computation over the state of a rendering. -/
abbrev Eval (α : Type) := StateT Machine (Except Fault) α

/-- Binds a name among bindings, in its old place if it is bound already. -/
def bindName (name : String) (v : Value) : List (String × Value) → List (String × Value)
  | [] => [(name, v)]
  | (n, w) :: rest => if n = name then (n, v) :: rest else (n, w) :: bindName name v rest

/-- The functions by name. -/
def builtin? : String → Option Builtin
  | "range" => some .range
  | "dict" => some .dict
  | "debug" => some .debug
  | "namespace" => some .record
  | _ => none

/-! ## Replacing objects by what they show -/

namespace Value

mutual

/-- A value with every record and loop in it replaced. -/
def replaceObjects (record loop : Nat → Value) : Value → Value
  | .record c => record c
  | .loop c => loop c
  | .list items names => .list (replaceEach record loop items) names
  | .stream items sized => .stream (replaceEach record loop items) sized
  | .dict entries => .dict (replaceEntries record loop entries)
  | v => v
termination_by structural v => v

/-- The values of a row with every record and loop in them replaced. -/
def replaceEach (record loop : Nat → Value) : List Value → List Value
  | [] => []
  | v :: rest => replaceObjects record loop v :: replaceEach record loop rest
termination_by structural vs => vs

/-- The entries of a row with every record and loop in them replaced. -/
def replaceEntries (record loop : Nat → Value) : List (Value × Value) → List (Value × Value)
  | [] => []
  | (k, v) :: rest =>
    (replaceObjects record loop k, replaceObjects record loop v) :: replaceEntries record loop rest
termination_by structural vs => vs

end

end Value

namespace Machine

/-- The names that a cell holds. -/
def namesAt (m : Machine) (cell : Nat) : List (String × Value) :=
  match m.cells[cell]? with
  | some (.names bindings) => bindings
  | _ => []

/-- The state of the loop that a cell holds. -/
def loopAt? (m : Machine) (cell : Nat) : Option LoopState :=
  match m.cells[cell]? with
  | some (.loop state) => some state
  | _ => none

/-- How a loop is shown. -/
def loopText (m : Machine) (cell : Nat) : Value :=
  match m.loopAt? cell with
  | some s =>
    let length := (s.length.map Number.natText).getD "?"
    .shown ("<loop " ++ Number.natText s.index ++ "/" ++ length ++ ">")
  | none => .undefined

/-- The fields of a record as a dictionary. A record that holds itself ends as an empty one. -/
def snapshot (m : Machine) : Nat → Nat → Value
  | 0, _ => .dict []
  | fuel + 1, cell =>
    .ofNamed ((m.namesAt cell).map fun (name, v) =>
      (name, v.replaceObjects (m.snapshot fuel) m.loopText))

/-- The value with every object in it replaced by what it shows. -/
def settle (m : Machine) (v : Value) : Value :=
  if m.cells.isEmpty then v else v.replaceObjects (m.snapshot m.cells.size) m.loopText

/-! ## Names -/

/-- The value of a name in a frame. -/
def lookupIn? (m : Machine) (name : String) (f : Frame) : Option Value :=
  (f.names.lookup name).or <|
    match f.loop with
    | some l => if l.isVisible && name = "loop" then some (.loop l.cell) else behind
    | none => behind
where
  /-- The value of a name behind those of the frame. -/
  behind : Option Value :=
    match f.backing with
    | .nothing => none
    | .context => m.context.lookup name
    | .cell address => (m.namesAt address).lookup name

/-- The value of a name. -/
def lookup? (m : Machine) (name : String) : Option Value :=
  (m.frames.findSome? (m.lookupIn? name)).or ((builtin? name).map .builtin)

/-- The number of frames, those of the surrounding calls included. -/
def depth (m : Machine) : Nat := m.outer + m.frames.length

/-- The innermost loop. -/
def currentLoop? (m : Machine) : Option LoopFrame := m.frames.findSome? Frame.loop

end Machine

/-! ## Steps -/

/-- How many frames there may be. -/
def maxDepth : Nat := 500

/-- How much a call of a macro adds to the number of frames. -/
def callDepth : Nat := 4

namespace Eval

/-- Ends with a fault on a line. -/
def fail {α : Type} (kind : FaultKind) (line : Nat) : Eval α := throw ⟨kind, some line⟩

/-- Goes on with the result of an operation, or ends with a fault on a line. -/
def onLine {α : Type} (line : Nat) : Except FaultKind α → Eval α
  | .ok a => return a
  | .error kind => fail kind line

/-- Prints a text. -/
def emit (s : String) : Eval Unit := modify fun m => { m with out := m.out ++ s }

/-- The value with every object in it replaced by what it shows. -/
def settled (v : Value) : Eval Value := return (← get).settle v

/-- A new cell. -/
def allocate (cell : Cell) : Eval Nat := do
  let m ← get
  set { m with cells := m.cells.push cell }
  return m.cells.size

/-- Changes what a cell holds. -/
def setCell (address : Nat) (cell : Cell) : Eval Unit :=
  modify fun m => { m with cells := m.cells.setIfInBounds address cell }

/-- Enters a frame. -/
def push (f : Frame) (line : Nat) : Eval Unit := do
  if (← get).depth > maxDepth then fail .invalidOperation line
  modify fun m => { m with frames := f :: m.frames }

/-- Leaves a frame. -/
def pop : Eval Unit := modify fun m => { m with frames := m.frames.drop 1 }

/-- Binds a name in the innermost frame. -/
def bind (name : String) (v : Value) : Eval Unit := do
  let m ← get
  match m.frames with
  | [] => return
  | f :: rest =>
    set { m with frames := { f with names := bindName name v f.names } :: rest }
    match f.shared with
    | none => return
    | some address => setCell address (.names (bindName name v (m.namesAt address)))

/-- The cell of the names that the macros of the innermost frame remember. -/
def sharedCell : Eval Nat := do
  let m ← get
  match m.frames with
  | [] => allocate (.names [])
  | f :: _ =>
    match f.shared with
    | some address => return address
    | none =>
      let address ← allocate (.names [])
      modify fun m =>
        match m.frames with
        | [] => m
        | f :: rest => { m with frames := { f with shared := some address } :: rest }
      return address

/-- Remembers the value of a name, unless that has been done. -/
def remember (address : Nat) (name : String) : Eval Unit := do
  let m ← get
  let known := m.namesAt address
  if (known.lookup name).isNone then
    setCell address (.names (bindName name ((m.lookup? name).getD .undefined) known))

/-- The result of a computation, and what it prints as a value. That is safe if printed values are
escaped. -/
def captured {α : Type} (body : Eval α) : Eval (α × Value) := do
  let before := (← get).out
  modify ({ · with out := "" })
  let a ← body
  let m ← get
  set { m with out := before }
  return (a, .str m.out (m.escaping ≠ .plain))

end Eval

end Scaffold.Template
