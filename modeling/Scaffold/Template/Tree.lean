import Scaffold.Number.Double

/-!
# The tree of a template

A template is a row of statements. Expressions say what a statement prints, tests or binds, and
patterns say which names a value is bound to.

A fault that arises while an expression is evaluated is reported on a line that the expression fixes
beforehand: the line on which the evaluation of its last operand ends. `Expr.endLine` is that line.
-/

namespace Scaffold.Template

/-- A value that is written out. -/
inductive Literal where
  | none
  | bool (b : Bool)
  | int (n : Nat)
  | float (x : Double)
  | str (s : String)
  deriving DecidableEq

/-- The operators with two operands, `and` and `or` apart. -/
inductive BinaryOp where
  | eq | ne | lt | le | gt | ge
  | within
  | add | sub | concat | mul | div | floorDiv | rem | pow
  deriving DecidableEq

mutual

/-- An expression. A line that is kept is that of the first token of the expression, or of the
operator in `minus`. -/
inductive Expr where
  | literal (value : Literal) (line : Nat)
  | name (id : String) (line : Nat)
  | list (items : List Expr) (line : Nat)
  | dict (entries : List (Expr × Expr)) (line : Nat)
  | choose (test yes : Expr) (no : Option Expr)
  | both (left right : Expr)
  | either (left right : Expr)
  | negation (operand : Expr)
  | minus (operand : Expr) (line : Nat)
  | binary (op : BinaryOp) (left right : Expr)
  | filter (operand : Expr) (id : String) (args : List Arg)
  | test (operand : Expr) (id : String) (args : List Arg)
  | field (operand : Expr) (id : String)
  | item (operand index : Expr)
  | slice (operand : Expr) (start stop step : Option Expr)
  | call (callee : Callee) (args : List Arg) (line : Nat)

/-- An argument of a call. -/
inductive Arg where
  | plain (value : Expr)
  | spread (items : Expr)
  | named (id : String) (value : Expr)
  | namedSpread (members : Expr)

/-- What is called. -/
inductive Callee where
  | function (id : String)
  | method (object : Expr) (id : String)
  | block (id : String)
  | value (callee : Expr)

end

/-- A filter that is applied to a text from outside of its expression. -/
structure FilterCall where
  id : String
  args : List Arg
  line : Nat

/-- The names that a value is bound to. -/
inductive Pattern where
  | name (id : String)
  | row (items : List Pattern) (line : Nat)
  | field (object : Expr) (id : String)

/-- The head of a macro: its parameters, the defaults of the last of them, the free names of its
body, and whether the body calls back. -/
structure MacroHead where
  name : String
  params : List String
  defaults : List Expr
  free : List String
  callsBack : Bool

/-- A statement. -/
inductive Stmt where
  | text (s : String)
  | print (value : Expr)
  | forEach (target : Pattern) (items : Expr) (keep : Option Expr) (recursive : Bool)
      (body otherwise : List Stmt)
  | choose (test : Expr) (yes no : List Stmt)
  | scope (bindings : List (Pattern × Expr)) (body : List Stmt)
  | assign (target : Pattern) (value : Expr)
  | capture (target : Pattern) (filters : List FilterCall) (body : List Stmt)
  | escaping (mode : Expr) (body : List Stmt)
  | filtered (filters : List FilterCall) (body : List Stmt)
  | block (id : String) (body : List Stmt)
  | load (source : Expr) (optional : Bool)
  | define (head : MacroHead) (body : List Stmt)
  | callWith (callee : Callee) (args : List Arg) (line : Nat) (head : MacroHead) (body : List Stmt)
  | perform (callee : Callee) (args : List Arg) (line : Nat)
  | stop
  | next

/-- A template: its statements, and its blocks by name. -/
structure Tree where
  body : List Stmt
  blocks : List (String × List Stmt)

mutual

/-- The line on which the evaluation of an expression ends. -/
def Expr.endLine : Expr → Nat
  | .literal _ line => line
  | .name _ line => line
  | .list items line => Expr.endLineOf line items
  | .dict entries line => Expr.endLineOfEntries line entries
  | .choose _ yes none => yes.endLine
  | .choose _ _ (some no) => no.endLine
  | .both _ right => right.endLine
  | .either _ right => right.endLine
  | .negation operand => operand.endLine
  | .minus operand _ => operand.endLine
  | .binary _ _ right => right.endLine
  | .filter operand _ args => Arg.endLineOf operand.endLine args
  | .test operand _ args => Arg.endLineOf operand.endLine args
  | .field operand _ => operand.endLine
  | .item _ index => index.endLine
  | .slice _ _ _ (some step) => step.endLine
  | .slice _ _ (some stop) none => stop.endLine
  | .slice _ (some start) none none => start.endLine
  | .slice operand none none none => operand.endLine
  | .call callee args line => Arg.endLineOf (callee.endLine line) args
termination_by structural e => e

/-- The line on which the evaluation of a row ends that begins on the given line. -/
def Expr.endLineOf (line : Nat) : List Expr → Nat
  | [] => line
  | e :: rest => Expr.endLineOf e.endLine rest
termination_by structural es => es

/-- The line on which the evaluation of entries ends. -/
def Expr.endLineOfEntries (line : Nat) : List (Expr × Expr) → Nat
  | [] => line
  | (_, value) :: rest => Expr.endLineOfEntries value.endLine rest
termination_by structural es => es

/-- The line on which the value of an argument is found. -/
def Arg.endLine : Arg → Nat
  | .plain value => value.endLine
  | .spread items => items.endLine
  | .named _ value => value.endLine
  | .namedSpread members => members.endLine
termination_by structural a => a

/-- The line on which the evaluation of arguments ends. -/
def Arg.endLineOf (line : Nat) : List Arg → Nat
  | [] => line
  | a :: rest => Arg.endLineOf a.endLine rest
termination_by structural as => as

/-- The line on which it is known what to call. -/
def Callee.endLine (line : Nat) : Callee → Nat
  | .method object _ => object.endLine
  | .value callee => callee.endLine
  | .function _ => line
  | .block _ => line
termination_by structural c => c

end

end Scaffold.Template
