import Scaffold.Template.Tree

/-!
# Free names

A macro remembers the values of the names that its body uses and does not bind itself. A binding
counts from its place on up to the end of the scope around it, and the names that it binds count
already in the value that it binds them to.
-/

namespace Scaffold.Template

mutual

/-- The names that an expression uses. -/
def Expr.names : Expr → List String
  | .literal _ _ => []
  | .name id _ => [id]
  | .list items _ => Expr.namesOf items
  | .dict entries _ => Expr.namesOfEntries entries
  | .choose test yes none => test.names ++ yes.names
  | .choose test yes (some no) => test.names ++ yes.names ++ no.names
  | .both left right => left.names ++ right.names
  | .either left right => left.names ++ right.names
  | .negation operand => operand.names
  | .minus operand _ => operand.names
  | .binary _ left right => left.names ++ right.names
  | .filter operand _ args => operand.names ++ Arg.namesOf args
  | .test operand _ args => operand.names ++ Arg.namesOf args
  | .field operand _ => operand.names
  | .item operand index => operand.names ++ index.names
  | .slice operand start stop step =>
    operand.names ++ Expr.namesOfOption start ++ Expr.namesOfOption stop ++
      Expr.namesOfOption step
  | .call callee args _ => callee.names ++ Arg.namesOf args
termination_by structural e => e

/-- The names that a row of expressions uses. -/
def Expr.namesOf : List Expr → List String
  | [] => []
  | e :: rest => e.names ++ Expr.namesOf rest
termination_by structural es => es

/-- The names that entries use. -/
def Expr.namesOfEntries : List (Expr × Expr) → List String
  | [] => []
  | (key, value) :: rest => key.names ++ value.names ++ Expr.namesOfEntries rest
termination_by structural es => es

/-- The names that an expression uses, if there is one. -/
def Expr.namesOfOption : Option Expr → List String
  | none => []
  | some e => e.names
termination_by structural e => e

/-- The names that an argument uses. -/
def Arg.names : Arg → List String
  | .plain value => value.names
  | .spread items => items.names
  | .named _ value => value.names
  | .namedSpread members => members.names
termination_by structural a => a

/-- The names that arguments use. -/
def Arg.namesOf : List Arg → List String
  | [] => []
  | a :: rest => a.names ++ Arg.namesOf rest
termination_by structural as => as

/-- The names that are used to find what is called. -/
def Callee.names : Callee → List String
  | .function id => [id]
  | .method object _ => object.names
  | .block _ => []
  | .value callee => callee.names
termination_by structural c => c

end

/-- Names found free so far, and names bound so far. -/
structure FreeNames where
  free : List String
  bound : List String

namespace FreeNames

/-- Takes note of names that are used. -/
def use (s : FreeNames) (names : List String) : FreeNames :=
  { s with free := s.free ++ names.filter fun id => !s.bound.contains id && !s.free.contains id }

/-- Takes note of names that are bound. -/
def bind (s : FreeNames) (names : List String) : FreeNames := { s with bound := names ++ s.bound }

/-- Leaves a scope: its bindings are forgotten. -/
def leave (outer inner : FreeNames) : FreeNames := { inner with bound := outer.bound }

/-- Takes note of the names that filters use. -/
def useFilters (s : FreeNames) (filters : List FilterCall) : FreeNames :=
  filters.foldl (fun s f => s.use (Arg.namesOf f.args)) s

/-- Takes note of the parameters and the defaults of a macro. -/
def enter (s : FreeNames) (params : List String) (defaults : List Expr) : FreeNames :=
  (s.bind params).use (Expr.namesOf defaults)

end FreeNames

mutual

/-- The names that a pattern binds. -/
def Pattern.bound : Pattern → List String
  | .name id => [id]
  | .row items _ => Pattern.boundOf items
  | .field _ _ => []
termination_by structural p => p

/-- The names that patterns bind. -/
def Pattern.boundOf : List Pattern → List String
  | [] => []
  | p :: rest => p.bound ++ Pattern.boundOf rest
termination_by structural ps => ps

end

mutual

/-- The names that a pattern uses: those of the objects whose fields it sets. -/
def Pattern.used : Pattern → List String
  | .name _ => []
  | .row items _ => Pattern.usedOf items
  | .field object _ => object.names
termination_by structural p => p

/-- The names that patterns use. -/
def Pattern.usedOf : List Pattern → List String
  | [] => []
  | p :: rest => p.used ++ Pattern.usedOf rest
termination_by structural ps => ps

end

/-- Takes note of a pattern. -/
def FreeNames.pattern (s : FreeNames) (p : Pattern) : FreeNames := (s.use p.used).bind p.bound

mutual

/-- Takes note of the names in a statement. -/
def Stmt.freeNames (s : FreeNames) : Stmt → FreeNames
  | .text _ => s
  | .print value => s.use value.names
  | .forEach target items keep _ body otherwise =>
    let inside := ((s.bind ["loop"]).use items.names).pattern target
    let inside := inside.use (Expr.namesOfOption keep)
    let s := s.leave (Stmt.freeNamesOf inside body)
    s.leave (Stmt.freeNamesOf s otherwise)
  | .choose test yes no =>
    let s := s.use test.names
    let s := s.leave (Stmt.freeNamesOf s yes)
    s.leave (Stmt.freeNamesOf s no)
  | .scope bindings body =>
    let inside := bindings.foldl (fun s (target, value) => (s.pattern target).use value.names) s
    s.leave (Stmt.freeNamesOf inside body)
  | .assign target value => (s.pattern target).use value.names
  | .capture target filters body =>
    let s := (s.pattern target).useFilters filters
    s.leave (Stmt.freeNamesOf s body)
  | .escaping mode body =>
    let s := s.use mode.names
    s.leave (Stmt.freeNamesOf s body)
  | .filtered filters body =>
    let s := s.useFilters filters
    s.leave (Stmt.freeNamesOf s body)
  | .block _ body => s.leave (Stmt.freeNamesOf s body)
  | .load source _ => s.use source.names
  | .define head body =>
    Stmt.freeNamesOf ((s.bind [head.name]).enter head.params head.defaults) body
  | .callWith callee args _ head body =>
    Stmt.freeNamesOf ((s.use (callee.names ++ Arg.namesOf args)).enter head.params head.defaults)
      body
  | .perform callee args _ => s.use (callee.names ++ Arg.namesOf args)
  | .stop => s
  | .next => s
termination_by structural x => x

/-- Takes note of the names in statements. -/
def Stmt.freeNamesOf (s : FreeNames) : List Stmt → FreeNames
  | [] => s
  | x :: rest => Stmt.freeNamesOf (x.freeNames s) rest
termination_by structural xs => xs

end

/-- The head of a macro with the given parameters, defaults and body. The word `caller` is not looked
up around the macro: it is given with the call. -/
def MacroHead.make (name : String) (params : List String) (defaults : List Expr)
    (body : List Stmt) : MacroHead :=
  let free := (Stmt.freeNamesOf ((FreeNames.mk [] []).enter params defaults) body).free
  { name, params, defaults
    free := free.filter (· ≠ "caller")
    callsBack := free.contains "caller" }

end Scaffold.Template
