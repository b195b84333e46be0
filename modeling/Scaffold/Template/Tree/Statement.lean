import Scaffold.Template.Tree.Expression
import Scaffold.Template.Tree.FreeNames

/-!
# Reading statements

A statement with a body ends at a tag of its own; the body is read by `statements`, which stops in
front of the word that ends it. `Tree.read` reads a whole source.
-/

namespace Scaffold.Template

open Scaffold.Template.Parser

/-- A reader of a body up to one of the given words. -/
abbrev BodyReader := List String → Parser (List Stmt)

/-! ## Targets of bindings -/

/-- Names that cannot be bound. -/
def reservedNames : List String :=
  ["true", "True", "false", "False", "none", "None", "loop", "self"]

/-- A name that can be bound. -/
def bindableName : Parser String := do
  let id ← expectName
  if reservedNames.contains id then refuse else return id

/-- A name, or the field of an object when dots follow. -/
def dottedTarget : Parser Pattern := do
  let id ← bindableName
  let line := (← get).line
  let fields ← repeated (fun fields => do
    if ← skipSign .dot then return some ((← expectName) :: fields) else return none) []
  match fields with
  | [] => return .name id
  | last :: inner => return .field (inner.reverse.foldl .field (.name id line)) last

/-- Whether a token ends a row of targets. -/
def endsTargets : Token → Bool
  | .sign .closeParen | .closePrint | .closeTag | .name "in" => true
  | _ => false

/-- One target, or several between commas. A single one behind which no comma stands is itself. -/
def rowTarget : Nat → Parser Pattern
  | 0 => refuse
  | fuel + 1 => do
    let line ← nextLine
    let (_, isRow, found) ← repeated (fun (isDone, isRow, found) => do
      if isDone then return none
      if !found.isEmpty then expect (.sign .comma)
      if (← peek).any endsTargets then return some (true, isRow, found)
      let target ←
        if ← skipSign .openParen then
          let inner ← rowTarget fuel
          expect (.sign .closeParen)
          pure inner
        else Pattern.name <$> bindableName
      let more ← sees (.sign .comma)
      return some (!more, isRow || more, target :: found)) (false, false, [])
    match isRow, found with
    | false, [target] => return target
    | _, _ => return .row found.reverse line

/-- The target of a loop or of a parenthesis. -/
def target : Parser Pattern := do rowTarget ((← remaining) + 1)

/-! ## Filters applied to a body -/

/-- Filters between bars, up to the end of the tag. -/
def filterChain (depth : Nat) : Parser (List FilterCall) := do
  let found ← repeated (fun found => do
    if ← sees .closeTag then return none
    if !found.isEmpty then expect (.sign .bar)
    let id ← expectName
    let line := (← get).line
    let args ← optionalArguments (expression ((← remaining) + 1)) depth
    return some (⟨id, args, line⟩ :: found)) []
  if found.isEmpty then refuse else return found.reverse

/-! ## Statements -/

/-- A loop. -/
def forStatement (body : BodyReader) (depth : Nat) : Parser Stmt := do
  let outer := (← get).inLoop
  modify ({ · with inLoop := true })
  let target ← target
  expect (.name "in")
  let items ← plainExpression depth
  let keep ← if ← skipName "if" then some <$> anyExpression depth else pure none
  let recursive ← skipName "recursive"
  expect .closeTag
  let inner ← body ["endfor", "else"]
  let otherwise ←
    if ← skipName "else" then
      expect .closeTag
      body ["endfor"]
    else pure []
  let _ ← next
  modify ({ · with inLoop := outer })
  return .forEach target items keep recursive inner otherwise

/-- A condition with its branches, behind the word that begins it. -/
def ifStatement (body : BodyReader) (depth : Nat) : Nat → Parser Stmt
  | 0 => refuse
  | fuel + 1 => do
    let test ← plainExpression depth
    expect .closeTag
    let yes ← body ["endif", "else", "elif"]
    match ← next with
    | some (.name "else") =>
      expect .closeTag
      let no ← body ["endif"]
      let _ ← next
      return .choose test yes no
    | some (.name "elif") => return .choose test yes [← ifStatement body depth fuel]
    | _ => return .choose test yes []

/-- A scope with bindings of its own. -/
def withStatement (body : BodyReader) (depth : Nat) : Parser Stmt := do
  let bindings ← repeated (fun bindings => do
    if ← sees .closeTag then return none
    if !bindings.isEmpty then expect (.sign .comma)
    let left ←
      if ← skipSign .openParen then
        let inner ← target
        expect (.sign .closeParen)
        pure inner
      else Pattern.name <$> bindableName
    expect (.sign .assign)
    return some ((left, ← anyExpression depth) :: bindings)) []
  expect .closeTag
  let inner ← body ["endwith"]
  let _ ← next
  return .scope bindings.reverse inner

/-- The target of a binding, and whether it may be bound to a body. -/
def setTarget : Parser (Pattern × Bool) := do
  if ← skipSign .openParen then
    let inner ← target
    expect (.sign .closeParen)
    return (inner, false)
  else
    let line ← nextLine
    let first ← dottedTarget
    if ← sees (.sign .comma) then
      let rest ← repeated (fun rest => do
        if ← skipSign .comma then
          if ← sees (.sign .assign) then return none
          return some ((← dottedTarget) :: rest)
        else return none) []
      return (.row (first :: rest.reverse) line, false)
    else return (first, true)

/-- A binding to a value or to a body. -/
def setStatement (body : BodyReader) (depth : Nat) : Parser Stmt := do
  let (left, single) ← setTarget
  if single && ((← sees .closeTag) || (← sees (.sign .bar))) then
    let filters ← if ← skipSign .bar then filterChain depth else pure []
    expect .closeTag
    let inner ← body ["endset"]
    let _ ← next
    return .capture left filters inner
  else
    expect (.sign .assign)
    return .assign left (← anyExpression depth)

/-- A change of the escaping. -/
def escapingStatement (body : BodyReader) (depth : Nat) : Parser Stmt := do
  let mode ← anyExpression depth
  expect .closeTag
  let inner ← body ["endautoescape"]
  let _ ← next
  return .escaping mode inner

/-- Filters applied to a body. -/
def filterStatement (body : BodyReader) (depth : Nat) : Parser Stmt := do
  let filters ← filterChain depth
  expect .closeTag
  let inner ← body ["endfilter"]
  let _ ← next
  return .filtered filters inner

/-- A block. Its name is its own, and may be repeated at its end. -/
def blockStatement (body : BodyReader) : Parser Stmt := do
  if (← get).inMacro then refuse
  let outer := (← get).inLoop
  modify ({ · with inLoop := false })
  let id ← expectName
  if (← get).blockNames.contains id then refuse
  modify fun c => { c with blockNames := id :: c.blockNames }
  expect .closeTag
  let inner ← body ["endblock"]
  let _ ← next
  match ← peek with
  | some (.name again) => if again ≠ id then refuse else let _ ← next
  | _ => pure ()
  modify fun c => { c with inLoop := outer, blocks := (id, inner) :: c.blocks }
  return .block id inner

/-- The words that say whether the context is shared, which change nothing. -/
def contextWords : Parser Unit := do
  if (← skipName "with") || (← skipName "without") then expect (.name "context")

/-- Another template in place of the statement. -/
def includeStatement (depth : Nat) : Parser Stmt := do
  let source ← anyExpression depth
  contextWords
  if ← skipName "ignore" then
    expect (.name "missing")
    contextWords
    return .load source true
  else return .load source false

/-- Another template under a name. -/
def importStatement (depth : Nat) : Parser Stmt := do
  let source ← anyExpression depth
  expect (.name "as")
  let _ ← anyExpression depth
  contextWords
  return .load source false

/-- Names from another template. -/
def fromStatement (depth : Nat) : Parser Stmt := do
  let source ← anyExpression depth
  expect (.name "import")
  let atEnd : Parser Bool := do
    return (← sees .closeTag) || (← sees (.name "with")) || (← sees (.name "without"))
  let _ ← repeated (fun count => do
    if ← atEnd then return none
    if count > 0 then expect (.sign .comma)
    if ← atEnd then return none
    let _ ← bindableName
    if ← skipName "as" then
      let _ ← bindableName
    return some (count + 1)) 0
  contextWords
  return .load source false

/-- The parameters of a macro behind the opening parenthesis, and the defaults of the last of them. -/
def parameters (depth : Nat) : Parser (List String × List Expr) := do
  let (_, params, defaults) ← repeated (fun (isDone, params, defaults) => do
    if isDone then return none
    if ← skipSign .closeParen then return some (true, params, defaults)
    if !params.isEmpty then
      expect (.sign .comma)
      if ← skipSign .closeParen then return some (true, params, defaults)
    let id ← bindableName
    if ← skipSign .assign then return some (false, id :: params, (← anyExpression depth) :: defaults)
    else
      if !defaults.isEmpty then expect (.sign .assign)
      return some (false, id :: params, defaults)) (false, [], [])
  return (params.reverse, defaults.reverse)

/-- The body of a macro, up to the given word. -/
def macroBody (body : BodyReader) (word : String) : Parser (List Stmt) := do
  expect .closeTag
  let outer ← get
  modify ({ · with inLoop := false, inMacro := true })
  let inner ← body [word]
  modify ({ · with inLoop := outer.inLoop, inMacro := outer.inMacro })
  let _ ← next
  return inner

/-- The definition of a macro. -/
def macroStatement (body : BodyReader) (depth : Nat) : Parser Stmt := do
  let id ← expectName
  expect (.sign .openParen)
  let (params, defaults) ← parameters depth
  let inner ← macroBody body "endmacro"
  return .define (.make id params defaults inner) inner

/-- A call with a body that the called macro may call back. -/
def callStatement (body : BodyReader) (depth : Nat) : Parser Stmt := do
  let (params, defaults) ←
    if ← skipSign .openParen then parameters depth else pure ([], [])
  match ← anyExpression depth with
  | .call callee args line =>
    let inner ← macroBody body "endcall"
    return .callWith callee args line (.make "caller" params defaults inner) inner
  | _ => refuse

/-- A call whose value is not printed. -/
def doStatement (depth : Nat) : Parser Stmt := do
  match ← anyExpression depth with
  | .call callee args line => return .perform callee args line
  | _ => refuse

/-- A statement that only a loop may hold. -/
def loopStatement (s : Stmt) : Parser Stmt := do
  if (← get).inLoop then return s else refuse

/-- A statement, behind the marker that opens its tag. -/
def statement (body : BodyReader) (depth : Nat) : Parser Stmt := do
  match ← next with
  | some (.name word) =>
    match word with
    | "for" => forStatement body depth
    | "if" => ifStatement body depth ((← remaining) + 1)
    | "with" => withStatement body depth
    | "set" => setStatement body depth
    | "autoescape" => escapingStatement body depth
    | "filter" => filterStatement body depth
    | "block" => blockStatement body
    | "extends" => return .load (← anyExpression depth) false
    | "include" => includeStatement depth
    | "import" => importStatement depth
    | "from" => fromStatement depth
    | "macro" => macroStatement body depth
    | "call" => callStatement body depth
    | "do" => doStatement depth
    | "break" => loopStatement .stop
    | "continue" => loopStatement .next
    | _ => refuse
  | _ => refuse

/-- Statements up to a tag that begins with one of the given words, or up to the end: how many bodies
may still be entered, and the nesting reached. -/
def statements : Nat → Nat → BodyReader
  | 0, _, _ => refuse
  | fuel + 1, depth, words => do
    let (_, found) ← repeated (fun (isDone, found) => do
      if isDone then return none
      match ← next with
      | none => return none
      | some (.text s) => return some (false, .text s :: found)
      | some .openPrint =>
        let value ← anyExpression depth
        expect .closePrint
        return some (false, .print value :: found)
      | some .openTag =>
        match ← peek with
        | none => refuse
        | some token =>
          if words.any (token = .name ·) then return some (true, found)
          else if depth ≥ maxNesting then refuse
          else
            let s ← statement (statements fuel (depth + 1)) (depth + 1)
            expect .closeTag
            return some (false, s :: found)
      | some _ => refuse) (false, [])
    return found.reverse

/-- The tree of the given tokens. -/
def Tree.ofLexemes (lexemes : Lexemes) : Except Fault Tree := do
  let start : Cursor := ⟨lexemes.tokens, lexemes.fault, 1, false, false, [], []⟩
  let (body, finish) ← (statements (lexemes.tokens.length + 1) 0 []).run start
  return ⟨body, finish.blocks⟩

end Scaffold.Template
