import Scaffold.Template.Tree.Cursor

/-!
# Reading expressions

From the loosest to the tightest: a choice between two values, `or`, `and`, `not`, comparisons, sums,
joined texts, products, powers, the minus sign, accesses and calls, filters and tests. All operators
with two operands group to the left.

`expression` is given how many nested expressions it may still enter, which the number of tokens
bounds, and how deeply brackets are nested so far, which has a limit of its own.
-/

namespace Scaffold.Template

open Scaffold.Template.Parser

/-- How deeply brackets and statements may be nested. -/
def maxNesting : Nat := 150

/-- How many arguments a call may have. -/
def maxArguments : Nat := 2000

/-- A reader of an expression inside another one: whether a choice may stand there, and the nesting
reached. -/
abbrev SubExpression := Bool → Nat → Parser Expr

/-! ## Operators -/

/-- Operands joined by operators of one strength. -/
def leftChain (op? : Token → Option BinaryOp) (operand : Parser Expr) : Parser Expr := do
  let first ← operand
  repeated (fun left => do
    match (← peek).bind op? with
    | none => return none
    | some op =>
      let _ ← next
      return some (.binary op left (← operand))) first

/-- The operators of sums. -/
def sumOp? : Token → Option BinaryOp
  | .sign .plus => some .add
  | .sign .minus => some .sub
  | _ => none

/-- The operator that joins texts. -/
def concatOp? : Token → Option BinaryOp
  | .sign .tilde => some .concat
  | _ => none

/-- The operators of products. -/
def productOp? : Token → Option BinaryOp
  | .sign .times => some .mul
  | .sign .divide => some .div
  | .sign .floorDivide => some .floorDiv
  | .sign .percent => some .rem
  | _ => none

/-- The operator of powers. -/
def powerOp? : Token → Option BinaryOp
  | .sign .power => some .pow
  | _ => none

/-- The operators of comparisons. -/
def compareOp? : Token → Option BinaryOp
  | .sign .eq => some .eq
  | .sign .ne => some .ne
  | .sign .lt => some .lt
  | .sign .le => some .le
  | .sign .gt => some .gt
  | .sign .ge => some .ge
  | .name "in" => some .within
  | _ => none

/-- Operands joined by one of the words `and` and `or`. -/
def wordChain (word : String) (join : Expr → Expr → Expr) (operand : Parser Expr) :
    Parser Expr := do
  let first ← operand
  repeated (fun left => do
    if ← skipName word then return some (join left (← operand)) else return none) first

/-- Comparisons; `not in` denies a containment. -/
def comparison (operand : Parser Expr) : Parser Expr := do
  let first ← operand
  repeated (fun left => do
    match (← peek).bind compareOp? with
    | some op =>
      let _ ← next
      return some (.binary op left (← operand))
    | none =>
      if ← skipName "not" then
        expect (.name "in")
        return some (.negation (.binary .within left (← operand)))
      else return none) first

/-- An operand behind any number of the word `not`. -/
def denial (operand : Parser Expr) : Parser Expr := do
  let count ← repeated (fun n => do
    if ← skipName "not" then return some (n + 1) else return none) 0
  return Nat.repeat .negation count (← operand)

/-- An operand behind any number of minus signs. -/
def signed (operand : Parser Expr) : Parser Expr := do
  let lines ← repeated (fun lines => do
    if ← skipSign .minus then return some ((← get).line :: lines) else return none) []
  return lines.foldl .minus (← operand)

/-! ## Arguments, accesses, filters and tests -/

/-- The arguments of a call, from the opening parenthesis on. A named argument, or a spread of named
ones, ends the plain ones. -/
def arguments (sub : SubExpression) (depth : Nat) : Parser (List Arg) := do
  expect (.sign .openParen)
  let (_, args, _) ← repeated (fun (isDone, args, named) => do
    if isDone then return none
    else if ← skipSign .closeParen then return some (true, args, named)
    else
      if !args.isEmpty then
        expect (.sign .comma)
        if ← skipSign .closeParen then return some (true, args, named)
      let (arg, named) ← argument named
      let args := arg :: args
      if args.length > maxArguments then refuse
      return some (false, args, named)) (false, [], false)
  return args.reverse
where
  /-- One argument, and whether named ones have begun. -/
  argument (named : Bool) : Parser (Arg × Bool) := do
    if ← skipSign .power then return (.namedSpread (← sub true depth), true)
    else if ← skipSign .times then return (.spread (← sub true depth), named)
    else
      match ← sub true depth with
      | .name id line =>
        if ← skipSign .assign then return (.named id (← sub false depth), true)
        else if named then refuse
        else return (.plain (.name id line), named)
      | value => if named then refuse else return (.plain value, named)

/-- The arguments of a call, if there is a parenthesis. -/
def optionalArguments (sub : SubExpression) (depth : Nat) : Parser (List Arg) := do
  if ← sees (.sign .openParen) then arguments sub depth else return []

/-- What is called when an expression is followed by arguments. -/
def Callee.ofExpr : Expr → Callee
  | .name id _ => .function id
  | .field (.name "self" _) id => .block id
  | .field object id => .method object id
  | e => .value e

/-- What stands between square brackets behind an operand: an index or a slice. -/
def subscript (sub : SubExpression) (depth : Nat) (operand : Expr) : Parser Expr := do
  let start ← if ← sees (.sign .colon) then pure none else some <$> sub true depth
  if ← skipSign .colon then
    let atEnd := (← sees (.sign .closeBracket)) || (← sees (.sign .colon))
    let stop ← if atEnd then pure none else some <$> sub true depth
    let step ←
      if ← skipSign .colon then
        if ← sees (.sign .closeBracket) then pure none else some <$> sub true depth
      else pure none
    expect (.sign .closeBracket)
    return .slice operand start stop step
  else
    expect (.sign .closeBracket)
    match start with
    | some index => return .item operand index
    | none => refuse

/-- Accesses and calls behind an operand that begins on the given line. -/
def accesses (sub : SubExpression) (depth line : Nat) (operand : Expr) : Parser Expr :=
  repeated (fun operand => do
    if ← skipSign .dot then
      match ← next with
      | some (.name id) => return some (.field operand id)
      | some (.int n) => return some (.item operand (.literal (.int n) (← get).line))
      | _ => refuse
    else if ← skipSign .openBracket then return some (← subscript sub depth operand)
    else if ← sees (.sign .openParen) then
      return some (.call (.ofExpr operand) (← arguments sub depth) line)
    else return none) operand

/-- Whether a token begins an argument of a test that has no parentheses. -/
def beginsTestArgument : Token → Bool
  | .name id => !(["and", "or", "else", "is"].contains id)
  | .str _ | .int _ | .float _ => true
  | .sign s => [.plus, .minus, .openBracket, .openBrace].contains s
  | _ => false

/-- Filters and tests behind an operand. A test takes one argument without parentheses. -/
def filters (sub : SubExpression) (depth : Nat) (tight : Parser Expr) (operand : Expr) :
    Parser Expr :=
  repeated (fun operand => do
    if ← skipSign .bar then
      let id ← expectName
      return some (.filter operand id (← optionalArguments sub depth))
    else if ← skipName "is" then
      let denied ← skipName "not"
      let id ← expectName
      let args ←
        if ← sees (.sign .openParen) then arguments sub depth
        else if (← peek).any beginsTestArgument then
          let e ← tight
          pure [.plain e]
        else pure []
      let test := Expr.test operand id args
      return some (if denied then .negation test else test)
    else return none) operand

/-! ## Single operands -/

/-- Items between commas up to a closing sign; a comma may stand behind the last. -/
def items {α : Type} (close : Sign) (item : Parser α) : Parser (List α) := do
  let (_, found) ← repeated (fun (isDone, found) => do
    if isDone then return none
    else if ← skipSign close then return some (true, found)
    else
      if !found.isEmpty then
        expect (.sign .comma)
        if ← skipSign close then return some (true, found)
      return some (false, (← item) :: found)) (false, [])
  return found.reverse

/-- What an opening parenthesis holds: an expression, or a row if there is a comma or nothing. -/
def parenthesized (inner : Parser Expr) (line : Nat) : Parser Expr := do
  if ← skipSign .closeParen then return .list [] line
  else
    let first ← inner
    if ← skipSign .comma then return .list (first :: (← items .closeParen inner)) line
    else
      expect (.sign .closeParen)
      return first

/-- A name that stands for a value of its own. -/
def wordLiteral? : String → Option Literal
  | "true" | "True" => some (.bool true)
  | "false" | "False" => some (.bool false)
  | "none" | "None" => some .none
  | _ => none

/-- Strings in a row are one string. -/
def stringRow (s : String) : Parser String :=
  repeated (fun s => do
    match ← peek with
    | some (.str t) =>
      let _ ← next
      return some (s ++ t)
    | _ => return none) s

/-- A literal, a name, or brackets. The nesting reached is that of the brackets' inside. -/
def primary (sub : SubExpression) (depth : Nat) : Parser Expr := do
  if depth ≥ maxNesting then refuse
  else
    let inner := sub true (depth + 1)
    let token ← next
    let line := (← get).line
    match token with
    | some (.name id) =>
      match wordLiteral? id with
      | some value => return .literal value line
      | none => return .name id line
    | some (.str s) => return .literal (.str (← stringRow s)) line
    | some (.int n) => return .literal (.int n) line
    | some (.float x) => return .literal (.float x) line
    | some (.sign .openParen) => parenthesized inner line
    | some (.sign .openBracket) => return .list (← items .closeBracket inner) line
    | some (.sign .openBrace) =>
      let entry : Parser (Expr × Expr) := do
        let key ← inner
        expect (.sign .colon)
        return (key, ← inner)
      return .dict (← items .closeBrace entry) line
    | _ => refuse

/-- An operand with its minus signs and accesses, but without filters. -/
def tightOperand (sub : SubExpression) (depth : Nat) : Parser Expr := do
  let line ← nextLine
  accesses sub depth line (← signed (primary sub depth))

/-- An operand with its filters and tests. -/
def operand (sub : SubExpression) (depth : Nat) : Parser Expr := do
  filters sub depth (tightOperand sub depth) (← tightOperand sub depth)

/-- Everything but a choice. -/
def disjunction (sub : SubExpression) (depth : Nat) : Parser Expr :=
  wordChain "or" .either <| wordChain "and" .both <| denial <| comparison <|
    leftChain sumOp? <| leftChain concatOp? <| leftChain productOp? <| leftChain powerOp? <|
      operand sub depth

/-- An expression that may be a choice: `a if test else b`. -/
def choice (sub : SubExpression) (depth : Nat) : Parser Expr := do
  let first ← disjunction sub depth
  repeated (fun yes => do
    if ← skipName "if" then
      let test ← disjunction sub depth
      let no ← if ← skipName "else" then some <$> sub true depth else pure none
      return some (.choose test yes no)
    else return none) first

/-- An expression: how many nested ones may be entered, whether a choice may stand here, and the
nesting reached. -/
def expression : Nat → SubExpression
  | 0, _, _ => refuse
  | fuel + 1, conditional, depth =>
    if conditional then choice (expression fuel) depth else disjunction (expression fuel) depth

/-- An expression at a nesting. -/
def anyExpression (depth : Nat) : Parser Expr := do
  expression ((← remaining) + 1) true depth

/-- An expression that is no choice, at a nesting. -/
def plainExpression (depth : Nat) : Parser Expr := do
  expression ((← remaining) + 1) false depth

end Scaffold.Template
