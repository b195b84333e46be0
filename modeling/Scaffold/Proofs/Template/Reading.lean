import Mathlib.Data.List.Forall2
import Scaffold.Proofs.Template.Scanning
import Scaffold.Template.Tree.Statement

/-!
# Reading placeholders

A reader takes tokens from a cursor. `Reads p c a c'` says that from `c` it gives `a` and goes on to `c'`,
and `Reads.bind` puts readers in sequence. An expression has a reader for each strength of operators, and
each of them looks for a sign or a word of its own behind the operand that it was given. A name in front of
the closing marker has none, so it passes all of them as it is (`reads_anyExpression`). Only the words that
stand for a value and the word `not` are no names there (`IsVariable`).

The statements of a template are read in rounds. `ReadsSegments` is what the rounds over the tokens of
segments do, and by it these tokens are read to the end, each segment as one statement
(`ofLexemes_segments`).
-/

namespace Scaffold.Template

open Scaffold.Template.Parser

/-- From the first cursor the reader gives the result, and goes on to the second one. -/
def Reads {α : Type} (p : Parser α) (c : Cursor) (a : α) (c' : Cursor) : Prop := p.run c = .ok (a, c')

/-- The cursor behind a token. -/
def Cursor.advance (c : Cursor) (x : Lexeme) (rest : List Lexeme) : Cursor :=
  { c with tokens := rest, line := x.line }

variable {α β : Type} {p : Parser α} {c c' c'' : Cursor} {a : α} {x : Lexeme} {rest : List Lexeme}

/-! ## Sequences and single tokens -/

theorem reads_pure (a : α) (c : Cursor) : Reads (pure a) c a c := rfl

theorem Reads.bind {f : α → Parser β} {b : β} (first : Reads p c a c') (behind : Reads (f a) c' b c'') :
    Reads (p >>= f) c b c'' := by
  unfold Reads at first behind ⊢
  rw [StateT.run_bind, first]
  exact behind

theorem reads_peek (sees : c.tokens = x :: rest) : Reads peek c (some x.token) c := by
  obtain ⟨tokens, fault, line, inLoop, inMacro, blockNames, blocks⟩ := c
  cases sees
  rfl

theorem reads_next (sees : c.tokens = x :: rest) : Reads next c (some x.token) (c.advance x rest) := by
  obtain ⟨tokens, fault, line, inLoop, inMacro, blockNames, blocks⟩ := c
  cases sees
  rfl

/-- At the end of a scan that ended well there is no token. -/
theorem reads_next_end (ends : c.tokens = []) (sound : c.fault = none) : Reads next c none c := by
  obtain ⟨tokens, fault, line, inLoop, inMacro, blockNames, blocks⟩ := c
  cases ends
  cases sound
  rfl

theorem reads_nextLine (sees : c.tokens = x :: rest) : Reads nextLine c x.line c := by
  obtain ⟨tokens, fault, line, inLoop, inMacro, blockNames, blocks⟩ := c
  cases sees
  rfl

/-- A token is not skipped if another one is asked for. -/
theorem reads_skip_other (sees : c.tokens = x :: rest) {t : Token} (other : x.token ≠ t) :
    Reads (skip t) c false c := by
  refine (reads_peek sees).bind ?_
  rw [if_neg fun same => other (Option.some.inj same)]
  exact reads_pure false c

theorem reads_sees_other (sees : c.tokens = x :: rest) {t : Token} (other : x.token ≠ t) :
    Reads (Parser.sees t) c false c := by
  refine (reads_peek sees).bind ?_
  rw [decide_eq_false fun same => other (Option.some.inj same)]
  exact reads_pure false c

theorem reads_expect (sees : c.tokens = x :: rest) : Reads (expect x.token) c () (c.advance x rest) := by
  refine (reads_next sees).bind ?_
  rw [if_neg (not_not_intro rfl)]
  exact reads_pure () _

/-! ## Rounds -/

section Rounds

variable {step : α → Parser (Option α)} {b d : α} {fuel : Nat}

theorem reads_iterate_stop (stops : Reads (step a) c none c') :
    Reads (iterate step (fuel + 1) a) c a c' := stops.bind (reads_pure a c')

theorem reads_iterate_next (goes : Reads (step a) c (some b) c')
    (later : Reads (iterate step fuel b) c' d c'') : Reads (iterate step (fuel + 1) a) c d c'' :=
  goes.bind later

/-- There are more rounds than tokens. -/
theorem reads_repeated (read : Reads (iterate step (c.tokens.length + 1) a) c b c') :
    Reads (repeated step a) c b c' := read

theorem reads_repeated_stop (stops : Reads (step a) c none c') : Reads (repeated step a) c a c' :=
  reads_repeated (reads_iterate_stop stops)

end Rounds

/-! ## Operators

Behind the operand stands the closing marker, which is no operator of any strength. -/

section Operators

variable {operand : Parser Expr} {e : Expr}

section Behind

variable (read : Reads operand c e c') (closes : c'.tokens = x :: rest) (closing : x.token = .closePrint)

include read closes closing

theorem reads_leftChain {op? : Token → Option BinaryOp} (noOp : op? .closePrint = none) :
    Reads (leftChain op? operand) c e c' := by
  refine read.bind (reads_repeated_stop ((reads_peek closes).bind ?_))
  rw [closing, Option.bind_some, noOp]
  exact reads_pure none c'

theorem reads_wordChain (word : String) (join : Expr → Expr → Expr) :
    Reads (wordChain word join operand) c e c' := by
  refine read.bind (reads_repeated_stop ((reads_skip_other closes ?_).bind (reads_pure none c')))
  rw [closing]
  exact Token.noConfusion

theorem reads_comparison : Reads (comparison operand) c e c' := by
  refine read.bind (reads_repeated_stop ((reads_peek closes).bind ?_))
  have noWord : x.token ≠ .name "not" := by
    rw [closing]
    exact Token.noConfusion
  rw [closing]
  exact (reads_skip_other closes noWord).bind (reads_pure none c')

end Behind

variable {sub : SubExpression} {depth line : Nat}

theorem reads_accesses (closes : c.tokens = x :: rest) (closing : x.token = .closePrint) :
    Reads (accesses sub depth line e) c e c := by
  have other (s : Sign) : x.token ≠ .sign s := by
    rw [closing]
    exact Token.noConfusion
  refine reads_repeated_stop ((reads_skip_other closes (other .dot)).bind ?_)
  refine (reads_skip_other closes (other .openBracket)).bind ?_
  exact (reads_sees_other closes (other .openParen)).bind (reads_pure none c)

theorem reads_filters {tight : Parser Expr} (closes : c.tokens = x :: rest)
    (closing : x.token = .closePrint) : Reads (filters sub depth tight e) c e c := by
  have noBar : x.token ≠ .sign .bar := by
    rw [closing]
    exact Token.noConfusion
  have noWord : x.token ≠ .name "is" := by
    rw [closing]
    exact Token.noConfusion
  refine reads_repeated_stop ((reads_skip_other closes noBar).bind ?_)
  exact (reads_skip_other closes noWord).bind (reads_pure none c)

end Operators

/-! ## Names -/

/-- The word is read as a name where an operand is asked for: it stands for no value of its own, and it is not
the operator in front of operands. -/
structure IsVariable (id : String) : Prop where
  value : wordLiteral? id = none
  operator : id ≠ "not"

instance (id : String) : Decidable (IsVariable id) :=
  decidable_of_iff ((wordLiteral? id).isNone = true ∧ id ≠ "not")
    ⟨fun ⟨value, operator⟩ => ⟨Option.isNone_iff_eq_none.1 value, operator⟩,
      fun fine => ⟨Option.isNone_iff_eq_none.2 fine.value, fine.operator⟩⟩

section Names

variable {id : String} {line depth : Nat} {sub : SubExpression} {tight : Parser Expr} {e : Expr}

theorem reads_denial (sees : c.tokens = ⟨.name id, line⟩ :: rest) (isName : IsVariable id)
    (read : Reads tight c e c') : Reads (denial tight) c e c' := by
  have other : Token.name id ≠ .name "not" := fun same => isName.operator (Token.name.inj same)
  have stops : Reads (repeated (fun n => do
      if ← skipName "not" then return some (n + 1) else return none) 0) c 0 c :=
    reads_repeated_stop ((reads_skip_other sees other).bind (reads_pure none c))
  exact stops.bind (read.bind (reads_pure e c'))

theorem reads_signed (sees : c.tokens = ⟨.name id, line⟩ :: rest) (read : Reads tight c e c') :
    Reads (signed tight) c e c' := by
  have stops : Reads (repeated (fun lines => do
      if ← skipSign .minus then return some ((← get).line :: lines) else return none) []) c [] c :=
    reads_repeated_stop ((reads_skip_other sees Token.noConfusion).bind (reads_pure none c))
  exact stops.bind (read.bind (reads_pure e c'))

theorem reads_primary (sees : c.tokens = ⟨.name id, line⟩ :: rest) (isName : IsVariable id)
    (shallow : depth < maxNesting) :
    Reads (primary sub depth) c (.name id line) (c.advance ⟨.name id, line⟩ rest) := by
  have here : Reads (get : Parser Cursor) (c.advance ⟨.name id, line⟩ rest)
      (c.advance ⟨.name id, line⟩ rest) (c.advance ⟨.name id, line⟩ rest) := rfl
  unfold primary
  rw [if_neg (Nat.not_le_of_lt shallow)]
  refine (reads_next sees).bind (here.bind ?_)
  dsimp only
  rw [isName.value]
  exact reads_pure _ _

variable (sees : c.tokens = ⟨.name id, line⟩ :: x :: rest) (closing : x.token = .closePrint)
  (isName : IsVariable id) (shallow : depth < maxNesting)

include sees closing isName shallow

theorem reads_operand :
    Reads (operand sub depth) c (.name id line) (c.advance ⟨.name id, line⟩ (x :: rest)) := by
  have tight : Reads (tightOperand sub depth) c (.name id line)
      (c.advance ⟨.name id, line⟩ (x :: rest)) :=
    (reads_nextLine sees).bind ((reads_signed sees (reads_primary sees isName shallow)).bind
      (reads_accesses rfl closing))
  exact tight.bind (reads_filters rfl closing)

theorem reads_disjunction :
    Reads (disjunction sub depth) c (.name id line) (c.advance ⟨.name id, line⟩ (x :: rest)) := by
  have power : Reads (leftChain powerOp? (operand sub depth)) c _ _ :=
    reads_leftChain (reads_operand sees closing isName shallow) rfl closing rfl
  have product : Reads (leftChain productOp? _) c _ _ := reads_leftChain power rfl closing rfl
  have concat : Reads (leftChain concatOp? _) c _ _ := reads_leftChain product rfl closing rfl
  have sum : Reads (leftChain sumOp? _) c _ _ := reads_leftChain concat rfl closing rfl
  have denied := reads_denial sees isName (reads_comparison sum rfl closing)
  exact reads_wordChain (reads_wordChain denied rfl closing _ _) rfl closing _ _

/-- A name in front of the closing marker is an expression, and all of it is read. -/
theorem reads_anyExpression :
    Reads (anyExpression depth) c (.name id line) (c.advance ⟨.name id, line⟩ (x :: rest)) := by
  have count : Reads remaining c c.tokens.length c := rfl
  have noWord : x.token ≠ .name "if" := by
    rw [closing]
    exact Token.noConfusion
  refine count.bind ((reads_disjunction sees closing isName shallow).bind (reads_repeated_stop ?_))
  exact (reads_skip_other rfl noWord).bind (reads_pure none _)

end Names

/-! ## Statements -/

namespace Segment

/-- The statement that the tokens of a segment are read as. -/
inductive ReadAs : Segment → Stmt → Prop
  | literal (text : String) : ReadAs (.literal text) (.text text)
  | placeholder (before name after : String) (line : Nat) :
    ReadAs (.placeholder before name after) (.print (.name name line))

/-- A name that is no reserved word stands for a variable. -/
theorem WF.isVariable {before name after : String} (fine : (placeholder before name after).WF) :
    IsVariable name := by
  obtain ⟨-, ⟨-, free⟩, -⟩ := fine
  have other (word : String) (reserved : word ∈ reservedWords) : name ≠ word :=
    fun same => free (same ▸ reserved)
  refine ⟨?value, other "not" (by decide)⟩
  case value =>
    unfold wordLiteral?
    split
    all_goals first
      | rfl
      | exact absurd rfl (other _ (by decide))

end Segment

/-- What a round over statements does with the tokens of a segment, and at the end. -/
structure ReadsSegments (step : Bool × List Stmt → Parser (Option (Bool × List Stmt))) : Prop where
  text {c : Cursor} {s : String} {line : Nat} {rest : List Lexeme} (found : List Stmt) :
    c.tokens = ⟨.text s, line⟩ :: rest →
      Reads (step (false, found)) c (some (false, .text s :: found)) (c.advance ⟨.text s, line⟩ rest)
  print {c : Cursor} {id : String} {line line' line'' : Nat} {rest : List Lexeme} (found : List Stmt) :
    c.tokens = ⟨.openPrint, line⟩ :: ⟨.name id, line'⟩ :: ⟨.closePrint, line''⟩ :: rest →
      IsVariable id → Reads (step (false, found)) c (some (false, .print (.name id line') :: found))
        (c.advance ⟨.closePrint, line''⟩ rest)
  done {c : Cursor} (found : List Stmt) :
    c.tokens = [] → c.fault = none → Reads (step (false, found)) c none c

section Statements

variable {step : Bool × List Stmt → Parser (Option (Bool × List Stmt))} {segments : List Segment}

/-- Each round reads one segment. -/
theorem ReadsSegments.iterate (reads : ReadsSegments step) (fine : ∀ s ∈ segments, s.WF)
    (sees : c.tokens.map Lexeme.token = segments.flatMap Segment.tokens) (sound : c.fault = none)
    {fuel : Nat} (enough : c.tokens.length < fuel) (found : List Stmt) :
    ∃ stmts c', List.Forall₂ Segment.ReadAs segments stmts ∧ c'.blocks = c.blocks ∧
      Reads (Parser.iterate step fuel (false, found)) c (false, stmts.reverse ++ found) c' := by
  obtain ⟨fuel, rfl⟩ : ∃ n, fuel = n + 1 := ⟨fuel - 1, by omega⟩
  induction segments generalizing c fuel found with
  | nil =>
    have ends : c.tokens = [] := List.map_eq_nil_iff.1 sees
    exact ⟨[], c, .nil, rfl, reads_iterate_stop (reads.done found ends sound)⟩
  | cons s segments ih =>
    have later : ∀ t ∈ segments, t.WF := fun t member => fine t (List.mem_cons_of_mem s member)
    have first := fine s List.mem_cons_self
    rw [List.flatMap_cons] at sees
    -- a segment has a token at least, so there is a round for the rest
    cases s with
    | literal text =>
      obtain ⟨⟨_, line⟩, rest, begins, rfl, behind⟩ := List.map_eq_cons_iff.1 sees
      rw [begins, List.length_cons] at enough
      obtain ⟨fuel, rfl⟩ : ∃ n, fuel = n + 1 := ⟨fuel - 1, by omega⟩
      obtain ⟨stmts, c', read, kept, goesOn⟩ := @ih (c.advance ⟨.text text, line⟩ rest) later behind
        sound (.text text :: found) fuel (Nat.lt_of_succ_lt_succ enough)
      refine ⟨.text text :: stmts, c', .cons (.literal text) read, kept,
        reads_iterate_next (reads.text found begins) ?_⟩
      rwa [List.reverse_cons, List.append_assoc]
    | placeholder before name after =>
      obtain ⟨⟨_, line⟩, _, begins, rfl, second⟩ := List.map_eq_cons_iff.1 sees
      obtain ⟨⟨_, line'⟩, _, rfl, rfl, third⟩ := List.map_eq_cons_iff.1 second
      obtain ⟨⟨_, line''⟩, rest, rfl, rfl, behind⟩ := List.map_eq_cons_iff.1 third
      rw [begins, List.length_cons, List.length_cons, List.length_cons] at enough
      obtain ⟨fuel, rfl⟩ : ∃ n, fuel = n + 1 := ⟨fuel - 1, by omega⟩
      obtain ⟨stmts, c', read, kept, goesOn⟩ := @ih (c.advance ⟨.closePrint, line''⟩ rest) later behind
        sound (.print (.name name line') :: found) fuel (by dsimp only [Cursor.advance]; omega)
      refine ⟨.print (.name name line') :: stmts, c', .cons (.placeholder before name after line') read,
        kept, reads_iterate_next (reads.print found begins first.isVariable) ?_⟩
      rwa [List.reverse_cons, List.append_assoc]

/-- So all rounds read all segments. -/
theorem ReadsSegments.reads (reads : ReadsSegments step) (fine : ∀ s ∈ segments, s.WF)
    (sees : c.tokens.map Lexeme.token = segments.flatMap Segment.tokens) (sound : c.fault = none) :
    ∃ stmts c', List.Forall₂ Segment.ReadAs segments stmts ∧ c'.blocks = c.blocks ∧
      Reads (do let (_, found) ← repeated step (false, []); return found.reverse) c stmts c' := by
  obtain ⟨stmts, c', read, kept, goesOn⟩ := reads.iterate fine sees sound (Nat.lt_succ_self _) []
  refine ⟨stmts, c', read, kept, (reads_repeated goesOn).bind ?_⟩
  dsimp only
  rw [List.append_nil, List.reverse_reverse]
  exact reads_pure stmts c'

/-- The tokens of segments are read as statements, outside of any body. -/
theorem reads_statements (fine : ∀ s ∈ segments, s.WF)
    (sees : c.tokens.map Lexeme.token = segments.flatMap Segment.tokens) (sound : c.fault = none)
    (fuel : Nat) :
    ∃ stmts c', List.Forall₂ Segment.ReadAs segments stmts ∧ c'.blocks = c.blocks ∧
      Reads (statements (fuel + 1) 0 []) c stmts c' := by
  rw [statements]
  refine ReadsSegments.reads ⟨?text, ?print, ?done⟩ fine sees sound
  case text =>
    intro c s line rest found sees
    exact (reads_next sees).bind (reads_pure _ _)
  case print =>
    intro c id line line' line'' rest found sees isName
    refine (reads_next sees).bind ((reads_anyExpression rfl rfl isName (by decide)).bind ?_)
    exact (reads_expect (x := ⟨.closePrint, line''⟩) rfl).bind (reads_pure _ _)
  case done =>
    intro c found ends sound
    exact (reads_next_end ends sound).bind (reads_pure none c)

/-- **Reading segments.** The tokens of segments are a tree without blocks, with one statement for each
segment. -/
theorem ofLexemes_segments (fine : ∀ s ∈ segments, s.WF) {lexemes : Lexemes}
    (holds : lexemes.Holds (segments.flatMap Segment.tokens)) :
    ∃ stmts, List.Forall₂ Segment.ReadAs segments stmts ∧
      Tree.ofLexemes lexemes = .ok ⟨stmts, []⟩ := by
  let start : Cursor := ⟨lexemes.tokens, lexemes.fault, 1, false, false, [], []⟩
  obtain ⟨stmts, c', read, kept, reads⟩ := @reads_statements start segments fine holds.tokens holds.fault
    lexemes.tokens.length
  refine ⟨stmts, read, ?_⟩
  have ran : Tree.ofLexemes lexemes = .ok ⟨stmts, c'.blocks⟩ := by
    unfold Tree.ofLexemes
    dsimp only
    rw [reads]
    rfl
  rw [ran, kept]

end Statements

end Scaffold.Template
