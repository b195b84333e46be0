import Mathlib.Data.List.Perm.Subperm
import Scaffold.Proofs.Walk.Flat

/-!
# The moments of a walk

`walk` says how a walk ends; no statement about it can name what happens in between. A `Moment` is
the walk stopped between two steps: the level at work, and the levels that wait for it, each under
the tag of the expansion that it waits for. `Moment.advance` applies one step, goes into a pack, or
comes back from one.

* `exists_after_eq_ended`: the moments of a walk end after finitely many, with the result and the
  world of `walk`.
* `Nested`: the registry of each level is the one of the level around it without the tag in between.
  Every advance keeps it (`nested_advance`), so it holds at each moment, and the registry at work is
  the first one without the tags of the chain (`Nested.get?_eq`).
* `expansion_cut_at_recursion`: the walk is finite, no tag occurs twice in the chain, and a step is
  expanded just when its tag is registered at the beginning and not in the chain.
-/

namespace Scaffold

/-- Where a manifest is walked from, what it can expand, and the steps that are left of it. -/
structure Level where
  root : Path
  registry : Registry
  steps : List Step

/-- A walk between two steps. The level that waits for the one at work comes first. -/
structure Moment where
  level : Level
  waiting : List (String × Level)
  context : Context
  world : World

/-- What the next step makes of a moment. -/
inductive Progress where
  | going (m : Moment)
  | ended (result : Except Failure Context) (world : World)

namespace Moment

/-- The tags that are being expanded, the innermost first. -/
def chain (m : Moment) : List String := m.waiting.map Prod.fst

/-- The first moment of a walk. -/
def first (srcRoot : Path) (registry : Registry) (steps : List Step) (seed : Context)
    (world : World) : Moment :=
  ⟨⟨srcRoot, registry, steps⟩, [], seed, world⟩

/-- One step of the walk. A level without steps gives way to the one that waits for it. -/
def advance (renderer : Renderer) (destRoot : Path) (m : Moment) : Progress :=
  match m.level.steps with
  | [] =>
    match m.waiting with
    | [] => .ended (.ok m.context) m.world
    | (_, outer) :: waiting => .going { m with level := outer, waiting }
  | step :: steps =>
    let level := { m.level with steps }
    match (Run.apply renderer m.level.root destRoot step m.context).exec m.world with
    | (.error e, world) => .ended (.error e) world
    | (.ok none, world) => .going { m with level, world }
    | (.ok (some (.bind name value)), world) =>
      .going { m with level, context := m.context.withDefault name value, world }
    | (.ok (some (.expand tag)), world) =>
      match m.level.registry.get? tag with
      | none => .going { m with level, world := ((Run.note (.notRegistered tag)).exec world).2 }
      | some pack =>
        .going
          { level := ⟨pack.root, m.level.registry.without tag, pack.steps⟩
            waiting := (tag, level) :: m.waiting
            context := m.context
            world := ((Run.note (.expanding tag pack.root)).exec world).2 }

/-- Several steps of the walk, or fewer if it ends before. -/
def after (renderer : Renderer) (destRoot : Path) : Nat → Moment → Progress
  | 0, m => .going m
  | n + 1, m =>
    match m.advance renderer destRoot with
    | .going next => after renderer destRoot n next
    | .ended result world => .ended result world

variable {renderer : Renderer} {destRoot : Path}

theorem after_succ {m next : Moment} (step : m.advance renderer destRoot = .going next) (n : Nat) :
    m.after renderer destRoot (n + 1) = next.after renderer destRoot n := by
  rw [after, step]

theorem after_one_of_ended {m : Moment} {result : Except Failure Context} {world : World}
    (step : m.advance renderer destRoot = .ended result world) :
    m.after renderer destRoot 1 = .ended result world := by
  rw [after, step]

/-- Steps can be counted in two parts. -/
theorem after_add (k n : Nat) (m : Moment) :
    m.after renderer destRoot (k + n) =
      match m.after renderer destRoot k with
      | .going next => next.after renderer destRoot n
      | .ended result world => .ended result world := by
  induction k generalizing m with
  | zero => rw [Nat.zero_add, after]
  | succ k ih =>
    rw [Nat.succ_add, after, after]
    cases m.advance renderer destRoot with
    | going next => exact ih next
    | ended result world => rfl

/-! ## The end of a walk -/

/-- After `n` steps the level at work is done and the others are as they were, or the walk has
failed. -/
def Settles (renderer : Renderer) (destRoot : Path) (n : Nat) (m : Moment) :
    Except Failure Context × World → Prop
  | (.ok context, world) =>
    m.after renderer destRoot n =
      .going { m with level := { m.level with steps := [] }, context, world }
  | (.error e, world) => m.after renderer destRoot n = .ended (.error e) world

section Settling

variable {srcRoot : Path} {registry : Registry} {step : Step} {rest : List Step}
  {waiting : List (String × Level)} {context context' : Context} {world world' : World}
  {n : Nat} {outcome : Except Failure Context × World}

/-- A step that stays on its level comes before what settles behind it. -/
theorem Settles.of_advance
    (advanced : advance renderer destRoot ⟨⟨srcRoot, registry, step :: rest⟩, waiting, context, world⟩ =
      .going ⟨⟨srcRoot, registry, rest⟩, waiting, context', world'⟩)
    (settles : Settles renderer destRoot n ⟨⟨srcRoot, registry, rest⟩, waiting, context', world'⟩
      outcome) :
    Settles renderer destRoot (n + 1)
      ⟨⟨srcRoot, registry, step :: rest⟩, waiting, context, world⟩ outcome := by
  rcases outcome with ⟨e | c, w⟩
  · exact (after_succ advanced n).trans settles
  · exact (after_succ advanced n).trans settles

/-- An expansion goes in, settles inside, comes back, and settles behind, which starts with the
context and the world that the inside has left. -/
theorem Settles.of_expansion {tag : String} {pack : Manifest} {k bound : Nat} {inner : Run Context}
    {behind : Context → Run Context}
    (advanced : advance renderer destRoot ⟨⟨srcRoot, registry, step :: rest⟩, waiting, context, world⟩ =
      .going ⟨⟨pack.root, registry.without tag, pack.steps⟩,
        (tag, ⟨srcRoot, registry, rest⟩) :: waiting, context, world'⟩)
    (inside : Settles renderer destRoot k ⟨⟨pack.root, registry.without tag, pack.steps⟩,
        (tag, ⟨srcRoot, registry, rest⟩) :: waiting, context, world'⟩ (inner.exec world'))
    (settles : ∀ c w, ∃ n ≤ bound,
      Settles renderer destRoot n ⟨⟨srcRoot, registry, rest⟩, waiting, c, w⟩ ((behind c).exec w)) :
    ∃ n ≤ k + bound + 2,
      Settles renderer destRoot n ⟨⟨srcRoot, registry, step :: rest⟩, waiting, context, world⟩
        (Run.exec (inner >>= behind) world') := by
  rcases ran : inner.exec world' with ⟨e | c, w⟩
  · rw [Run.exec_bind_of_error ran]
    rw [ran] at inside
    exact ⟨k + 1, by omega, (after_succ advanced k).trans inside⟩
  · obtain ⟨n, within, last⟩ := settles c w
    have back : advance renderer destRoot ⟨⟨pack.root, registry.without tag, []⟩,
        (tag, ⟨srcRoot, registry, rest⟩) :: waiting, c, w⟩ =
          .going ⟨⟨srcRoot, registry, rest⟩, waiting, c, w⟩ := rfl
    have through : after renderer destRoot (k + (n + 1) + 1)
        ⟨⟨srcRoot, registry, step :: rest⟩, waiting, context, world⟩ =
          after renderer destRoot n ⟨⟨srcRoot, registry, rest⟩, waiting, c, w⟩ := by
      rw [ran] at inside
      rw [after_succ advanced, after_add, inside]
      exact after_succ back n
    refine ⟨k + (n + 1) + 1, by omega, ?_⟩
    rw [Run.exec_bind_of_ok ran]
    generalize (behind c).exec w = outcome at last ⊢
    rcases outcome with ⟨e | c', w'⟩
    · exact through.trans last
    · exact through.trans last

/-- A step that fails ends the walk. -/
theorem Settles.of_failure {e : Failure}
    (ran : Run.exec (Run.apply renderer srcRoot destRoot step context) world = (.error e, world')) :
    Settles renderer destRoot 1 ⟨⟨srcRoot, registry, step :: rest⟩, waiting, context, world⟩
      (.error e, world') := by
  refine after_one_of_ended ?_
  simp only [advance, ran]

end Settling

/-- Each walk settles. An expansion takes one step to go in and one to come back, so twice the flat
row bounds their number. -/
theorem exists_settles (renderer : Renderer) (destRoot : Path) (registry : Registry)
    (srcRoot : Path) (steps : List Step) (waiting : List (String × Level)) (context : Context) (world : World) :
    ∃ n ≤ 2 * (Run.flatten registry srcRoot steps).length,
      Settles renderer destRoot n ⟨⟨srcRoot, registry, steps⟩, waiting, context, world⟩
        (Run.exec (Run.walk renderer destRoot srcRoot registry steps context) world) := by
  induction registry, srcRoot, steps using Run.flatten.induct
    generalizing waiting context world with
  | case1 registry srcRoot =>
    refine ⟨0, by omega, ?_⟩
    rw [Run.walk_nil]
    rfl
  | case2 registry srcRoot step rest inner ih =>
    rw [Run.walk_cons, Run.exec_bind, Run.flatten_cons]
    rcases ran : Run.exec (Run.apply renderer srcRoot destRoot step context) world with ⟨e | given, w⟩
    · exact ⟨1, by simp only [List.length_cons]; omega, .of_failure ran⟩
    · cases Run.directive_of_exec_apply ran
      cases step with
      | copy _ | template _ =>
        obtain ⟨n, bound, settles⟩ := ih waiting context w
        refine ⟨n + 1, ?_, .of_advance ?_ settles⟩
        · simp only [Run.expansion, List.nil_append, List.length_cons]
          omega
        · simp only [advance, ran, Step.directive?]
      | bind name value =>
        obtain ⟨n, bound, settles⟩ := ih waiting (context.withDefault name value) w
        refine ⟨n + 1, ?_, .of_advance ?_ settles⟩
        · simp only [Run.expansion, List.nil_append, List.length_cons]
          omega
        · simp only [advance, ran, Step.directive?]
      | expand tag =>
        simp only [Step.directive?, Run.goOn, Run.expansion]
        cases found : registry.get? tag with
        | none =>
          obtain ⟨n, bound, settles⟩ :=
            ih waiting context (Run.exec (Run.note (.notRegistered tag)) w).2
          refine ⟨n + 1, ?_, .of_advance ?_ settles⟩
          · simp only [List.nil_append, List.length_cons]
            omega
          · simp only [advance, ran, Step.directive?, found]
        | some pack =>
          obtain ⟨k, innerBound, inside⟩ :=
            inner tag pack found ((tag, ⟨srcRoot, registry, rest⟩) :: waiting) context
              (Run.exec (Run.note (.expanding tag pack.root)) w).2
          have entered : advance renderer destRoot
              ⟨⟨srcRoot, registry, .expand tag :: rest⟩, waiting, context, world⟩ =
                .going ⟨⟨pack.root, registry.without tag, pack.steps⟩,
                  (tag, ⟨srcRoot, registry, rest⟩) :: waiting, context,
                  (Run.exec (Run.note (.expanding tag pack.root)) w).2⟩ := by
            simp only [advance, ran, Step.directive?, found]
          obtain ⟨n, within, settles⟩ := Settles.of_expansion entered inside (ih waiting)
          refine ⟨n, ?_, ?_⟩
          · simp only [List.length_cons, List.length_append]
            omega
          · rw [Run.exec_bind_of_ok (Run.exec_note w _)]
            exact settles

/-- The moments of a walk end, and they end with what `walk` gives and leaves. -/
theorem exists_after_eq_ended (srcRoot : Path) (registry : Registry) (steps : List Step)
    (seed : Context) (world : World) :
    ∃ n ≤ 2 * (Run.flatten registry srcRoot steps).length + 1,
      (first srcRoot registry steps seed world).after renderer destRoot n =
        .ended (Run.exec (Run.walk renderer destRoot srcRoot registry steps seed) world).1
          (Run.exec (Run.walk renderer destRoot srcRoot registry steps seed) world).2 := by
  obtain ⟨n, bound, settles⟩ :=
    exists_settles renderer destRoot registry srcRoot steps [] seed world
  generalize Run.exec (Run.walk renderer destRoot srcRoot registry steps seed) world = outcome
    at settles ⊢
  rcases outcome with ⟨e | c, w⟩
  · exact ⟨n, by omega, settles⟩
  · refine ⟨n + 1, by omega, ?_⟩
    have stopped : after renderer destRoot n (first srcRoot registry steps seed world) =
        .going ⟨⟨srcRoot, registry, []⟩, [], c, w⟩ := settles
    rw [after_add, stopped]
    exact after_one_of_ended rfl

/-! ## The chain of expansions -/

/-- The registry at work comes from the initial one: each level has the registry of the level around
it without the tag between them, and that tag was registered. -/
def Nested (initial : Registry) : Registry → List (String × Level) → Prop
  | registry, [] => registry = initial
  | registry, (tag, outer) :: waiting =>
    registry = outer.registry.without tag ∧ (outer.registry.get? tag).isSome ∧
      Nested initial outer.registry waiting

section Nesting

variable {initial registry : Registry} {waiting : List (String × Level)}

/-- The registry at work is the initial one without the tags that are being expanded. -/
theorem Nested.get?_eq (nested : Nested initial registry waiting) (t : String) :
    registry.get? t = if t ∈ waiting.map Prod.fst then none else initial.get? t := by
  induction waiting generalizing registry with
  | nil =>
    rw [show registry = initial from nested]
    rfl
  | cons level waiting ih =>
    obtain ⟨tag, outer⟩ := level
    obtain ⟨rfl, -, around⟩ := nested
    rw [Registry.get?_without, ih around, List.map_cons]
    by_cases same : t = tag
    · rw [if_pos same, if_pos (same ▸ List.mem_cons_self)]
    · simp only [List.mem_cons, same, if_false, false_or]

/-- The tags that are being expanded are all different, and were all registered at the beginning. -/
theorem Nested.distinct (nested : Nested initial registry waiting) :
    (waiting.map Prod.fst).Nodup ∧ ∀ t ∈ waiting.map Prod.fst, (initial.get? t).isSome := by
  induction waiting generalizing registry with
  | nil => exact ⟨List.nodup_nil, fun t member => absurd member List.not_mem_nil⟩
  | cons level waiting ih =>
    obtain ⟨tag, outer⟩ := level
    obtain ⟨-, registered, around⟩ := nested
    obtain ⟨distinct, known⟩ := ih around
    rw [around.get?_eq] at registered
    split at registered
    · cases registered
    · next fresh =>
      refine ⟨List.nodup_cons.mpr ⟨fresh, distinct⟩, fun t member => ?_⟩
      rcases List.mem_cons.mp member with rfl | member
      · exact registered
      · exact known t member

/-- There are no more of them than packs. -/
theorem Nested.length_le (nested : Nested initial registry waiting) :
    (waiting.map Prod.fst).length ≤ initial.size := by
  obtain ⟨distinct, known⟩ := nested.distinct
  have within : waiting.map Prod.fst ⊆ initial.tags :=
    fun t member => Registry.mem_tags_of_get? (known t member)
  calc (waiting.map Prod.fst).length
    _ ≤ initial.tags.length := (distinct.subperm within).length_le
    _ = initial.size := List.length_map _

end Nesting

/-- Every step keeps the nesting of the registries. -/
theorem nested_advance {initial : Registry} {m next : Moment}
    (nested : Nested initial m.level.registry m.waiting)
    (advanced : m.advance renderer destRoot = .going next) :
    Nested initial next.level.registry next.waiting := by
  unfold advance at advanced
  split at advanced
  · -- the level is done
    split at advanced
    · cases advanced
    · next tag outer waiting waits =>
      cases advanced
      rw [waits] at nested
      exact nested.2.2
  · split at advanced
    · cases advanced
    · cases advanced
      exact nested
    · cases advanced
      exact nested
    · split at advanced
      · cases advanced
        exact nested
      · next found =>
        cases advanced
        exact ⟨rfl, found ▸ rfl, nested⟩

/-- So do several steps. -/
theorem nested_after {initial : Registry} {n : Nat} {m next : Moment}
    (nested : Nested initial m.level.registry m.waiting)
    (advanced : m.after renderer destRoot n = .going next) :
    Nested initial next.level.registry next.waiting := by
  induction n generalizing m with
  | zero =>
    cases advanced
    exact nested
  | succ n ih =>
    rw [after] at advanced
    split at advanced
    · next step => exact ih (nested_advance nested step) advanced
    · cases advanced

/-- The step behind an expansion that the registry at work does not have, or does. -/
theorem advance_expand (renderer : Renderer) (destRoot : Path) {m : Moment} {tag : String}
    {rest : List Step}
    (at_ : m.level.steps = .expand tag :: rest) :
    ∃ next, m.advance renderer destRoot = .going next ∧
      match m.level.registry.get? tag with
      | some pack => next.chain = tag :: m.chain ∧ next.level.root = pack.root ∧
          next.level.steps = pack.steps
      | none => next.chain = m.chain ∧ next.level.root = m.level.root ∧ next.level.steps = rest := by
  have ran : Run.exec (Run.apply renderer m.level.root destRoot (.expand tag) m.context) m.world =
      (.ok (some (.expand tag)), { m.world with reports := m.world.reports ++ [.expanding tag] }) :=
    rfl
  simp only [advance, at_, ran]
  cases m.level.registry.get? tag with
  | none => exact ⟨_, rfl, rfl, rfl, rfl⟩
  | some pack => exact ⟨_, rfl, rfl, rfl, rfl⟩

/-- **Expansion is cut exactly at recursion.** The walk is finite, whatever cycles the packs form.
At each moment the tags that are being expanded are all different and registered at the beginning,
so that no more than `registry.size` levels wait. An expansion step is followed just when its tag is
registered at the beginning and not being expanded, and passed over otherwise; what was expanded
before and left does not matter. -/
theorem expansion_cut_at_recursion (renderer : Renderer) (destRoot srcRoot : Path)
    (registry : Registry) (steps : List Step) (seed : Context) (world : World) :
    (∃ n ≤ 2 * (Run.flatten registry srcRoot steps).length + 1,
      (first srcRoot registry steps seed world).after renderer destRoot n =
        .ended (Run.exec (Run.walk renderer destRoot srcRoot registry steps seed) world).1
          (Run.exec (Run.walk renderer destRoot srcRoot registry steps seed) world).2) ∧
    ∀ n m, (first srcRoot registry steps seed world).after renderer destRoot n = .going m →
      m.chain.Nodup ∧ (∀ t ∈ m.chain, (registry.get? t).isSome) ∧ m.chain.length ≤ registry.size ∧
      ∀ t rest, m.level.steps = .expand t :: rest →
        ∃ next, m.advance renderer destRoot = .going next ∧
          (next.chain = t :: m.chain ↔ (registry.get? t).isSome ∧ t ∉ m.chain) ∧
          (∀ pack, registry.get? t = some pack → t ∉ m.chain →
            next.level.root = pack.root ∧ next.level.steps = pack.steps) ∧
          (¬((registry.get? t).isSome ∧ t ∉ m.chain) →
            next.chain = m.chain ∧ next.level.root = m.level.root ∧ next.level.steps = rest) := by
  refine ⟨exists_after_eq_ended srcRoot registry steps seed world, fun n m reached => ?_⟩
  have nested : Nested registry m.level.registry m.waiting :=
    nested_after (show Nested registry registry [] from rfl) reached
  obtain ⟨distinct, known⟩ := nested.distinct
  refine ⟨distinct, known, nested.length_le, fun t rest at_ => ?_⟩
  obtain ⟨next, advanced, outcome⟩ := advance_expand renderer destRoot at_
  refine ⟨next, advanced, ?_⟩
  have atWork : m.level.registry.get? t = if t ∈ m.chain then none else registry.get? t :=
    nested.get?_eq t
  -- a chain is never its own tail, so the step was passed over when the chain is as before
  have longer : t :: m.chain ≠ m.chain := fun same => by simpa using congrArg List.length same
  rw [atWork] at outcome
  by_cases expanding : t ∈ m.chain
  · rw [if_pos expanding] at outcome
    refine ⟨⟨fun entered => absurd (entered ▸ outcome.1) longer, fun ⟨_, fresh⟩ => ?_⟩,
      fun pack _ fresh => absurd expanding fresh, fun _ => outcome⟩
    exact absurd expanding fresh
  · rw [if_neg expanding] at outcome
    cases found : registry.get? t with
    | none =>
      rw [found] at outcome
      refine ⟨⟨fun entered => absurd (entered ▸ outcome.1) longer, ?_⟩, ?_, fun _ => outcome⟩
      · rintro ⟨⟨⟩, -⟩
      · rintro pack ⟨⟩
    | some pack =>
      rw [found] at outcome
      refine ⟨⟨fun _ => ⟨rfl, expanding⟩, fun _ => outcome.1⟩, ?_, ?_⟩
      · rintro _ ⟨⟩ -
        exact outcome.2
      · exact fun refused => absurd ⟨rfl, expanding⟩ refused

end Moment

end Scaffold
