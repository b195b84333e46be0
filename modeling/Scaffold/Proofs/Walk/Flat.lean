import Scaffold.Proofs.Run.Agree
import Scaffold.Proofs.Run.Apply
import Scaffold.Run.Walk

/-!
# The walk is flat

`walk` goes into a pack and comes back; `execute` knows no packs and applies a row of steps from
left to right. On the row that `flatten` makes beforehand both do the same: they end with the same
context or the same failure, and leave the same disk, the same console and the same renderings
(`walk_eq_execute_flatten`). The log is left out, for only the walk notes its expansions.

The induction is the recursion of `flatten`: over the steps, and into the pack of an expansion with
the registry that has lost its tag.
-/

namespace Scaffold.Run

variable {renderer : Renderer} {destRoot : Path}

/-! ## One step of the walk and of the row -/

/-- How the walk goes on when a step of it has given a directive. -/
def goOn (renderer : Renderer) (destRoot srcRoot : Path) (registry : Registry) (rest : List Step)
    (context : Context) : Option Directive → Run Context
  | none => walk renderer destRoot srcRoot registry rest context
  | some (.bind name value) =>
    walk renderer destRoot srcRoot registry rest (context.withDefault name value)
  | some (.expand tag) =>
    match registry.get? tag with
    | none => do
      note (.notRegistered tag)
      walk renderer destRoot srcRoot registry rest context
    | some pack => do
      note (.expanding tag pack.root)
      let inner ← walk renderer destRoot pack.root (registry.without tag) pack.steps context
      walk renderer destRoot srcRoot registry rest inner

theorem walk_nil (srcRoot : Path) (registry : Registry) (context : Context) :
    walk renderer destRoot srcRoot registry [] context = pure context := by
  rw [walk]

theorem walk_cons (srcRoot : Path) (registry : Registry) (step : Step) (rest : List Step)
    (context : Context) :
    walk renderer destRoot srcRoot registry (step :: rest) context =
      apply renderer srcRoot destRoot step context >>=
        goOn renderer destRoot srcRoot registry rest context := by
  rw [walk]
  refine bind_congr fun given => ?_
  rcases given with _ | ⟨tag⟩ | ⟨name, value⟩
  · rfl
  · simp only [goOn]
    split
    · next missing => rw [missing]
    · next pack found => rw [found]
  · rfl

/-- The steps that stand behind a step in the flat row because it expands a pack. -/
def expansion (registry : Registry) : Step → List (Path × Step)
  | .expand tag =>
    match registry.get? tag with
    | some pack => flatten (registry.without tag) pack.root pack.steps
    | none => []
  | _ => []

theorem flatten_nil (registry : Registry) (srcRoot : Path) : flatten registry srcRoot [] = [] := by
  rw [flatten]

theorem flatten_cons (registry : Registry) (srcRoot : Path) (step : Step) (rest : List Step) :
    flatten registry srcRoot (step :: rest) =
      (srcRoot, step) :: (expansion registry step ++ flatten registry srcRoot rest) := by
  cases step with
  | expand tag =>
    rw [flatten, expansion, List.cons_append]
    cases registry.get? tag with
    | some pack => rfl
    | none => rfl
  | copy _ | template _ | bind _ _ =>
    rw [flatten]
    · rfl
    · rintro _ ⟨⟩

/-- Without expansions the row is the steps themselves. -/
theorem flatten_of_no_expansion {registry : Registry} {steps : List Step} (srcRoot : Path)
    (none : ∀ step ∈ steps, expansion registry step = []) :
    flatten registry srcRoot steps = steps.map fun step => (srcRoot, step) := by
  induction steps with
  | nil => exact flatten_nil registry srcRoot
  | cons step rest ih =>
    obtain ⟨here, later⟩ := List.forall_mem_cons.1 none
    rw [flatten_cons, here, List.nil_append, ih later, List.map_cons]

/-- A flat row can be cut anywhere. -/
theorem execute_append (before behind : List (Path × Step)) (context : Context) :
    execute renderer destRoot (before ++ behind) context =
      execute renderer destRoot before context >>= execute renderer destRoot behind := by
  induction before generalizing context with
  | nil => rw [List.nil_append, execute, pure_bind]
  | cons step before ih =>
    rw [List.cons_append, execute, execute, bind_assoc]
    refine bind_congr fun given => ?_
    split
    · exact ih _
    · exact ih _

/-! ## Walk and row -/

/-- The walk and the flat row agree beside the log. -/
theorem agree_walk_execute (registry : Registry) (srcRoot : Path) (steps : List Step)
    (context : Context) :
    Agree (walk renderer destRoot srcRoot registry steps context)
      (execute renderer destRoot (flatten registry srcRoot steps) context) := by
  induction registry, srcRoot, steps using flatten.induct generalizing context with
  | case1 registry srcRoot =>
    rw [walk_nil, flatten_nil, execute]
    exact Relates.pure context
  | case2 registry srcRoot step rest inner ih =>
    rw [walk_cons, flatten_cons, execute]
    refine Relates.bind_of (relates_apply World.blind_alike renderer srcRoot destRoot step context)
      directive_of_exec_apply ?_
    rintro _ rfl
    cases step with
    | copy t => exact ih context
    | template t => exact ih context
    | bind name value => exact ih (context.withDefault name value)
    | expand tag =>
      simp only [Step.directive?, goOn, expansion]
      cases found : registry.get? tag with
      | none => exact Relates.of_note World.blind_alike _ (ih context)
      | some pack =>
        simp only [execute_append]
        exact Relates.of_note World.blind_alike _ (Relates.bind (inner tag pack found context) ih)

/-- From one world both give the same, and leave worlds that differ in their logs at most. -/
theorem walk_alike_execute (renderer : Renderer) (destRoot srcRoot : Path) (registry : Registry)
    (steps : List Step) (seed : Context) (w : World) :
    (exec (walk renderer destRoot srcRoot registry steps seed) w).1 =
        (exec (execute renderer destRoot (flatten registry srcRoot steps) seed) w).1 ∧
      (exec (walk renderer destRoot srcRoot registry steps seed) w).2.Alike
        (exec (execute renderer destRoot (flatten registry srcRoot steps) seed) w).2 :=
  agree_walk_execute registry srcRoot steps seed w w (.refl w)

/-- What a walk gives, its flat row gives, and the worlds that they leave differ in their logs at most. -/
theorem exists_execute_of_walk {registry : Registry} {srcRoot : Path} {steps : List Step}
    {seed : Context} {result : Except Failure Context} {w v : World}
    (ran : exec (walk renderer destRoot srcRoot registry steps seed) w = (result, v)) :
    ∃ u, exec (execute renderer destRoot (flatten registry srcRoot steps) seed) w = (result, u) ∧
      v.Alike u := by
  obtain ⟨same, alike⟩ := walk_alike_execute renderer destRoot srcRoot registry steps seed w
  rw [ran] at same alike
  exact ⟨(exec (execute renderer destRoot (flatten registry srcRoot steps) seed) w).2,
    Prod.ext same.symm rfl, alike⟩

/-- Where the flat row succeeds, so does the walk. -/
theorem exists_walk_of_isOk {registry : Registry} {srcRoot : Path} {steps : List Step}
    {seed : Context} {w : World}
    (success :
      (exec (execute renderer destRoot (flatten registry srcRoot steps) seed) w).1.isOk = true) :
    ∃ c v, exec (walk renderer destRoot srcRoot registry steps seed) w = (.ok c, v) ∧
      v.Alike (exec (execute renderer destRoot (flatten registry srcRoot steps) seed) w).2 := by
  rcases ran : exec (walk renderer destRoot srcRoot registry steps seed) w with ⟨e | c, v⟩
  · obtain ⟨u, executed, -⟩ := exists_execute_of_walk ran
    rw [executed] at success
    cases success
  · obtain ⟨u, executed, alike⟩ := exists_execute_of_walk ran
    rw [executed]
    exact ⟨c, v, rfl, alike⟩

/-- **The walk is a flat execution.** With every registry, cyclic ones included, walking the steps
gives the same context or the same failure as applying the flat row from left to right against the
same destination root, and leaves the same disk, the same console and the same renderings. -/
theorem walk_eq_execute_flatten (renderer : Renderer) (destRoot srcRoot : Path)
    (registry : Registry) (steps : List Step) (seed : Context) (w : World) :
    let walked := exec (walk renderer destRoot srcRoot registry steps seed) w
    let executed := exec (execute renderer destRoot (flatten registry srcRoot steps) seed) w
    walked.1 = executed.1 ∧ walked.2.disk = executed.2.disk ∧
      walked.2.console = executed.2.console ∧ walked.2.renderings = executed.2.renderings := by
  obtain ⟨result, alike⟩ := walk_alike_execute renderer destRoot srcRoot registry steps seed w
  exact ⟨result, alike.disk, congrArg (List.map Report.text) alike.reports, alike.renderings⟩

end Scaffold.Run
