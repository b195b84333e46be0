import Scaffold.Proofs.Run.Changes
import Scaffold.Proofs.Walk.Flat

/-!
# The first binding wins

Which bindings are visible at a point of a walk can be read off the flat row: `boundBy` lists what
the steps in front of that point bind, and `Context.followedBy` puts behind the seed the first
binding of each name that the seed does not have. Binding one after the other comes to the same
(`Context.bindings_bindAll`).

`execute` hands exactly that context to every rendering and to its result
(`context_of_execute`, `renderings_of_execute`), and so does the walk (`first_binding_wins`).
-/

namespace Scaffold

namespace Context

/-- Binds all names of a row, one after the other. -/
def bindAll (seed : Context) (bound : List (String × Json)) : Context :=
  bound.foldl (fun c binding => c.withDefault binding.1 binding.2) seed

/-- The bindings of the seed, and behind them the first binding of each other name. -/
def followedBy (seed : Context) (bound : List (String × Json)) : List (String × Json) :=
  seed.bindings ++
    (bound.filter fun binding => binding.1 ∉ seed.names).eraseDupsBy fun a b => a.1 = b.1

theorem followedBy_nil (seed : Context) : seed.followedBy [] = seed.bindings :=
  List.append_nil _

/-- A binding of a row is kept or dropped as `withDefault` does it. -/
theorem followedBy_cons (seed : Context) (name : String) (value : Json)
    (bound : List (String × Json)) :
    seed.followedBy ((name, value) :: bound) = (seed.withDefault name value).followedBy bound := by
  by_cases known : name ∈ seed.names
  · rw [withDefault_of_mem known, followedBy, followedBy,
      List.filter_cons_of_neg (by simpa using known)]
  · have names : (seed.withDefault name value).names = seed.names ++ [name] := by
      rw [Context.names, bindings_withDefault_of_not_mem known, List.map_append]
      rfl
    rw [followedBy, followedBy, List.filter_cons_of_pos (by simpa using known),
      List.eraseDupsBy_cons, bindings_withDefault_of_not_mem known, List.append_assoc,
      List.singleton_append, List.filter_filter, names]
    congr 3
    refine List.filter_congr fun binding _ => ?_
    simp only [List.mem_append, List.mem_singleton, not_or]
    grind

/-- Binding one after the other keeps the first binding of each name. -/
theorem bindings_bindAll (seed : Context) (bound : List (String × Json)) :
    (seed.bindAll bound).bindings = seed.followedBy bound := by
  induction bound generalizing seed with
  | nil => exact (followedBy_nil seed).symm
  | cons binding bound ih =>
    rw [followedBy_cons]
    exact ih (seed.withDefault binding.1 binding.2)

theorem get?_withDefault (c : Context) (name : String) (value : Json) (n : String) :
    (c.withDefault name value).get? n = (c.get? n).or ([(name, value)].lookup n) := by
  by_cases known : name ∈ c.names
  · rw [withDefault_of_mem known]
    cases bound : c.get? n with
    | some v => rfl
    | none =>
      have other : n ≠ name := fun same => get?_eq_none_iff.mp bound (same ▸ known)
      rw [List.lookup_cons, beq_false_of_ne other]
      rfl
  · rw [get?, bindings_withDefault_of_not_mem known, List.lookup_append]
    rfl

/-- The value of a name is the one in the seed, or else that of its first binding in the row. -/
theorem lookup_followedBy (seed : Context) (bound : List (String × Json)) (n : String) :
    (seed.followedBy bound).lookup n = (seed.get? n).or (bound.lookup n) := by
  induction bound generalizing seed with
  | nil => rw [followedBy_nil, List.lookup_nil, Option.or_none, get?]
  | cons binding bound ih =>
    obtain ⟨name, value⟩ := binding
    rw [followedBy_cons, ih, get?_withDefault, Option.or_assoc, ← List.lookup_append]
    rfl

end Context

/-- What a step binds. -/
def Step.binding? : Step → Option (String × Json)
  | .bind name value => some (name, value)
  | .copy _ | .template _ | .expand _ => none

namespace Run

/-- What the steps of a row bind, in order. -/
def boundBy (row : List (Path × Step)) : List (String × Json) :=
  row.filterMap fun step => step.2.binding?

/-- The context behind a step that did not fail. -/
def contextBehind (context : Context) (step : Step) : Context :=
  context.bindAll step.binding?.toList

theorem bindAll_boundBy_cons (seed : Context) (step : Path × Step) (row : List (Path × Step)) :
    seed.bindAll (boundBy (step :: row)) = (contextBehind seed step.2).bindAll (boundBy row) := by
  obtain ⟨srcRoot, step⟩ := step
  cases step with
  | bind name value => rfl
  | copy _ | template _ | expand _ => rfl

variable {renderer : Renderer} {srcRoot destRoot : Path} {context : Context}

theorem execute_cons (step : Step) (row : List (Path × Step)) {given : Option Directive}
    {w w' : World}
    (ran : exec (apply renderer srcRoot destRoot step context) w = (.ok given, w')) :
    exec (execute renderer destRoot ((srcRoot, step) :: row) context) w =
      exec (execute renderer destRoot row (contextBehind context step)) w' := by
  cases directive_of_exec_apply ran
  rw [execute, exec_bind_of_ok ran]
  cases step with
  | bind name value => rfl
  | copy _ | template _ | expand _ => rfl

theorem execute_cons_of_error (step : Step) (row : List (Path × Step)) {e : Failure} {w w' : World}
    (ran : exec (apply renderer srcRoot destRoot step context) w = (.error e, w')) :
    exec (execute renderer destRoot ((srcRoot, step) :: row) context) w = (.error e, w') := by
  rw [execute, exec_bind_of_error ran]

/-- A row that succeeds binds what its steps bind. -/
theorem context_of_execute {row : List (Path × Step)} {seed c : Context} {w w' : World}
    (ran : exec (execute renderer destRoot row seed) w = (.ok c, w')) :
    c = seed.bindAll (boundBy row) := by
  induction row generalizing seed w with
  | nil =>
    rw [execute] at ran
    cases ran
    rfl
  | cons step row ih =>
    obtain ⟨srcRoot, step⟩ := step
    rcases applied : exec (apply renderer srcRoot destRoot step seed) w with ⟨e | given, v⟩
    · rw [execute_cons_of_error step row applied] at ran
      cases ran
    · rw [execute_cons step row applied] at ran
      rw [bindAll_boundBy_cons]
      exact ih ran

/-! ## Renderings -/

theorem renderings_copyPath (source dest : Path) (w : World) :
    (exec (copyPath source dest) w).2.renderings = w.renderings := by
  cases refused : refuses w.disk source dest with
  | true => rw [exec_copyPath_of_refused refused]
  | false => exact (changes_copyPath refused).1.frame.2

theorem renderings_copy (t : Transfer) (w : World) :
    (exec (copy srcRoot destRoot t) w).2.renderings = w.renderings := by
  obtain ⟨-, -, same⟩ := copy_beside_report srcRoot destRoot t w
  rw [same]
  exact renderings_copyPath (srcRoot.absolutize t.src) (destRoot.absolutize t.dest) w

/-- Rendering a template comes before the report and the file, and is not reached if the template
cannot be read. -/
theorem renderings_template (t : Transfer) (w : World) :
    (exec (template renderer srcRoot destRoot t context) w).2.renderings = w.renderings ∨
      ∃ text, w.disk.readText (srcRoot.absolutize t.src) = .ok text ∧
        (exec (template renderer srcRoot destRoot t context) w).2.renderings =
          w.renderings ++ [(text, context)] := by
  rcases exec_template_cases renderer srcRoot destRoot t context w with
    ⟨e, -, ran⟩ | ⟨text, read, ⟨fault, -, ran⟩ | ⟨rendered, -, ran⟩⟩
  · exact .inl (congrArg (·.2.renderings) ran)
  · exact .inr ⟨text, read, congrArg (·.2.renderings) ran⟩
  · refine .inr ⟨text, read, ?_⟩
    rw [ran]
    exact (transfers_writeText _ _ _).1.frame.2

/-- Applying a step renders at most once, and only a template step renders, what it has read. -/
theorem renderings_apply (renderer : Renderer) (srcRoot destRoot : Path) (context : Context)
    (step : Step) (w : World) :
    (exec (apply renderer srcRoot destRoot step context) w).2.renderings = w.renderings ∨
      ∃ t text, step = .template t ∧ w.disk.readText (srcRoot.absolutize t.src) = .ok text ∧
        (exec (apply renderer srcRoot destRoot step context) w).2.renderings =
          w.renderings ++ [(text, context)] := by
  cases step with
  | copy t =>
    refine .inl ?_
    simp only [apply, exec_bind_pure, exec_unlessGated]
    split
    · rfl
    · exact renderings_copy t w
  | template t =>
    simp only [apply, exec_bind_pure, exec_unlessGated]
    split
    · exact .inl rfl
    · rcases renderings_template t w with kept | ⟨text, read, rendered⟩
      · exact .inl kept
      · exact .inr ⟨t, text, rfl, read, rendered⟩
  | expand tag => exact .inl rfl
  | bind name value => exact .inl rfl

/-- Behind the `earlier` calls, the call is made at a template step of the row, with the text that
the step has read and the context that the steps in front of it have left. -/
def MadeAt (renderer : Renderer) (destRoot : Path) (row : List (Path × Step)) (seed : Context)
    (w : World) (earlier : List (String × Context)) (call : String × Context) : Prop :=
  ∃ before srcRoot t behind v, row = before ++ (srcRoot, .template t) :: behind ∧
    exec (execute renderer destRoot before seed) w = (.ok call.2, v) ∧
    v.renderings = w.renderings ++ earlier ∧
    v.disk.readText (srcRoot.absolutize t.src) = .ok call.1

/-- The first step of a row makes the first call. -/
theorem MadeAt.head {t : Transfer} {row : List (Path × Step)} {seed : Context} {w : World}
    {text : String} (read : w.disk.readText (srcRoot.absolutize t.src) = .ok text) :
    MadeAt renderer destRoot ((srcRoot, .template t) :: row) seed w [] (text, seed) :=
  ⟨[], srcRoot, t, row, w, rfl, rfl, (List.append_nil _).symm, read⟩

/-- A call that is made in a row is made behind one more step, whatever that step renders. -/
theorem MadeAt.tail {step : Step} {given : Option Directive} {row : List (Path × Step)}
    {seed : Context} {w v : World} {here earlier : List (String × Context)}
    {call : String × Context}
    (applied : exec (apply renderer srcRoot destRoot step seed) w = (.ok given, v))
    (first : v.renderings = w.renderings ++ here)
    (made : MadeAt renderer destRoot row (contextBehind seed step) v earlier call) :
    MadeAt renderer destRoot ((srcRoot, step) :: row) seed w (here ++ earlier) call := by
  obtain ⟨before, root, t, behind, u, rfl, ran, rendered, read⟩ := made
  refine ⟨(srcRoot, step) :: before, root, t, behind, u, rfl, ?_, ?_, read⟩
  · rw [execute_cons step before applied, ran]
  · rw [rendered, first, List.append_assoc]

/-- The renderings of a row, also of one that fails, are made by its template steps. -/
theorem renderings_of_execute (row : List (Path × Step)) (seed : Context) (w : World) :
    ∃ calls, (exec (execute renderer destRoot row seed) w).2.renderings = w.renderings ++ calls ∧
      ∀ earlier call later, calls = earlier ++ call :: later →
        MadeAt renderer destRoot row seed w earlier call := by
  induction row generalizing seed w with
  | nil =>
    refine ⟨[], ?_, fun earlier call later none => absurd none (by simp)⟩
    rw [execute, List.append_nil]
    rfl
  | cons step row ih =>
    obtain ⟨srcRoot, step⟩ := step
    have first := renderings_apply renderer srcRoot destRoot seed step w
    rcases applied : exec (apply renderer srcRoot destRoot step seed) w with ⟨e | given, v⟩
    · rw [execute_cons_of_error step row applied]
      rw [applied] at first
      rcases first with kept | ⟨t, text, rfl, read, rendered⟩
      · exact ⟨[], by rw [kept, List.append_nil], fun _ _ _ none => absurd none (by simp)⟩
      · refine ⟨[(text, seed)], rendered, fun earlier call later split => ?_⟩
        rcases earlier with _ | ⟨called, earlier⟩
        · cases split
          exact .head read
        · exact absurd (List.cons.inj split).2 (by simp)
    · rw [execute_cons step row applied]
      rw [applied] at first
      obtain ⟨calls, rest, made⟩ := ih (contextBehind seed step) v
      rcases first with kept | ⟨t, text, rfl, read, rendered⟩
      · refine ⟨calls, kept ▸ rest, fun earlier call later split => ?_⟩
        exact .tail applied (kept.trans (List.append_nil _).symm) (made earlier call later split)
      · refine ⟨(text, seed) :: calls, ?_, fun earlier call later split => ?_⟩
        · rw [rest, rendered, List.append_assoc, List.singleton_append]
        · rcases earlier with _ | ⟨called, earlier⟩
          · cases split
            exact .head read
          · rw [List.cons_append, List.cons.injEq] at split
            obtain ⟨rfl, split⟩ := split
            exact .tail applied rendered (made earlier call later split)

end Run

end Scaffold
