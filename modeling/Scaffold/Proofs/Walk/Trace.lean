import Scaffold.Proofs.Walk.Stop

/-!
# What a walk prints

A step that does not fail prints the lines that can be told from it and from the disk on which it is
applied (`Step.lines`): one line, or none for a binding. A row prints the lines of its steps one after
the other (`reports_of_execute`), and a walk that fails prints those of the steps before the failing
one.

The failing step itself prints nothing, with one exception. A template is reported before its file is
written, so a template that is read and rendered and then cannot be written has its line although it
fails (`reports_apply_of_error`, `failing_template_is_reported`). `failing_walk_prints` is the result
for walks.
-/

namespace Scaffold

/-- The lines of a transfer that does not fail: it is left out, or it prints the line of its kind. -/
def Transfer.lines (t : Transfer) (destRoot : Path) (d : Disk) (done : Report) : List Report :=
  if t.conditional && d.holds (destRoot.absolutize t.dest) then [.skipped t.dest] else [done]

/-- The lines that a step prints when it does not fail. -/
def Step.lines (destRoot : Path) (d : Disk) : Step → List Report
  | .copy t => t.lines destRoot d (.copied t.src t.dest)
  | .template t => t.lines destRoot d (.rendered t.src t.dest)
  | .expand tag => [.expanding tag]
  | .bind _ _ => []

namespace Run

variable {renderer : Renderer} {srcRoot destRoot : Path} {step : Step} {t : Transfer}
  {context : Context} {given : Option Directive} {w v : World} {e : Failure}

/-! ## One step -/

theorem reports_copyPath (source dest : Path) (w : World) :
    (exec (copyPath source dest) w).2.reports = w.reports := by
  cases refused : refuses w.disk source dest with
  | true => rw [exec_copyPath_of_refused refused]
  | false => exact (changes_copyPath refused).1.frame.1

/-- A copy reports itself when it is done. -/
theorem reports_of_copy (ran : exec (copy srcRoot destRoot t) w = (.ok (), v)) :
    v.reports = w.reports ++ [.copied t.src t.dest] := by
  obtain ⟨⟨⟩, u, copied, reported⟩ := exists_of_exec_bind ran
  have silent := reports_copyPath (srcRoot.absolutize t.src) (destRoot.absolutize t.dest) w
  rw [copied] at silent
  cases reported
  exact congrArg (· ++ [.copied t.src t.dest]) silent

/-- A copy that fails prints nothing. -/
theorem reports_copy_of_error (fails : (exec (copy srcRoot destRoot t) w).1 = .error e) :
    (exec (copy srcRoot destRoot t) w).2.reports = w.reports := by
  have silent := reports_copyPath (srcRoot.absolutize t.src) (destRoot.absolutize t.dest) w
  rcases copied : exec (copyPath (srcRoot.absolutize t.src) (destRoot.absolutize t.dest)) w with
    ⟨e' | ⟨⟨⟩⟩, v⟩
  · rw [copied] at silent
    rw [copy, exec_bind_of_error copied]
    exact silent
  · rw [copy, exec_bind_of_ok copied] at fails
    cases fails

/-- A template reports itself when it has been read and rendered, whether or not it is written. -/
theorem reports_template_of_renders (destRoot : Path)
    (renders : Renders renderer srcRoot t context w.disk) :
    (exec (template renderer srcRoot destRoot t context) w).2.reports =
      w.reports ++ [.rendered t.src t.dest] := by
  obtain ⟨source, text, read, rendered⟩ := renders
  rcases exec_template_cases renderer srcRoot destRoot t context w with
    ⟨e, other, -⟩ | ⟨source', read', given⟩
  · cases read.symm.trans other
  · cases read.symm.trans read'
    rcases given with ⟨fault, other, -⟩ | ⟨text', -, ran⟩
    · cases rendered.symm.trans other
    · rw [ran]
      exact (transfers_writeText _ _ _).1.frame.1

/-- A template that cannot be read or rendered fails without a line. -/
theorem exec_template_of_not_renders (destRoot : Path)
    (failed : ¬ Renders renderer srcRoot t context w.disk) :
    (exec (template renderer srcRoot destRoot t context) w).2.reports = w.reports ∧
      ∃ e, (exec (template renderer srcRoot destRoot t context) w).1 = .error e := by
  rcases exec_template_cases renderer srcRoot destRoot t context w with
    ⟨e, -, ran⟩ | ⟨source, read, ⟨fault, -, ran⟩ | ⟨text, rendered, -⟩⟩
  · exact ⟨congrArg (·.2.reports) ran, _, congrArg Prod.fst ran⟩
  · exact ⟨congrArg (·.2.reports) ran, _, congrArg Prod.fst ran⟩
  · exact absurd ⟨source, text, read, rendered⟩ failed

theorem reports_of_template
    (ran : exec (template renderer srcRoot destRoot t context) w = (.ok (), v)) :
    v.reports = w.reports ++ [.rendered t.src t.dest] := by
  by_cases renders : Renders renderer srcRoot t context w.disk
  · have printed := reports_template_of_renders destRoot renders
    rw [ran] at printed
    exact printed
  · obtain ⟨-, e, failed⟩ := exec_template_of_not_renders destRoot renders
    rw [ran] at failed
    cases failed

/-- A transfer that does not fail prints that it is left out, or what its body prints. -/
theorem reports_of_unlessGated {body : Run Unit} {done : Report}
    (bodies : exec body w = (.ok (), v) → v.reports = w.reports ++ [done])
    (ran : exec (do unlessGated destRoot t body; return none) w = (.ok given, v)) :
    v.reports = w.reports ++ t.lines destRoot w.disk done := by
  obtain ⟨⟨⟩, _, ran, rest⟩ := exists_of_exec_bind ran
  cases rest
  rw [exec_unlessGated] at ran
  rw [Transfer.lines]
  split at ran
  · next gated =>
    cases ran
    rw [if_pos gated]
  · next carried =>
    rw [if_neg carried]
    exact bodies ran

/-- A transfer that fails is carried out, and its body fails. -/
theorem exec_unlessGated_of_error {body : Run Unit}
    (fails : (exec (do unlessGated destRoot t body; return (none : Option Directive)) w).1 =
      .error e) :
    (exec body w).1 = .error e ∧
      (exec (do unlessGated destRoot t body; return (none : Option Directive)) w).2 =
        (exec body w).2 := by
  rw [exec_bind_pure, exec_unlessGated] at fails ⊢
  split at fails
  · cases fails
  · next carried =>
    rw [if_neg carried]
    cases failed : (exec body w).1 with
    | ok a =>
      rw [failed] at fails
      cases fails
    | error e' =>
      rw [failed] at fails
      cases fails
      exact ⟨rfl, rfl⟩

/-- A step that does not fail prints its lines. -/
theorem reports_of_exec_apply
    (ran : exec (apply renderer srcRoot destRoot step context) w = (.ok given, v)) :
    v.reports = w.reports ++ step.lines destRoot w.disk := by
  cases step with
  | copy t => exact reports_of_unlessGated reports_of_copy ran
  | template t => exact reports_of_unlessGated reports_of_template ran
  | expand tag =>
    cases ran
    rfl
  | bind name value =>
    cases ran
    exact (List.append_nil _).symm

/-- A step that fails prints nothing, unless it is a template that has been read and rendered. -/
theorem reports_apply_of_error
    (fails : (exec (apply renderer srcRoot destRoot step context) w).1 = .error e) :
    ((∀ t, step = .template t → ¬ Renders renderer srcRoot t context w.disk) →
      (exec (apply renderer srcRoot destRoot step context) w).2.reports = w.reports) ∧
    ∀ t, step = .template t → Renders renderer srcRoot t context w.disk →
      (exec (apply renderer srcRoot destRoot step context) w).2.reports =
        w.reports ++ [.rendered t.src t.dest] := by
  cases step with
  | copy t =>
    obtain ⟨failed, left⟩ := exec_unlessGated_of_error fails
    refine ⟨fun _ => ?_, fun _ other => by cases other⟩
    exact (congrArg World.reports left).trans (reports_copy_of_error failed)
  | template t =>
    obtain ⟨-, left⟩ := exec_unlessGated_of_error fails
    refine ⟨fun failed => ?_, ?_⟩
    · have silent := (exec_template_of_not_renders destRoot (failed t rfl)).1
      exact (congrArg World.reports left).trans silent
    · rintro _ ⟨⟩ renders
      exact (congrArg World.reports left).trans (reports_template_of_renders destRoot renders)
  | expand tag => cases fails
  | bind name value => cases fails

/-! ## Rows -/

/-- The lines of a row of steps. Each step tells its own from the disk that the steps before it leave. -/
def linesOf (renderer : Renderer) (destRoot : Path) :
    List (Path × Step) → Context → World → List Report
  | [], _, _ => []
  | (srcRoot, step) :: rest, context, w =>
    step.lines destRoot w.disk ++
      linesOf renderer destRoot rest (contextBehind context step)
        (exec (apply renderer srcRoot destRoot step context) w).2

/-- A row that does not fail prints the lines of its steps. -/
theorem reports_of_execute {row : List (Path × Step)} {seed c : Context}
    (ran : exec (execute renderer destRoot row seed) w = (.ok c, v)) :
    v.reports = w.reports ++ linesOf renderer destRoot row seed w := by
  induction row generalizing seed w with
  | nil =>
    cases ran
    exact (List.append_nil _).symm
  | cons step row ih =>
    obtain ⟨srcRoot, step⟩ := step
    rcases applied : exec (apply renderer srcRoot destRoot step seed) w with ⟨e | given, u⟩
    · rw [execute_cons_of_error step row applied] at ran
      cases ran
    · rw [execute_cons step row applied] at ran
      rw [ih ran, reports_of_exec_apply applied, linesOf, applied, List.append_assoc]

/-! ## The failing walk -/

/-- **What a failing walk prints.** There is one step of the flat row at which the walk stops. The console
then holds the lines of the steps before it, in order and each in full, and no line of the failing
step, unless that is a template which has been read and rendered: then its own line is the last one,
although its file could not be written. -/
theorem failing_walk_prints (renderer : Renderer) (destRoot srcRoot : Path) (registry : Registry)
    (steps : List Step) (seed : Context) (w : World) (e : Failure)
    (failed : (exec (walk renderer destRoot srcRoot registry steps seed) w).1 = .error e) :
    let left := (exec (walk renderer destRoot srcRoot registry steps seed) w).2
    ∃ stop : Stop renderer destRoot (flatten registry srcRoot steps) seed w e,
      (∀ other : Stop renderer destRoot (flatten registry srcRoot steps) seed w e, other = stop) ∧
      ((∀ t, stop.step = .template t →
          ¬ Renders renderer stop.srcRoot t stop.context stop.world.disk) →
        left.console =
          w.console ++ (linesOf renderer destRoot stop.before seed w).map Report.text) ∧
      ∀ t, stop.step = .template t → Renders renderer stop.srcRoot t stop.context stop.world.disk →
        left.console =
          w.console ++ (linesOf renderer destRoot stop.before seed w).map Report.text ++
            [Report.text (.rendered t.src t.dest)] := by
  obtain ⟨result, alike⟩ := walk_alike_execute renderer destRoot srcRoot registry steps seed w
  obtain ⟨stop, ended⟩ := exists_stop (result.symm.trans failed)
  rw [ended] at alike
  have before := reports_of_execute stop.applied
  obtain ⟨silent, reported⟩ := reports_apply_of_error stop.fails
  refine ⟨stop, stop.unique, fun other => ?_, fun t template renders => ?_⟩
  · rw [World.console, alike.reports, Stop.after, silent other, before, List.map_append]
    rfl
  · rw [World.console, alike.reports, Stop.after, reported t template renders, before,
      List.map_append, List.map_append]
    rfl

/-- The pack copies, leaves out a copy, and fails when its template is to be written where a directory is.
Its line is printed behind those of the other steps. -/
theorem failing_walk_prints_in_pack :
    let pack : Manifest := ⟨"p", ⟨"pack"⟩,
      [.copy ⟨⟨"t"⟩, ⟨"a"⟩, false⟩, .copy ⟨⟨"t"⟩, ⟨"a"⟩, true⟩, .template ⟨⟨"t"⟩, ⟨"."⟩, false⟩], false⟩
    let registry : Registry := ⟨[("p", pack)]⟩
    let steps := [.bind "name" .null, .expand "p", .copy ⟨⟨"pack/t"⟩, ⟨"late"⟩, false⟩]
    let w := World.start Disk.packAndProject
    let walked := exec (walk verbatim ⟨"proj"⟩ ⟨"."⟩ registry steps .empty) w
    walked.1 = .error (.disk .isDirectory) ∧
      walked.2.console = ["FROM\tp", "COPY\tt\ta", "SKIP\ta", "TEMPLATE\tt\t."] ∧
      ∃ stop : Stop verbatim ⟨"proj"⟩ (flatten registry ⟨"."⟩ steps) .empty w (.disk .isDirectory),
        (∀ other : Stop verbatim ⟨"proj"⟩ (flatten registry ⟨"."⟩ steps) .empty w
          (.disk .isDirectory), other = stop) ∧
        ((∀ t, stop.step = .template t →
            ¬ Renders verbatim stop.srcRoot t stop.context stop.world.disk) →
          walked.2.console =
            w.console ++ (linesOf verbatim ⟨"proj"⟩ stop.before .empty w).map Report.text) ∧
        ∀ t, stop.step = .template t →
          Renders verbatim stop.srcRoot t stop.context stop.world.disk →
          walked.2.console =
            w.console ++ (linesOf verbatim ⟨"proj"⟩ stop.before .empty w).map Report.text ++
              [Report.text (.rendered t.src t.dest)] := by
  intro pack registry steps w walked
  obtain ⟨result, alike⟩ := walk_alike_execute verbatim ⟨"proj"⟩ ⟨"."⟩ registry steps .empty w
  have console := congrArg (List.map Report.text) alike.reports
  have row : flatten registry ⟨"."⟩ steps =
      (⟨"."⟩, .bind "name" .null) :: (⟨"."⟩, .expand "p") ::
        pack.steps.map (fun step => (⟨"pack"⟩, step)) ++
          [(⟨"."⟩, .copy ⟨⟨"pack/t"⟩, ⟨"late"⟩, false⟩)] := by
    have inside : expansion registry (.expand "p") =
        pack.steps.map fun step => (⟨"pack"⟩, step) := by
      have found : registry.get? "p" = some pack := rfl
      rw [expansion, found]
      exact flatten_of_no_expansion _ (by simp [pack, expansion])
    rw [flatten_cons, flatten_cons, flatten_cons, flatten_nil, inside]
    rfl
  rw [row] at result console
  have failed : walked.1 = .error (.disk .isDirectory) :=
    result.trans (eq_error_of_diskError? (by decide +kernel))
  exact ⟨failed, console.trans (by decide +kernel),
    failing_walk_prints verbatim ⟨"proj"⟩ ⟨"."⟩ registry steps .empty w (.disk .isDirectory) failed⟩

/-- The template is rendered and then not written, for a directory is in its place. No step stands
before it, and its line is printed. -/
theorem failing_template_is_reported :
    let step : Step := .template ⟨⟨"t"⟩, ⟨"proj"⟩, false⟩
    let w := World.start Disk.packAndProject
    let walked := exec (walk verbatim ⟨"."⟩ ⟨"pack"⟩ .empty [step] .empty) w
    flatten .empty ⟨"pack"⟩ [step] = [(⟨"pack"⟩, step)] ∧
      walked.1 = .error (.disk .isDirectory) ∧ walked.2.console = ["TEMPLATE\tt\tproj"] := by
  intro step w walked
  have row : flatten .empty ⟨"pack"⟩ [step] = [(⟨"pack"⟩, step)] := by
    rw [flatten_cons, flatten_nil]
    rfl
  obtain ⟨result, alike⟩ := walk_alike_execute verbatim ⟨"."⟩ ⟨"pack"⟩ .empty [step] .empty w
  have console := congrArg (List.map Report.text) alike.reports
  rw [row] at result console
  refine ⟨row, result.trans (eq_error_of_diskError? (by decide +kernel)), console.trans ?_⟩
  decide +kernel

end Run

end Scaffold
