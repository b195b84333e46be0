import Scaffold.Proofs.Run.Outline
import Scaffold.Proofs.Walk.Conditional

/-!
# What variables can influence

The seed of a walk and its renderer show in the bytes of files only. A row that succeeds leaves the
outline that its sketch makes (`exec_sketch_of_execute`), and the sketch knows neither of them; so two
successful walks over the same steps print the same console and leave disks of one outline
(`walk_differs_in_contents_only`). Rendered files may be copied, rendered again or tested for in
between: the sketch does the same with empty ones.

Where no template of the row is carried out, there is nothing to be influenced, and the disks are the
same (`world_execute_of_noTemplate`).
-/

namespace Scaffold.Run

variable {renderer renderer' : Renderer} {destRoot : Path} {row : List (Path × Step)}
  {seed seed' : Context} {w : World}

/-- A row that succeeds leaves the outline that the sketches of its steps make of the outline before. -/
theorem exec_sketch_of_execute {c : Context} {v : World}
    (ran : exec (execute renderer destRoot row seed) w = (.ok c, v)) :
    exec (row.forM fun step => sketch step.1 destRoot step.2) w.outline = (.ok (), v.outline) := by
  induction row generalizing seed w with
  | nil =>
    cases ran
    rfl
  | cons step row ih =>
    obtain ⟨srcRoot, step⟩ := step
    rcases applied : exec (apply renderer srcRoot destRoot step seed) w with ⟨e | given, u⟩
    · rw [execute_cons_of_error step row applied] at ran
      cases ran
    · rw [execute_cons step row applied] at ran
      exact (exec_bind_of_ok (exec_sketch_of_apply applied) _).trans (ih ran)

/-! ## Rows without templates -/

/-- Each template of the row is left out when the steps in front of it have been applied. -/
def LeavesOutTemplates (renderer : Renderer) (destRoot : Path) (row : List (Path × Step))
    (seed : Context) (w : World) : Prop :=
  ∀ before srcRoot t behind c v, row = before ++ (srcRoot, .template t) :: behind →
    exec (execute renderer destRoot before seed) w = (.ok c, v) → ¬ Carried destRoot t v.disk

theorem LeavesOutTemplates.tail {srcRoot : Path} {step : Step} {given : Option Directive} {v : World}
    (leavesOut : LeavesOutTemplates renderer destRoot ((srcRoot, step) :: row) seed w)
    (applied : exec (apply renderer srcRoot destRoot step seed) w = (.ok given, v)) :
    LeavesOutTemplates renderer destRoot row (contextBehind seed step) v := by
  intro before root t behind c u split ran
  refine leavesOut ((srcRoot, step) :: before) root t behind c u
    (congrArg (List.cons (srcRoot, step)) split) ?_
  rw [execute_cons step before applied, ran]

/-- Only a template that is carried out looks at the renderer and the context. -/
theorem exec_apply_eq {srcRoot : Path} {step : Step}
    (leftOut : ∀ t, step = .template t → ¬ Carried destRoot t w.disk) :
    exec (apply renderer srcRoot destRoot step seed) w =
      exec (apply renderer' srcRoot destRoot step seed') w := by
  cases step with
  | template t =>
    have gated := leftOut t rfl
    rw [carried_iff, Classical.not_not] at gated
    simp only [apply, exec_bind_pure, exec_unlessGated, if_pos gated]
  | copy t => rfl
  | expand tag => rfl
  | bind name value => rfl

/-- A row that carries out no template leaves the same world whatever the renderer and the seed are. -/
theorem world_execute_of_noTemplate (renderer' : Renderer) (seed' : Context)
    (leavesOut : LeavesOutTemplates renderer destRoot row seed w) :
    (exec (execute renderer destRoot row seed) w).2 =
      (exec (execute renderer' destRoot row seed') w).2 := by
  induction row generalizing seed seed' w with
  | nil => rfl
  | cons step row ih =>
    obtain ⟨srcRoot, step⟩ := step
    have same : exec (apply renderer srcRoot destRoot step seed) w =
        exec (apply renderer' srcRoot destRoot step seed') w :=
      exec_apply_eq fun t template => leavesOut [] srcRoot t row seed w (template ▸ rfl) rfl
    rcases applied : exec (apply renderer srcRoot destRoot step seed) w with ⟨e | given, v⟩
    · rw [execute_cons_of_error step row applied,
        execute_cons_of_error step row (same.symm.trans applied)]
    · rw [execute_cons step row applied, execute_cons step row (same.symm.trans applied)]
      exact ih _ (leavesOut.tail applied)

/-! ## The walk -/

/-- **Variables influence only file contents.** If the steps are walked twice from one world, with any two
seeds and any two renderers, and both walks succeed, then both print the same console, and the same
places hold the same directories, the same links, and files with the same marks: the disks differ
in the bytes of files at most. If no template is carried out, the disks are the same. -/
theorem walk_differs_in_contents_only (renderer renderer' : Renderer) (destRoot srcRoot : Path)
    (registry : Registry) (steps : List Step) (seed seed' c c' : Context) (w v v' : World)
    (ran : exec (walk renderer destRoot srcRoot registry steps seed) w = (.ok c, v))
    (ran' : exec (walk renderer' destRoot srcRoot registry steps seed') w = (.ok c', v')) :
    v.console = v'.console ∧
    (∀ p, (v.disk.get? p).map Node.outline = (v'.disk.get? p).map Node.outline) ∧
    (LeavesOutTemplates renderer destRoot (flatten registry srcRoot steps) seed w →
      v.disk = v'.disk) := by
  obtain ⟨u, executed, alike⟩ := exists_execute_of_walk ran
  obtain ⟨u', executed', alike'⟩ := exists_execute_of_walk ran'
  have same : u.outline = u'.outline := congrArg Prod.snd
    ((exec_sketch_of_execute executed).symm.trans (exec_sketch_of_execute executed'))
  refine ⟨?_, fun p => ?_, fun leavesOut => ?_⟩
  · rw [World.console, World.console, alike.reports, alike'.reports, ← World.reports_outline u, same,
      World.reports_outline]
  · rw [alike.disk, alike'.disk, ← Disk.get?_outline, ← Disk.get?_outline]
    rw [← World.disk_outline, same, World.disk_outline]
  · have left := world_execute_of_noTemplate renderer' seed' leavesOut
    rw [executed, executed'] at left
    rw [alike.disk, alike'.disk, show u = u' from left]

/-- A rendered file is copied and rendered again: two renderers give the places different bytes. On the
same disk a template is left out, and then a copy is all that happens. -/
theorem walk_differs_in_rendered_bytes :
    let shout : Renderer := fun text _ => .ok (text ++ "!")
    let seed := Context.empty.withDefault "name" .null
    let steps := [.bind "name" (.str "x"), .template ⟨⟨"pack/t"⟩, ⟨"a"⟩, false⟩,
      .copy ⟨⟨"proj/a"⟩, ⟨"b"⟩, true⟩, .template ⟨⟨"proj/b"⟩, ⟨"c"⟩, true⟩]
    let quiet := [.template ⟨⟨"pack/t"⟩, ⟨"kept"⟩, true⟩, .copy ⟨⟨"pack/t"⟩, ⟨"a"⟩, false⟩]
    let w := World.start Disk.packAndDangling
    (∃ c v c' v', exec (walk verbatim ⟨"proj"⟩ ⟨"."⟩ .empty steps .empty) w = (.ok c, v) ∧
      exec (walk shout ⟨"proj"⟩ ⟨"."⟩ .empty steps seed) w = (.ok c', v') ∧
      v.disk.get? ["c", "proj"] = some (.file "x".toUTF8 false) ∧
      v'.disk.get? ["c", "proj"] = some (.file "x!!".toUTF8 false) ∧
      v.console = v'.console ∧
      ∀ p, (v.disk.get? p).map Node.outline = (v'.disk.get? p).map Node.outline) ∧
    ∃ c v c' v', exec (walk verbatim ⟨"proj"⟩ ⟨"."⟩ .empty quiet .empty) w = (.ok c, v) ∧
      exec (walk shout ⟨"proj"⟩ ⟨"."⟩ .empty quiet seed) w = (.ok c', v') ∧
      LeavesOutTemplates verbatim ⟨"proj"⟩ (flatten .empty ⟨"."⟩ quiet) .empty w ∧
      v.disk = v'.disk := by
  intro shout seed steps quiet w
  have flat : flatten .empty ⟨"."⟩ steps = steps.map fun step => (⟨"."⟩, step) :=
    flatten_of_no_expansion _ (by simp [steps, expansion])
  have flatQuiet : flatten .empty ⟨"."⟩ quiet = quiet.map fun step => (⟨"."⟩, step) :=
    flatten_of_no_expansion _ (by simp [quiet, expansion])
  constructor
  · obtain ⟨c, v, ran, alike⟩ := @exists_walk_of_isOk verbatim ⟨"proj"⟩ .empty ⟨"."⟩ steps .empty w
      (by rw [flat]; decide +kernel)
    obtain ⟨c', v', ran', alike'⟩ := @exists_walk_of_isOk shout ⟨"proj"⟩ .empty ⟨"."⟩ steps seed w
      (by rw [flat]; decide +kernel)
    obtain ⟨console, outline, -⟩ := walk_differs_in_contents_only verbatim shout ⟨"proj"⟩ ⟨"."⟩ .empty
      steps .empty seed c c' w v v' ran ran'
    refine ⟨c, v, c', v', ran, ran', ?_, ?_, console, outline⟩
    · rw [alike.disk, flat]
      decide +kernel
    · rw [alike'.disk, flat]
      decide +kernel
  · obtain ⟨c, v, ran, -⟩ := @exists_walk_of_isOk verbatim ⟨"proj"⟩ .empty ⟨"."⟩ quiet .empty w
      (by rw [flatQuiet]; decide +kernel)
    obtain ⟨c', v', ran', -⟩ := @exists_walk_of_isOk shout ⟨"proj"⟩ .empty ⟨"."⟩ quiet seed w
      (by rw [flatQuiet]; decide +kernel)
    have leavesOut : LeavesOutTemplates verbatim ⟨"proj"⟩ (flatten .empty ⟨"."⟩ quiet) .empty w := by
      rw [flatQuiet]
      intro before srcRoot t behind c v split ran
      rcases before with _ | ⟨first, _ | ⟨second, before⟩⟩
      · cases split
        cases ran
        exact fun carried => carried ⟨rfl, by decide +kernel⟩
      · cases split
      · cases before with
        | nil => cases split
        | cons third before => cases split
    obtain ⟨-, -, same⟩ := walk_differs_in_contents_only verbatim shout ⟨"proj"⟩ ⟨"."⟩ .empty
      quiet .empty seed c c' w v v' ran ran'
    exact ⟨c, v, c', v', ran, ran', leavesOut, same leavesOut⟩

end Scaffold.Run
