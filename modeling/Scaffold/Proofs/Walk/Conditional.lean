import Scaffold.Proofs.Run.Done
import Scaffold.Proofs.Walk.Footprint

/-!
# Walks over conditional steps

Where every step of the flat row is conditional, a walk only adds to the disk. Each step lets the disk
grow (`growsTo_apply`), so every entry that is there at any moment of the walk is there at its end, with
its bytes and its mark (`conditional_walk_only_adds`).

Such a walk needs to be run once. Behind each step that succeeds the step is done, and what the later
steps add does not undo it; so a second walk meets a disk on which all steps are done
(`conditional_walk_idempotent`).
-/

namespace Scaffold

/-- A pack with one file, beside a project that holds a file and a link to where nothing is. -/
def Disk.packAndDangling : Disk where
  entries :=
    [(["pack"], .directory), (["t", "pack"], .file "x".toUTF8 false), (["proj"], .directory),
      (["kept", "proj"], .file "old".toUTF8 true), (["link", "proj"], .link ⟨"aim"⟩)]
  cwd := []

theorem Disk.sound_packAndDangling : packAndDangling.Sound :=
  sound_of_entries (by decide +kernel) (by decide +kernel)

namespace Run

variable {renderer : Renderer} {destRoot : Path} {row : List (Path × Step)} {seed : Context}
  {w : World}

/-- Every step of the row is conditional. -/
def AllConditional (row : List (Path × Step)) : Prop := ∀ step ∈ row, step.2.IsConditional

/-! ## Growing -/

/-- Applying conditional steps lets the disk grow, also when one of them fails. -/
theorem growsTo_execute (conditional : AllConditional row) (sound : w.disk.Sound) :
    w.disk.GrowsTo (exec (execute renderer destRoot row seed) w).2.disk := by
  induction row generalizing seed w with
  | nil => exact .refl _
  | cons step row ih =>
    obtain ⟨srcRoot, step⟩ := step
    obtain ⟨first, later⟩ := List.forall_mem_cons.1 conditional
    have grows := growsTo_apply renderer srcRoot destRoot seed first sound
    rcases applied : exec (apply renderer srcRoot destRoot step seed) w with ⟨e | given, v⟩
    · rw [applied] at grows
      rw [execute_cons_of_error step row applied]
      exact grows
    · rw [applied] at grows
      rw [execute_cons step row applied]
      exact grows.trans (ih later (grows.edits.sound sound))

/-- **Conditional steps never touch what is there.** If every step that the walk can reach is conditional,
every entry of the disk is unchanged when the walk has succeeded or failed: directories, links with
their targets, and files with their bytes and marks. So is every entry that is there when any number
of the steps have been applied. -/
theorem conditional_walk_only_adds (renderer : Renderer) (destRoot srcRoot : Path)
    (registry : Registry) (steps : List Step) (seed : Context) (w : World) (sound : w.disk.Sound)
    (conditional : AllConditional (flatten registry srcRoot steps)) :
    let after := (exec (walk renderer destRoot srcRoot registry steps seed) w).2.disk
    (∀ p node, w.disk.get? p = some node → after.get? p = some node) ∧
    ∀ before behind c v, flatten registry srcRoot steps = before ++ behind →
      exec (execute renderer destRoot before seed) w = (.ok c, v) →
        ∀ p node, v.disk.get? p = some node → after.get? p = some node := by
  obtain ⟨-, alike⟩ := walk_alike_execute renderer destRoot srcRoot registry steps seed w
  dsimp only
  rw [alike.disk]
  refine ⟨(growsTo_execute conditional sound).kept, fun before behind c v split ran => ?_⟩
  have edits := edits_execute renderer destRoot before seed w
  rw [ran] at edits
  rw [split, execute_append, exec_bind_of_ok ran]
  rw [split] at conditional
  exact (growsTo_execute (List.forall_mem_append.1 conditional).2 (edits.sound sound)).kept

/-- The first destination is taken, the second is written over the dangling link, and that one takes
the third. -/
theorem conditional_walk_adds_over_link :
    let steps := [.copy ⟨⟨"t"⟩, ⟨"kept"⟩, true⟩, .copy ⟨⟨"t"⟩, ⟨"link"⟩, true⟩,
      .template ⟨⟨"t"⟩, ⟨"aim"⟩, true⟩]
    let w := World.start Disk.packAndDangling
    let row := flatten .empty ⟨"pack"⟩ steps
    let after := (exec (walk verbatim ⟨"proj"⟩ ⟨"pack"⟩ .empty steps .empty) w).2.disk
    w.disk.Sound ∧ AllConditional row ∧
      (w.disk.get? ["aim", "proj"] = none ∧
        after.get? ["aim", "proj"] = some (.file "x".toUTF8 false)) ∧
      (∀ p node, w.disk.get? p = some node → after.get? p = some node) ∧
      ∀ before behind c v, row = before ++ behind →
        exec (execute verbatim ⟨"proj"⟩ before .empty) w = (.ok c, v) →
          ∀ p node, v.disk.get? p = some node → after.get? p = some node := by
  intro steps w row after
  have flat : row = steps.map fun step => (⟨"pack"⟩, step) :=
    flatten_of_no_expansion _ (by simp [steps, expansion])
  have conditional : AllConditional row := by
    rw [flat]
    simp [AllConditional, steps, Step.IsConditional, Step.transfer?]
  have added : after.get? ["aim", "proj"] = some (.file "x".toUTF8 false) := by
    obtain ⟨-, alike⟩ := walk_alike_execute verbatim ⟨"proj"⟩ ⟨"pack"⟩ .empty steps .empty w
    dsimp only [after]
    rw [alike.disk]
    change (exec (execute verbatim ⟨"proj"⟩ row .empty) w).2.disk.get? _ = _
    rw [flat]
    decide +kernel
  exact ⟨Disk.sound_packAndDangling, conditional, ⟨by decide +kernel, added⟩,
    conditional_walk_only_adds verbatim ⟨"proj"⟩ ⟨"pack"⟩ .empty steps .empty w
      Disk.sound_packAndDangling conditional⟩

/-! ## Running again -/

/-- Behind a row that succeeds all its steps are done. -/
theorem done_of_execute {c : Context} {v : World}
    (ran : exec (execute renderer destRoot row seed) w = (.ok c, v)) :
    ∀ step ∈ row, Done destRoot v.disk step.1 step.2 := by
  induction row generalizing seed w with
  | nil => exact List.forall_mem_nil _
  | cons step row ih =>
    obtain ⟨srcRoot, step⟩ := step
    rcases applied : exec (apply renderer srcRoot destRoot step seed) w with ⟨e | given, u⟩
    · rw [execute_cons_of_error step row applied] at ran
      cases ran
    · rw [execute_cons step row applied] at ran
      have edits := edits_execute renderer destRoot row (contextBehind seed step) u
      rw [ran] at edits
      exact List.forall_mem_cons.2 ⟨(done_of_apply applied).edits edits, ih ran⟩

/-- A row of conditional steps that are done succeeds, leaves the disk alone, and renders nothing. -/
theorem exec_execute_of_done (again : Renderer) (seed : Context) (conditional : AllConditional row)
    (done : ∀ step ∈ row, Done destRoot w.disk step.1 step.2) :
    ∃ u, exec (execute again destRoot row seed) w = (.ok (seed.bindAll (boundBy row)), u) ∧
      u.disk = w.disk ∧ u.renderings = w.renderings := by
  induction row generalizing seed w with
  | nil => exact ⟨w, rfl, rfl, rfl⟩
  | cons step row ih =>
    obtain ⟨srcRoot, step⟩ := step
    obtain ⟨first, later⟩ := List.forall_mem_cons.1 conditional
    obtain ⟨here, behind⟩ := List.forall_mem_cons.1 done
    obtain ⟨v, applied, sameDisk, sameRenderings⟩ := exec_apply_of_done first here
    rw [execute_cons step row applied, bindAll_boundBy_cons, ← sameDisk, ← sameRenderings]
    exact ih _ later (sameDisk ▸ behind)

/-- **Conditional walks are idempotent.** If every step that the walk can reach is conditional and the
walk succeeds, then walking the same steps again on the disk that it has left succeeds with the same
context, leaves that disk as it is, and renders nothing. -/
theorem conditional_walk_idempotent (renderer again : Renderer) (destRoot srcRoot : Path)
    (registry : Registry) (steps : List Step) (seed c : Context) (w v w' : World)
    (conditional : AllConditional (flatten registry srcRoot steps))
    (ran : exec (walk renderer destRoot srcRoot registry steps seed) w = (.ok c, v))
    (left : w'.disk = v.disk) :
    let second := exec (walk again destRoot srcRoot registry steps seed) w'
    second.1 = .ok c ∧ second.2.disk = v.disk ∧ second.2.renderings = w'.renderings := by
  obtain ⟨u, executed, alike⟩ := exists_execute_of_walk ran
  obtain ⟨result, alike'⟩ := walk_alike_execute again destRoot srcRoot registry steps seed w'
  have done := done_of_execute executed
  rw [← alike.disk, ← left] at done
  obtain ⟨u', executed', sameDisk, sameRenderings⟩ :=
    exec_execute_of_done again seed conditional done
  rw [executed'] at result alike'
  rw [← context_of_execute executed] at result
  exact ⟨result, alike'.disk.trans (sameDisk.trans left), alike'.renderings.trans sameRenderings⟩

/-- The second step is written over a dangling link. The third is the copy of a path to itself, and
nothing is there. -/
theorem conditional_walk_idempotent_over_link :
    let steps := [.bind "name" (.str "x"), .copy ⟨⟨"pack/t"⟩, ⟨"link"⟩, true⟩,
      .copy ⟨⟨"proj/none"⟩, ⟨"none"⟩, true⟩]
    let w := World.start Disk.packAndDangling
    let first := exec (walk verbatim ⟨"proj"⟩ ⟨"."⟩ .empty steps .empty) w
    let second := exec (walk verbatim ⟨"proj"⟩ ⟨"."⟩ .empty steps .empty) (.start first.2.disk)
    AllConditional (flatten .empty ⟨"."⟩ steps) ∧ w.disk.get? ["aim", "proj"] = none ∧
      first.2.disk.get? ["aim", "proj"] = some (.file "x".toUTF8 false) ∧
      ∃ c, first.1 = .ok c ∧ second.1 = .ok c ∧ second.2.disk = first.2.disk ∧
        second.2.renderings = [] := by
  intro steps w first second
  have flat : flatten .empty ⟨"."⟩ steps = steps.map fun step => (⟨"."⟩, step) :=
    flatten_of_no_expansion _ (by simp [steps, expansion])
  have conditional : AllConditional (flatten .empty ⟨"."⟩ steps) := by
    rw [flat]
    simp [AllConditional, steps, Step.IsConditional, Step.transfer?]
  have success : (exec (execute verbatim ⟨"proj"⟩ (flatten .empty ⟨"."⟩ steps) .empty) w).1.isOk := by
    rw [flat]
    decide +kernel
  obtain ⟨c, v, ran, alike⟩ := exists_walk_of_isOk success
  have added : first.2.disk.get? ["aim", "proj"] = some (.file "x".toUTF8 false) := by
    rw [show first = (.ok c, v) from ran, alike.disk, flat]
    decide +kernel
  have left : first.2.disk = v.disk := congrArg (fun out => out.2.disk) ran
  have again := conditional_walk_idempotent verbatim verbatim ⟨"proj"⟩ ⟨"."⟩ .empty steps .empty c w v
    (.start first.2.disk) conditional ran left
  rw [← left] at again
  exact ⟨conditional, by decide +kernel, added, c, congrArg Prod.fst ran, again⟩

end Run

end Scaffold
