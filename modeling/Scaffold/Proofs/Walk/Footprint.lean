import Scaffold.Proofs.Run.Footprint
import Scaffold.Proofs.Walk.Binding

/-!
# The footprint of a walk

What a walk changes can be traced to single steps of the flat row: `CarriedOut` names the transfers
that are reached and not left out, and `footprint_execute` finds for each changed place one of them
whose destination it lies at, below or above. The induction is over the row. A directory that is made
above one destination stays, for no later step removes an entry or changes its kind.

* `walk_footprint`: nothing is removed, no kind changes, and every changed place belongs to the
  destination of a transfer that was carried out.
* `walk_leaves_destination_by_climbing`: a place outside the destination root changes only where the
  destination of such a transfer climbs out of the root. Where none does, the walk stays inside.
* `exists_walk_outside_destination`: a single `..` is enough to leave it.
-/

namespace Scaffold

/-- A pack with one file beside an empty project. -/
def Disk.packAndProject : Disk where
  entries :=
    [(["pack"], .directory), (["t", "pack"], .file "x".toUTF8 false), (["proj"], .directory)]
  cwd := []

theorem Disk.sound_packAndProject : packAndProject.Sound :=
  sound_of_entries (by decide +kernel) (by decide +kernel)

theorem Disk.linkless_packAndProject : packAndProject.Linkless :=
  linkless_of_entries (by simp [packAndProject])

namespace Run

variable {renderer : Renderer} {destRoot : Path}

/-- The steps in front of the transfer have been applied, and it is carried out then. -/
def CarriedOut (renderer : Renderer) (destRoot : Path) (row : List (Path × Step)) (seed : Context)
    (w : World) (t : Transfer) : Prop :=
  ∃ before srcRoot step behind c v, row = before ++ (srcRoot, step) :: behind ∧
    step.transfer? = some t ∧ exec (execute renderer destRoot before seed) w = (.ok c, v) ∧
    Carried destRoot t v.disk

theorem CarriedOut.head {srcRoot : Path} {step : Step} {row : List (Path × Step)} {seed : Context}
    {w : World} {t : Transfer} (transfer : step.transfer? = some t)
    (carried : Carried destRoot t w.disk) :
    CarriedOut renderer destRoot ((srcRoot, step) :: row) seed w t :=
  ⟨[], srcRoot, step, row, seed, w, rfl, transfer, rfl, carried⟩

theorem CarriedOut.tail {srcRoot : Path} {step : Step} {given : Option Directive}
    {row : List (Path × Step)} {seed : Context} {w v : World} {t : Transfer}
    (applied : exec (apply renderer srcRoot destRoot step seed) w = (.ok given, v))
    (out : CarriedOut renderer destRoot row (contextBehind seed step) v t) :
    CarriedOut renderer destRoot ((srcRoot, step) :: row) seed w t := by
  obtain ⟨before, root, inner, behind, c, u, rfl, transfer, ran, carried⟩ := out
  refine ⟨(srcRoot, step) :: before, root, inner, behind, c, u, rfl, transfer, ?_, carried⟩
  rw [execute_cons step before applied, ran]

/-- Applying a row edits the disk, also when it fails. -/
theorem edits_execute (renderer : Renderer) (destRoot : Path) (row : List (Path × Step))
    (seed : Context) (w : World) :
    Disk.Edits w.disk (exec (execute renderer destRoot row seed) w).2.disk := by
  induction row generalizing seed w with
  | nil => exact .refl
  | cons step row ih =>
    obtain ⟨srcRoot, step⟩ := step
    have first := edits_apply renderer srcRoot destRoot seed step w
    rcases applied : exec (apply renderer srcRoot destRoot step seed) w with ⟨e | given, v⟩
    · rw [applied] at first
      rw [execute_cons_of_error step row applied]
      exact first
    · rw [applied] at first
      rw [execute_cons step row applied]
      exact first.trans (ih _ v)

/-- Every place that a row changes belongs to a transfer of the row that is carried out. -/
theorem footprint_execute {cwd : Place} (row : List (Path × Step)) (seed : Context) {w : World}
    (steady : Disk.Steady cwd w.disk) (p : Place)
    (changed : (exec (execute renderer destRoot row seed) w).2.disk.get? p ≠ w.disk.get? p) :
    ∃ t, CarriedOut renderer destRoot row seed w t ∧
      Disk.TouchedFrom ((destRoot.absolutize t.dest).place cwd) w.disk
        (exec (execute renderer destRoot row seed) w).2.disk p := by
  induction row generalizing seed w with
  | nil =>
    rw [execute] at changed
    exact absurd rfl changed
  | cons step row ih =>
    obtain ⟨srcRoot, step⟩ := step
    have here := footprint_apply renderer srcRoot destRoot seed step steady p
    have edits := edits_apply renderer srcRoot destRoot seed step w
    rcases applied : exec (apply renderer srcRoot destRoot step seed) w with ⟨e | given, v⟩
    · rw [applied] at here
      rw [execute_cons_of_error step row applied] at changed ⊢
      obtain ⟨t, transfer, carried, touched⟩ := here changed
      exact ⟨t, .head transfer carried, touched⟩
    · rw [applied] at here edits
      rw [execute_cons step row applied] at changed ⊢
      by_cases same : v.disk.get? p = w.disk.get? p
      · -- the place is changed by a later step
        obtain ⟨t, out, touched⟩ := ih (contextBehind seed step) (steady.edits edits)
          (fun kept => changed (kept.trans same))
        exact ⟨t, out.tail applied, touched.since same⟩
      · obtain ⟨t, transfer, carried, touched⟩ := here same
        have later := edits_execute renderer destRoot row (contextBehind seed step) v
        exact ⟨t, .head transfer carried, touched.edits later⟩

/-- **The footprint of a walk.** Whether the walk succeeds or fails, no entry is removed and none
changes its kind. Every place that is new or has changed lies at or below the destination of a
transfer that was carried out, or is a new directory above such a destination. -/
theorem walk_footprint (renderer : Renderer) (destRoot srcRoot : Path) (registry : Registry)
    (steps : List Step) (seed : Context) (w : World) (sound : w.disk.Sound)
    (linkless : w.disk.Linkless) :
    let after := (exec (walk renderer destRoot srcRoot registry steps seed) w).2.disk
    (∀ p node, w.disk.get? p = some node →
      ∃ node', after.get? p = some node' ∧ node.SameKind node') ∧
    ∀ p, after.get? p ≠ w.disk.get? p →
      ∃ t, CarriedOut renderer destRoot (flatten registry srcRoot steps) seed w t ∧
        Disk.TouchedFrom ((destRoot.absolutize t.dest).place w.disk.cwd) w.disk after p := by
  obtain ⟨-, alike⟩ := walk_alike_execute renderer destRoot srcRoot registry steps seed w
  have edits := edits_execute renderer destRoot (flatten registry srcRoot steps) seed w
  dsimp only
  rw [alike.disk]
  exact ⟨edits.keeps, footprint_execute _ seed ⟨sound, linkless, rfl⟩⟩

/-- The second transfer fails for want of its source, behind the directory that it has made for its
destination. -/
theorem walk_footprint_of_failed_copy :
    let steps := [.copy ⟨⟨"t"⟩, ⟨"a/b"⟩, false⟩, .copy ⟨⟨"missing"⟩, ⟨"/c/d/../e"⟩, false⟩]
    let w := World.start Disk.packAndProject
    let after := (exec (walk verbatim ⟨"proj"⟩ ⟨"pack"⟩ .empty steps .empty) w).2.disk
    w.disk.Sound ∧ w.disk.Linkless ∧
      (after.get? ["c", "proj"] = some .directory ∧ w.disk.get? ["c", "proj"] = none) ∧
      ∃ t, CarriedOut verbatim ⟨"proj"⟩ (flatten .empty ⟨"pack"⟩ steps) .empty w t ∧
        Disk.TouchedFrom ((Path.absolutize ⟨"proj"⟩ t.dest).place w.disk.cwd) w.disk after
          ["c", "proj"] := by
  intro steps w after
  have made : after.get? ["c", "proj"] = some .directory := by
    obtain ⟨-, alike⟩ := walk_alike_execute verbatim ⟨"proj"⟩ ⟨"pack"⟩ .empty steps .empty w
    have row : flatten .empty ⟨"pack"⟩ steps = steps.map fun step => (⟨"pack"⟩, step) := by
      rw [flatten_cons, flatten_cons, flatten_nil]
      rfl
    rw [row] at alike
    dsimp only [after]
    rw [alike.disk]
    decide +kernel
  have free : w.disk.get? ["c", "proj"] = none := by decide +kernel
  have footprint := walk_footprint verbatim ⟨"proj"⟩ ⟨"pack"⟩ .empty steps .empty w
    Disk.sound_packAndProject Disk.linkless_packAndProject
  refine ⟨Disk.sound_packAndProject, Disk.linkless_packAndProject, ⟨made, free⟩,
    footprint.2 ["c", "proj"] fun same => ?_⟩
  rw [free] at same
  cases made.symm.trans same

/-- What a transfer to a place inside `root` touches lies inside `root`, or is a new directory above
it. -/
theorem touched_inside {root place p : Place} {d d' : Disk} (inside : root <:+ place)
    (touched : Disk.TouchedFrom place d d' p) :
    root <:+ p ∨ (p <:+ root ∧ d.get? p = none ∧ d'.get? p = some .directory) := by
  rcases touched with below | ⟨above, free, made⟩
  · exact .inl (inside.trans below)
  · rcases List.suffix_or_suffix_of_suffix inside above with inner | outer
    · exact .inl inner
    · exact .inr ⟨outer, free, made⟩

/-- **A walk leaves its destination only by climbing.** Whether the walk succeeds or fails, a place
outside the destination root is as it was, or it is a new directory above the root, or it belongs to
the destination of a transfer that was carried out, and that destination climbs out of the root. -/
theorem walk_leaves_destination_by_climbing (renderer : Renderer) (destRoot srcRoot : Path)
    (registry : Registry) (steps : List Step) (seed : Context) (w : World) (sound : w.disk.Sound)
    (linkless : w.disk.Linkless) :
    let root := destRoot.place w.disk.cwd
    let after := (exec (walk renderer destRoot srcRoot registry steps seed) w).2.disk
    ∀ p, ¬ root <:+ p →
      after.get? p = w.disk.get? p ∨
      (p <:+ root ∧ w.disk.get? p = none ∧ after.get? p = some .directory) ∨
      ∃ t, CarriedOut renderer destRoot (flatten registry srcRoot steps) seed w t ∧
        0 < t.dest.climbs ∧ ¬ root <:+ (destRoot.absolutize t.dest).place w.disk.cwd ∧
        Disk.TouchedFrom ((destRoot.absolutize t.dest).place w.disk.cwd) w.disk after p := by
  obtain ⟨-, alike⟩ := walk_alike_execute renderer destRoot srcRoot registry steps seed w
  dsimp only
  rw [alike.disk]
  intro p outside
  by_cases same : (exec (execute renderer destRoot (flatten registry srcRoot steps) seed) w).2.disk.get?
      p = w.disk.get? p
  · exact .inl same
  · obtain ⟨t, out, touched⟩ := footprint_execute _ seed ⟨sound, linkless, rfl⟩ p same
    by_cases inside : destRoot.place w.disk.cwd <:+ (destRoot.absolutize t.dest).place w.disk.cwd
    · rcases touched_inside inside touched with inner | above
      · exact absurd inner outside
      · exact .inr (.inl above)
    · have climbs : 0 < t.dest.climbs := by
        rw [Nat.pos_iff_ne_zero]
        intro level
        exact inside (Path.place_suffix_of_not_climbing level destRoot w.disk.cwd)
      exact .inr (.inr ⟨t, out, climbs, inside, touched⟩)

/-- The file that is written beside the project. -/
theorem walk_writes_evil :
    (exec (walk verbatim ⟨"proj"⟩ ⟨"pack"⟩ .empty [.copy ⟨⟨"t"⟩, ⟨"../evil"⟩, false⟩] .empty)
      (World.start Disk.packAndProject)).2.disk.get? ["evil"] = some (.file "x".toUTF8 false) := by
  obtain ⟨-, alike⟩ := walk_alike_execute verbatim ⟨"proj"⟩ ⟨"pack"⟩ .empty
    [.copy ⟨⟨"t"⟩, ⟨"../evil"⟩, false⟩] .empty (World.start Disk.packAndProject)
  rw [flatten_cons, flatten_nil] at alike
  rw [alike.disk]
  decide +kernel

/-- One `..` in a destination is enough to write beside the destination root. -/
theorem exists_walk_outside_destination :
    let w := World.start Disk.packAndProject
    let after := (exec (walk verbatim ⟨"proj"⟩ ⟨"pack"⟩ .empty
      [.copy ⟨⟨"t"⟩, ⟨"../evil"⟩, false⟩] .empty) w).2.disk
    w.disk.Sound ∧ w.disk.Linkless ∧ ¬ Path.place w.disk.cwd ⟨"proj"⟩ <:+ ["evil"] ∧
      w.disk.get? ["evil"] = none ∧ after.get? ["evil"] = some (.file "x".toUTF8 false) :=
  ⟨Disk.sound_packAndProject, Disk.linkless_packAndProject, by decide +kernel, by decide +kernel,
    walk_writes_evil⟩

/-- The climbing destination is the one that the file outside belongs to. -/
theorem walk_leaves_destination_at_evil :
    let w := World.start Disk.packAndProject
    let steps := [.copy ⟨⟨"t"⟩, ⟨"../evil"⟩, false⟩]
    let root := Path.place w.disk.cwd ⟨"proj"⟩
    let after := (exec (walk verbatim ⟨"proj"⟩ ⟨"pack"⟩ .empty steps .empty) w).2.disk
    w.disk.Sound ∧ w.disk.Linkless ∧ ¬ root <:+ ["evil"] ∧
      ∃ t, CarriedOut verbatim ⟨"proj"⟩ (flatten .empty ⟨"pack"⟩ steps) .empty w t ∧
        0 < t.dest.climbs ∧ ¬ root <:+ (Path.absolutize ⟨"proj"⟩ t.dest).place w.disk.cwd ∧
        Disk.TouchedFrom ((Path.absolutize ⟨"proj"⟩ t.dest).place w.disk.cwd) w.disk after
          ["evil"] := by
  intro w steps root after
  have outside : ¬ root <:+ ["evil"] := by decide +kernel
  have free : w.disk.get? ["evil"] = none := by decide +kernel
  have written : after.get? ["evil"] = some (.file "x".toUTF8 false) := walk_writes_evil
  refine ⟨Disk.sound_packAndProject, Disk.linkless_packAndProject, outside, ?_⟩
  rcases walk_leaves_destination_by_climbing verbatim ⟨"proj"⟩ ⟨"pack"⟩ .empty steps .empty w
    Disk.sound_packAndProject Disk.linkless_packAndProject ["evil"] outside with same | above | climbing
  · exact absurd (same.symm.trans written) (by simp [free])
  · exact absurd (above.2.2.symm.trans written) (by simp)
  · exact climbing

end Run

end Scaffold
