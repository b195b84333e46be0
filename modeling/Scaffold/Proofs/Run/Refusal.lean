import Scaffold.Proofs.Run.Footprint
import Scaffold.Proofs.Path.Prefix

/-!
# Copies that are refused

A copy into itself is told from the parts of two absolutized paths: it is refused where the parts of a
directory begin those of another path (`refuses_iff`), nothing else is, and then nothing changes.
Where both paths start alike these are the copies of a directory to a place inside it
(`copy_refused_iff`).

Where they do not, the refusal misses the place (`copy_refusal_misses_place`). A copy of the directory
that the paths are seen from is never refused, for its path is `.` and begins no other. A copy of `..`
to `../..` is refused although it goes above its source.
-/

namespace Scaffold

namespace Run

/-! ## The refusal of a path -/

/-- The copy was refused. -/
def Refused {α : Type} (result : Except Failure α) : Prop :=
  ∃ source dest, result = .error (.intoItself source dest)

/-- A copy is refused where its source is a directory whose parts begin those of another path. -/
theorem refuses_iff (d : Disk) (source dest : Path) :
    refuses d source dest = true ↔
      d.isDirectory source = true ∧ source.parts <+: dest.parts ∧ source.parts ≠ dest.parts := by
  simp only [refuses, Path.sameParts, Path.startsWith, Bool.and_eq_true, Bool.not_eq_true',
    decide_eq_false_iff_not, List.isPrefixOf_iff_prefix]
  constructor
  · rintro ⟨⟨other, directory⟩, begins⟩
    exact ⟨directory, begins, other⟩
  · rintro ⟨directory, begins, other⟩
    exact ⟨⟨other, directory⟩, begins⟩

/-- Nothing else is refused: other copies fail for the disk, if they do. -/
theorem refused_copyPath_iff (source dest : Path) (w : World) :
    Refused (exec (copyPath source dest) w).1 ↔ refuses w.disk source dest = true := by
  refine ⟨fun ⟨s, d, failed⟩ => ?_, fun refused => ⟨source, dest, ?_⟩⟩
  · rw [← Bool.not_eq_false]
    intro accepted
    exact (changes_copyPath accepted).2 _ failed
  · rw [exec_copyPath_of_refused refused]

/-- Turning a result into another one refuses nothing and accepts nothing. -/
theorem refused_map_iff {α β : Type} (f : α → β) (result : Except Failure α) :
    Refused (result.map f) ↔ Refused result := by
  cases result with
  | ok a => simp only [Refused, Except.map, reduceCtorEq, exists_const]
  | error e => simp only [Refused, Except.map, Except.error.injEq]

/-! ## The refusal of a step -/

variable {renderer : Renderer} {srcRoot destRoot : Path} {t : Transfer} {context : Context}
  {w : World}

theorem exec_copy_of_refused
    (refused : refuses w.disk (srcRoot.absolutize t.src) (destRoot.absolutize t.dest) = true) :
    exec (copy srcRoot destRoot t) w =
      (.error (.intoItself (srcRoot.absolutize t.src) (destRoot.absolutize t.dest)), w) := by
  rw [copy, exec_bind_of_error (exec_copyPath_of_refused refused)]

/-- A transfer that is carried out does what its body does, and asks nothing of the walk. -/
theorem exec_of_carried (carried : Carried destRoot t w.disk) (body : Run Unit) :
    exec (do unlessGated destRoot t body; return (none : Option Directive)) w =
      ((exec body w).1.map fun _ => none, (exec body w).2) := by
  simp only [exec_bind_pure, exec_unlessGated, if_neg (carried_iff.1 carried)]

theorem exec_apply_copy (carried : Carried destRoot t w.disk) :
    exec (apply renderer srcRoot destRoot (.copy t) context) w =
      ((exec (copy srcRoot destRoot t) w).1.map fun _ => none,
        (exec (copy srcRoot destRoot t) w).2) :=
  exec_of_carried carried (copy srcRoot destRoot t)

/-- A copy step that is carried out is refused where the copy of its paths is. -/
theorem refused_apply_iff (carried : Carried destRoot t w.disk) :
    Refused (exec (apply renderer srcRoot destRoot (.copy t) context) w).1 ↔
      refuses w.disk (srcRoot.absolutize t.src) (destRoot.absolutize t.dest) = true := by
  obtain ⟨same, -, -⟩ := copy_beside_report srcRoot destRoot t w
  rw [exec_apply_copy carried, refused_map_iff, same, refused_copyPath_iff]

/-- **What a copy is refused for.** A copy that is carried out is refused exactly if its source is a
directory whose parts begin those of its destination, and then nothing changes. Where source and
destination start alike, these are the copies of a directory to a place strictly inside it. Where they
do not, a copy to another place is refused only if its destination climbs further than its source,
and a copy of the directory that the paths are seen from is not refused, wherever it goes. -/
theorem copy_refused_iff (renderer : Renderer) (srcRoot destRoot : Path) (t : Transfer)
    (context : Context) (w : World) (carried : Carried destRoot t w.disk) :
    let source := srcRoot.absolutize t.src
    let dest := destRoot.absolutize t.dest
    let applied := exec (apply renderer srcRoot destRoot (.copy t) context) w
    (Refused applied.1 ↔
      w.disk.isDirectory source = true ∧ source.parts <+: dest.parts ∧ source.parts ≠ dest.parts) ∧
    (Refused applied.1 → applied = (.error (.intoItself source dest), w)) ∧
    ((Path.below srcRoot t.src).StartsAs (Path.below destRoot t.dest) →
      (Refused applied.1 ↔ w.disk.isDirectory source = true ∧
        source.place w.disk.cwd <:+ dest.place w.disk.cwd ∧
        source.place w.disk.cwd ≠ dest.place w.disk.cwd)) ∧
    (Refused applied.1 →
      (source.place w.disk.cwd <:+ dest.place w.disk.cwd ∧
        source.place w.disk.cwd ≠ dest.place w.disk.cwd) ∨
      (Path.below srcRoot t.src).climbs < (Path.below destRoot t.dest).climbs) ∧
    (Path.below srcRoot t.src = .stay → ¬ Refused applied.1) := by
  intro source dest applied
  have decided : Refused applied.1 ↔ refuses w.disk source dest = true := refused_apply_iff carried
  have placed (starts : (Path.below srcRoot t.src).StartsAs (Path.below destRoot t.dest)) :
      Refused applied.1 ↔ w.disk.isDirectory source = true ∧
        source.place w.disk.cwd <:+ dest.place w.disk.cwd ∧
        source.place w.disk.cwd ≠ dest.place w.disk.cwd := by
    rw [decided, refuses_iff, ne_eq, Path.absolutize_prefix_iff starts w.disk.cwd,
      Path.absolutize_parts_eq_iff starts w.disk.cwd]
  refine ⟨decided.trans (refuses_iff _ _ _), fun refused => ?_, placed, fun refused => ?_,
    fun stays refused => ?_⟩
  · dsimp only [applied]
    rw [exec_apply_copy carried, exec_copy_of_refused (decided.1 refused)]
    rfl
  · obtain ⟨-, begins, other⟩ := (refuses_iff _ _ _).1 (decided.1 refused)
    rw [Path.parts_absolutize, Path.parts_absolutize] at begins other
    rcases Canonical.startsAs_of_begins (Path.wf_below srcRoot t.src) (Path.wf_below destRoot t.dest)
      begins other with starts | further
    · exact .inl ((placed starts).1 refused).2
    · exact .inr further
  · obtain ⟨-, begins, other⟩ := (refuses_iff _ _ _).1 (decided.1 refused)
    rw [Path.parts_absolutize, Path.parts_absolutize, stays] at begins other
    exact other (Canonical.parts_eq_of_stay_begins (Path.wf_below destRoot t.dest) begins).symm

/-- Source and destination below one root without `..` start alike, and the copy of a directory to a place
inside it is refused. -/
theorem copy_refused_into_nested :
    let w := World.start ⟨[(["tpl"], .directory), (["a.txt", "tpl"], .file "a".toUTF8 false)], []⟩
    let t : Transfer := ⟨⟨"tpl"⟩, ⟨"tpl/nested"⟩, false⟩
    let source := Path.absolutize ⟨"."⟩ t.src
    let dest := Path.absolutize ⟨"."⟩ t.dest
    let applied := exec (apply verbatim ⟨"."⟩ ⟨"."⟩ (.copy t) .empty) w
    Carried ⟨"."⟩ t w.disk ∧ (Path.below ⟨"."⟩ t.src).StartsAs (Path.below ⟨"."⟩ t.dest) ∧
      Refused applied.1 ∧ applied = (.error (.intoItself source dest), w) ∧
      w.disk.isDirectory source = true ∧ source.place w.disk.cwd <:+ dest.place w.disk.cwd ∧
      source.place w.disk.cwd ≠ dest.place w.disk.cwd := by
  intro w t source dest applied
  have carried : Carried ⟨"."⟩ t w.disk := by
    rintro ⟨⟨⟩, -⟩
  have alike : (Path.below ⟨"."⟩ t.src).StartsAs (Path.below ⟨"."⟩ t.dest) :=
    ⟨by decide +kernel, by decide +kernel, by decide +kernel⟩
  obtain ⟨textual, unchanged, placed, -, -⟩ := copy_refused_iff verbatim ⟨"."⟩ ⟨"."⟩ t .empty w carried
  have refused : Refused applied.1 := textual.2 (by decide +kernel)
  exact ⟨carried, alike, refused, unchanged refused, (placed alike).1 refused⟩

/-- The refusal misses the place. A copy of `.` into it goes on until the disk stops it, and a copy of
`..` above it is refused. -/
theorem copy_refusal_misses_place :
    (let w := World.start ⟨[(["sub"], .file "x".toUTF8 false)], []⟩
      let t : Transfer := ⟨⟨"."⟩, ⟨"sub"⟩, false⟩
      let source := Path.absolutize ⟨"."⟩ t.src
      let dest := Path.absolutize ⟨"."⟩ t.dest
      w.disk.Linkless ∧ Carried ⟨"."⟩ t w.disk ∧ w.disk.isDirectory source = true ∧
        source.place w.disk.cwd <:+ dest.place w.disk.cwd ∧
        source.place w.disk.cwd ≠ dest.place w.disk.cwd ∧
        (exec (apply verbatim ⟨"."⟩ ⟨"."⟩ (.copy t) .empty) w).1 =
          .error (.disk .exists_)) ∧
    (let w := World.start ⟨[(["a"], .directory), (["b", "a"], .directory)], ["b", "a"]⟩
      let t : Transfer := ⟨⟨".."⟩, ⟨"../.."⟩, false⟩
      let source := Path.absolutize ⟨"."⟩ t.src
      let dest := Path.absolutize ⟨"."⟩ t.dest
      w.disk.Linkless ∧ Carried ⟨"."⟩ t w.disk ∧
        ¬ source.place w.disk.cwd <:+ dest.place w.disk.cwd ∧
        Refused (exec (apply verbatim ⟨"."⟩ ⟨"."⟩ (.copy t) .empty) w).1) := by
  refine ⟨?_, ?_⟩
  · intro w t source dest
    refine ⟨Disk.linkless_of_entries (by simp [w, World.start]), by rintro ⟨⟨⟩, -⟩, by decide +kernel,
      by decide +kernel, by decide +kernel, eq_error_of_diskError? (by decide +kernel)⟩
  · intro w t source dest
    have carried : Carried ⟨"."⟩ t w.disk := by rintro ⟨⟨⟩, -⟩
    exact ⟨Disk.linkless_of_entries (by simp [w, World.start]), carried, by decide +kernel,
      (refused_apply_iff carried).2 (by decide +kernel)⟩

end Run

end Scaffold
