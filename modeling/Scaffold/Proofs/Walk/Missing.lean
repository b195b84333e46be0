import Scaffold.Proofs.Disk.Reveal
import Scaffold.Proofs.Run.Copies
import Scaffold.Proofs.Run.Refusal
import Scaffold.Proofs.Walk.Trace

/-!
# Sources that are missing

A transfer whose source names nothing fails for the disk and prints no line, and a walk that comes to
it fails with it, at any depth of packs (`missing_source_fails`). Two copies are excepted.

A copy of a path to itself does not look at the disk. It reports that it copied a file that is not
there (`own_copy_of_missing_succeeds`).

Every other copy makes the directories above its destination before it reads. A source that leads back
through one of them over a link is there when it is read (`Surfaces`). That takes a link with a `..`
behind a name (`not_surfaces`).
-/

namespace Scaffold

namespace Run

variable {renderer : Renderer} {srcRoot destRoot : Path} {t : Transfer} {step : Step}
  {context : Context} {source dest p : Path} {w v : World}

/-! ## Directories that are made -/

theorem ensureParent_error_disk {e : Failure} (failed : exec (ensureParent p) w = (.error e, v)) :
    ∃ reason, e = .disk reason := by
  unfold ensureParent at failed
  split at failed
  · cases failed
  · next outer _ =>
    have makes := makes_of_exec failed
    exact makes.error_disk

theorem directory_of_ensureParent (ran : exec (ensureParent p) w = (.ok (), v)) {x : Place}
    (changed : v.disk.get? x ≠ w.disk.get? x) : v.disk.get? x = some .directory := by
  unfold ensureParent at ran
  split at ran
  · cases ran
    exact absurd rfl changed
  · next outer _ =>
    have makes := makes_of_exec ran
    exact makes.directory_of_changed changed

/-! ## Sources that surface -/

/-- The source names a file once the directories above the destination are made. -/
def Surfaces (source dest : Path) (w : World) : Prop :=
  ∃ v, exec (ensureParent dest) w = (.ok (), v) ∧ v.disk.isFile source = true

/-- Without a `..` behind a name in a link, the directories above the destination bring no file to light. -/
theorem not_surfaces (sound : w.disk.Sound) (climbs : w.disk.ClimbsFirst) (descends : source.Descends)
    (missing : w.disk.holds source = false) (dest : Path) : ¬ Surfaces source dest w := by
  rintro ⟨v, made, surfaced⟩
  have grown := growsTo_ensureParent dest w
  rw [made] at grown
  obtain ⟨q, content, executable, found, there⟩ := Disk.isFile_iff.1 surfaced
  -- the file is no new directory, so it was there before
  have old : w.disk.get? q = some (.file content executable) := by
    by_contra differs
    have directory := directory_of_ensureParent made (x := q) (there ▸ Ne.symm differs)
    rw [there] at directory
    cases directory
  have before := climbs.find_of_edits sound grown.edits descends (by rw [old]; rfl) found
  have held := Disk.holds_iff.2 ⟨q, _, before, old⟩
  rw [missing] at held
  cases held

/-! ## Copies -/

theorem exists_copyable_error {d : Disk} (missing : d.isFile source = false) :
    ∃ e, copyable d source = .error e := by
  cases read : copyable d source with
  | error e => exact ⟨e, rfl⟩
  | ok given =>
    obtain ⟨content, executable⟩ := given
    obtain ⟨q, found, there⟩ := exists_of_copyable read
    have file : d.isFile source = true := Disk.isFile_iff.2 ⟨q, content, executable, found, there⟩
    rw [missing] at file
    cases file

/-- A file that does not surface is not copied. -/
theorem copyFile_of_hidden (hidden : ¬ Surfaces source dest w) :
    ∃ e, (exec (copyFile source dest) w).1 = .error (.disk e) := by
  unfold copyFile
  rcases made : exec (ensureParent dest) w with ⟨e | ⟨⟨⟩⟩, v⟩
  · obtain ⟨reason, rfl⟩ := ensureParent_error_disk made
    exact ⟨reason, by rw [exec_bind_of_error made]⟩
  · have absent : v.disk.isFile source = false := by
      rw [← Bool.not_eq_true]
      exact fun surfaced => hidden ⟨v, made, surfaced⟩
    obtain ⟨reason, failed⟩ := exists_copyable_error absent
    have read : exec (reading (copyable · source)) v = (.error (.disk reason), v) := by
      rw [exec_reading, failed]
      rfl
    exact ⟨reason, by rw [exec_bind_of_ok made, exec_bind_of_error read]⟩

theorem not_isDirectory_of_missing {d : Disk} (missing : d.holds source = false) :
    d.isDirectory source = false := by
  rw [← Bool.not_eq_true]
  intro directory
  rw [Disk.holds_of_isDirectory directory] at missing
  cases missing

/-- What names nothing is copied as a file. -/
theorem copyPath_of_missing (missing : w.disk.holds source = false)
    (other : source.sameParts dest = false) :
    exec (copyPath source dest) w = exec (copyFile source dest) w := by
  have file := not_isDirectory_of_missing missing
  simp only [copyPath, other, Bool.false_eq_true, if_false]
  rw [exec_bind_of_ok (exec_disk w)]
  simp only [file, Bool.not_false, if_true]

/-- A copy to itself reports itself and does nothing else. -/
theorem exec_copy_of_own
    (own : (srcRoot.absolutize t.src).sameParts (destRoot.absolutize t.dest) = true) :
    exec (copy srcRoot destRoot t) w =
      (.ok (), { w with
        notes := w.notes ++ [.ownDestination (srcRoot.absolutize t.src)]
        reports := w.reports ++ [.copied t.src t.dest] }) := by
  rw [copy, copyPath, if_pos own]
  rfl

/-! ## Steps -/

/-- The step notices that its source is missing. A copy does not when it is one to itself, or when its
source surfaces. -/
def Notices (srcRoot destRoot : Path) (t : Transfer) (step : Step) (w : World) : Prop :=
  step = .copy t →
    (srcRoot.absolutize t.src).sameParts (destRoot.absolutize t.dest) = false ∧
      ¬ Surfaces (srcRoot.absolutize t.src) (destRoot.absolutize t.dest) w

theorem template_of_missing (renderer : Renderer) (destRoot : Path) (context : Context)
    (missing : w.disk.holds (srcRoot.absolutize t.src) = false) :
    ∃ e, exec (template renderer srcRoot destRoot t context) w = (.error (.disk e), w) := by
  rcases exec_template_cases renderer srcRoot destRoot t context w with
    ⟨e, -, ran⟩ | ⟨text, read, -⟩
  · exact ⟨e, ran⟩
  · -- a text is read from what the path names
    have held : w.disk.holds (srcRoot.absolutize t.src) = true := by
      unfold Disk.readText at read
      cases node : w.disk.read (srcRoot.absolutize t.src) with
      | error e =>
        rw [node] at read
        cases read
      | ok node' =>
        obtain ⟨q, found, there⟩ := Disk.read_eq_ok_iff.1 node
        exact Disk.holds_iff.2 ⟨q, node', found, there⟩
    rw [missing] at held
    cases held

/-- A step that notices fails for the disk, and prints nothing. -/
theorem apply_of_missing (renderer : Renderer) (context : Context)
    (transfers : step.transfer? = some t) (carried : Carried destRoot t w.disk)
    (missing : w.disk.holds (srcRoot.absolutize t.src) = false)
    (notices : Notices srcRoot destRoot t step w) :
    (∃ e, (exec (apply renderer srcRoot destRoot step context) w).1 = .error (.disk e)) ∧
      (exec (apply renderer srcRoot destRoot step context) w).2.reports = w.reports := by
  cases step with
  | copy t' =>
    cases transfers
    obtain ⟨other, hidden⟩ := notices rfl
    obtain ⟨e, failed⟩ := copyFile_of_hidden hidden
    obtain ⟨same, -, -⟩ := copy_beside_report srcRoot destRoot t w
    rw [copyPath_of_missing missing other, failed] at same
    rw [exec_apply_copy carried]
    have failed' : ((exec (copy srcRoot destRoot t) w).1.map fun _ => (none : Option Directive)) =
        .error (.disk e) := by
      rw [same]
      rfl
    exact ⟨⟨e, failed'⟩, reports_copy_of_error same⟩
  | template t' =>
    cases transfers
    obtain ⟨e, ran⟩ := template_of_missing renderer destRoot context missing
    have applied := exec_of_carried carried (template renderer srcRoot destRoot t context)
    rw [ran] at applied
    exact ⟨⟨e, congrArg Prod.fst applied⟩, congrArg (·.2.reports) applied⟩
  | expand _ | bind _ _ => cases transfers

/-- A walk that comes to a failing step fails with it. -/
theorem walk_error_of_apply {outerRoot : Path} {registry : Registry} {steps : List Step}
    {seed : Context} {start : World} {before behind : List (Path × Step)} {e : Failure}
    (row : flatten registry outerRoot steps = before ++ (srcRoot, step) :: behind)
    (reached : exec (execute renderer destRoot before seed) start = (.ok context, w))
    (failed : (exec (apply renderer srcRoot destRoot step context) w).1 = .error e) :
    (exec (walk renderer destRoot outerRoot registry steps seed) start).1 = .error e := by
  obtain ⟨result, -⟩ := walk_alike_execute renderer destRoot outerRoot registry steps seed start
  rcases applied : exec (apply renderer srcRoot destRoot step context) w with ⟨e' | given, u⟩
  · rw [applied] at failed
    cases failed
    rw [result, row, execute_append, exec_bind_of_ok reached,
      execute_cons_of_error step behind applied]
  · rw [applied] at failed
    cases failed

/-- **A missing source is noticed.** Let a transfer be carried out whose source names nothing, links
followed. Unless it is a copy of a path to itself, or a copy whose source surfaces, it fails for the disk,
prints no line, and fails every walk that comes to it, however deep in packs. No source surfaces on a
disk whose links have no `..` behind a name. A copy of a path to itself succeeds, and all that it does
to be seen is its line. -/
theorem missing_source_fails (renderer : Renderer) (srcRoot destRoot : Path) (step : Step)
    (t : Transfer) (context : Context) (w : World) (transfers : step.transfer? = some t)
    (carried : Carried destRoot t w.disk)
    (missing : w.disk.holds (srcRoot.absolutize t.src) = false) :
    let source := srcRoot.absolutize t.src
    let dest := destRoot.absolutize t.dest
    let applied := exec (apply renderer srcRoot destRoot step context) w
    (Notices srcRoot destRoot t step w →
      (∃ e, applied.1 = .error (.disk e)) ∧ applied.2.console = w.console ∧
      ∀ outerRoot registry steps seed start before behind,
        flatten registry outerRoot steps = before ++ (srcRoot, step) :: behind →
        exec (execute renderer destRoot before seed) start = (.ok context, w) →
          ∃ e, (exec (walk renderer destRoot outerRoot registry steps seed) start).1 =
            .error (.disk e)) ∧
    (w.disk.Sound → w.disk.ClimbsFirst → ¬ Surfaces source dest w) ∧
    (step = .copy t → source.sameParts dest = true →
      applied.1 = .ok none ∧ applied.2.disk = w.disk ∧
        applied.2.console = w.console ++ [Report.text (.copied t.src t.dest)]) := by
  intro source dest applied
  refine ⟨fun notices => ?_, fun sound climbs => ?_, fun copies own => ?_⟩
  · obtain ⟨⟨e, failed⟩, silent⟩ :=
      apply_of_missing renderer context transfers carried missing notices
    refine ⟨⟨e, failed⟩, congrArg (List.map Report.text) silent, ?_⟩
    intro outerRoot registry steps seed start before behind row reached
    exact ⟨e, walk_error_of_apply row reached failed⟩
  · exact not_surfaces sound climbs (Path.descends_absolutize srcRoot t.src) missing dest
  · subst copies
    dsimp only [applied]
    rw [exec_apply_copy carried, exec_copy_of_own own]
    exact ⟨rfl, rfl, List.map_append⟩

/-- The copy in a pack is conditional, and its source lies behind a link in a directory that is there. -/
theorem missing_source_fails_in_pack :
    let t : Transfer := ⟨⟨"l/gone"⟩, ⟨"new/y"⟩, true⟩
    let pack : Manifest := ⟨"p", ⟨"pack"⟩, [.copy t], false⟩
    let registry : Registry := ⟨[("p", pack)]⟩
    let d : Disk := ⟨[(["pack"], .directory), (["proj"], .directory),
      (["l", "pack"], .link ⟨"../proj"⟩)], []⟩
    let w : World := { World.start d with reports := [.expanding "p"] }
    let source := Path.absolutize ⟨"pack"⟩ t.src
    let dest := Path.absolutize ⟨"proj"⟩ t.dest
    let applied := exec (apply verbatim ⟨"pack"⟩ ⟨"proj"⟩ (.copy t) .empty) w
    Step.transfer? (.copy t) = some t ∧ Carried ⟨"proj"⟩ t d ∧ d.holds source = false ∧
      source.sameParts dest = false ∧ ¬ Surfaces source dest w ∧
      (∃ e, applied.1 = .error (.disk e)) ∧ applied.2.console = ["FROM\tp"] ∧
      ∃ e, (exec (walk verbatim ⟨"proj"⟩ ⟨"."⟩ registry [.expand "p"] .empty) (World.start d)).1 =
        .error (.disk e) := by
  intro t pack registry d w source dest applied
  have sound : d.Sound := Disk.sound_of_entries (by decide +kernel) (by decide +kernel)
  have climbs : d.ClimbsFirst := by
    intro p target there
    cases p with
    | nil => cases there
    | cons n outer =>
      have entry := Disk.mem_entries_of_get? there
      simp only [d, List.mem_cons, Prod.mk.injEq, reduceCtorEq, and_false, List.not_mem_nil,
        or_false, false_or, Node.link.injEq] at entry
      obtain ⟨-, rfl⟩ := entry
      have descends : Path.parts ⟨"../proj"⟩ = [.up, .name "proj"] := by decide
      unfold Path.Descends
      rw [descends]
      simp
  have carried : Carried ⟨"proj"⟩ t d := carried_iff.2 (by decide +kernel)
  have missing : d.holds source = false := by decide +kernel
  have other : source.sameParts dest = false := by decide +kernel
  obtain ⟨fails, hidden, -⟩ :=
    missing_source_fails verbatim ⟨"pack"⟩ ⟨"proj"⟩ (.copy t) t .empty w rfl carried missing
  have hidden := hidden sound climbs
  obtain ⟨failed, silent, walks⟩ := fails fun _ => ⟨other, hidden⟩
  have row : flatten registry ⟨"."⟩ [.expand "p"] =
      [(⟨"."⟩, .expand "p")] ++ (⟨"pack"⟩, .copy t) :: [] := by
    have inside : expansion registry (.expand "p") = [(⟨"pack"⟩, .copy t)] := by
      have found : registry.get? "p" = some pack := rfl
      rw [expansion, found]
      exact flatten_of_no_expansion _ (by simp [pack, expansion])
    rw [flatten_cons, flatten_nil, inside]
    rfl
  exact ⟨rfl, carried, missing, other, hidden, failed, silent,
    walks ⟨"."⟩ registry [.expand "p"] .empty (World.start d) [(⟨"."⟩, .expand "p")] [] row rfl⟩

/-- There is nothing at all on the disk. The copy of a path to itself succeeds and prints its line. -/
theorem own_copy_of_missing_succeeds :
    let t : Transfer := ⟨⟨"a"⟩, ⟨"a"⟩, false⟩
    let w := World.start ⟨[], []⟩
    let applied := exec (apply verbatim ⟨"."⟩ ⟨"."⟩ (.copy t) .empty) w
    Carried ⟨"."⟩ t w.disk ∧ w.disk.holds (Path.absolutize ⟨"."⟩ t.src) = false ∧
      applied.1 = .ok none ∧ applied.2.console = ["COPY\ta\ta"] := by
  intro t w applied
  have own : (Path.absolutize ⟨"."⟩ t.src).sameParts (Path.absolutize ⟨"."⟩ t.dest) = true := by
    decide +kernel
  have carried : Carried ⟨"."⟩ t w.disk := carried_iff.2 (by decide +kernel)
  dsimp only [applied]
  rw [exec_apply_copy carried, exec_copy_of_own own]
  exact ⟨carried, by decide +kernel, rfl, by decide +kernel⟩

/-- The link is dangling until the directory `x` is made for the destination. -/
example :
    let w := World.start ⟨[(["l"], .link ⟨"x/../f"⟩), (["f"], .file "x".toUTF8 false)], []⟩
    w.disk.holds ⟨"l"⟩ = false ∧ (exec (copyPath ⟨"l"⟩ ⟨"x/y"⟩) w).1.isOk = true := by
  decide +kernel

end Run

end Scaffold
