import Scaffold.Proofs.Session.Root
import Scaffold.Proofs.Walk.Flat

/-!
# How directories are spelled

The directories of a session can be spelled in many ways. A walk looks at them only through the
absolutized paths of its steps, and those are the same for a directory and its normalized spelling
(`relates_walk`). The manifest of a directory is looked up behind the path as it is given, and
found behind the normalized one as well, for both enter the same directory
(`find_manifest_of_isDirectory`).

So a session does the same from normalized directories (`session_eq_normalized`), down to the tags under
which packs are registered. Only the line about a directory without a manifest shows the spelling
(`Report.normalized`).
-/

namespace Scaffold

/-- The line on the console with the directory in it normalized. -/
def Report.normalized : Report → Report
  | .noManifest root => .noManifest root.normalize
  | line => line

/-- The two worlds differ in their logs and in how directories are spelled on the console. -/
structure World.Respells (w w' : World) : Prop where
  disk : w.disk = w'.disk
  reports : w.reports.map Report.normalized = w'.reports.map Report.normalized
  renderings : w.renderings = w'.renderings

theorem World.Respells.refl (w : World) : w.Respells w := ⟨rfl, rfl, rfl⟩

/-- Lines that are normalized alike can be printed on both sides. -/
theorem World.Respells.report {w w' : World} (respells : w.Respells w') {r r' : Report}
    (same : r.normalized = r'.normalized) :
    World.Respells { w with reports := w.reports ++ [r] } { w' with reports := w'.reports ++ [r'] } := by
  refine ⟨respells.disk, ?_, respells.renderings⟩
  rw [List.map_append, List.map_append, respells.reports, List.map_singleton, List.map_singleton, same]

theorem World.blind_respells : World.Blind World.Respells where
  disk respells := respells.disk
  setDisk _ respells := ⟨rfl, respells.reports, respells.renderings⟩
  report _ respells := respells.report rfl
  render made respells := ⟨respells.disk, respells.reports, congrArg (· ++ [made]) respells.renderings⟩
  notes _ _ respells := ⟨respells.disk, respells.reports, respells.renderings⟩

namespace Run

/-! ## Walks -/

section Roots

variable {renderer : Renderer} {destRoot destRoot' srcRoot srcRoot' : Path}

/-- A step looks at the roots through the paths below them. -/
theorem apply_eq_of_absolutize (dest : ∀ rel, destRoot.absolutize rel = destRoot'.absolutize rel)
    (src : ∀ rel, srcRoot.absolutize rel = srcRoot'.absolutize rel) (step : Step) (context : Context) :
    apply renderer srcRoot destRoot step context = apply renderer srcRoot' destRoot' step context := by
  cases step with
  | copy t => simp only [apply, unlessGated, isGated, copy, dest, src]
  | template t => simp only [apply, unlessGated, isGated, template, dest, src]
  | expand tag => rfl
  | bind name value => rfl

/-- So does a walk, which keeps every blind relation. -/
theorem relates_walk {R : World → World → Prop} (blind : World.Blind R)
    (dest : ∀ rel, destRoot.absolutize rel = destRoot'.absolutize rel)
    (src : ∀ rel, srcRoot.absolutize rel = srcRoot'.absolutize rel) (registry : Registry)
    (steps : List Step) (context : Context) :
    Relates R (walk renderer destRoot srcRoot registry steps context)
      (walk renderer destRoot' srcRoot' registry steps context) := by
  induction registry, srcRoot, steps using flatten.induct generalizing context srcRoot' with
  | case1 registry srcRoot =>
    rw [walk_nil, walk_nil]
    exact Relates.pure context
  | case2 registry srcRoot step rest inner ih =>
    rw [walk_cons, walk_cons, apply_eq_of_absolutize dest src]
    refine Relates.bind_of (relates_apply blind renderer srcRoot' destRoot' step context)
      directive_of_exec_apply ?_
    rintro _ rfl
    cases step with
    | copy t => exact ih src context
    | template t => exact ih src context
    | bind name value => exact ih src (context.withDefault name value)
    | expand tag =>
      simp only [Step.directive?, goOn]
      cases found : registry.get? tag with
      | none => exact Relates.bind (Relates.note blind _ _) fun _ => ih src context
      | some pack =>
        exact Relates.bind (Relates.note blind _ _) fun _ =>
          Relates.bind (inner tag pack found (fun _ => rfl) context) (ih src)

end Roots

/-! ## Loading -/

variable {parse : Edn.Parser} {d : Disk} {root : Path} {w w' : World}

/-- The manifest of a directory is looked up in the same place behind the normalized path. -/
theorem find_manifest_of_isDirectory (folds : d.FoldsNoLink root) (directory : d.isDirectory root = true)
    (short : (root.join manifestFile).text.utf8ByteSize < pathLimit) :
    d.find (root.normalize.join manifestFile) = d.find (root.join manifestFile) := by
  obtain ⟨place, found, leads⟩ := Disk.exists_leadsTo_of_isDirectory directory
  obtain ⟨left, enters⟩ := Disk.follow_here_iff.1 leads.follow
  obtain ⟨free, filled, -⟩ := Disk.checkText_eq_ok_iff.1 (Disk.checkText_of_find found)
  refine find_manifest_normalize folds enters (Disk.checkText_eq_ok_iff.2
    ⟨fun member => ?_, Path.text_join_ne_empty filled _, short⟩)
  rcases Path.mem_text_join (by decide) member with outer | slash | inner
  · exact free outer
  · cases slash
  · revert inner
    decide

/-- A directory loads what it loads under its normalized path. -/
theorem relatesAt_load (found : w.disk.find (root.normalize.join manifestFile) =
      w.disk.find (root.join manifestFile)) (respells : w.Respells w') :
    RelatesAt World.Respells (load parse root) (load parse root.normalize) w w' := by
  unfold load
  refine (Relates.disk World.blind_respells w w' respells).bind fun {d v v'} ran related => ?_
  cases ran
  rw [isFile_congr found]
  split
  · have printed : RelatesAt World.Respells (report (.noManifest root))
        (report (.noManifest root.normalize)) w v' := by
      refine ⟨rfl, related.report ?_⟩
      rw [Report.normalized, Report.normalized, Path.normalize_normalize]
    exact printed.bind fun _ related => ⟨rfl, related⟩
  · refine (Relates.note World.blind_respells _ _ w v' related).bind fun {_ u u'} ran related => ?_
    cases ran
    have read : RelatesAt World.Respells (reading (·.readText (root.join manifestFile)))
        (reading (·.readText (root.normalize.join manifestFile)))
        { w with notes := w.notes ++ [.loading (root.join manifestFile)] } u' := by
      rw [RelatesAt, exec_reading, exec_reading, ← related.disk]
      exact ⟨congrArg (Except.mapError Failure.disk) (readText_congr found.symm), related⟩
    refine read.bind fun {content _ _} _ related => ?_
    rw [decode_normalize]
    exact Relates.bind (Relates.ofExcept _) (fun _ =>
      Relates.bind (Relates.note World.blind_respells _ _) fun _ => Relates.pure _) _ _ related

/-- Directories load what they load under their normalized paths. Loading leaves the disk alone, so each
directory is looked up on the same one. -/
theorem relatesAt_loadAll {roots : List Path}
    (found : ∀ root ∈ roots, w.disk.find (root.normalize.join manifestFile) =
      w.disk.find (root.join manifestFile)) (respells : w.Respells w') :
    RelatesAt World.Respells (loadAll parse roots) (loadAll parse (roots.map Path.normalize)) w w' := by
  induction roots generalizing w w' with
  | nil => exact ⟨rfl, respells⟩
  | cons root rest ih =>
    rw [List.map_cons, loadAll, loadAll]
    refine (relatesAt_load (found root List.mem_cons_self) respells).bind fun {m v v'} ran related => ?_
    have still : v.disk = w.disk := (reads_load parse root).disk_eq ran
    have others := ih (w := v) (fun other listed => by
      rw [still]
      exact found other (List.mem_cons_of_mem root listed)) related
    exact others.bind fun _ related => ⟨rfl, related⟩

theorem relatesAt_buildRegistry {roots : List Path}
    (found : ∀ root ∈ roots, w.disk.find (root.normalize.join manifestFile) =
      w.disk.find (root.join manifestFile)) (respells : w.Respells w') :
    RelatesAt World.Respells (buildRegistry parse roots)
      (buildRegistry parse (roots.map Path.normalize)) w w' := by
  unfold buildRegistry
  refine (relatesAt_loadAll found respells).bind fun _ related => ?_
  exact Relates.bind (Relates.note World.blind_respells _ _) (fun _ => Relates.pure _) _ _ related

/-- Sessions end alike if their registries are made alike, their destinations load alike behind that, and
below the destinations they name the same places. -/
theorem relatesAt_session_of_parts {R : World → World → Prop} (blind : World.Blind R) (renderer : Renderer)
    {imports imports' : List Path} {dest dest' : Path}
    (built : RelatesAt R (buildRegistry parse imports) (buildRegistry parse imports') w w')
    (loads : ∀ {registry v v'}, exec (buildRegistry parse imports) w = (.ok registry, v) → R v v' →
      RelatesAt R (load parse dest) (load parse dest') v v')
    (same : ∀ rel, dest.absolutize rel = dest'.absolutize rel) :
    RelatesAt R (session parse renderer imports dest) (session parse renderer imports' dest') w w' := by
  unfold session
  refine built.bind fun {registry _ _} ran related => ?_
  refine (loads ran related).bind fun {loaded _ _} _ related => ?_
  cases loaded with
  | none => exact Relates.bind (Relates.report blind _) (fun _ => Relates.pure _) _ _ related
  | some manifest =>
    dsimp only
    split
    · exact Relates.bind (Relates.report blind _) (fun _ => Relates.pure _) _ _ related
    · exact Relates.bind (relates_walk blind same same registry manifest.steps .empty)
        (fun _ => Relates.pure _) _ _ related

/-- A session goes as it goes from normalized directories. -/
theorem relatesAt_session (renderer : Renderer) {imports : List Path} {dest : Path}
    (found : ∀ root ∈ imports ++ [dest], w.disk.find (root.normalize.join manifestFile) =
      w.disk.find (root.join manifestFile)) (respells : w.Respells w') :
    RelatesAt World.Respells (session parse renderer imports dest)
      (session parse renderer (imports.map Path.normalize) dest.normalize) w w' := by
  have imported : ∀ root ∈ imports, w.disk.find (root.normalize.join manifestFile) =
      w.disk.find (root.join manifestFile) := fun root listed =>
    found root (List.mem_append_left _ listed)
  refine relatesAt_session_of_parts World.blind_respells renderer
    (relatesAt_buildRegistry imported respells) (fun {registry v v'} ran related => ?_)
    fun rel => (Path.absolutize_normalize dest rel).symm
  have still : v.disk = w.disk := (reads_buildRegistry parse imports).disk_eq ran
  refine relatesAt_load ?_ related
  rw [still]
  exact found dest (List.mem_append_right _ List.mem_cons_self)

/-- **The spelling of the directories does not matter.** On a disk without links, let all directories of a
session be there as they are given, with paths of their manifests that are not too long. From their
normalized paths the session ends in the same way and leaves the same disk and the same renderings. It
prints the same lines, except that a line about a directory without a manifest shows the normalized path.
The same packs are registered under the same tags. -/
theorem session_eq_normalized (parse : Edn.Parser) (renderer : Renderer) (imports : List Path)
    (dest : Path) (w : World) (linkless : w.disk.Linkless)
    (directories : ∀ root ∈ imports ++ [dest], w.disk.isDirectory root = true)
    (short : ∀ root ∈ imports ++ [dest], (root.join manifestFile).text.utf8ByteSize < pathLimit) :
    let given := exec (session parse renderer imports dest) w
    let normal := exec (session parse renderer (imports.map Path.normalize) dest.normalize) w
    given.1 = normal.1 ∧ given.2.disk = normal.2.disk ∧
      given.2.reports.map Report.normalized = normal.2.reports.map Report.normalized ∧
      given.2.renderings = normal.2.renderings ∧
      (exec (buildRegistry parse imports) w).1 =
        (exec (buildRegistry parse (imports.map Path.normalize)) w).1 := by
  have found : ∀ root ∈ imports ++ [dest], w.disk.find (root.normalize.join manifestFile) =
      w.disk.find (root.join manifestFile) := fun root listed =>
    find_manifest_of_isDirectory (linkless.foldsNoLink root) (directories root listed) (short root listed)
  obtain ⟨result, respells⟩ := relatesAt_session renderer found (.refl w)
  obtain ⟨registry, -⟩ := relatesAt_buildRegistry
    (fun root listed => found root (List.mem_append_left _ listed)) (.refl w)
  exact ⟨result, respells.disk, respells.reports, respells.renderings, registry⟩

/-- A pack without a name, a directory without a manifest, and a destination, each under a path that
goes astray. -/
theorem session_eq_normalized_astray :
    let w := World.start ⟨[(["pack"], .directory),
      (["Custodianfile", "pack"], .file "\x7b:steps [[copy \"t\"]]\x7d".toUTF8 false),
      (["proj"], .directory),
      (["Custodianfile", "proj"], .file "\x7b:steps [[from \"../pack\"]]\x7d".toUTF8 false)], ["proj"]⟩
    let imports := [⟨"..//pack/."⟩, ⟨"/pack/../"⟩]
    let dest := ⟨"./../proj/"⟩
    (imports ++ [dest]).map Path.normalize = [⟨"../pack"⟩, ⟨"/"⟩, ⟨"../proj"⟩] ∧
      w.disk.Linkless ∧ (∀ root ∈ imports ++ [dest], w.disk.isDirectory root = true) ∧
      (∀ root ∈ imports ++ [dest], (root.join manifestFile).text.utf8ByteSize < pathLimit) ∧
      let given := exec (session Edn.Value.read verbatim imports dest) w
      let normal := exec (session Edn.Value.read verbatim (imports.map Path.normalize) dest.normalize) w
      given.1 = normal.1 ∧ given.2.disk = normal.2.disk ∧
        given.2.reports.map Report.normalized = normal.2.reports.map Report.normalized ∧
        given.2.renderings = normal.2.renderings ∧
        (exec (buildRegistry Edn.Value.read imports) w).1 =
          (exec (buildRegistry Edn.Value.read (imports.map Path.normalize)) w).1 := by
  intro w imports dest
  have linkless : w.disk.Linkless := Disk.linkless_of_entries (by simp [w, World.start])
  have directories : ∀ root ∈ imports ++ [dest], w.disk.isDirectory root = true := by decide +kernel
  have short : ∀ root ∈ imports ++ [dest],
      (root.join manifestFile).text.utf8ByteSize < pathLimit := by decide +kernel
  exact ⟨by decide +kernel, linkless, directories, short,
    session_eq_normalized Edn.Value.read verbatim imports dest w linkless directories short⟩

end Run

end Scaffold
