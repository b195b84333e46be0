import Scaffold.Proofs.Decode.Manifest
import Scaffold.Proofs.Disk.Normalize
import Scaffold.Proofs.Session.Loading

/-!
# The root of a manifest

The manifest of a directory is looked up behind the path as it is given, and keeps the normalized path
as its root (`Manifest.root_of_decode`). The two name the same directory unless normalizing takes back a link:
then the manifest loads from its own root again, and what lies below its root is what lies below the path
that was given (`root_is_loaded_directory`).

Behind a link, `..` leads to the directory around the target, and the folded path to the directory around
the link. A manifest that was loaded there has another directory as its root
(`root_misses_loaded_directory`).
-/

namespace Scaffold

namespace Run

variable {parse : Edn.Parser} {d : Disk} {root : Path} {m : Manifest} {w : World}

/-! ## Looking up a manifest -/

/-- The path is normalized when a manifest is decoded for it. -/
theorem decode_normalize (content : String) (root : Path) :
    Manifest.decode parse content root.normalize = Manifest.decode parse content root := by
  unfold Manifest.decode
  rw [Path.normalize_normalize]

theorem isFile_congr {p p' : Path} (same : d.find p = d.find p') : d.isFile p = d.isFile p' := by
  unfold Disk.isFile Disk.node?
  rw [same]

theorem readText_congr {p p' : Path} (same : d.find p = d.find p') : d.readText p = d.readText p' := by
  unfold Disk.readText Disk.read
  rw [same]

theorem plain_manifestFile : Plain manifestFile.text := by decide

/-- The manifest of a directory is found, or not found, in the same place behind its normalized path. -/
theorem find_manifest_normalize {left : Nat} {place : Place} (folds : d.FoldsNoLink root)
    (enters : d.Enters linkLimit d.cwd root.writtenParts left place)
    (taken : Disk.checkText (root.join manifestFile) = .ok ()) :
    d.find (root.normalize.join manifestFile) = d.find (root.join manifestFile) := by
  refine folds.find_normalize_join enters plain_manifestFile taken ?_
  by_cases empty : root.text = ""
  · obtain ⟨text⟩ := root
    cases empty
    decide +kernel
  · exact Disk.checkText_normalize_join empty (by decide) taken

/-- A manifest is loaded where its file is there and is decoded to it. -/
theorem load_eq_some_iff :
    (exec (load parse root) w).1 = .ok (some m) ↔
      w.disk.isFile (root.join manifestFile) = true ∧
        ∃ content, w.disk.readText (root.join manifestFile) = .ok content ∧
          Manifest.decode parse content root = .ok m := by
  unfold load
  rw [exec_bind_of_ok (exec_disk w)]
  cases file : w.disk.isFile (root.join manifestFile) with
  | false =>
    rw [if_pos (by decide), exec_bind_of_ok (exec_report w _), exec_pure]
    simp only [Except.ok.injEq, reduceCtorEq, false_and, Bool.false_eq_true]
  | true =>
    rw [if_neg (by decide), exec_bind_of_ok (exec_note w _), exec_bind,
      exec_reading]
    cases read : w.disk.readText (root.join manifestFile) with
    | error e => simp
    | ok content =>
      simp only [mapError_ok, exec_bind, exec_ofExcept]
      cases decoded : Manifest.decode parse content root with
      | error e => simp [decoded]
      | ok other => simp [decoded]

/-! ## The directory of a manifest -/

/-- **The root of a manifest is the directory that it was loaded from,** unless normalizing takes back a
link. The manifest loads from its root again. A path without `..` that leads somewhere below the directory
leads there below the root, absolutized. What is found so below the root is found below the directory,
where the path is not refused for its text; a slash or a dot at its end asks for a directory. -/
theorem root_is_loaded_directory (parse : Edn.Parser) (root : Path) (w : World) (m : Manifest)
    (folds : w.disk.FoldsNoLink root) (loaded : (exec (load parse root) w).1 = .ok (some m)) :
    (exec (load parse m.root) w).1 = .ok (some m) ∧
      ∀ src : Path, src.isRooted = false → .up ∉ src.writtenParts →
        (∀ place, w.disk.find (root.join src) = .ok place →
          w.disk.find (m.root.absolutize src) = .ok place) ∧
        ∀ place, w.disk.find (m.root.absolutize src) = .ok place →
          Disk.checkText (root.join src) = .ok () →
          (src.walkedParts.getLast? = some .here → w.disk.get? place = some .directory) →
          w.disk.find (root.join src) = .ok place := by
  obtain ⟨file, content, read, decoded⟩ := load_eq_some_iff.1 loaded
  have normal := Manifest.root_of_decode decoded
  obtain ⟨place, _, _, found, -⟩ := Disk.isFile_iff.1 file
  have walked := Disk.follow_walkedParts_of_find found
  rw [show manifestFile = ⟨manifestFile.text⟩ from rfl,
    Disk.walkedParts_join_name root plain_manifestFile] at walked
  obtain ⟨left, directory, enters, -⟩ := Disk.exists_enters_of_follow _ _ _ walked
  have same := find_manifest_normalize folds enters (Disk.checkText_of_find found)
  constructor
  · rw [normal]
    refine load_eq_some_iff.2 ⟨?_, content, ?_, ?_⟩
    · rw [isFile_congr same]
      exact file
    · rw [readText_congr same]
      exact read
    · rw [decode_normalize]
      exact decoded
  · intro src unrooted level
    rw [normal, Path.absolutize_normalize, Path.absolutize_eq_normalize_join root unrooted]
    exact ⟨fun _ leads => (folds.join unrooted level).find_normalize leads,
      fun _ leads taken ends => folds.find_join enters unrooted level taken ends leads⟩

/-- What a load gives, when only its manifest's root is evaluated. -/
theorem exists_load_of_root {r : Path}
    (rooted : (exec (load parse root) w).1.toOption.join.map Manifest.root = some r) :
    ∃ m, (exec (load parse root) w).1 = .ok (some m) ∧ m.root = r := by
  obtain ⟨m, given, root_⟩ := Option.map_eq_some_iff.1 rooted
  exact ⟨m, eq_ok_of_toOption (Option.join_eq_some_iff.1 given), root_⟩

/-- The directory lies behind a link, and the `..` takes back a directory that is none. -/
theorem root_is_loaded_directory_behind_link :
    let w := World.start ⟨[(["a"], .directory), (["sub", "a"], .directory), (["pack", "a"], .directory),
      (["Custodianfile", "pack", "a"], .file "\x7b:steps []\x7d".toUTF8 false), (["l"], .link ⟨"a"⟩)], []⟩
    let root : Path := ⟨"l/sub/.././pack/"⟩
    w.disk.FoldsNoLink root ∧
      ∃ m, m.root = ⟨"l/pack"⟩ ∧ (exec (load Edn.Value.read root) w).1 = .ok (some m) ∧
        (exec (load Edn.Value.read m.root) w).1 = .ok (some m) ∧
          ∀ src : Path, src.isRooted = false → .up ∉ src.writtenParts →
            (∀ place, w.disk.find (root.join src) = .ok place →
              w.disk.find (m.root.absolutize src) = .ok place) ∧
            ∀ place, w.disk.find (m.root.absolutize src) = .ok place →
              Disk.checkText (root.join src) = .ok () →
              (src.walkedParts.getLast? = some .here → w.disk.get? place = some .directory) →
              w.disk.find (root.join src) = .ok place := by
  intro w root
  have folds : w.disk.FoldsNoLink root := by
    have written : root.writtenParts = [.name "l", .name "sub", .up, .here, .name "pack"] := by
      decide +kernel
    intro before behind split place target found
    -- the only `..` stands behind the first two names
    have front : before = [.name "l", .name "sub"] := by
      rw [written] at split
      rcases before with _ | ⟨a, _ | ⟨b, _ | ⟨c, _ | ⟨e, _ | ⟨f, rest⟩⟩⟩⟩⟩
      all_goals simp_all
    have led : w.disk.follow false linkLimit w.disk.cwd
        (Canonical.ofParts [.name "l", .name "sub"]).parts = .ok ["sub", "a"] := by rfl
    rw [front, led] at found
    cases found
    have there : w.disk.get? ["sub", "a"] = some .directory := by decide +kernel
    rw [there]
    exact fun link => by cases link
  obtain ⟨m, loaded, rooted⟩ :=
    @exists_load_of_root Edn.Value.read root w ⟨"l/pack"⟩ (by decide +kernel)
  exact ⟨folds, m, rooted, loaded, root_is_loaded_directory Edn.Value.read root w m folds loaded⟩

/-- Behind a link, `..` leads around its target. A manifest is found there that the root of the manifest,
which is folded, does not lead to. -/
theorem root_misses_loaded_directory :
    let w := World.start ⟨[(["a"], .directory), (["b", "a"], .directory),
      (["Custodianfile", "a"], .file "\x7b:name \"n\" :steps []\x7d".toUTF8 false),
      (["l"], .link ⟨"a/b"⟩)], []⟩
    ∃ m, (exec (load Edn.Value.read ⟨"l/.."⟩) w).1 = .ok (some m) ∧ m.root = ⟨"."⟩ ∧
      (exec (load Edn.Value.read m.root) w).1 = .ok none := by
  intro w
  obtain ⟨m, loaded, rooted⟩ :=
    @exists_load_of_root Edn.Value.read ⟨"l/.."⟩ w ⟨"."⟩ (by decide +kernel)
  refine ⟨m, loaded, rooted, ?_⟩
  rw [rooted]
  rfl

end Run

end Scaffold
