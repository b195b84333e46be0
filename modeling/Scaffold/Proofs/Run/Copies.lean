import Scaffold.Proofs.Disk.Descend
import Scaffold.Proofs.Run.Growth

/-!
# The files of a copy

A copy that succeeds is a row of copies of single files, with directories made in between. `CopiesFile`
says what one of them does to the disk: where the destination is the source itself, under whatever path,
the bytes are gone. `Copies` is the row, each file named by the way down to it, which is the same below
the source and below the destination.

A tree is copied by a row that has every file of the tree, and nothing that is a directory
(`copiesTree_of_copyTree`). The levels that bound the recursion run out only after the paths have
become too long to be found. Which of the two a copy is, of a file or of a tree, is told by what the
source leads to (`copyPath_cases`).
-/

namespace Scaffold

namespace Run

open Disk (Edits)

variable {source dest : Path} {d d' d'' : Disk} {w v : World} {place : Place}

/-! ## One file -/

/-- What the copy of one file does. Directories are made first. The place of the destination gets the
bytes and the mark of the source; where it is the place of the source, the bytes are gone. -/
inductive CopiesFile (source dest : Path) (d d' : Disk) : Prop
  | intro {made : Disk} {p q : Place} {content : ByteArray} {executable : Bool} :
    d.GrowsTo made → Edits made d' → made.find source = .ok p →
      made.get? p = some (.file content executable) → made.find dest = .ok q →
        (∀ place, d'.get? place = if place = q then
          some (.file (if p = q then .empty else content) executable) else made.get? place) →
          CopiesFile source dest d d'

theorem exists_of_copyable {content : ByteArray} {executable : Bool}
    (read : copyable d source = .ok (content, executable)) :
    ∃ p, d.find source = .ok p ∧ d.get? p = some (.file content executable) := by
  unfold copyable at read
  cases found : d.read source with
  | error e =>
    rw [found] at read
    cases read
  | ok node =>
    rw [found] at read
    cases node with
    | file old was =>
      cases read
      exact Disk.read_eq_ok_iff.1 found
    | directory | link _ => cases read

theorem copiesFile_of_copyFile (ran : exec (copyFile source dest) w = (.ok (), v)) :
    CopiesFile source dest w.disk v.disk := by
  obtain ⟨⟨⟩, u, parent, ran⟩ := exists_of_exec_bind ran
  obtain ⟨⟨content, executable⟩, u', first, ran⟩ := exists_of_exec_bind ran
  obtain ⟨⟨⟩, t, emptied, ran⟩ := exists_of_exec_bind ran
  obtain ⟨⟨content', _⟩, t', second, filled⟩ := exists_of_exec_bind ran
  have grown := growsTo_ensureParent dest w
  rw [parent] at grown
  obtain ⟨first, rfl⟩ := eq_of_exec_reading first
  obtain ⟨second, rfl⟩ := eq_of_exec_reading second
  have emptied := eq_of_exec_change emptied
  have filled := eq_of_exec_change filled
  obtain ⟨p, found, there⟩ := exists_of_copyable first
  obtain ⟨p', found', there'⟩ := exists_of_copyable second
  have empties : Edits u'.disk t'.disk := .single (.file emptied)
  have fills : Edits t'.disk v.disk := .single (.file filled)
  cases (empties.find found).symm.trans found'
  obtain ⟨q, _, below, -, leads, -, set⟩ := Disk.exists_of_write emptied
  obtain ⟨q', _, below', -, leads', -, set'⟩ := Disk.exists_of_write filled
  cases (empties.find leads).symm.trans leads'
  rw [set, Disk.get?_set below] at there'
  have bytes : content' = if p = q then .empty else content := by
    split
    · next same =>
      rw [if_pos same] at there'
      cases there'
      rfl
    · next other =>
      rw [if_neg other, there] at there'
      cases there'
      rfl
  refine .intro grown (empties.trans fills) found there leads fun place => ?_
  rw [set', Disk.get?_set below, set, Disk.get?_set below, bytes]
  split
  · rfl
  · rfl

/-- What is copied as a single file is no directory, and no link to one. -/
theorem get?_ne_directory_of_copyFile (ran : exec (copyFile source dest) w = (.ok (), v))
    (led : w.disk.find source = .ok place) : w.disk.get? place ≠ some .directory := by
  intro there
  cases copiesFile_of_copyFile ran with
  | intro grows _ found origin =>
    cases (grows.edits.find led).symm.trans found
    cases origin.symm.trans (grows.kept _ _ there)

theorem CopiesFile.edits (copies : CopiesFile source dest d d') : Edits d d' := by
  cases copies with
  | intro grows edits => exact grows.edits.trans edits

/-! ## Rows of files -/

/-- The copy of a row of files, each named by the way down to it, with directories made in between. -/
inductive Copies (source dest : Path) : List (List String) → Disk → Disk → Prop
  | done {d : Disk} : Copies source dest [] d d
  | making {rows : List (List String)} {d d' d'' : Disk} :
    d.GrowsTo d' → Copies source dest rows d' d'' → Copies source dest rows d d''
  | file {r : List String} {rows : List (List String)} {d d' d'' : Disk} :
    CopiesFile (source.descend r) (dest.descend r) d d' → Copies source dest rows d' d'' →
      Copies source dest (r :: rows) d d''

variable {rows rows' : List (List String)} {n : String}

theorem Copies.edits (copies : Copies source dest rows d d') : Edits d d' := by
  induction copies with
  | done => exact .refl
  | making grows _ ih => exact grows.edits.trans ih
  | file copies _ ih => exact copies.edits.trans ih

theorem Copies.append (first : Copies source dest rows d d')
    (second : Copies source dest rows' d' d'') : Copies source dest (rows ++ rows') d d'' := by
  induction first with
  | done => exact second
  | making grows _ ih => exact .making grows (ih second)
  | file copies _ ih => exact .file copies (ih second)

/-- What is copied below an entry is copied below the directory that has it. -/
theorem Copies.of_child (copies : Copies (source.join ⟨n⟩) (dest.join ⟨n⟩) rows d d') :
    Copies source dest (rows.map (n :: ·)) d d' := by
  induction copies with
  | done => exact .done
  | making grows _ ih => exact .making grows ih
  | file copies _ ih => exact .file copies ih

theorem Copies.of_dest {dest' : Path} (copies : Copies source dest rows d d')
    (same : ∀ r ∈ rows, dest.descend r = dest'.descend r) : Copies source dest' rows d d' := by
  induction copies with
  | done => exact .done
  | making grows _ ih => exact .making grows (ih same)
  | file copies _ ih =>
    rw [same _ List.mem_cons_self] at copies
    exact .file copies (ih fun r listed => same r (List.mem_cons_of_mem _ listed))

/-- The row has every file at or below the place, and everything in it is there and no directory. -/
structure Covers (before after : Disk) (place : Place) (rows : List (List String)) : Prop where
  all : ∀ r content executable,
    before.get? (r.reverse ++ place) = some (.file content executable) → r ∈ rows
  only : ∀ r ∈ rows, after.Leaf (r.reverse ++ place)

/-- An entry that is no directory is copied as one file. -/
theorem covers_of_leaf (sound : d.Sound) (edits : Edits d d') (leaf : d.Leaf place) :
    Covers d d' place [[]] := by
  refine ⟨fun r content executable there => ?_, fun r member => ?_⟩
  · by_cases here : r = []
    · exact here ▸ List.mem_cons_self
    · have below : r.reverse ≠ [] := fun none => here (List.reverse_eq_nil_iff.1 none)
      rw [sound.free_below leaf.other below] at there
      cases there
  · cases List.mem_singleton.1 member
    exact edits.keeps.leaf leaf

/-- The files at or below the place are copied, in a row that has them all. -/
def CopiesTree (source dest : Path) (place : Place) (d d' : Disk) : Prop :=
  ∃ rows, Copies source dest rows d d' ∧ Covers d d' place rows

theorem copiesTree_of_copyFile (ran : exec (copyFile source dest) w = (.ok (), v))
    (sound : w.disk.Sound) (leaf : w.disk.Leaf place) :
    CopiesTree source dest place w.disk v.disk := by
  have copies := copiesFile_of_copyFile ran
  exact ⟨[[]], .file copies .done, covers_of_leaf sound copies.edits leaf⟩

/-! ## Trees -/

theorem copiesTree_of_leaf {levels : Nat} (sound : w.disk.Sound) (leaf : w.disk.Leaf place)
    (ran : exec (copyTree levels source dest false) w = (.ok (), v)) :
    CopiesTree source dest place w.disk v.disk := by
  rw [copyTree_leaf, exec_bind_of_ok (exec_note w _)] at ran
  have copies := copiesTree_of_copyFile ran sound leaf
  exact copies

/-- What the copies of the entries of a directory say, one after the other, about those of its tree. -/
theorem exists_copies_of_forM {levels : Nat} {names : List String} {earlier : Disk}
    (each : ∀ n ∈ names, ∀ {w v : World}, Edits earlier w.disk →
      exec (copyTree levels (source.join ⟨n⟩) (dest.join ⟨n⟩)
        (earlier.get? (n :: place) = some .directory)) w = (.ok (), v) →
      CopiesTree (source.join ⟨n⟩) (dest.join ⟨n⟩) (n :: place) w.disk v.disk)
    (edits : Edits earlier w.disk)
    (ran : exec (names.forM fun n => copyTree levels (source.join ⟨n⟩) (dest.join ⟨n⟩)
      (earlier.get? (n :: place) = some .directory)) w = (.ok (), v)) :
    ∃ rows, Copies source dest rows w.disk v.disk ∧
      (∀ n ∈ names, ∀ r content executable,
        w.disk.get? (r.reverse ++ n :: place) = some (.file content executable) → n :: r ∈ rows) ∧
      ∀ r ∈ rows, v.disk.Leaf (r.reverse ++ place) := by
  induction names generalizing w with
  | nil =>
    cases ran
    exact ⟨[], .done, fun _ listed => absurd listed List.not_mem_nil,
      fun _ listed => absurd listed List.not_mem_nil⟩
  | cons n rest ih =>
    obtain ⟨⟨⟩, u, first, ran⟩ := exists_of_exec_bind ran
    obtain ⟨rows, copies, covers⟩ := each n List.mem_cons_self edits first
    obtain ⟨rows', copies', all, only⟩ := ih (fun m listed => each m (List.mem_cons_of_mem n listed))
      (edits.trans copies.edits) ran
    refine ⟨rows.map (n :: ·) ++ rows', copies.of_child.append copies', ?_, ?_⟩
    · intro m listed r content executable there
      rcases List.mem_cons.1 listed with rfl | later
      · exact List.mem_append_left _ (List.mem_map_of_mem (covers.all r content executable there))
      · obtain ⟨content', executable', there'⟩ := copies.edits.keeps.file there
        exact List.mem_append_right _ (all m later r content' executable' there')
    · intro r listed
      rcases List.mem_append.1 listed with first | later
      · obtain ⟨inner, member, rfl⟩ := List.mem_map.1 first
        have place_ : (n :: inner).reverse ++ place = inner.reverse ++ n :: place := by
          rw [List.reverse_cons, List.append_assoc, List.singleton_append]
        rw [place_]
        exact copies'.edits.keeps.leaf (covers.only inner member)
      · exact only r later

/-- **A tree is copied file by file,** each file of the tree to the same names below the destination. -/
theorem copiesTree_of_copyTree (levels : Nat) {isDirectory : Bool} (sound : w.disk.Sound)
    (long : pathLimit < levels + source.text.utf8ByteSize) (deep : isDirectory = true → 0 < levels)
    (filled : (w.disk.get? place).isSome)
    (kind : isDirectory = true ↔ w.disk.get? place = some .directory)
    (leads : isDirectory = true → ∀ p, w.disk.find source = .ok p → p = place)
    (ran : exec (copyTree levels source dest isDirectory) w = (.ok (), v)) :
    CopiesTree source dest place w.disk v.disk := by
  induction levels generalizing source dest isDirectory w v place with
  | zero =>
    cases isDirectory with
    | true => exact absurd (deep rfl) (Nat.lt_irrefl 0)
    | false => exact copiesTree_of_leaf sound ⟨filled, fun there => by cases kind.2 there⟩ ran
  | succ levels ih =>
    cases isDirectory with
    | false => exact copiesTree_of_leaf sound ⟨filled, fun there => by cases kind.2 there⟩ ran
    | true =>
      obtain ⟨p, u, led, ensured, ran⟩ := exists_of_copyTree_directory ran
      cases leads rfl p led
      have grown := (makes_of_exec ensured).growsTo
      have sound' := grown.edits.sound sound
      have directory := grown.kept place _ (kind.1 rfl)
      have each : ∀ n ∈ u.disk.names place, ∀ {w' v' : World}, Edits u.disk w'.disk →
          exec (copyTree levels (source.join ⟨n⟩) (dest.join ⟨n⟩)
            (u.disk.get? (n :: place) = some .directory)) w' = (.ok (), v') →
          CopiesTree (source.join ⟨n⟩) (dest.join ⟨n⟩) (n :: place) w'.disk v'.disk := by
        intro n listed w' v' edits ran
        have filled := Disk.mem_names listed
        have sound := edits.sound sound'
        -- the path of the source was found, so it is short enough to leave levels for what lies below
        obtain ⟨-, short⟩ := Disk.size_of_find led
        have longer := Path.size_lt_join_name source (sound'.plain filled n List.mem_cons_self)
        have kind : decide (u.disk.get? (n :: place) = some .directory) = true ↔
            w'.disk.get? (n :: place) = some .directory := by
          rw [decide_eq_true_iff]
          exact (edits.keeps.directory_iff filled).symm
        have later : Edits w.disk w'.disk := grown.edits.trans edits
        have leads : decide (u.disk.get? (n :: place) = some .directory) = true →
            ∀ p, w'.disk.find (source.join ⟨n⟩) = .ok p → p = n :: place := by
          intro inner p found
          exact @Disk.Sound.find_descend _ place p [n] _ sound _ (later.find led) (kind.1 inner)
            (fun _ => Node.noConfusion) found
        exact ih sound (by omega) (fun _ => by omega) (edits.keeps.isSome filled) kind leads ran
      obtain ⟨rows, copies, all, only⟩ := exists_copies_of_forM each .refl ran
      refine ⟨rows, .making grown copies, fun r content executable there => ?_, only⟩
      cases r with
      | nil => cases there.symm.trans (kind.1 rfl)
      | cons n inner =>
        rw [List.reverse_cons, List.append_assoc, List.singleton_append] at there
        have there' := grown.kept _ _ there
        have listed := Disk.mem_names_of_isSome (sound'.isSome_of_append (by rw [there']; rfl))
        exact all n listed inner content executable there'

/-! ## Copies of paths -/

/-- A copy of another path that succeeds is the copy of one file, or that of a tree, made for the path of
the destination with a slash. -/
theorem copyPath_cases (led : w.disk.find source = .ok place) (other : source.sameParts dest = false)
    (ran : exec (copyPath source dest) w = (.ok (), v)) :
    w.disk.get? place ≠ some .directory ∧ exec (copyFile source dest) w = (.ok (), v) ∨
      w.disk.get? place = some .directory ∧
        exec (copyTree pathLimit source (dest.join ⟨""⟩) true) w = (.ok (), v) := by
  rw [copyPath, other, if_neg Bool.false_ne_true, exec_bind_of_ok (exec_disk w)] at ran
  cases directory : w.disk.isDirectory source with
  | false =>
    rw [directory, if_pos (by decide)] at ran
    exact .inl ⟨get?_ne_directory_of_copyFile ran led, ran⟩
  | true =>
    rw [directory, if_neg (by decide)] at ran
    obtain ⟨place', found, there⟩ := Disk.isDirectory_iff.1 directory
    cases led.symm.trans found
    split at ran
    · cases ran
    · generalize decide (w.disk.entryItself? source = some .directory) = itself at ran
      cases itself with
      | true => exact .inr ⟨there, ran⟩
      | false =>
        -- a link to a directory is copied as a file, and that fails
        rw [copyTree_leaf, exec_bind_of_ok (exec_note w _)] at ran
        have single := get?_ne_directory_of_copyFile ran led
        exact absurd there single

/-- A copy of another path is a row of copies, of a single file or of all files of a tree. -/
theorem copiesTree_of_copyPath (sound : w.disk.Sound) (led : w.disk.find source = .ok place)
    (filled : (w.disk.get? place).isSome) (other : source.sameParts dest = false)
    (ran : exec (copyPath source dest) w = (.ok (), v)) :
    CopiesTree source dest place w.disk v.disk := by
  rcases copyPath_cases led other ran with ⟨single, ran⟩ | ⟨there, ran⟩
  · exact copiesTree_of_copyFile ran sound ⟨filled, single⟩
  · obtain ⟨positive, -⟩ := Disk.size_of_find led
    obtain ⟨rows, copies, covers⟩ := copiesTree_of_copyTree pathLimit sound
      (Nat.lt_add_of_pos_right positive) (fun _ => by decide) filled ⟨fun _ => there, fun _ => rfl⟩
      (fun _ p found => by cases led.symm.trans found; rfl) ran
    refine ⟨rows, copies.of_dest fun r listed => ?_, covers⟩
    have leaf := covers.only r listed
    obtain ⟨node, entry⟩ := Option.isSome_iff_exists.1 leaf.filled
    refine Disk.descend_join_empty dest ((copies.edits.sound sound).plain_of_append entry) ?_
    rintro rfl
    exact leaf.other (copies.edits.keeps.directory there)

end Run

end Scaffold
