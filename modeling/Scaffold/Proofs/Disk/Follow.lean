import Scaffold.Proofs.Disk.Enters
import Scaffold.Proofs.Disk.Sound

/-!
# Following paths on a disk that is edited

Edits remove nothing, change no kind and make no link, so a path that leads to a place goes on
leading there (`Edits.follow`), and what a path names is there to stay (`Edits.holds`). A path that
leads into a directory can be followed on from there (`exists_follow_append`); `LeadsTo` says that a
path does, and `LeadsTo.eq_of_find_child` what a name below it leads to. The proofs go by the ways in
which a path passes a name.
-/

namespace Scaffold

namespace Disk

variable {d d' : Disk} {atEnd : Bool} {links : Nat} {p q : Place} {xs : List Part}
  {onLink onLink' : Place → List Part → Except DiskError Place}

/-! ## Edits keep what paths lead to -/

/-- An edit makes no link. -/
theorem Edit.link (edit : Edit d d') {target : Path} (there : d'.get? p = some (.link target)) :
    d.get? p = some (.link target) := by
  obtain ⟨place, node, rfl, below, noLink, -⟩ := edit.exists_set
  rw [get?_set below] at there
  split at there
  · exact absurd (Option.some.inj there) (noLink target)
  · exact there

theorem Edits.link (edits : Edits d d') {target : Path} (there : d'.get? p = some (.link target)) :
    d.get? p = some (.link target) := by
  induction edits with
  | refl => exact there
  | tail _ edit ih => exact ih (edit.link there)

/-- A place that is free was free before. -/
theorem Edits.free (edits : Edits d d') (free : d'.get? p = none) : d.get? p = none := by
  cases there : d.get? p with
  | none => rfl
  | some node =>
    obtain ⟨node', there', -⟩ := edits.keeps p node there
    rw [free] at there'
    cases there'

theorem Keeps.link (keeps : d.Keeps d') {target : Path} (there : d.get? p = some (.link target)) :
    d'.get? p = some (.link target) := by
  obtain ⟨node, there', kind⟩ := keeps p _ there
  cases node with
  | link other =>
    cases kind
    exact there'
  | directory | file _ _ => exact kind.elim

theorem Keeps.file (keeps : d.Keeps d') {content : ByteArray} {executable : Bool}
    (there : d.get? p = some (.file content executable)) :
    ∃ content' executable', d'.get? p = some (.file content' executable') := by
  obtain ⟨node, there', kind⟩ := keeps p _ there
  cases node with
  | file content' executable' => exact ⟨content', executable', there'⟩
  | directory | link _ => exact kind.elim

/-- Nothing that is there becomes a directory. -/
theorem Keeps.directory_iff (keeps : d.Keeps d') (filled : (d.get? p).isSome) :
    d'.get? p = some .directory ↔ d.get? p = some .directory := by
  refine ⟨fun later => ?_, keeps.directory⟩
  obtain ⟨node, there⟩ := Option.isSome_iff_exists.1 filled
  obtain ⟨node', there', kind⟩ := keeps p node there
  rw [later] at there'
  cases there'
  cases node with
  | directory => exact there
  | file _ _ | link _ => exact kind.elim

theorem Keeps.isSome (keeps : d.Keeps d') (filled : (d.get? p).isSome) : (d'.get? p).isSome := by
  obtain ⟨node, there⟩ := Option.isSome_iff_exists.1 filled
  obtain ⟨node', there', -⟩ := keeps p node there
  rw [there']
  rfl

/-- The place has an entry that is no directory. -/
structure Leaf (d : Disk) (p : Place) : Prop where
  filled : (d.get? p).isSome
  other : d.get? p ≠ some .directory

theorem Keeps.leaf (keeps : d.Keeps d') (leaf : d.Leaf p) : d'.Leaf p :=
  ⟨keeps.isSome leaf.filled, fun later => leaf.other ((keeps.directory_iff leaf.filled).1 later)⟩

/-- Parts that lead to a place go on leading there. -/
theorem Edits.followWith (edits : Edits d d')
    (linked : ∀ p xs q, onLink p xs = .ok q → onLink' p xs = .ok q)
    (found : d.followWith atEnd onLink p xs = .ok q) :
    d'.followWith atEnd onLink' p xs = .ok q := by
  induction xs generalizing p with
  | nil => exact found
  | cons x rest ih =>
    cases x with
    | root => exact ih found
    | here => exact ih found
    | up => exact ih found
    | name n =>
      obtain ⟨fits, passes⟩ := followWith_name_iff.1 found
      refine followWith_name_iff.2 ⟨fits, ?_⟩
      cases passes with
      | ends last given noLink =>
        exact .ends last given fun follows target there => noLink follows target (edits.link there)
      | inside more there found => exact .inside more (edits.keeps.directory there) (ih found)
      | across there follows found => exact .across (edits.keeps.link there) follows (linked _ _ _ found)

theorem Edits.follow (edits : Edits d d') (found : d.follow atEnd links p xs = .ok q) :
    d'.follow atEnd links p xs = .ok q := by
  induction links generalizing p q xs with
  | zero => exact edits.followWith (fun _ _ _ failed => failed) found
  | succ links ih => exact edits.followWith (fun _ _ _ found => ih found) found

theorem Edits.find (edits : Edits d d') {path : Path} (found : d.find path = .ok p) :
    d'.find path = .ok p := by
  unfold Disk.find at found ⊢
  cases text : checkText path with
  | error e =>
    rw [text] at found
    cases found
  | ok _ =>
    rw [text] at found
    rw [edits.cwd]
    exact edits.follow found

theorem holds_iff {path : Path} :
    d.holds path = true ↔ ∃ place node, d.find path = .ok place ∧ d.get? place = some node := by
  unfold holds node?
  cases found : d.find path with
  | error e => simp only [Option.isSome_none, Bool.false_eq_true, reduceCtorEq, false_and, exists_const]
  | ok place => simp only [Option.isSome_iff_exists, Except.ok.injEq, exists_and_left, exists_eq_left']

theorem isDirectory_iff {path : Path} :
    d.isDirectory path = true ↔ ∃ place, d.find path = .ok place ∧ d.get? place = some .directory := by
  unfold isDirectory node?
  cases found : d.find path with
  | error e => simp only [reduceCtorEq, decide_false, Bool.false_eq_true, false_and, exists_const]
  | ok place => simp only [decide_eq_true_eq, Except.ok.injEq, exists_eq_left']

theorem isFile_iff {path : Path} :
    d.isFile path = true ↔ ∃ place content executable, d.find path = .ok place ∧
      d.get? place = some (.file content executable) := by
  unfold isFile node?
  cases found : d.find path with
  | error e => simp only [Bool.false_eq_true, reduceCtorEq, false_and, exists_const]
  | ok place =>
    simp only [Except.ok.injEq, exists_and_left, exists_eq_left']
    split
    · next content executable there => simp only [there, Option.some.injEq, Node.file.injEq]; simp
    · next other => simpa using other

theorem holds_of_isDirectory {path : Path} (there : d.isDirectory path = true) :
    d.holds path = true := by
  obtain ⟨place, found, directory⟩ := isDirectory_iff.1 there
  exact holds_iff.2 ⟨place, .directory, found, directory⟩

/-- A file that is written is there. -/
theorem holds_of_write {path : Path} {content : ByteArray} {mark : Option Bool → Bool}
    (wrote : d.write path content mark = .ok d') : d'.holds path = true := by
  have edits : Edits d d' := .single (.file wrote)
  obtain ⟨place, was, below, -, found, -, rfl⟩ := exists_of_write wrote
  refine holds_iff.2 ⟨place, .file content (mark was), edits.find found, ?_⟩
  rw [get?_set below, if_pos rfl]

/-- What a path names stays there. -/
theorem Edits.holds (edits : Edits d d') {path : Path} (held : d.holds path = true) :
    d'.holds path = true := by
  obtain ⟨place, node, found, there⟩ := holds_iff.1 held
  obtain ⟨node', there', -⟩ := edits.keeps place node there
  exact holds_iff.2 ⟨place, node', edits.find found, there'⟩

/-! ## Going on from a directory -/

/-- A dot at the end asks for a directory and leads nowhere else. -/
theorem follow_of_here (found : d.follow true links p (xs ++ [.here]) = .ok q) :
    d.follow true links p xs = .ok q := by
  obtain ⟨left, enters⟩ := follow_here_iff.1 found
  exact enters.follow

/-- A directory can be asked for. -/
theorem follow_here (directory : d.get? q = some .directory)
    (found : d.follow true links p xs = .ok q) : d.follow true links p (xs ++ [.here]) = .ok q :=
  follow_here_iff.2 (exists_enters_of_directory links p xs directory found)

/-- Behind parts that lead into a directory, further parts are followed from there, with some of the links
left. -/
theorem exists_follow_append (led : d.follow true links p (xs ++ [.here]) = .ok q) (x : Part)
    (ys : List Part) :
    ∃ left, d.follow true links p (xs ++ x :: ys) = d.follow true left q (x :: ys) := by
  obtain ⟨left, enters⟩ := follow_here_iff.1 led
  exact ⟨left, enters.follow_append x ys⟩

/-! ## Paths into directories -/

/-- The path leads into the directory at the place. -/
structure LeadsTo (d : Disk) (path : Path) (place : Place) : Prop where
  follow : d.follow true linkLimit d.cwd (path.writtenParts ++ [.here]) = .ok place
  directory : d.get? place = some .directory

variable {path : Path} {place : Place}

theorem Edits.leadsTo (edits : Edits d d') (leads : d.LeadsTo path place) : d'.LeadsTo path place :=
  ⟨edits.cwd ▸ edits.follow leads.follow, edits.keeps.directory leads.directory⟩

theorem checkText_of_find (found : d.find path = .ok place) : checkText path = .ok () := by
  unfold Disk.find at found
  cases text : checkText path with
  | error e =>
    rw [text] at found
    cases found
  | ok _ => rfl

theorem find_of_checkText (taken : checkText path = .ok ()) :
    d.find path = d.follow true linkLimit d.cwd path.walkedParts := by
  unfold Disk.find
  rw [taken]
  rfl

theorem follow_walkedParts_of_find (found : d.find path = .ok place) :
    d.follow true linkLimit d.cwd path.walkedParts = .ok place := by
  rw [← find_of_checkText (checkText_of_find found)]
  exact found

theorem follow_of_find (found : d.find path = .ok place) :
    d.follow true linkLimit d.cwd path.writtenParts = .ok place := by
  have walked := follow_walkedParts_of_find found
  unfold Path.walkedParts at walked
  split at walked
  · exact follow_of_here walked
  · exact walked

/-- The texts that are taken. -/
theorem checkText_eq_ok_iff :
    checkText path = .ok () ↔
      '\x00' ∉ path.text.toList ∧ path.text ≠ "" ∧ path.text.utf8ByteSize < pathLimit := by
  unfold checkText
  by_cases nul : '\x00' ∈ path.text.toList
  · simp [nul]
  · by_cases empty : path.text = ""
    · simp [empty]
    · by_cases long : path.text.utf8ByteSize ≥ pathLimit
      · simp [nul, empty, long]
      · have short := Nat.lt_of_not_le long
        simp [nul, empty, short]

/-- The text of a path that leads somewhere is not empty, and within the limit. -/
theorem size_of_find (found : d.find path = .ok place) :
    0 < path.text.utf8ByteSize ∧ path.text.utf8ByteSize < pathLimit := by
  obtain ⟨-, filled, short⟩ := checkText_eq_ok_iff.1 (checkText_of_find found)
  exact ⟨Nat.pos_of_ne_zero fun none => filled (String.utf8ByteSize_eq_zero_iff.1 none), short⟩

/-- The beginning of a text that is taken is taken. -/
theorem checkText_of_append {s t : String} (filled : s ≠ "") (taken : checkText ⟨s ++ t⟩ = .ok ()) :
    checkText ⟨s⟩ = .ok () := by
  obtain ⟨free, -, short⟩ := checkText_eq_ok_iff.1 taken
  refine checkText_eq_ok_iff.2 ⟨fun nul => free ?_, filled, ?_⟩
  · rw [String.toList_append]
    exact List.mem_append_left _ nul
  · simp only [String.utf8ByteSize_append] at short
    simp only
    omega

/-- A slash at the end leads nowhere else. -/
theorem find_of_find_join_empty (filled : path.text ≠ "") (found : d.find (path.join ⟨""⟩) = .ok place) :
    d.find path = .ok place := by
  have followed := follow_of_find found
  have nothing : Path.writtenParts ⟨""⟩ = [] := by decide
  rw [Path.writtenParts_join path (by decide), nothing, List.append_nil] at followed
  have taken := checkText_of_find found
  rw [Path.join_empty filled] at found taken
  cases slashed : path.isSlashed with
  | true =>
    rw [slashed] at found
    exact found
  | false =>
    rw [slashed] at taken
    unfold Disk.find Path.walkedParts
    rw [checkText_of_append filled taken, slashed]
    exact followed

theorem holds_of_holds_join_empty (filled : path.text ≠ "")
    (held : d.holds (path.join ⟨""⟩) = true) : d.holds path = true := by
  obtain ⟨place, node, found, there⟩ := holds_iff.1 held
  exact holds_iff.2 ⟨place, node, find_of_find_join_empty filled found, there⟩

theorem exists_leadsTo_of_isDirectory (there : d.isDirectory path = true) :
    ∃ place, d.find path = .ok place ∧ d.LeadsTo path place := by
  obtain ⟨place, found, directory⟩ := isDirectory_iff.1 there
  exact ⟨place, found, follow_here directory (follow_of_find found), directory⟩

/-- The path of a directory that is made leads into it, and its place was free. -/
theorem exists_leadsTo_of_makeDirectory (made : d.makeDirectory path = .ok d') :
    ∃ place, d'.LeadsTo path place ∧ d.get? place = none := by
  have edits : Edits d d' := .single (.directory made)
  obtain ⟨n, outer, last, fits, found, free, rfl⟩ := exists_of_makeDirectory made
  have directory : (d.set (n :: outer) .directory).get? (n :: outer) = some .directory := by
    rw [get?_set (List.cons_ne_nil n outer), if_pos rfl]
  obtain ⟨before, written⟩ := List.getLast?_eq_some_iff.1 last
  refine ⟨n :: outer, ⟨?_, directory⟩, free⟩
  rw [written, List.dropLast_concat] at found
  obtain ⟨left, behind⟩ := exists_follow_append (edits.follow found) (.name n) [.here]
  rw [written, List.append_assoc, cwd_set]
  refine behind.trans ?_
  cases left with
  | zero => exact followWith_name_of_directory directory fits
  | succ left => exact followWith_name_of_directory directory fits

theorem checkText_of_makeDirectory (made : d.makeDirectory path = .ok d') : checkText path = .ok () := by
  unfold makeDirectory at made
  cases text : checkText path with
  | error e =>
    rw [text] at made
    cases made
  | ok _ => rfl

theorem LeadsTo.isDirectory (leads : d.LeadsTo path place) (text : checkText path = .ok ()) :
    d.isDirectory path = true := by
  refine isDirectory_iff.2 ⟨place, ?_, leads.directory⟩
  rw [find_of_checkText text]
  unfold Path.walkedParts
  split
  · exact leads.follow
  · exact follow_of_here leads.follow

/-- A name behind a path into a directory leads to the place in the directory, unless a link stands
there. -/
theorem LeadsTo.eq_of_find_child (leads : d.LeadsTo path place) {inner : Path} {n : String} {q : Place}
    (written : inner.writtenParts = path.writtenParts ++ [.name n])
    (noLink : ∀ target, d.get? (n :: place) ≠ some (.link target)) (found : d.find inner = .ok q) :
    q = n :: place := by
  have followed := follow_of_find found
  obtain ⟨left, behind⟩ := exists_follow_append leads.follow (.name n) []
  rw [written, behind] at followed
  have passed : ∀ onLink : Place → List Part → Except DiskError Place,
      d.followWith true onLink place [.name n] = .ok q → q = n :: place := by
    intro onLink found
    obtain ⟨-, passes⟩ := followWith_name_iff.1 found
    cases passes with
    | ends _ given _ => exact given
    | inside more => exact absurd rfl more
    | across link => exact absurd link (noLink _)
  cases left with
  | zero => exact passed _ followed
  | succ left => exact passed _ followed

end Disk

end Scaffold
