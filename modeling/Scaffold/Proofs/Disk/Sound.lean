import Mathlib.Logic.Relation
import Scaffold.Proofs.Disk.Passes
import Scaffold.Proofs.Path.Absolutized

/-!
# Sound disks and single edits

A disk is sound when it is a tree of plain names that is seen from one of its directories. On a sound
disk every place that a path leads to lies in a directory (`Sound.follow`), and where there are no
links that place is the one that the parts of the path name (`Linkless.follow_eq`).

All that a run does to a disk is a row of single edits: a directory is made at a free place, or a file
is written where there was a file or nothing. `Edits` is the reflexive-transitive closure. It keeps
soundness, the directory that paths are seen from, the absence of links, and every entry with its
kind (`Edits.sound`, `Edits.cwd`, `Edits.linkless`, `Edits.keeps`).
-/

namespace Scaffold

namespace Disk

/-- The disk is a tree of plain names, seen from one of its directories. -/
structure Sound (d : Disk) : Prop where
  plain : ∀ {p : Place}, (d.get? p).isSome → ∀ n ∈ p, Plain n
  outer : ∀ {n : String} {p : Place}, (d.get? (n :: p)).isSome → d.get? p = some .directory
  cwd : d.get? d.cwd = some .directory

/-- No entry is a symbolic link. -/
def Linkless (d : Disk) : Prop := ∀ p target, d.get? p ≠ some (.link target)

/-- The names on the way to the place are plain, and it lies in a directory unless it is the top. -/
structure CanHold (d : Disk) (p : Place) : Prop where
  plain : ∀ n ∈ p, Plain n
  outer : ∀ n q, p = n :: q → d.get? q = some .directory

theorem mem_names {d : Disk} {n : String} {p : Place} (member : n ∈ d.names p) :
    (d.get? (n :: p)).isSome := by
  obtain ⟨⟨q, node⟩, entry, named⟩ := List.mem_filterMap.1 member
  cases q with
  | nil => cases named
  | cons m outer =>
    dsimp only at named
    split at named
    · next same =>
      cases same
      cases named
      rw [Option.isSome_iff_ne_none]
      intro free
      have other := List.lookup_eq_none_iff.1 free _ entry
      simp at other
    · cases named

variable {d : Disk}

theorem mem_entries_of_get? {n : String} {p : Place} {node : Node}
    (there : d.get? (n :: p) = some node) : (n :: p, node) ∈ d.entries := by
  obtain ⟨before, behind, split, -⟩ := List.lookup_eq_some_iff.1 there
  rw [split]
  exact List.mem_append_right _ List.mem_cons_self

/-- Soundness is seen from the entries alone. -/
theorem sound_of_entries
    (fine : ∀ e ∈ d.entries, (∀ n ∈ e.1, Plain n) ∧ d.get? e.1.tail = some .directory)
    (cwd : d.get? d.cwd = some .directory) : d.Sound := by
  have listed {n : String} {p : Place} (filled : (d.get? (n :: p)).isSome) :
      (∀ m ∈ n :: p, Plain m) ∧ d.get? p = some .directory := by
    obtain ⟨node, there⟩ := Option.isSome_iff_exists.1 filled
    exact fine _ (mem_entries_of_get? there)
  refine ⟨fun {p} filled n member => ?_, fun filled => (listed filled).2, cwd⟩
  cases p with
  | nil => cases member
  | cons m q => exact (listed filled).1 n member

/-- So is that there are no links. -/
theorem linkless_of_entries (fine : ∀ e ∈ d.entries, ∀ target, e.2 ≠ .link target) :
    d.Linkless := by
  intro p target there
  cases p with
  | nil => cases there
  | cons n q => exact fine _ (mem_entries_of_get? there) target rfl

theorem Sound.canHold (sound : d.Sound) {p : Place} (filled : (d.get? p).isSome) : d.CanHold p :=
  ⟨sound.plain filled, fun _ _ split => sound.outer (split ▸ filled)⟩

theorem Sound.tail (sound : d.Sound) {p : Place} (directory : d.get? p = some .directory) :
    d.get? p.tail = some .directory := by
  cases p with
  | nil => rfl
  | cons n q =>
    have filled : (d.get? (n :: q)).isSome := by rw [directory]; rfl
    exact sound.outer filled

/-! ## Above and below an entry -/

section Below

variable {p : Place}

theorem Sound.isSome_of_append (sound : d.Sound) {r : Place} (filled : (d.get? (r ++ p)).isSome) :
    (d.get? p).isSome := by
  induction r with
  | nil => exact filled
  | cons n rest ih =>
    have outer : d.get? (rest ++ p) = some .directory := sound.outer filled
    exact ih (by rw [outer]; rfl)

/-- Whatever holds an entry further down is a directory. -/
theorem Sound.directory_of_append (sound : d.Sound) {r : Place} (below : r ≠ [])
    (filled : (d.get? (r ++ p)).isSome) : d.get? p = some .directory := by
  obtain ⟨init, n, rfl⟩ : ∃ init n, r = init ++ [n] :=
    ⟨_, _, (List.dropLast_concat_getLast below).symm⟩
  rw [List.append_assoc] at filled
  exact sound.outer (sound.isSome_of_append filled)

/-- Nothing lies below an entry that is no directory. -/
theorem Sound.free_below (sound : d.Sound) (other : d.get? p ≠ some .directory) {r : Place}
    (below : r ≠ []) : d.get? (r ++ p) = none := by
  cases there : d.get? (r ++ p) with
  | none => rfl
  | some node => exact absurd (sound.directory_of_append below (by rw [there]; rfl)) other

/-- Nor below a free place. -/
theorem Sound.free_append (sound : d.Sound) (free : d.get? p = none) (r : Place) :
    d.get? (r ++ p) = none := by
  by_cases here : r = []
  · rw [here]
    exact free
  · exact sound.free_below (by simp [free]) here

end Below

/-! ## Following paths -/

/-- What following `xs` to the place `q` says about it: an entry can stand there, and it is a directory
unless the last part is a name. -/
structure LedTo (d : Disk) (xs : List Part) (q : Place) : Prop where
  canHold : d.CanHold q
  directory : (∀ n, xs.getLast? ≠ some (.name n)) → d.get? q = some .directory

theorem LedTo.cons (x : Part) {xs : List Part} {q : Place} (led : d.LedTo xs q) :
    d.LedTo (x :: xs) q := by
  refine ⟨led.canHold, fun ends => ?_⟩
  cases xs with
  | nil => exact led.directory fun n last => by cases last
  | cons y rest => exact led.directory ends

/-- A name at the end leads to a place in a directory. -/
theorem Sound.ledTo_name (sound : d.Sound) {p : Place} (directory : d.get? p = some .directory)
    {n : String} (plain : Plain n) : d.LedTo [.name n] (n :: p) := by
  refine ⟨⟨fun m member => ?_, ?_⟩, fun ends => absurd rfl (ends n)⟩
  · rcases List.mem_cons.1 member with rfl | outer
    · exact plain
    · exact sound.plain (by rw [directory]; rfl) m outer
  · rintro _ _ ⟨⟩
    exact directory

theorem wf_of_mem_walkedParts {p : Path} {x : Part} (member : x ∈ p.walkedParts) : x.WF := by
  unfold Path.walkedParts at member
  split at member
  · rcases List.mem_append.1 member with written | last
    · exact Path.wf_of_mem_writtenParts written
    · rw [List.mem_singleton.1 last]
      trivial
  · exact Path.wf_of_mem_writtenParts member

/-- Parts that are followed from a directory of a sound disk lead to a place that can hold an entry. -/
theorem Sound.followWith (sound : d.Sound) {atEnd : Bool}
    {onLink : Place → List Part → Except DiskError Place}
    (linked : ∀ p xs q, d.get? p = some .directory → (∀ x ∈ xs, x.WF) → onLink p xs = .ok q →
      d.LedTo xs q)
    {xs : List Part} (fine : ∀ x ∈ xs, x.WF) {p q : Place}
    (directory : d.get? p = some .directory) (found : d.followWith atEnd onLink p xs = .ok q) :
    d.LedTo xs q := by
  induction xs generalizing p with
  | nil =>
    cases found
    exact ⟨sound.canHold (by rw [directory]; rfl), fun _ => directory⟩
  | cons x rest ih =>
    have later : ∀ y ∈ rest, y.WF := fun y member => fine y (List.mem_cons_of_mem x member)
    cases x with
    | root => exact (ih later d.get?_top found).cons _
    | here => exact (ih later directory found).cons _
    | up => exact (ih later (sound.tail directory) found).cons _
    | name n =>
      have plain : Plain n := fine (.name n) List.mem_cons_self
      obtain ⟨-, passes⟩ := followWith_name_iff.1 found
      cases passes with
      | ends last given =>
        subst last given
        exact sound.ledTo_name directory plain
      | inside _ inner found => exact (ih later inner found).cons _
      | @across target _ _ found =>
        -- the parts behind the link are the last ones, unless the link is itself at the end
        have led := linked p _ q directory (fun y member => by
          rcases List.mem_append.1 member with inside | behind
          · exact wf_of_mem_walkedParts inside
          · exact later y behind) found
        refine ⟨led.canHold, fun other => led.directory fun m last => ?_⟩
        cases rest with
        | nil => exact other n rfl
        | cons y rest =>
          have behind : (target.walkedParts ++ y :: rest).getLast? = (y :: rest).getLast? := by
            rw [List.getLast?_append, List.getLast?_cons, Option.some_or]
          exact other m (behind ▸ last)

/-- So do parts that are followed over links. -/
theorem Sound.follow (sound : d.Sound) {atEnd : Bool} {links : Nat} {xs : List Part}
    (fine : ∀ x ∈ xs, x.WF) {p q : Place} (directory : d.get? p = some .directory)
    (found : d.follow atEnd links p xs = .ok q) : d.LedTo xs q := by
  induction links generalizing p q xs with
  | zero => exact sound.followWith (fun _ _ _ _ _ failed => by cases failed) fine directory found
  | succ links ih =>
    exact sound.followWith (fun _ _ _ directory fine found => ih fine directory found) fine directory
      found

/-- Without links, parts lead to the place that they name. -/
theorem Linkless.followWith_eq (linkless : d.Linkless) {atEnd : Bool}
    {onLink : Place → List Part → Except DiskError Place} {xs : List Part} {p q : Place}
    (found : d.followWith atEnd onLink p xs = .ok q) : q = xs.foldl Part.step p := by
  induction xs generalizing p with
  | nil =>
    cases found
    rfl
  | cons x rest ih =>
    cases x with
    | root => exact ih found
    | here => exact ih found
    | up => exact ih found
    | name n =>
      obtain ⟨-, passes⟩ := followWith_name_iff.1 found
      cases passes with
      | ends last given =>
        subst last given
        rfl
      | inside _ _ found => exact ih found
      | across link => exact absurd link (linkless _ _)

theorem Linkless.follow_eq (linkless : d.Linkless) {atEnd : Bool} {links : Nat} {xs : List Part}
    {p q : Place} (found : d.follow atEnd links p xs = .ok q) : q = xs.foldl Part.step p := by
  cases links with
  | zero => exact linkless.followWith_eq found
  | succ links => exact linkless.followWith_eq found

/-! ## What single operations do -/

/-- Making a directory gives an entry to a free place in a directory. -/
theorem exists_of_makeDirectory {d' : Disk} {p : Path} (made : d.makeDirectory p = .ok d') :
    ∃ n outer, p.writtenParts.getLast? = some (.name n) ∧ n.utf8ByteSize ≤ nameLimit ∧
      d.follow true linkLimit d.cwd (p.writtenParts.dropLast ++ [.here]) = .ok outer ∧
      d.get? (n :: outer) = none ∧ d' = d.set (n :: outer) .directory := by
  unfold makeDirectory at made
  cases text : checkText p with
  | error e =>
    rw [text] at made
    cases made
  | ok _ =>
    rw [text] at made
    simp only [bind, Except.bind] at made
    split at made
    · next n last =>
      cases found : d.follow true linkLimit d.cwd (p.writtenParts.dropLast ++ [.here]) with
      | error e =>
        rw [found] at made
        cases made
      | ok outer =>
        rw [found] at made
        dsimp only at made
        split at made
        · cases made
        · next fits =>
          split at made
          · cases made
          · next free =>
            cases made
            exact ⟨n, outer, last, Nat.le_of_not_lt fits, rfl, free, rfl⟩
    · cases found : d.find p with
      | error e =>
        rw [found] at made
        cases made
      | ok place =>
        rw [found] at made
        cases made

/-- Writing a file gives an entry to a place below the top that holds a file or nothing. -/
theorem exists_of_write {d' : Disk} {p : Path} {content : ByteArray} {mark : Option Bool → Bool}
    (wrote : d.write p content mark = .ok d') :
    ∃ place was, place ≠ [] ∧ d.follow true linkLimit d.cwd p.writtenParts = .ok place ∧
      d.find p = .ok place ∧
      (d.get? place = none ∨ ∃ old was, d.get? place = some (.file old was)) ∧
      d' = d.set place (.file content (mark was)) := by
  unfold write at wrote
  cases text : checkText p with
  | error e =>
    rw [text] at wrote
    cases wrote
  | ok _ =>
    rw [text] at wrote
    simp only [bind, Except.bind] at wrote
    cases found : d.follow true linkLimit d.cwd p.writtenParts with
    | error e =>
      rw [found] at wrote
      cases wrote
    | ok place =>
      rw [found] at wrote
      dsimp only at wrote
      split at wrote
      · cases wrote
      · next open_ =>
        have named : d.find p = .ok place := by
          rw [find, text, Path.walkedParts, if_neg open_]
          exact found
        split at wrote
        · next free =>
          cases wrote
          refine ⟨place, none, ?_, rfl, named, .inl free, rfl⟩
          rintro rfl
          cases free
        · next old was there =>
          cases wrote
          refine ⟨place, some was, ?_, rfl, named, .inr ⟨old, was, there⟩, rfl⟩
          rintro rfl
          cases there
        · cases wrote

/-! ## Edits -/

end Disk

/-- Both are directories, both are files, or both are links to one target. -/
def Node.SameKind : Node → Node → Prop
  | .directory, .directory | .file _ _, .file _ _ => True
  | .link target, .link other => target = other
  | _, _ => False

theorem Node.SameKind.refl (node : Node) : node.SameKind node := by
  cases node with
  | directory | file _ _ => trivial
  | link target => rfl

theorem Node.SameKind.trans {a b c : Node} (first : a.SameKind b) (second : b.SameKind c) :
    a.SameKind c := by
  cases a with
  | directory =>
    cases b with
    | directory => exact second
    | file _ _ | link _ => exact first.elim
  | file _ _ =>
    cases b with
    | file _ _ =>
      cases c with
      | file _ _ => trivial
      | directory | link _ => exact second.elim
    | directory | link _ => exact first.elim
  | link target =>
    cases b with
    | link other =>
      cases first
      exact second
    | directory | file _ _ => exact first.elim

namespace Disk

/-- A single edit of a disk: a directory is made, or a file is written. -/
inductive Edit : Disk → Disk → Prop
  | directory {d d' : Disk} {p : Path} : d.makeDirectory p = .ok d' → Edit d d'
  | file {d d' : Disk} {p : Path} {content : ByteArray} {mark : Option Bool → Bool} :
    d.write p content mark = .ok d' → Edit d d'

/-- Any number of edits. -/
abbrev Edits : Disk → Disk → Prop := Relation.ReflTransGen Edit

variable {d d' : Disk}

/-- An edit gives one entry to a place that can hold it. What stood there was of the same kind. -/
theorem Edit.exists_set (edit : Edit d d') :
    ∃ place node, d' = d.set place node ∧ place ≠ [] ∧ (∀ target, node ≠ .link target) ∧
      (∀ old, d.get? place = some old → old.SameKind node) ∧ (d.Sound → d.CanHold place) := by
  cases edit with
  | @directory p made =>
    obtain ⟨n, outer, last, -, found, free, rfl⟩ := exists_of_makeDirectory made
    refine ⟨n :: outer, .directory, rfl, List.cons_ne_nil n outer, fun _ => Node.noConfusion,
      fun old there => ?_, fun sound => ?_⟩
    · rw [free] at there
      cases there
    · have named : Plain n := Path.wf_of_mem_writtenParts (List.mem_of_getLast? last)
      have fine : ∀ x ∈ p.writtenParts.dropLast ++ [.here], x.WF := by
        intro x member
        rcases List.mem_append.1 member with inside | here
        · exact Path.wf_of_mem_writtenParts (List.dropLast_subset _ inside)
        · rw [List.mem_singleton.1 here]
          trivial
      have led := sound.follow fine sound.cwd found
      have directory : d.get? outer = some .directory := by
        refine led.directory fun m ends => ?_
        rw [List.getLast?_concat] at ends
        cases ends
      exact (sound.ledTo_name directory named).canHold
  | @file p content mark wrote =>
    obtain ⟨place, was, below, found, -, there, rfl⟩ := exists_of_write wrote
    refine ⟨place, .file content (mark was), rfl, below, fun _ => Node.noConfusion,
      fun old stood => ?_, fun sound => ?_⟩
    · rcases there with free | ⟨_, _, file⟩
      · rw [free] at stood
        cases stood
      · rw [file] at stood
        cases stood
        trivial
    · exact (sound.follow (fun x member => Path.wf_of_mem_writtenParts member) sound.cwd
        found).canHold

/-- An edit keeps the directory that paths are seen from. -/
theorem Edit.cwd (edit : Edit d d') : d'.cwd = d.cwd := by
  obtain ⟨place, node, rfl, -⟩ := edit.exists_set
  rfl

/-- An edit makes no link. -/
theorem Edit.linkless (edit : Edit d d') (linkless : d.Linkless) : d'.Linkless := by
  obtain ⟨place, node, rfl, below, noLink, -⟩ := edit.exists_set
  intro p target there
  rw [get?_set below] at there
  split at there
  · exact noLink target (Option.some.inj there)
  · exact linkless p target there

/-- An edit of a sound disk leaves a sound disk. -/
theorem Edit.sound (edit : Edit d d') (sound : d.Sound) : d'.Sound := by
  obtain ⟨place, node, rfl, below, -, kind, holds⟩ := edit.exists_set
  have canHold := holds sound
  -- a directory stays one, also where the edit is made
  have directory {p : Place} (there : d.get? p = some .directory) :
      (d.set place node).get? p = some .directory := by
    rw [get?_set below]
    split
    · next same =>
      subst same
      have same := kind _ there
      cases node with
      | directory => rfl
      | file _ _ | link _ => exact same.elim
    · exact there
  constructor
  · intro p filled n member
    rw [get?_set below] at filled
    split at filled
    · next same => exact canHold.plain n (same ▸ member)
    · exact sound.plain filled n member
  · intro n p filled
    rw [get?_set below] at filled
    split at filled
    · next same => exact directory (canHold.outer n p same.symm)
    · exact directory (sound.outer filled)
  · exact directory sound.cwd

/-- Every entry of the earlier disk is there in the later one, and of the same kind. -/
def Keeps (d d' : Disk) : Prop :=
  ∀ p node, d.get? p = some node → ∃ node', d'.get? p = some node' ∧ node.SameKind node'

theorem Keeps.refl (d : Disk) : d.Keeps d := fun _ node there => ⟨node, there, .refl node⟩

theorem Keeps.trans {d₁ d₂ d₃ : Disk} (first : d₁.Keeps d₂) (second : d₂.Keeps d₃) :
    d₁.Keeps d₃ := by
  intro p node there
  obtain ⟨node', there', kind⟩ := first p node there
  obtain ⟨node'', there'', kind'⟩ := second p node' there'
  exact ⟨node'', there'', kind.trans kind'⟩

theorem Keeps.directory (keeps : d.Keeps d') {p : Place} (there : d.get? p = some .directory) :
    d'.get? p = some .directory := by
  obtain ⟨node, there', kind⟩ := keeps p _ there
  cases node with
  | directory => exact there'
  | file _ _ | link _ => exact kind.elim

/-- An edit removes nothing. -/
theorem Edit.keeps (edit : Edit d d') : d.Keeps d' := by
  obtain ⟨place, node, rfl, below, -, kind, -⟩ := edit.exists_set
  intro p old there
  rw [get?_set below]
  split
  · next same => exact ⟨node, rfl, kind old (same ▸ there)⟩
  · exact ⟨old, there, .refl old⟩

theorem Edits.cwd (edits : Edits d d') : d'.cwd = d.cwd := by
  induction edits with
  | refl => rfl
  | tail _ edit ih => exact edit.cwd.trans ih

theorem Edits.linkless (edits : Edits d d') (linkless : d.Linkless) : d'.Linkless := by
  induction edits with
  | refl => exact linkless
  | tail _ edit ih => exact edit.linkless ih

theorem Edits.sound (edits : Edits d d') (sound : d.Sound) : d'.Sound := by
  induction edits with
  | refl => exact sound
  | tail _ edit ih => exact edit.sound ih

/-- Edits remove nothing. -/
theorem Edits.keeps (edits : Edits d d') : d.Keeps d' := by
  induction edits with
  | refl => exact .refl d
  | tail _ edit ih => exact ih.trans edit.keeps

end Disk

end Scaffold
