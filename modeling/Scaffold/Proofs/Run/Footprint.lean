import Scaffold.Proofs.Disk.Sound
import Scaffold.Proofs.Run.Apply
import Scaffold.Proofs.Run.Changes

/-!
# The footprint of a step

A step leaves the disk as it was, or as a copy or the writing of a rendered text leaves it: `Leaves` lists
the three, and what is said of the disk behind a step goes by these cases. So applying a step edits the
disk (`edits_apply`), and keeps every entry and its kind. Where it edits is said for disks without links:
`Confined cwd place m` says that what `m` changes lies at or below `place`, or is a new directory above
it. The directories above a destination are the only ones that are made outside it, since an absolutized
path descends once it has named anything (`confined_makeDirectories`).

`footprint_apply` is the result for a step: it changes nothing unless it is a transfer that is carried
out, and that one is confined to its destination.
-/

namespace Scaffold

namespace Disk

/-- What stands at `p` on the later disk may come from a transfer to `place`: it lies at or below that
place, or it is a new directory above it. -/
def TouchedFrom (place : Place) (d d' : Disk) (p : Place) : Prop :=
  place <:+ p ∨ (p <:+ place ∧ d.get? p = none ∧ d'.get? p = some .directory)

/-- All that differs between the disks may come from a transfer to `place`. -/
def ChangedAt (place : Place) (d d' : Disk) : Prop :=
  ∀ p, d'.get? p ≠ d.get? p → TouchedFrom place d d' p

variable {place q p : Place} {d d₁ d₂ d₃ : Disk}

/-- Where the earlier disks have the same, it makes no difference from which one it is seen. -/
theorem TouchedFrom.since (touched : TouchedFrom place d₂ d₃ p) (same : d₂.get? p = d₁.get? p) :
    TouchedFrom place d₁ d₃ p :=
  touched.imp_right fun ⟨above, free, made⟩ => ⟨above, same ▸ free, made⟩

/-- What may come from a transfer may do so after more edits: a new directory stays one. -/
theorem TouchedFrom.edits (touched : TouchedFrom place d₁ d₂ p) (later : Edits d₂ d₃) :
    TouchedFrom place d₁ d₃ p :=
  touched.imp_right fun ⟨above, free, made⟩ => ⟨above, free, later.keeps.directory made⟩

theorem ChangedAt.refl (place : Place) (d : Disk) : ChangedAt place d d :=
  fun _ changed => absurd rfl changed

theorem ChangedAt.trans (first : ChangedAt place d₁ d₂) (second : ChangedAt place d₂ d₃) :
    ChangedAt place d₁ d₃ := by
  intro p changed
  by_cases before : d₂.get? p = d₁.get? p
  · exact (second p fun same => changed (same.trans before)).since before
  · rcases first p before with below | ⟨above, free, made⟩
    · exact .inl below
    · by_cases after : d₃.get? p = d₂.get? p
      · exact .inr ⟨above, free, after.trans made⟩
      · rcases second p after with below | ⟨-, taken, -⟩
        · exact .inl below
        · rw [made] at taken
          cases taken

/-- What comes from a transfer to a place below comes from one to the place itself. -/
theorem ChangedAt.of_below (below : place <:+ q) (changed : ChangedAt q d₁ d₂) :
    ChangedAt place d₁ d₂ := by
  intro p differs
  rcases changed p differs with inside | ⟨above, free, made⟩
  · exact .inl (below.trans inside)
  · rcases List.suffix_or_suffix_of_suffix below above with inside | outside
    · exact .inl inside
    · exact .inr ⟨outside, free, made⟩

theorem changedAt_set_directory (near : q <:+ place ∨ place <:+ q) (free : d.get? q = none) :
    ChangedAt place d (d.set q .directory) := by
  have below : q ≠ [] := by
    rintro rfl
    cases free
  intro p changed
  rw [get?_set below] at changed
  split at changed
  · next same =>
    subst same
    rcases near with above | inside
    · exact .inr ⟨above, free, by rw [get?_set below, if_pos rfl]⟩
    · exact .inl inside
  · exact absurd rfl changed

theorem changedAt_set (below : q ≠ []) (node : Node) : ChangedAt q d (d.set q node) := by
  intro p changed
  rw [get?_set below] at changed
  split at changed
  · next same => exact .inl (same ▸ List.suffix_refl _)
  · exact absurd rfl changed

/-- The disk is sound and without links, and seen from `cwd`. -/
structure Steady (cwd : Place) (d : Disk) : Prop where
  sound : d.Sound
  linkless : d.Linkless
  cwd_eq : d.cwd = cwd

theorem Steady.edits {cwd : Place} (steady : Steady cwd d₁) (edits : Edits d₁ d₂) :
    Steady cwd d₂ :=
  ⟨edits.sound steady.sound, edits.linkless steady.linkless, edits.cwd.trans steady.cwd_eq⟩

/-- Where a directory is made, its path ends in a name and names the place. -/
theorem Steady.exists_of_makeDirectory {cwd : Place} (steady : Steady cwd d₁) {p : Path}
    (made : d₁.makeDirectory p = .ok d₂) :
    p.EndsInName ∧ d₁.get? (p.place cwd) = none ∧ d₂ = d₁.set (p.place cwd) .directory := by
  obtain ⟨n, outer, last, -, found, free, rfl⟩ := Disk.exists_of_makeDirectory made
  obtain ⟨before, written⟩ := List.getLast?_eq_some_iff.1 last
  have place : n :: outer = p.place cwd := by
    have led := steady.linkless.follow_eq found
    rw [steady.cwd_eq, written, List.dropLast_concat, List.foldl_append] at led
    rw [← Path.foldl_writtenParts, written, List.foldl_append, led]
    rfl
  exact ⟨p.endsInName_of_writtenParts last, place ▸ free, by rw [place]⟩

/-- Where a file is written, the path names the place. -/
theorem Steady.exists_of_write {cwd : Place} (steady : Steady cwd d₁) {p : Path}
    {content : ByteArray} {mark : Option Bool → Bool} (wrote : d₁.write p content mark = .ok d₂) :
    p.place cwd ≠ [] ∧ ∃ node, d₂ = d₁.set (p.place cwd) node := by
  obtain ⟨place, was, below, found, -, -, rfl⟩ := Disk.exists_of_write wrote
  have led := steady.linkless.follow_eq found
  rw [steady.cwd_eq, Path.foldl_writtenParts] at led
  subst led
  exact ⟨below, _, rfl⟩

end Disk

namespace Run

/-! ## Edits of a step -/

/-- Single changes to a world edit its disk. -/
theorem Changes.edits {w w' : World} (changes : Changes w w') : Disk.Edits w.disk w'.disk := by
  induction changes with
  | refl => exact .refl
  | tail _ change ih =>
    cases change with
    | note n => exact ih
    | directory made => exact ih.tail (.directory made)
    | file wrote => exact ih.tail (.file wrote)

theorem Transfers.edits {α : Type} {m : Run α} {result : Except Failure α} {w v : World}
    (transfers : Transfers m) (ran : exec m w = (result, v)) : Disk.Edits w.disk v.disk := by
  have changes := (transfers w).1
  rw [ran] at changes
  exact changes.edits

theorem edits_copyPath (source dest : Path) (w : World) :
    Disk.Edits w.disk (exec (copyPath source dest) w).2.disk := by
  cases refused : refuses w.disk source dest with
  | true =>
    rw [exec_copyPath_of_refused refused]
  | false => exact (changes_copyPath refused).1.edits

/-- The transfer is carried out on the disk, not left out. -/
def Carried (destRoot : Path) (t : Transfer) (d : Disk) : Prop :=
  ¬(t.conditional = true ∧ d.holds (destRoot.absolutize t.dest) = true)

theorem carried_iff {destRoot : Path} {t : Transfer} {d : Disk} :
    Carried destRoot t d ↔ ¬ (t.conditional && d.holds (destRoot.absolutize t.dest)) = true := by
  rw [Carried, Bool.and_eq_true]

/-- What a step can leave of the disk. A transfer that is left out leaves it as it is, and so does a template
that cannot be read or rendered. -/
inductive Leaves (renderer : Renderer) (srcRoot destRoot : Path) (context : Context) :
    Step → World → Disk → Prop
  | asItWas (step : Step) (w : World) : Leaves renderer srcRoot destRoot context step w w.disk
  | copied {t : Transfer} {w : World} :
    Carried destRoot t w.disk →
      Leaves renderer srcRoot destRoot context (.copy t) w
        (exec (copyPath (srcRoot.absolutize t.src) (destRoot.absolutize t.dest)) w).2.disk
  | written {t : Transfer} {w v : World} {source text : String} :
    Carried destRoot t w.disk → w.disk.readText (srcRoot.absolutize t.src) = .ok source →
      renderer source context = .ok text → v.disk = w.disk →
        Leaves renderer srcRoot destRoot context (.template t) w
          (exec (writeText (destRoot.absolutize t.dest) text) v).2.disk

theorem leaves_apply (renderer : Renderer) (srcRoot destRoot : Path) (context : Context)
    (step : Step) (w : World) :
    Leaves renderer srcRoot destRoot context step w
      (exec (apply renderer srcRoot destRoot step context) w).2.disk := by
  cases step with
  | copy t =>
    simp only [apply, exec_bind_pure, exec_unlessGated]
    split
    · exact .asItWas _ w
    · next carried =>
      obtain ⟨-, same, -⟩ := copy_beside_report srcRoot destRoot t w
      rw [same]
      exact .copied (carried_iff.2 carried)
  | template t =>
    simp only [apply, exec_bind_pure, exec_unlessGated]
    split
    · exact .asItWas _ w
    · next carried =>
      rcases exec_template_cases renderer srcRoot destRoot t context w with
        ⟨e, -, ran⟩ | ⟨source, read, ⟨fault, -, ran⟩ | ⟨text, rendered, ran⟩⟩
      · rw [ran]
        exact .asItWas _ w
      · rw [ran]
        exact .asItWas _ w
      · rw [ran]
        exact .written (carried_iff.2 carried) read rendered rfl
  | expand tag => exact .asItWas _ w
  | bind name value => exact .asItWas _ w

/-- Applying a step edits the disk. -/
theorem edits_apply (renderer : Renderer) (srcRoot destRoot : Path) (context : Context)
    (step : Step) (w : World) :
    Disk.Edits w.disk (exec (apply renderer srcRoot destRoot step context) w).2.disk := by
  have leaves := leaves_apply renderer srcRoot destRoot context step w
  generalize (exec (apply renderer srcRoot destRoot step context) w).2.disk = left at leaves ⊢
  cases leaves with
  | asItWas => exact .refl
  | copied _ => exact edits_copyPath _ _ w
  | written _ _ _ same =>
    rw [← same]
    exact (transfers_writeText _ _ _).1.edits

/-! ## Confined computations -/

/-- From a steady disk the computation leaves a steady disk, and what it changes may come from a
transfer to `place`. -/
def Confined (cwd place : Place) {α : Type} (m : Run α) : Prop :=
  ∀ w, Disk.Steady cwd w.disk →
    Disk.Steady cwd (exec m w).2.disk ∧ Disk.ChangedAt place w.disk (exec m w).2.disk

variable {α β : Type} {cwd place : Place}

theorem Confined.of_disk_eq {m : Run α} (same : ∀ w, (exec m w).2.disk = w.disk) :
    Confined cwd place m := by
  intro w steady
  rw [same]
  exact ⟨steady, .refl _ _⟩

theorem Confined.pure (a : α) : Confined cwd place (pure a) := .of_disk_eq fun _ => rfl

theorem Confined.throw (e : Failure) : Confined cwd place (throw e : Run α) :=
  .of_disk_eq fun _ => rfl

theorem Confined.note (n : Note) : Confined cwd place (note n) := .of_disk_eq fun _ => rfl

theorem Confined.reading (op : Disk → Except DiskError α) : Confined cwd place (reading op) :=
  .of_disk_eq fun w => by rw [exec_reading]

theorem Confined.bind {m : Run α} {f : α → Run β} (first : Confined cwd place m)
    (next : ∀ a, Confined cwd place (f a)) : Confined cwd place (m >>= f) := by
  intro w steady
  obtain ⟨steady₁, changed₁⟩ := first w steady
  rcases ran : exec m w with ⟨e | a, w'⟩
  · rw [exec_bind_of_error ran]
    rw [ran] at steady₁ changed₁
    exact ⟨steady₁, changed₁⟩
  · rw [exec_bind_of_ok ran]
    rw [ran] at steady₁ changed₁
    obtain ⟨steady₂, changed₂⟩ := next a w' steady₁
    exact ⟨steady₂, changed₁.trans changed₂⟩

/-- Looking at the disk first: what follows sees a steady disk, and the world as it is. -/
theorem Confined.bind_disk {f : Disk → Run α}
    (next : ∀ w, Disk.Steady cwd w.disk → Disk.Steady cwd (exec (f w.disk) w).2.disk ∧
      Disk.ChangedAt place w.disk (exec (f w.disk) w).2.disk) :
    Confined cwd place (Run.disk >>= f) := by
  intro w steady
  rw [exec_bind_of_ok (exec_disk w)]
  exact next w steady

theorem Confined.forM {xs : List α} {f : α → Run PUnit}
    (each : ∀ a ∈ xs, Confined cwd place (f a)) : Confined cwd place (xs.forM f) := by
  induction xs with
  | nil => exact Confined.pure _
  | cons a rest ih =>
    exact Confined.bind (each a List.mem_cons_self) fun _ =>
      ih fun b member => each b (List.mem_cons_of_mem a member)

theorem Confined.of_below {q : Place} (below : place <:+ q) {m : Run α} (confined : Confined cwd q m) :
    Confined cwd place m := by
  intro w steady
  obtain ⟨steady', changed⟩ := confined w steady
  exact ⟨steady', changed.of_below below⟩

/-- Writing a file is confined to the place that its path names. -/
theorem Confined.write (p : Path) (content : ByteArray) (mark : Option Bool → Bool) :
    Confined cwd (p.place cwd) (change fun d => d.write p content mark) := by
  intro w steady
  rw [exec_change]
  cases wrote : w.disk.write p content mark with
  | error e => exact ⟨steady, .refl _ _⟩
  | ok d =>
    obtain ⟨below, node, made⟩ := steady.exists_of_write wrote
    refine ⟨steady.edits (.single (.file wrote)), ?_⟩
    rw [made]
    exact Disk.changedAt_set below node

/-! ## Transfers -/

/-- Making directories is confined to any place at, above or below the one that the path names. A path
that does not end in a name makes none. -/
theorem confined_makeDirectories (levels : Nat) {p : Path} (descends : p.Descends)
    (near : p.EndsInName → p.place cwd <:+ place ∨ place <:+ p.place cwd) :
    Confined cwd place (makeDirectories levels p) := by
  induction levels generalizing p with
  | zero => exact Confined.pure _
  | succ levels ih =>
    have inTheWay (e : DiskError) :
        Confined cwd place (do if !(← Run.disk).isDirectory p then throw (Failure.disk e)) := by
      refine Confined.bind (.of_disk_eq fun _ => rfl) fun d => ?_
      split
      · exact Confined.throw _
      · exact Confined.pure _
    have made {w : World} {d : Disk} (steady : Disk.Steady cwd w.disk)
        (made : w.disk.makeDirectory p = .ok d) :
        Disk.Steady cwd d ∧ Disk.ChangedAt place w.disk d := by
      obtain ⟨named, free, rfl⟩ := steady.exists_of_makeDirectory made
      exact ⟨steady.edits (.single (.directory made)), Disk.changedAt_set_directory (near named) free⟩
    -- the path above names the place above, or makes nothing
    have outside {outer : Path} (above : p.parent? = some outer) (named : outer.EndsInName) :
        outer.place cwd <:+ place ∨ place <:+ outer.place cwd := by
      obtain ⟨ends, n, below⟩ := descends.place_parent above named cwd
      have inside : outer.place cwd <:+ p.place cwd := below ▸ List.suffix_cons n _
      rcases near ends with outer' | inner
      · exact .inl (inside.trans outer')
      · exact (List.suffix_or_suffix_of_suffix inner inside).symm
    rw [makeDirectories]
    split
    · exact Confined.pure _
    · refine Confined.bind_disk fun w steady => ?_
      split
      · next success => exact made steady success
      · split
        · exact Confined.throw _ w steady
        · next outer above =>
          refine Confined.bind (ih (descends.parent above) (outside above)) (fun _ =>
            Confined.bind_disk fun w steady => ?_) w steady
          split
          · next success => exact made steady success
          · exact inTheWay _ w steady
      · exact inTheWay _ w steady

theorem confined_ensureDirectory {p : Path} (descends : p.Descends) :
    Confined cwd (p.place cwd) (ensureDirectory p) :=
  confined_makeDirectories _ descends fun _ => .inl (List.suffix_refl _)

/-- The directories above a path are confined to the place that the path names. -/
theorem confined_ensureParent {p : Path} (descends : p.Descends) :
    Confined cwd (p.place cwd) (ensureParent p) := by
  unfold ensureParent
  split
  · exact Confined.pure _
  · next outer above =>
    refine confined_makeDirectories _ (descends.parent above) fun named => .inl ?_
    obtain ⟨-, n, below⟩ := descends.place_parent above named cwd
    exact below ▸ List.suffix_cons n _

theorem confined_writeText {p : Path} (descends : p.Descends) (text : String) :
    Confined cwd (p.place cwd) (writeText p text) :=
  Confined.bind (confined_ensureParent descends) fun _ => Confined.write _ _ _

theorem confined_copyFile (source : Path) {dest : Path} (descends : dest.Descends) :
    Confined cwd (dest.place cwd) (copyFile source dest) :=
  Confined.bind (confined_ensureParent descends) fun _ => Confined.bind (Confined.reading _) fun _ =>
    Confined.bind (Confined.write _ _ _) fun _ => Confined.bind (Confined.reading _) fun _ =>
      Confined.write _ _ _

/-- Copying a tree is confined to the place of the copy: what a directory holds is copied to places
below that of the directory. -/
theorem confined_copyTree (levels : Nat) (source : Path) {dest : Path} (descends : dest.Descends)
    (isDirectory : Bool) :
    Confined cwd (dest.place cwd) (copyTree levels source dest isDirectory) := by
  induction levels generalizing source dest isDirectory with
  | zero =>
    rw [copyTree]
    split
    · exact Confined.pure _
    · exact Confined.bind (Confined.note _) fun _ => confined_copyFile _ descends
  | succ levels ih =>
    rw [copyTree]
    split
    · refine Confined.bind (.of_disk_eq fun _ => rfl) fun before =>
        Confined.bind (confined_ensureDirectory descends) fun _ => ?_
      split
      · exact Confined.throw _
      · next place found =>
        refine Confined.bind_disk fun w steady => ?_
        refine Confined.forM (fun name listed => ?_) w steady
        have plain : Plain name :=
          steady.sound.plain (Disk.mem_names listed) name List.mem_cons_self
        have below : dest.place cwd <:+ (dest.join ⟨name⟩).place cwd := by
          rw [Path.place_join_name dest plain]
          exact List.suffix_cons name _
        exact (ih _ (descends.join_name plain) _).of_below below
    · exact Confined.bind (Confined.note _) fun _ => confined_copyFile _ descends

theorem confined_copyPath (source : Path) {dest : Path} (descends : dest.Descends) :
    Confined cwd (dest.place cwd) (copyPath source dest) := by
  unfold copyPath
  split
  · exact Confined.note _
  · refine Confined.bind (.of_disk_eq fun _ => rfl) fun d => ?_
    split
    · exact confined_copyFile _ descends
    · split
      · exact Confined.throw _
      · rw [← Path.place_join_empty]
        exact confined_copyTree _ _ descends.join_empty _

/-! ## Steps -/

/-- A step changes nothing unless it is a transfer that is carried out. That one changes what lies at or
below its destination, and makes new directories above it. -/
theorem footprint_apply (renderer : Renderer) (srcRoot destRoot : Path) (context : Context)
    (step : Step) {w : World} (steady : Disk.Steady cwd w.disk) (p : Place)
    (changed : (exec (apply renderer srcRoot destRoot step context) w).2.disk.get? p ≠
      w.disk.get? p) :
    ∃ t, step.transfer? = some t ∧ Carried destRoot t w.disk ∧
      Disk.TouchedFrom ((destRoot.absolutize t.dest).place cwd) w.disk
        (exec (apply renderer srcRoot destRoot step context) w).2.disk p := by
  have leaves := leaves_apply renderer srcRoot destRoot context step w
  generalize (exec (apply renderer srcRoot destRoot step context) w).2.disk = left at changed leaves ⊢
  cases leaves with
  | asItWas => exact absurd rfl changed
  | @copied t _ carried =>
    have descends := Path.descends_absolutize destRoot t.dest
    exact ⟨t, rfl, carried, (confined_copyPath _ descends w steady).2 p changed⟩
  | @written t _ v _ text carried _ _ same =>
    have descends := Path.descends_absolutize destRoot t.dest
    rw [← same] at steady changed
    have touched := (confined_writeText descends text v steady).2 p changed
    rw [same] at touched
    exact ⟨t, rfl, carried, touched⟩

end Run

end Scaffold
