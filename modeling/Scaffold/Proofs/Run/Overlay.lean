import Scaffold.Proofs.Run.Copies

/-!
# Trees laid over trees

A directory that is copied lies over its destination afterwards: at each relative place stands what the
source has there, and where it has nothing what the destination had (`Overlaid`). The copy of a single
entry is the base (`overlaid_of_copyFile`), since nothing lies below a file. The rounds over the entries
of a directory keep out of each other's way: each changes places below its own name only, so what the
others lay stays (`get?_of_forM`). The directory itself is made before, and making it changes nothing
below it (`Makes.above_of_changed`).

All of this needs the source to stay as it is, and it does where source and destination lie beside
each other (`Beside`). `tree_copy_exact` is the result: it says of every place what stands there after
the copy.
-/

namespace Scaffold

namespace Disk

/-- The tree at `s` lies over the one at `q`: the later disk has below `q` what the earlier one has below
`s`, and where that has nothing what it has below `q`. -/
def Overlaid (s q : Place) (d d' : Disk) : Prop :=
  ∀ r, d'.get? (r ++ q) = (d.get? (r ++ s)).or (d.get? (r ++ q))

/-- Neither place lies at or below the other. -/
structure Beside (s q : Place) : Prop where
  outside : ¬ s <:+ q
  around : ¬ q <:+ s

variable {s q place : Place} {d d' : Disk}

/-- Nothing lies at or below both. -/
theorem Beside.not_below (beside : Beside s q) {p : Place} (inside : s <:+ p) : ¬ q <:+ p := by
  intro below
  rcases List.suffix_or_suffix_of_suffix inside below with within | without
  · exact beside.outside within
  · exact beside.around without

theorem Beside.child (beside : Beside s q) (n m : String) : Beside (n :: s) (m :: q) :=
  ⟨fun within => beside.not_below ((List.suffix_cons n s).trans within) (List.suffix_cons m q),
    fun without => beside.not_below (List.suffix_cons n s) ((List.suffix_cons m q).trans without)⟩

/-- What comes from a transfer to the one place leaves the tree at the other alone. -/
theorem Beside.get?_eq (beside : Beside s q) (changed : ChangedAt q d d') (r : Place) :
    d'.get? (r ++ s) = d.get? (r ++ s) := by
  have inside : s <:+ r ++ s := List.suffix_append r s
  by_contra differs
  rcases changed _ differs with below | ⟨above, -, -⟩
  · exact beside.not_below inside below
  · exact beside.outside (inside.trans above)

/-- A transfer into a directory changes what lies below its own name only. -/
theorem ChangedAt.get?_sibling {n m : String} (changed : ChangedAt (n :: q) d d') (other : m ≠ n)
    (r : Place) :
    d'.get? (r ++ m :: q) = d.get? (r ++ m :: q) := by
  have inside : m :: q <:+ r ++ m :: q := List.suffix_append r _
  have apart {p : Place} (here : m :: q <:+ p) (there : n :: q <:+ p) : False := by
    have both := (List.suffix_of_suffix_length_le here there (by simp)).eq_of_length (by simp)
    exact other (List.cons.inj both).1
  by_contra differs
  rcases changed _ differs with below | ⟨above, -, -⟩
  · exact apart inside below
  · exact apart (inside.trans above) (List.suffix_refl _)

/-- It leaves the directory a directory. -/
theorem ChangedAt.directory {n : String} (changed : ChangedAt (n :: q) d d')
    (directory : d.get? q = some .directory) : d'.get? q = some .directory := by
  by_contra differs
  rcases changed q (directory ▸ differs) with below | ⟨-, free, -⟩
  · have longer := below.length_le
    rw [List.length_cons] at longer
    omega
  · rw [directory] at free
    cases free

theorem Steady.find_eq {cwd : Place} (steady : Steady cwd d) {path : Path}
    (found : d.find path = .ok place) : place = path.place cwd := by
  have led := steady.linkless.follow_eq (follow_of_find found)
  rw [steady.cwd_eq, Path.foldl_writtenParts] at led
  exact led

theorem Steady.get?_of_isDirectory {cwd : Place} (steady : Steady cwd d) {path : Path}
    (there : d.isDirectory path = true) : d.get? (path.place cwd) = some .directory := by
  obtain ⟨place, found, directory⟩ := isDirectory_iff.1 there
  exact steady.find_eq found ▸ directory

/-- Where the trees of all entries of a directory lie over those of their names, its own tree does. -/
theorem Sound.overlaid_of_entries (sound : d.Sound) (source : d.get? s = some .directory)
    (made : d'.get? q = some .directory)
    (entries : ∀ m r, d'.get? (r ++ m :: q) =
      if m ∈ d.names s then (d.get? (r ++ m :: s)).or (d.get? (r ++ m :: q))
      else d.get? (r ++ m :: q)) :
    Overlaid s q d d' := by
  intro r
  rcases List.eq_nil_or_concat r with rfl | ⟨r, m, rfl⟩
  · rw [List.nil_append, List.nil_append, made, source]
    rfl
  · rw [List.concat_eq_append, List.append_assoc, List.append_assoc, List.singleton_append,
      List.singleton_append, entries]
    split
    · rfl
    · next unlisted =>
      -- what has no entry has nothing below it either
      have free : d.get? (m :: s) = none := by
        by_contra filled
        exact unlisted (mem_names_of_isSome (Option.isSome_iff_ne_none.2 filled))
      rw [sound.free_append free]
      rfl

/-- A directory that is made first makes no difference to what is laid over it. -/
theorem Overlaid.of_made {made : Disk} (laid : Overlaid s q made d')
    (same : ∀ r, made.get? (r ++ s) = d.get? (r ++ s))
    (below : ∀ r, r ≠ [] → made.get? (r ++ q) = d.get? (r ++ q)) (filled : (d.get? s).isSome) :
    Overlaid s q d d' := by
  intro r
  rw [laid, same]
  by_cases here : r = []
  · obtain ⟨node, there⟩ := Option.isSome_iff_exists.1 filled
    rw [here, List.nil_append, there]
    rfl
  · rw [below r here]

end Disk

namespace Run

open Disk (Beside ChangedAt Edits Overlaid Steady)

variable {cwd s q : Place} {source dest : Path} {w v : World}

/-! ## Directories on the way -/

theorem Tries.eq_of_changed {p : Path} {out : Except Failure Unit × World} (tries : Tries p w out)
    (steady : Steady cwd w.disk) {x : Place} (changed : out.2.disk.get? x ≠ w.disk.get? x) :
    p.EndsInName ∧ x = p.place cwd ∧ out.2.disk.get? x = some .directory := by
  cases tries with
  | made made =>
    obtain ⟨named, free, rfl⟩ := steady.exists_of_makeDirectory made
    have below : p.place cwd ≠ [] := by
      intro top
      rw [top] at free
      cases free
    rw [Disk.get?_set below] at changed ⊢
    split at changed
    · next same =>
      rw [if_pos same]
      exact ⟨named, same, rfl⟩
    · exact absurd rfl changed
  | there => exact absurd rfl changed
  | blocked => exact absurd rfl changed

/-- What changes while directories are made is a new directory, at the place of the path or above it. -/
theorem Makes.above_of_changed {p : Path} {out : Except Failure Unit × World} (makes : Makes p w out)
    (descends : p.Descends) (steady : Steady cwd w.disk) {x : Place}
    (changed : out.2.disk.get? x ≠ w.disk.get? x) :
    p.EndsInName ∧ x <:+ p.place cwd ∧ out.2.disk.get? x = some .directory := by
  -- a change further up shows in the path only if the path above ends in a name
  have outward {p outer : Path} (descends : p.Descends) (above : p.parent? = some outer)
      (named : outer.EndsInName) (inside : x <:+ outer.place cwd) :
      p.EndsInName ∧ x <:+ p.place cwd := by
    obtain ⟨ends, n, below⟩ := descends.place_parent above named cwd
    exact ⟨ends, below ▸ inside.trans (List.suffix_cons n _)⟩
  induction makes with
  | nothing => exact absurd rfl changed
  | tries tries =>
    obtain ⟨named, rfl, made⟩ := tries.eq_of_changed steady changed
    exact ⟨named, List.suffix_refl _, made⟩
  | failed above _ ih =>
    obtain ⟨named, inside, made⟩ := ih (descends.parent above) steady changed
    obtain ⟨ends, inside⟩ := outward descends above named inside
    exact ⟨ends, inside, made⟩
  | @above p outer w v out above makes tries ih =>
    have steady' : Steady cwd v.disk := steady.edits makes.growsTo.edits
    by_cases later : out.2.disk.get? x = v.disk.get? x
    · rw [later] at changed ⊢
      obtain ⟨named, inside, made⟩ := ih (descends.parent above) steady changed
      obtain ⟨ends, inside⟩ := outward descends above named inside
      exact ⟨ends, inside, made⟩
    · obtain ⟨named, rfl, made⟩ := tries.eq_of_changed steady' later
      exact ⟨named, List.suffix_refl _, made⟩

/-- A directory that is made is there, and below its place all is as before. -/
theorem get?_of_ensureDirectory (steady : Steady cwd w.disk) (descends : dest.Descends)
    (filled : dest.text ≠ "") (ran : exec (ensureDirectory dest) w = (.ok (), v)) :
    v.disk.get? (dest.place cwd) = some .directory ∧
      ∀ r, r ≠ [] → v.disk.get? (r ++ dest.place cwd) = w.disk.get? (r ++ dest.place cwd) := by
  have makes := makes_of_exec ran
  refine ⟨(steady.edits makes.growsTo.edits).get?_of_isDirectory (makes.isDirectory filled), ?_⟩
  intro r below
  by_contra changed
  obtain ⟨-, inside, -⟩ := makes.above_of_changed descends steady changed
  have shorter := inside.length_le
  have some_ := List.length_pos_iff.2 below
  rw [List.length_append] at shorter
  omega

/-! ## One entry -/

/-- The copy of an entry that is no directory lies over what was at its destination. -/
theorem overlaid_of_copyFile (steady : Steady cwd w.disk)
    (beside : Beside (source.place cwd) (dest.place cwd)) (leaf : w.disk.Leaf (source.place cwd))
    (ran : exec (copyFile source dest) w = (.ok (), v)) :
    Overlaid (source.place cwd) (dest.place cwd) w.disk v.disk := by
  have copies := copiesFile_of_copyFile ran
  have edits := copies.edits
  cases copies with
  | @intro made p q content executable grows _ found origin target becomes =>
    have steady' : Steady cwd made := steady.edits grows.edits
    cases steady'.find_eq found
    cases steady'.find_eq target
    have other : source.place cwd ≠ dest.place cwd := fun same =>
      beside.outside (same ▸ List.suffix_refl _)
    have landed : v.disk.get? (dest.place cwd) = some (.file content executable) := by
      rw [becomes, if_pos rfl, if_neg other]
    intro r
    by_cases here : r = []
    · obtain ⟨node, there⟩ := Option.isSome_iff_exists.1 leaf.filled
      cases origin.symm.trans (grows.kept _ _ there)
      rw [here, List.nil_append, List.nil_append, landed, there]
      rfl
    · have nothing : v.disk.get? (r ++ dest.place cwd) = none := by
        refine (edits.sound steady.sound).free_below ?_ here
        rw [landed]
        exact fun same => by cases same
      rw [nothing, steady.sound.free_below leaf.other here, edits.free nothing]
      rfl

/-! ## Trees -/

/-- Rounds that each lay the tree of one name lay those of all names. What has another name stays. -/
theorem get?_of_forM {d : Disk} {f : String → Run PUnit} {names : List String} (beside : Beside s q)
    (confined : ∀ n ∈ names, Confined cwd (n :: q) (f n))
    (each : ∀ n ∈ names, ∀ {w v : World}, Steady cwd w.disk →
      (∀ r, w.disk.get? (r ++ s) = d.get? (r ++ s)) → exec (f n) w = (.ok (), v) →
        Overlaid (n :: s) (n :: q) w.disk v.disk)
    (steady : Steady cwd w.disk) (same : ∀ r, w.disk.get? (r ++ s) = d.get? (r ++ s))
    (directory : w.disk.get? q = some .directory) (ran : exec (names.forM f) w = (.ok (), v)) :
    v.disk.get? q = some .directory ∧ ∀ m r, v.disk.get? (r ++ m :: q) =
      if m ∈ names then (d.get? (r ++ m :: s)).or (w.disk.get? (r ++ m :: q))
      else w.disk.get? (r ++ m :: q) := by
  induction names generalizing w with
  | nil =>
    cases ran
    exact ⟨directory, fun m r => (if_neg List.not_mem_nil).symm⟩
  | cons n rest ih =>
    obtain ⟨⟨⟩, u, first, ran⟩ := exists_of_exec_bind ran
    obtain ⟨steady', changed⟩ := confined n List.mem_cons_self w steady
    have laid := each n List.mem_cons_self steady same first
    rw [first] at steady' changed
    have same' (r : Place) : u.disk.get? (r ++ s) = d.get? (r ++ s) :=
      (beside.get?_eq (changed.of_below (List.suffix_cons n q)) r).trans (same r)
    obtain ⟨still, later⟩ := ih (fun m listed => confined m (List.mem_cons_of_mem n listed))
      (fun m listed => each m (List.mem_cons_of_mem n listed)) steady' same'
      (changed.directory directory) ran
    refine ⟨still, fun m r => ?_⟩
    rw [later]
    by_cases own : m = n
    · subst own
      have below : w.disk.get? (r ++ m :: s) = d.get? (r ++ m :: s) := by
        have here := same (r ++ [m])
        rwa [List.append_assoc] at here
      rw [laid, below, if_pos List.mem_cons_self]
      split
      · cases d.get? (r ++ m :: s) with
        | none => rfl
        | some node => rfl
      · rfl
    · rw [changed.get?_sibling own]
      simp only [List.mem_cons, own, false_or]

theorem overlaid_of_leaf {levels : Nat} (steady : Steady cwd w.disk)
    (beside : Beside (source.place cwd) (dest.place cwd))
    (there : (w.disk.get? (source.place cwd)).isSome)
    (kind : false = true ↔ w.disk.get? (source.place cwd) = some .directory)
    (ran : exec (copyTree levels source dest false) w = (.ok (), v)) :
    Overlaid (source.place cwd) (dest.place cwd) w.disk v.disk := by
  have leaf : w.disk.Leaf (source.place cwd) := ⟨there, fun directory => by cases kind.2 directory⟩
  rw [copyTree_leaf, exec_bind_of_ok (exec_note w _)] at ran
  exact @overlaid_of_copyFile cwd source dest
    { w with notes := w.notes ++ [.copying source dest] } v steady beside leaf ran

/-- **A tree that is copied lies over its destination.** The levels are counted as in
`copiesTree_of_copyTree`. -/
theorem overlaid_of_copyTree (levels : Nat) {isDirectory : Bool} (steady : Steady cwd w.disk)
    (beside : Beside (source.place cwd) (dest.place cwd)) (descends : dest.Descends)
    (filled : dest.text ≠ "") (long : pathLimit < levels + source.text.utf8ByteSize)
    (deep : isDirectory = true → 0 < levels) (there : (w.disk.get? (source.place cwd)).isSome)
    (kind : isDirectory = true ↔ w.disk.get? (source.place cwd) = some .directory)
    (ran : exec (copyTree levels source dest isDirectory) w = (.ok (), v)) :
    Overlaid (source.place cwd) (dest.place cwd) w.disk v.disk := by
  induction levels generalizing source dest isDirectory w v with
  | zero =>
    cases isDirectory with
    | true => exact absurd (deep rfl) (Nat.lt_irrefl 0)
    | false => exact overlaid_of_leaf steady beside there kind ran
  | succ levels ih =>
    cases isDirectory with
    | false => exact overlaid_of_leaf steady beside there kind ran
    | true =>
      obtain ⟨place, u, led, ensured, ran⟩ := exists_of_copyTree_directory ran
      cases steady.find_eq led
      obtain ⟨steady', changed⟩ := confined_ensureDirectory descends w steady
      obtain ⟨made, kept⟩ := get?_of_ensureDirectory steady descends filled ensured
      rw [ensured] at steady' changed
      have same := beside.get?_eq changed
      have directory : u.disk.get? (source.place cwd) = some .directory :=
        (same []).trans (kind.1 rfl)
      have joined {n : String} (listed : n ∈ u.disk.names (source.place cwd)) :
          Plain n ∧ (source.join ⟨n⟩).place cwd = n :: source.place cwd ∧
            (dest.join ⟨n⟩).place cwd = n :: dest.place cwd := by
        have plain : Plain n := steady'.sound.plain (Disk.mem_names listed) n List.mem_cons_self
        exact ⟨plain, Path.place_join_name source plain cwd, Path.place_join_name dest plain cwd⟩
      have confined : ∀ n ∈ u.disk.names (source.place cwd), Confined cwd (n :: dest.place cwd)
          (copyTree levels (source.join ⟨n⟩) (dest.join ⟨n⟩)
            (u.disk.get? (n :: source.place cwd) = some .directory)) := by
        intro n listed
        obtain ⟨plain, -, below⟩ := joined listed
        exact below ▸ confined_copyTree levels _ (descends.join_name plain) _
      -- a round copies one entry, which is as it was when the directory was listed
      have each : ∀ n ∈ u.disk.names (source.place cwd), ∀ {w' v' : World}, Steady cwd w'.disk →
          (∀ r, w'.disk.get? (r ++ source.place cwd) = u.disk.get? (r ++ source.place cwd)) →
          exec (copyTree levels (source.join ⟨n⟩) (dest.join ⟨n⟩)
            (u.disk.get? (n :: source.place cwd) = some .directory)) w' = (.ok (), v') →
          Overlaid (n :: source.place cwd) (n :: dest.place cwd) w'.disk v'.disk := by
        intro n listed w' v' steady same ran
        obtain ⟨plain, inner, below⟩ := joined listed
        have here : w'.disk.get? (n :: source.place cwd) = u.disk.get? (n :: source.place cwd) :=
          same [n]
        -- the path of the source was found, so it is short enough to leave levels for what lies below
        obtain ⟨-, short⟩ := Disk.size_of_find led
        have longer := Path.size_lt_join_name source plain
        have kind : decide (u.disk.get? (n :: source.place cwd) = some .directory) = true ↔
            w'.disk.get? ((source.join ⟨n⟩).place cwd) = some .directory := by
          rw [inner, here, decide_eq_true_iff]
        have there : (w'.disk.get? ((source.join ⟨n⟩).place cwd)).isSome := by
          rw [inner, here]
          exact Disk.mem_names listed
        have beside : Beside ((source.join ⟨n⟩).place cwd) ((dest.join ⟨n⟩).place cwd) := by
          rw [inner, below]
          exact beside.child n n
        rw [← inner, ← below]
        exact ih steady beside (descends.join_name plain) (Path.text_join_ne_empty filled _)
          (by omega) (fun _ => by omega) there kind ran
      obtain ⟨still, laid⟩ := get?_of_forM beside confined each steady' (fun r => rfl) made ran
      exact (steady'.sound.overlaid_of_entries directory still laid).of_made same kept there

/-- **A directory that is copied lies over its destination.** -/
theorem overlaid_of_copyPath (steady : Steady cwd w.disk)
    (beside : Beside (source.place cwd) (dest.place cwd)) (descends : dest.Descends)
    (filled : dest.text ≠ "") (directory : w.disk.isDirectory source = true)
    (ran : exec (copyPath source dest) w = (.ok (), v)) :
    Overlaid (source.place cwd) (dest.place cwd) w.disk v.disk := by
  have there := steady.get?_of_isDirectory directory
  obtain ⟨place, led, -⟩ := Disk.isDirectory_iff.1 directory
  cases steady.find_eq led
  have other : source.sameParts dest = false := by
    refine Bool.eq_false_iff.2 fun same => ?_
    have together : source.place cwd = dest.place cwd := by
      rw [Path.place, Path.place, of_decide_eq_true same]
    exact beside.outside (together ▸ List.suffix_refl _)
  rcases copyPath_cases led other ran with ⟨single, -⟩ | ⟨-, ran⟩
  · exact absurd there single
  · obtain ⟨positive, -⟩ := Disk.size_of_find led
    rw [← Path.place_join_empty dest] at beside ⊢
    exact overlaid_of_copyTree pathLimit steady beside descends.join_empty
      (Path.text_join_ne_empty filled _) (Nat.lt_add_of_pos_right positive) (fun _ => by decide)
      (by rw [there]; rfl) ⟨fun _ => there, fun _ => rfl⟩ ran

/-- **The copy of a tree is exact.** On a disk without links, let a directory be copied to a place that
lies beside it. If the copy succeeds, what the source has at a relative place stands at that place of the
destination; the directories above the destination are there, and those that were missing are new; and
every other entry is as it was, also where it lies in the destination. If the copy fails, the source is
as it was, and what differs lies at or below the destination or is a new directory above it. -/
theorem tree_copy_exact (srcRoot src destRoot dest : Path) (w : World) (sound : w.disk.Sound)
    (linkless : w.disk.Linkless) (directory : w.disk.isDirectory (srcRoot.absolutize src) = true)
    (outside : ¬ (srcRoot.absolutize src).place w.disk.cwd <:+
      (destRoot.absolutize dest).place w.disk.cwd)
    (around : ¬ (destRoot.absolutize dest).place w.disk.cwd <:+
      (srcRoot.absolutize src).place w.disk.cwd) :
    let s := (srcRoot.absolutize src).place w.disk.cwd
    let q := (destRoot.absolutize dest).place w.disk.cwd
    let copied := exec (copyPath (srcRoot.absolutize src) (destRoot.absolutize dest)) w
    (copied.1 = .ok () →
      (∀ r node, w.disk.get? (r ++ s) = some node → copied.2.disk.get? (r ++ q) = some node) ∧
      (∀ p, p <:+ q → p ≠ q → copied.2.disk.get? p = some .directory ∧
        (w.disk.get? p = some .directory ∨ w.disk.get? p = none)) ∧
      ∀ p, (∀ r, p = r ++ q → w.disk.get? (r ++ s) = none) → (p <:+ q → p = q) →
        copied.2.disk.get? p = w.disk.get? p) ∧
    ∀ e, copied.1 = .error e →
      (∀ r, copied.2.disk.get? (r ++ s) = w.disk.get? (r ++ s)) ∧
        ChangedAt q w.disk copied.2.disk := by
  intro s q copied
  have steady : Steady w.disk.cwd w.disk := ⟨sound, linkless, rfl⟩
  have beside : Beside s q := ⟨outside, around⟩
  have descends := Path.descends_absolutize destRoot dest
  obtain ⟨steady', changed⟩ := confined_copyPath (srcRoot.absolutize src) descends w steady
  have edits := edits_copyPath (srcRoot.absolutize src) (destRoot.absolutize dest) w
  refine ⟨fun success => ?_, fun _ _ => ⟨beside.get?_eq changed, changed⟩⟩
  have laid : Overlaid s q w.disk copied.2.disk :=
    overlaid_of_copyPath steady beside descends (Path.text_absolutize_ne_empty destRoot dest) directory
      (Prod.ext success rfl)
  have base : copied.2.disk.get? q = some .directory := by
    have here := laid []
    rwa [List.nil_append, List.nil_append, steady.get?_of_isDirectory directory] at here
  refine ⟨fun r node there => ?_, fun p above other => ?_, fun p unlaid off => ?_⟩
  · rw [laid, there]
    rfl
  · obtain ⟨r, below⟩ := above
    have some_ : r ≠ [] := fun none => other (by rw [← below, none]; rfl)
    have made : copied.2.disk.get? p = some .directory :=
      steady'.sound.directory_of_append some_ (by rw [below, base]; rfl)
    refine ⟨made, ?_⟩
    cases before : w.disk.get? p with
    | none => exact .inr rfl
    | some node =>
      exact .inl (before ▸ (edits.keeps.directory_iff (by rw [before]; rfl)).1 made)
  · by_cases inside : q <:+ p
    · obtain ⟨r, rfl⟩ := inside
      rw [laid, unlaid r rfl]
      rfl
    · by_contra differs
      rcases changed p differs with below | ⟨above, -, -⟩
      · exact inside below
      · exact inside (off above ▸ List.suffix_refl _)

/-- A tree with a file two levels down is copied into a directory that has entries of its own. One of them
is replaced, and another one stays. -/
theorem tree_copy_exact_merging :
    let w := World.start ⟨[(["s"], .directory), (["f", "s"], .file "x".toUTF8 false),
      (["sub", "s"], .directory), (["g", "sub", "s"], .file "y".toUTF8 true), (["t"], .directory),
      (["u", "t"], .directory), (["f", "u", "t"], .file "old".toUTF8 true),
      (["h", "u", "t"], .file "kept".toUTF8 false)], []⟩
    let s : Place := ["s"]
    let q : Place := ["u", "t"]
    let copied := exec (copyPath (Path.absolutize ⟨"."⟩ ⟨"s"⟩) (Path.absolutize ⟨"t"⟩ ⟨"/u"⟩)) w
    w.disk.Sound ∧ w.disk.Linkless ∧ w.disk.isDirectory (Path.absolutize ⟨"."⟩ ⟨"s"⟩) = true ∧
      ¬ s <:+ q ∧ ¬ q <:+ s ∧ copied.1 = .ok () ∧
      (∀ r node, w.disk.get? (r ++ s) = some node →
        copied.2.disk.get? (r ++ q) = some node) ∧
      (∀ p, p <:+ q → p ≠ q → copied.2.disk.get? p = some .directory ∧
        (w.disk.get? p = some .directory ∨ w.disk.get? p = none)) ∧
      ∀ p, (∀ r, p = r ++ q → w.disk.get? (r ++ s) = none) →
        (p <:+ q → p = q) → copied.2.disk.get? p = w.disk.get? p := by
  intro w s q copied
  have sound : w.disk.Sound := Disk.sound_of_entries (by decide +kernel) (by decide +kernel)
  have linkless : w.disk.Linkless := Disk.linkless_of_entries (by simp [w, World.start])
  have directory : w.disk.isDirectory (Path.absolutize ⟨"."⟩ ⟨"s"⟩) = true := by decide +kernel
  have origin : (Path.absolutize ⟨"."⟩ ⟨"s"⟩).place w.disk.cwd = s := by decide +kernel
  have target : (Path.absolutize ⟨"t"⟩ ⟨"/u"⟩).place w.disk.cwd = q := by decide +kernel
  have outside : ¬ s <:+ q := by decide
  have around : ¬ q <:+ s := by decide
  obtain ⟨⟨⟩, v, ran⟩ := exists_exec_of_isOk (w := w)
    (m := copyPath (Path.absolutize ⟨"."⟩ ⟨"s"⟩) (Path.absolutize ⟨"t"⟩ ⟨"/u"⟩)) (by decide +kernel)
  have left : copied = (.ok (), v) := ran
  obtain ⟨laid, -⟩ := tree_copy_exact ⟨"."⟩ ⟨"s"⟩ ⟨"t"⟩ ⟨"/u"⟩ w sound linkless directory
    (by rw [origin, target]; exact outside) (by rw [origin, target]; exact around)
  rw [ran, origin, target] at laid
  rw [left]
  exact ⟨sound, linkless, directory, outside, around, rfl, laid rfl⟩

end Run

end Scaffold
