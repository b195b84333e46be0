import Scaffold.Proofs.Run.Done
import Scaffold.Proofs.Run.Sight

/-!
# Transfers that are repeated

What a run does on one disk it does on another one that looks the same to it. `Repeats` says so of two worlds:
if the computation succeeds in the first, it succeeds in the second, with the same result, and the disks
that it leaves look the same again. Nothing is said of failures, which can show what else differs.

The operations of a run are taken one by one. Directories are made where nothing is in the way, and files are
written where there is a directory for them, so both go through on the other disk even if one of the two
has fewer directories to begin with. Whatever else a run looks at lies at or below its source or its
destination. `repeats_apply` is the result for a step.
-/

namespace Scaffold

/-! ## When a file can be written -/

namespace Disk

variable {d d' : Disk} {p : Path} {content : ByteArray} {mark : Option Bool → Bool}

theorem write_eq_ok_iff :
    d.write p content mark = .ok d' ↔ p.isSlashed = false ∧ ∃ t, d.find p = .ok t ∧
      ((d.get? t = none ∧ d' = d.set t (.file content (mark none))) ∨
        ∃ old was, d.get? t = some (.file old was) ∧ d' = d.set t (.file content (mark (some was)))) := by
  unfold write
  cases text : checkText p with
  | error e =>
    have lost : d.find p = .error e := by
      unfold Disk.find
      rw [text]
      rfl
    simp [bind, Except.bind, lost]
  | ok _ =>
    cases open_ : p.isSlashed with
    | true =>
      cases d.follow true linkLimit d.cwd p.writtenParts with
      | error e => simp [bind, Except.bind]
      | ok t => simp [bind, Except.bind, throw, throwThe, MonadExceptOf.throw]
    | false =>
      have led : d.find p = d.follow true linkLimit d.cwd p.writtenParts := by
        rw [find_of_checkText text, Path.walkedParts, open_]
        rfl
      rw [led]
      cases d.follow true linkLimit d.cwd p.writtenParts with
      | error e => simp [bind, Except.bind]
      | ok t =>
        simp only [bind, Except.bind, Bool.false_eq_true, if_false, Except.ok.injEq, exists_eq_left',
          true_and]
        cases there : d.get? t with
        | none => simp [eq_comm]
        | some node =>
          cases node with
          | file old was =>
            simp only [reduceCtorEq, false_and, false_or, Option.some.injEq, Node.file.injEq, Except.ok.injEq]
            constructor
            · exact fun set => ⟨old, was, ⟨rfl, rfl⟩, set.symm⟩
            · rintro ⟨_, _, ⟨rfl, rfl⟩, set⟩
              exact set.symm
          | directory | link _ => simp

end Disk

namespace Run

open Disk (Edits SameSight Steady)

/-- If the computation succeeds in the first world it succeeds in the second one, with the same result, and
leaves disks that look the same. -/
def Repeats (cwd s q : Place) {α : Type} (m : Run α) (w w' : World) : Prop :=
  ∀ a v, exec m w = (.ok a, v) →
    ∃ v', exec m w' = (.ok a, v') ∧ SameSight cwd s q v.disk v'.disk

variable {α β : Type} {cwd s q : Place} {w w' v v' : World} {p source dest : Path}

theorem Repeats.bind {m : Run α} {f : α → Run β} (first : Repeats cwd s q m w w')
    (next : ∀ {a v v'}, exec m w = (.ok a, v) → exec m w' = (.ok a, v') →
      SameSight cwd s q v.disk v'.disk → Repeats cwd s q (f a) v v') :
    Repeats cwd s q (m >>= f) w w' := by
  intro b u ran
  obtain ⟨a, v, started, ran⟩ := exists_of_exec_bind ran
  obtain ⟨v', started', sight⟩ := first a v started
  obtain ⟨u', ended, sight⟩ := next started started' sight b u ran
  exact ⟨u', (exec_bind_of_ok started' f).trans ended, sight⟩

theorem Repeats.pure (sight : SameSight cwd s q w.disk w'.disk) (a : α) :
    Repeats cwd s q (Pure.pure a) w w' := by
  intro _ _ ran
  cases ran
  exact ⟨w', rfl, sight⟩

theorem Repeats.throw (e : Failure) : Repeats cwd s q (throw e : Run α) w w' := by
  intro _ _ ran
  cases ran

theorem Repeats.note (sight : SameSight cwd s q w.disk w'.disk) (n : Note) :
    Repeats cwd s q (note n) w w' := by
  intro _ _ ran
  cases ran
  exact ⟨_, rfl, sight⟩

theorem Repeats.report (sight : SameSight cwd s q w.disk w'.disk) (r : Report) :
    Repeats cwd s q (report r) w w' := by
  intro _ _ ran
  cases ran
  exact ⟨_, rfl, sight⟩

/-- What is read is the same if it can be read. -/
theorem Repeats.reading (sight : SameSight cwd s q w.disk w'.disk) {op : Disk → Except DiskError α}
    (same : ∀ {a}, op w.disk = .ok a → op w'.disk = .ok a) : Repeats cwd s q (reading op) w w' := by
  intro a v ran
  obtain ⟨read, rfl⟩ := eq_of_exec_reading ran
  refine ⟨w', ?_, sight⟩
  rw [exec_reading, same read]
  rfl

/-- Looking at the disk first, where that leads to the same computation. -/
theorem Repeats.bind_disk {f : Disk → Run α} (same : f w'.disk = f w.disk)
    (next : Repeats cwd s q (f w.disk) w w') : Repeats cwd s q (disk >>= f) w w' := by
  intro a v ran
  rw [exec_bind_of_ok (exec_disk w)] at ran
  rw [exec_bind_of_ok (exec_disk w'), same]
  exact next a v ran

/-! ## Directories -/

theorem get?_ensureDirectory (steady : Steady cwd w.disk) (descends : p.Descends) (filled : p.text ≠ "")
    (ran : exec (ensureDirectory p) w = (.ok (), v)) (x : Place) :
    v.disk.get? x =
      (if x <:+ p.place cwd then some Node.directory else none).or (w.disk.get? x) := by
  have makes := makes_of_exec ran
  have steady' : Steady cwd v.disk := steady.edits makes.growsTo.edits
  have made := steady'.get?_of_isDirectory (makes.isDirectory filled)
  split
  · next above =>
    obtain ⟨r, below⟩ := above
    by_cases here : r = []
    · rw [here, List.nil_append] at below
      rw [below, made]
      rfl
    · have inside := steady'.sound.directory_of_append (p := x) here (by rw [below, made]; rfl)
      rw [inside]
      rfl
  · next outside =>
    by_contra changed
    exact outside (makes.above_of_changed descends steady changed).2.1

theorem repeats_ensureDirectory (straight : p.Straight) (near : p.place cwd <:+ q ∨ q <:+ p.place cwd)
    (sight : SameSight cwd s q w.disk w'.disk) : Repeats cwd s q (ensureDirectory p) w w' := by
  intro a v ran
  by_cases filled : p.text = ""
  · have nothing (w : World) : exec (ensureDirectory p) w = (.ok (), w) := by
      rw [ensureDirectory, makeDirectories, if_pos filled]
      rfl
    rw [nothing] at ran
    cases ran
    exact ⟨w', nothing w', sight⟩
  · have makes := makes_of_exec ran
    have edits := makes.growsTo.edits
    obtain ⟨v', ran'⟩ := exists_exec_makeDirectories (sight.left.edits edits) straight
      (fun _ => makes.isDirectory filled) sight.right (sight.clearTo near edits) (Nat.lt_succ_self _)
    have makes' := makes_ensureDirectory p w'
    rw [ensureDirectory, ran'] at makes'
    refine ⟨v', ran', sight.edited (t := p.place cwd)
      (fun x => if x <:+ p.place cwd then some Node.directory else none)
      (fun x given => ?_) edits makes'.growsTo.edits
      (get?_ensureDirectory sight.left straight.descends filled ran)
      (get?_ensureDirectory sight.right straight.descends filled ran')⟩
    by_contra outside
    exact given (if_neg outside)

theorem near_parent {outer : Path} (above : p.parent? = some outer) (below : q <:+ p.place cwd) :
    outer.place cwd <:+ q ∨ q <:+ outer.place cwd := by
  obtain ⟨x, last⟩ : ∃ x, p.parts.getLast? = some x := by
    cases last : p.parts.getLast? with
    | none =>
      rw [Path.parent?, last] at above
      cases above
    | some x => exact ⟨x, rfl⟩
  obtain ⟨before, parts⟩ := List.getLast?_eq_some_iff.1 last
  have inner : outer.parts = before := by rw [Path.parts_of_parent? above, parts, List.dropLast_concat]
  have place : p.place cwd = x.step (outer.place cwd) := by
    rw [Path.place, parts, List.foldl_append, Path.place, inner]
    rfl
  rw [place] at below
  cases x with
  | root =>
    rw [Path.parent?, last] at above
    cases above
  | here => exact .inr below
  | up => exact .inr (below.trans (List.tail_suffix _))
  | name n =>
    rcases List.suffix_cons_iff.1 below with same | inside
    · exact .inl (same ▸ List.suffix_cons n _)
    · exact .inr inside

theorem repeats_ensureParent (straight : p.Straight) (below : q <:+ p.place cwd)
    (sight : SameSight cwd s q w.disk w'.disk) : Repeats cwd s q (ensureParent p) w w' := by
  unfold ensureParent
  split
  · exact Repeats.pure sight ()
  · next outer above =>
    exact repeats_ensureDirectory (straight.parent above) (near_parent above below) sight

/-- The directory around the place is there then. -/
theorem outer_of_ensureParent (steady : Steady cwd w.disk) (named : p.EndsInName)
    (ran : exec (ensureParent p) w = (.ok (), v)) : v.disk.get? (p.place cwd).tail = some .directory := by
  obtain ⟨outer, n, above, parts⟩ := named.exists_parent
  have made : exec (ensureDirectory outer) w = (.ok (), v) := by
    unfold ensureParent at ran
    rw [above] at ran
    exact ran
  have makes := makes_of_exec made
  have steady' : Steady cwd v.disk := steady.edits makes.growsTo.edits
  rw [Path.place_of_parts parts, List.tail_cons]
  by_cases filled : outer.text = ""
  · exact steady'.directory_of_empty filled
  · exact steady'.get?_of_isDirectory (makes.isDirectory filled)

/-! ## Files -/

/-- A file that is written on the one is written on the other, once the directory around it is there. -/
theorem repeats_write (straight : p.Straight) (below : q <:+ p.place cwd)
    (ready : p.EndsInName → w'.disk.get? (p.place cwd).tail = some .directory)
    (sight : SameSight cwd s q w.disk w'.disk) (content : ByteArray) (mark : Option Bool → Bool) :
    Repeats cwd s q (change fun d => d.write p content mark) w w' := by
  rintro ⟨⟩ v ran
  have wrote := eq_of_exec_change ran
  obtain ⟨open_, t, found, given⟩ := Disk.write_eq_ok_iff.1 wrote
  cases sight.left.find_eq found
  have walked : p.walkedParts = p.writtenParts := by rw [Path.walkedParts, if_neg (by simp [open_])]
  have found' : w'.disk.find p = .ok (p.place cwd) := by
    rcases sight.right.find_of_clear sight.left straight.descends (sight.clearTo (.inr below) .refl)
      found with led | ⟨-, astray⟩
    · exact led
    · rw [walked] at astray
      obtain ⟨n, named⟩ := astray.named
      obtain ⟨m, last⟩ := straight.exists_getLast? named
      have free := astray.outer m last
      rw [ready (Path.endsInName_of_writtenParts last)] at free
      cases free
  have same := sight.same _ (.inr below)
  obtain ⟨node, set, wrote'⟩ : ∃ node, v.disk = w.disk.set (p.place cwd) node ∧
      w'.disk.write p content mark = .ok (w'.disk.set (p.place cwd) node) := by
    rcases given with ⟨free, set⟩ | ⟨old, was, there, set⟩
    · exact ⟨_, set, Disk.write_eq_ok_iff.2 ⟨open_, _, found', .inl ⟨same ▸ free, rfl⟩⟩⟩
    · exact ⟨_, set,
        Disk.write_eq_ok_iff.2 ⟨open_, _, found', .inr ⟨old, was, same ▸ there, rfl⟩⟩⟩
  have off := (sight.left.exists_of_write wrote).1
  refine ⟨{ w' with disk := w'.disk.set (p.place cwd) node }, by rw [exec_change, wrote'], ?_⟩
  have entry (d : Disk) (x : Place) : (d.set (p.place cwd) node).get? x =
      (if x = p.place cwd then some node else none).or (d.get? x) := by
    rw [Disk.get?_set off]
    split
    · rfl
    · rfl
  refine sight.edited (t := p.place cwd) (fun x => if x = p.place cwd then some node else none)
    (fun x given => ?_) (.single (.file wrote)) (.single (.file wrote')) (fun x => ?_) (entry w'.disk)
  · by_contra other
    exact given (if_neg fun here => other ⟨[], here⟩)
  · rw [set]
    exact entry w.disk x

theorem repeats_writeText (straight : p.Straight) (below : q <:+ p.place cwd)
    (sight : SameSight cwd s q w.disk w'.disk) (text : String) :
    Repeats cwd s q (writeText p text) w w' := by
  refine (repeats_ensureParent straight below sight).bind fun _ made' sight' => ?_
  exact repeats_write straight below (fun named => outer_of_ensureParent sight.right named made') sight' _ _

/-- What can be read of the source is the same on both. -/
theorem read_of_same (descends : source.Descends) (below : s <:+ source.place cwd)
    (sight : SameSight cwd s q w.disk w'.disk) {node : Node} (read : w.disk.read source = .ok node) :
    w'.disk.read source = .ok node := by
  obtain ⟨t, found, there⟩ := Disk.read_eq_ok_iff.1 read
  cases sight.left.find_eq found
  have same := sight.same _ (.inl below)
  have found' := sight.right.find_of_same sight.left descends there same found
  exact Disk.read_eq_ok_iff.2 ⟨_, found', same ▸ there⟩

/-- So is whatever is made of it. -/
theorem repeats_reading_source (descends : source.Descends) (below : s <:+ source.place cwd)
    (sight : SameSight cwd s q w.disk w'.disk) (f : Node → Except DiskError α) :
    Repeats cwd s q (reading fun d => d.read source >>= f) w w' := by
  refine Repeats.reading sight fun {a} given => ?_
  cases read : w.disk.read source with
  | error e =>
    rw [read] at given
    cases given
  | ok node =>
    rw [read] at given
    rw [read_of_same descends below sight read]
    exact given

theorem repeats_copyable (descends : source.Descends) (below : s <:+ source.place cwd)
    (sight : SameSight cwd s q w.disk w'.disk) :
    Repeats cwd s q (reading (copyable · source)) w w' := repeats_reading_source descends below sight _

theorem repeats_readText (descends : source.Descends) (below : s <:+ source.place cwd)
    (sight : SameSight cwd s q w.disk w'.disk) :
    Repeats cwd s q (reading (·.readText source)) w w' := repeats_reading_source descends below sight _

theorem repeats_copyFile (descends : source.Descends) (below : s <:+ source.place cwd)
    (straight : dest.Straight) (below' : q <:+ dest.place cwd)
    (sight : SameSight cwd s q w.disk w'.disk) : Repeats cwd s q (copyFile source dest) w w' := by
  refine (repeats_ensureParent straight below' sight).bind fun _ made' sight' => ?_
  have ready := fun named => outer_of_ensureParent sight.right named made'
  refine (repeats_copyable descends below sight').bind fun {given u u'} _ read' sight => ?_
  cases (eq_of_exec_reading read').2
  refine (repeats_write straight below' ready sight _ _).bind fun {_ t t'} _ wrote' sight => ?_
  have edits : Edits _ t'.disk := .single (.file (eq_of_exec_change wrote'))
  refine (repeats_copyable descends below sight).bind fun {given u u'} _ read' sight => ?_
  cases (eq_of_exec_reading read').2
  exact repeats_write straight below' (fun named => edits.keeps.directory (ready named)) sight _ _

/-! ## Trees -/

/-- Rounds over names are repeated if each of them is, whatever the rounds before it have edited. -/
theorem repeats_forM {d : Disk} {f : String → Run PUnit} {names : List String}
    (transfers : ∀ n, Transfers (f n))
    (each : ∀ n ∈ names, ∀ w w' : World, Edits d w.disk → SameSight cwd s q w.disk w'.disk →
      Repeats cwd s q (f n) w w')
    (edits : Edits d w.disk) (sight : SameSight cwd s q w.disk w'.disk) :
    Repeats cwd s q (names.forM f) w w' := by
  induction names generalizing w w' with
  | nil => exact Repeats.pure sight PUnit.unit
  | cons n rest ih =>
    refine (each n List.mem_cons_self w w' edits sight).bind fun ran _ sight => ?_
    exact ih (fun m listed => each m (List.mem_cons_of_mem n listed))
      (edits.trans ((transfers n).edits ran)) sight

theorem repeats_leaf (descends : source.Descends) (below : s <:+ source.place cwd) (straight : dest.Straight)
    (below' : q <:+ dest.place cwd) (sight : SameSight cwd s q w.disk w'.disk) :
    Repeats cwd s q (do note (.copying source dest); copyFile source dest) w w' :=
  (Repeats.note sight _).bind fun _ _ sight => repeats_copyFile descends below straight below' sight

/-- A tree that is copied on the one is copied on the other. What is to be a directory has to be one. -/
theorem repeats_copyTree (levels : Nat) {isDirectory : Bool} (descends : source.Descends)
    (below : s <:+ source.place cwd) (straight : dest.Straight) (below' : q <:+ dest.place cwd)
    (kind : isDirectory = true → w.disk.get? (source.place cwd) = some .directory)
    (sight : SameSight cwd s q w.disk w'.disk) :
    Repeats cwd s q (copyTree levels source dest isDirectory) w w' := by
  induction levels generalizing source dest isDirectory w w' with
  | zero =>
    rw [copyTree]
    split
    · exact Repeats.pure sight ()
    · exact repeats_leaf descends below straight below' sight
  | succ levels ih =>
    rw [copyTree]
    split
    · next isDirectory =>
      intro a v ran
      rw [exec_bind_of_ok (exec_disk w)] at ran
      rw [exec_bind_of_ok (exec_disk w')]
      cases found : w.disk.find source with
      | error e =>
        rw [found] at ran
        obtain ⟨_, _, _, refused⟩ := exists_of_exec_bind ran
        cases refused
      | ok place =>
        cases sight.left.find_eq found
        rw [found] at ran
        rw [sight.right.find_of_same sight.left descends (kind isDirectory) (sight.same _ (.inl below)) found]
        refine ((repeats_ensureDirectory straight (.inr below') sight).bind
          fun {_ u u'} _ _ sight => ?_) a v ran
        have inside (n : String) : s <:+ n :: source.place cwd := below.trans (List.suffix_cons n _)
        refine Repeats.bind_disk ?_ (repeats_forM (d := u.disk) (fun _ => transfers_copyTree _ _ _ _)
          (fun n listed x x' edits sight' => ?_) .refl sight)
        · have flags (n : String) :
              u'.disk.get? (n :: source.place cwd) = u.disk.get? (n :: source.place cwd) :=
            (sight.same _ (.inl (inside n))).symm
          simp only [flags, ← sight.listed _ below]
        · have plain : Plain n := sight.left.sound.plain (Disk.mem_names listed) n List.mem_cons_self
          have inner := Path.place_join_name source plain cwd
          refine ih (descends.join_name plain) (inner ▸ inside n) (straight.join_name plain) ?_ ?_ sight'
          · rw [Path.place_join_name dest plain]
            exact below'.trans (List.suffix_cons n _)
          · intro flag
            rw [inner]
            exact edits.keeps.directory (of_decide_eq_true flag)
    · exact repeats_leaf descends below straight below' sight

theorem repeats_copyPath (descends : source.Descends) (below : s <:+ source.place cwd)
    (straight : dest.Straight) (below' : q <:+ dest.place cwd)
    (sight : SameSight cwd s q w.disk w'.disk) : Repeats cwd s q (copyPath source dest) w w' := by
  have node : w'.disk.node? source = w.disk.node? source :=
    sight.left.node?_congr sight.right descends (sight.same _ (.inl below)).symm
  have isDirectory : w'.disk.isDirectory source = w.disk.isDirectory source := by
    rw [Disk.isDirectory, Disk.isDirectory, node]
  have itself : w'.disk.entryItself? source = w.disk.entryItself? source := by
    rw [sight.left.linkless.entryItself?_eq, sight.right.linkless.entryItself?_eq, node]
  unfold copyPath
  split
  · exact Repeats.note sight _
  · refine Repeats.bind_disk (by rw [isDirectory, itself]) ?_
    split
    · exact repeats_copyFile descends below straight below' sight
    · next directory =>
      split
      · exact Repeats.throw _
      · refine repeats_copyTree pathLimit descends below straight.join_empty ?_ (fun _ => ?_) sight
        · rw [Path.place_join_empty]
          exact below'
        · exact sight.left.get?_of_isDirectory (by simpa using directory)

/-! ## Steps -/

theorem Repeats.render (sight : SameSight cwd s q w.disk w'.disk) (renderer : Renderer) (template : String)
    (context : Context) : Repeats cwd s q (render renderer template context) w w' := by
  intro a v ran
  rw [exec_render] at ran
  obtain ⟨result, rfl⟩ := Prod.mk.inj ran
  refine ⟨{ w' with renderings := w'.renderings ++ [(template, context)] }, ?_, sight⟩
  rw [exec_render, result]

/-- A transfer that is left out on the one is left out on the other. -/
theorem repeats_unlessGated {destRoot : Path} {t : Transfer} {body : Run Unit}
    (below : q <:+ (destRoot.absolutize t.dest).place cwd) (sight : SameSight cwd s q w.disk w'.disk)
    (carries : Repeats cwd s q body w w') : Repeats cwd s q (unlessGated destRoot t body) w w' := by
  have held : w'.disk.holds (destRoot.absolutize t.dest) = w.disk.holds (destRoot.absolutize t.dest) := by
    rw [Disk.holds, Disk.holds, sight.left.node?_congr sight.right (Path.descends_absolutize _ _)
      (sight.same _ (.inr below)).symm]
  intro a v ran
  rw [exec_unlessGated] at ran
  rw [exec_unlessGated, held]
  split at ran
  · cases ran
    rw [if_pos ‹_›]
    exact ⟨_, rfl, sight⟩
  · rw [if_neg ‹_›]
    exact carries a v ran

/-- **A step is repeated where the disk looks the same to it.** -/
theorem repeats_apply (renderer : Renderer) (srcRoot destRoot : Path) (context : Context) {step : Step}
    {t : Transfer} (transfer : step.transfer? = some t)
    (sight : SameSight cwd ((srcRoot.absolutize t.src).place cwd) ((destRoot.absolutize t.dest).place cwd)
      w.disk w'.disk) :
    Repeats cwd ((srcRoot.absolutize t.src).place cwd) ((destRoot.absolutize t.dest).place cwd)
      (apply renderer srcRoot destRoot step context) w w' := by
  have descends := Path.descends_absolutize srcRoot t.src
  have straight := Path.straight_absolutize destRoot t.dest
  have here (p : Place) : p <:+ p := List.suffix_refl p
  cases step with
  | copy t =>
    cases transfer
    refine (repeats_unlessGated (here _) sight ?_).bind fun _ _ sight => Repeats.pure sight none
    exact (repeats_copyPath descends (here _) straight (here _) sight).bind fun _ _ sight =>
      Repeats.report sight _
  | template t =>
    cases transfer
    refine (repeats_unlessGated (here _) sight ?_).bind fun _ _ sight => Repeats.pure sight none
    refine (repeats_readText descends (here _) sight).bind fun _ _ sight => ?_
    refine (Repeats.render sight renderer _ context).bind fun _ _ sight => ?_
    refine (Repeats.report sight _).bind fun _ _ sight => ?_
    exact repeats_writeText straight (here _) sight _
  | expand tag => cases transfer
  | bind name value => cases transfer

end Run

end Scaffold
