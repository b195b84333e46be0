import Scaffold.Proofs.Run.Exec
import Scaffold.Run.Apply

/-!
# Runs side by side

`Relates R m m'` says that `m` and `m'` give the same result on worlds that are related by `R`, and
leave worlds that are related. A relation is `Blind` when it has the disks equal and is kept by whatever
both sides do alike, and by notes of either side. `Relates.bind` and `Relates.of_note` carry the proofs:
the first puts computations in sequence, the second drops a note that only one side makes.

Applying a step looks at nothing but the disk (`relates_apply`), whatever it copies or renders: it keeps
every blind relation. Two worlds are `Alike` when they differ in their logs at most, which is such a
relation, and computations that keep it `Agree`.
-/

namespace Scaffold

/-- The two worlds differ in their logs at most. -/
structure World.Alike (w w' : World) : Prop where
  disk : w.disk = w'.disk
  reports : w.reports = w'.reports
  renderings : w.renderings = w'.renderings

theorem World.Alike.refl (w : World) : w.Alike w := ⟨rfl, rfl, rfl⟩

/-- Related worlds have the same disk. The relation is kept by what both sides do alike, and it does not
see the logs. -/
structure World.Blind (R : World → World → Prop) : Prop where
  disk {w w' : World} : R w w' → w.disk = w'.disk
  setDisk {w w' : World} (d : Disk) : R w w' → R { w with disk := d } { w' with disk := d }
  report {w w' : World} (r : Report) :
    R w w' → R { w with reports := w.reports ++ [r] } { w' with reports := w'.reports ++ [r] }
  render {w w' : World} (made : String × Context) :
    R w w' → R { w with renderings := w.renderings ++ [made] }
      { w' with renderings := w'.renderings ++ [made] }
  notes {w w' : World} (ns ns' : List Note) :
    R w w' → R { w with notes := ns } { w' with notes := ns' }

theorem World.blind_alike : World.Blind World.Alike where
  disk alike := alike.disk
  setDisk _ alike := ⟨rfl, alike.reports, alike.renderings⟩
  report r alike := ⟨alike.disk, congrArg (· ++ [r]) alike.reports, alike.renderings⟩
  render made alike := ⟨alike.disk, alike.reports, congrArg (· ++ [made]) alike.renderings⟩
  notes _ _ alike := ⟨alike.disk, alike.reports, alike.renderings⟩

namespace Run

/-- From the two worlds, the two computations give the same result and leave worlds that are related. -/
def RelatesAt {α : Type} (R : World → World → Prop) (m m' : Run α) (w w' : World) : Prop :=
  (exec m w).1 = (exec m' w').1 ∧ R (exec m w).2 (exec m' w').2

/-- They do so from all related worlds. -/
def Relates {α : Type} (R : World → World → Prop) (m m' : Run α) : Prop :=
  ∀ w w' : World, R w w' → RelatesAt R m m' w w'

/-- The two computations give the same result and leave worlds that are alike. -/
abbrev Agree {α : Type} (m m' : Run α) : Prop := Relates World.Alike m m'

variable {α β : Type} {R : World → World → Prop}

/-! ## Sequences and single operations -/

theorem Relates.pure (a : α) : Relates R (pure a) (pure a) := fun _ _ related => ⟨rfl, related⟩

theorem Relates.throw (e : Failure) : Relates R (throw e : Run α) (throw e) :=
  fun _ _ related => ⟨rfl, related⟩

/-- Computations in sequence, from two worlds. -/
theorem RelatesAt.bind {m m' : Run α} {f f' : α → Run β} {w w' : World}
    (first : RelatesAt R m m' w w')
    (next : ∀ {a v v'}, exec m w = (.ok a, v) → R v v' → RelatesAt R (f a) (f' a) v v') :
    RelatesAt R (m >>= f) (m' >>= f') w w' := by
  obtain ⟨result, related⟩ := first
  unfold RelatesAt
  rcases ran : exec m w with ⟨e | a, v⟩
  · rcases ran' : exec m' w' with ⟨e' | a', v'⟩
    · rw [ran, ran'] at result related
      cases result
      rw [exec_bind_of_error ran, exec_bind_of_error ran']
      exact ⟨rfl, related⟩
    · rw [ran, ran'] at result
      cases result
  · rcases ran' : exec m' w' with ⟨e' | a', v'⟩
    · rw [ran, ran'] at result
      cases result
    · rw [ran, ran'] at result related
      cases result
      rw [exec_bind_of_ok ran, exec_bind_of_ok ran']
      exact next ran related

/-- What is known of the first result can be used behind it. -/
theorem Relates.bind_of {m m' : Run α} {f f' : α → Run β} {P : α → Prop} (first : Relates R m m')
    (gives : ∀ {w a w'}, exec m w = (.ok a, w') → P a)
    (next : ∀ a, P a → Relates R (f a) (f' a)) : Relates R (m >>= f) (m' >>= f') :=
  fun w w' related => (first w w' related).bind fun ran related =>
    next _ (gives ran) _ _ related

theorem Relates.bind {m m' : Run α} {f f' : α → Run β} (first : Relates R m m')
    (next : ∀ a, Relates R (f a) (f' a)) : Relates R (m >>= f) (m' >>= f') :=
  Relates.bind_of (P := fun _ => True) first (fun _ => trivial) fun a _ => next a

theorem Relates.forM {xs : List α} {f : α → Run PUnit} (each : ∀ a ∈ xs, Relates R (f a) (f a)) :
    Relates R (xs.forM f) (xs.forM f) := by
  induction xs with
  | nil => exact Relates.pure _
  | cons a rest ih =>
    exact Relates.bind (each a List.mem_cons_self) fun _ =>
      ih fun b member => each b (List.mem_cons_of_mem a member)

theorem Relates.ofExcept (r : Except Failure α) : Relates R (ofExcept r) (ofExcept r) := by
  intro w w' related
  rw [RelatesAt, exec_ofExcept, exec_ofExcept]
  exact ⟨rfl, related⟩

section Blind

variable (blind : World.Blind R)

include blind

/-- What one side notes before it goes on does not matter. -/
theorem Relates.of_note {m m' : Run α} (n : Note) (rest : Relates R m m') :
    Relates R (note n >>= fun _ => m) m' := by
  intro w w' related
  rw [RelatesAt, exec_bind_of_ok (exec_note w n)]
  exact rest _ w' (blind.notes _ w'.notes related)

/-- What the two sides note need not be the same. -/
theorem Relates.note (n n' : Note) : Relates R (note n) (note n') :=
  fun _ _ related => ⟨rfl, blind.notes _ _ related⟩

theorem Relates.report (r : Report) : Relates R (report r) (report r) :=
  fun _ _ related => ⟨rfl, blind.report r related⟩

theorem Relates.disk : Relates R disk disk :=
  fun _ _ related => ⟨congrArg Except.ok (blind.disk related), related⟩

theorem Relates.setDisk (d : Disk) :
    Relates R (modify fun w => { w with disk := d }) (modify fun w => { w with disk := d }) :=
  fun _ _ related => ⟨rfl, blind.setDisk d related⟩

theorem Relates.reading (op : Disk → Except DiskError α) : Relates R (reading op) (reading op) :=
  Relates.bind (Relates.disk blind) fun _ => Relates.ofExcept _

theorem Relates.change (op : Disk → Except DiskError Disk) : Relates R (change op) (change op) :=
  Relates.bind (Relates.reading blind op) (Relates.setDisk blind)

theorem Relates.render (renderer : Renderer) (template : String) (context : Context) :
    Relates R (render renderer template context) (render renderer template context) := by
  intro w w' related
  rw [RelatesAt, exec_render, exec_render]
  exact ⟨rfl, blind.render (template, context) related⟩

/-! ## Transfers and steps -/

theorem relates_makeDirectories (levels : Nat) (p : Path) :
    Relates R (makeDirectories levels p) (makeDirectories levels p) := by
  induction levels generalizing p with
  | zero => exact Relates.pure _
  | succ levels ih =>
    -- a directory in the way is found by one more look at the disk
    have inTheWay (e : DiskError) :
        Relates R (do if !(← Run.disk).isDirectory p then throw (Failure.disk e))
          (do if !(← Run.disk).isDirectory p then throw (Failure.disk e)) := by
      refine Relates.bind (Relates.disk blind) fun d => ?_
      split
      · exact Relates.throw _
      · exact Relates.pure _
    rw [makeDirectories]
    split
    · exact Relates.pure _
    · refine Relates.bind (Relates.disk blind) fun d => ?_
      split
      · exact Relates.setDisk blind _
      · split
        · exact Relates.throw _
        · refine Relates.bind (ih _) fun _ => Relates.bind (Relates.disk blind) fun d => ?_
          split
          · exact Relates.setDisk blind _
          · exact inTheWay _
      · exact inTheWay _

theorem relates_ensureDirectory (p : Path) : Relates R (ensureDirectory p) (ensureDirectory p) :=
  relates_makeDirectories blind _ p

theorem relates_ensureParent (p : Path) : Relates R (ensureParent p) (ensureParent p) := by
  unfold ensureParent
  split
  · exact Relates.pure _
  · exact relates_ensureDirectory blind _

theorem relates_writeText (p : Path) (text : String) :
    Relates R (writeText p text) (writeText p text) :=
  Relates.bind (relates_ensureParent blind p) fun _ => Relates.change blind _

theorem relates_copyFile (source dest : Path) :
    Relates R (copyFile source dest) (copyFile source dest) :=
  Relates.bind (relates_ensureParent blind dest) fun _ =>
    Relates.bind (Relates.reading blind _) fun _ => Relates.bind (Relates.change blind _) fun _ =>
      Relates.bind (Relates.reading blind _) fun _ => Relates.change blind _

theorem relates_copyTree (levels : Nat) (source dest : Path) (isDirectory : Bool) :
    Relates R (copyTree levels source dest isDirectory) (copyTree levels source dest isDirectory) := by
  induction levels generalizing source dest isDirectory with
  | zero =>
    rw [copyTree]
    split
    · exact Relates.pure _
    · exact Relates.bind (Relates.note blind _ _) fun _ => relates_copyFile blind source dest
  | succ levels ih =>
    rw [copyTree]
    split
    · refine Relates.bind (Relates.disk blind) fun before =>
        Relates.bind (relates_ensureDirectory blind dest) fun _ => ?_
      split
      · exact Relates.throw _
      · exact Relates.bind (Relates.disk blind) fun _ => Relates.forM fun _ _ => ih _ _ _
    · exact Relates.bind (Relates.note blind _ _) fun _ => relates_copyFile blind source dest

theorem relates_copyPath (source dest : Path) :
    Relates R (copyPath source dest) (copyPath source dest) := by
  unfold copyPath
  split
  · exact Relates.note blind _ _
  · refine Relates.bind (Relates.disk blind) fun d => ?_
    split
    · exact relates_copyFile blind source dest
    · split
      · exact Relates.throw _
      · exact relates_copyTree blind _ _ _ _

theorem relates_unlessGated (destRoot : Path) (t : Transfer) {body : Run Unit}
    (related : Relates R body body) :
    Relates R (unlessGated destRoot t body) (unlessGated destRoot t body) := by
  refine Relates.bind (Relates.bind (Relates.disk blind) fun _ => Relates.pure _) fun gated => ?_
  split
  · exact Relates.report blind _
  · exact related

/-- Applying a step looks at nothing but the disk. -/
theorem relates_apply (renderer : Renderer) (srcRoot destRoot : Path) (step : Step)
    (context : Context) :
    Relates R (apply renderer srcRoot destRoot step context)
      (apply renderer srcRoot destRoot step context) := by
  cases step with
  | copy t =>
    have copied : Relates R (copy srcRoot destRoot t) (copy srcRoot destRoot t) :=
      Relates.bind (relates_copyPath blind _ _) fun _ => Relates.report blind _
    exact Relates.bind (relates_unlessGated blind destRoot t copied) fun _ => Relates.pure _
  | template t =>
    have rendered : Relates R (template renderer srcRoot destRoot t context)
        (template renderer srcRoot destRoot t context) :=
      Relates.bind (Relates.reading blind _) fun _ => Relates.bind (Relates.render blind _ _ _) fun _ =>
        Relates.bind (Relates.report blind _) fun _ => relates_writeText blind _ _
    exact Relates.bind (relates_unlessGated blind destRoot t rendered) fun _ => Relates.pure _
  | expand tag => exact Relates.bind (Relates.report blind _) fun _ => Relates.pure _
  | bind name value => exact Relates.bind (Relates.note blind _ _) fun _ => Relates.pure _

end Blind

end Run

end Scaffold
