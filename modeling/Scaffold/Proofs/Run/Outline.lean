import Scaffold.Proofs.Disk.Outline
import Scaffold.Proofs.Run.Footprint

/-!
# Running on outlines

`Outlines m m'` says that on the outline of a world `m'` does what `m` does on the world: it gives the same
result, and leaves the outline of what `m` leaves. A copy outlines itself (`outlines_copyPath`), since it
asks for kinds and names, and hands on bytes without looking at them. The writing of a text is outlined
by the writing of the empty text, whatever the text is (`outlines_writeText`).

So the outline that a successful step leaves can be told from the outline before it, whatever the
renderer and the context are: it is the one that `sketch` makes (`exec_sketch_of_apply`).
-/

namespace Scaffold

/-- The world with all its files emptied, and its renderings forgotten. -/
def World.outline (w : World) : World := { w with disk := w.disk.outline, renderings := [] }

@[simp] theorem World.disk_outline (w : World) : w.outline.disk = w.disk.outline := rfl

@[simp] theorem World.reports_outline (w : World) : w.outline.reports = w.reports := rfl

namespace Run

/-- On outlines the second computation does what the first one does. -/
def Outlines {α : Type} (m m' : Run α) : Prop :=
  ∀ w, exec m' w.outline = ((exec m w).1, (exec m w).2.outline)

variable {α β : Type}

theorem Outlines.exec_eq {m m' : Run α} {result : Except Failure α} {w v : World}
    (outlines : Outlines m m') (ran : exec m w = (result, v)) :
    exec m' w.outline = (result, v.outline) := by
  rw [outlines w, ran]

/-! ## Sequences and single operations -/

theorem Outlines.pure (a : α) : Outlines (pure a) (pure a) := fun _ => rfl

theorem Outlines.throw (e : Failure) : Outlines (throw e : Run α) (throw e) := fun _ => rfl

theorem Outlines.note (n : Note) : Outlines (note n) (note n) := fun _ => rfl

theorem Outlines.report (r : Report) : Outlines (report r) (report r) := fun _ => rfl

theorem Outlines.setDisk (d : Disk) :
    Outlines (modify fun w => { w with disk := d }) (modify fun w => { w with disk := d.outline }) :=
  fun _ => rfl

theorem Outlines.bind {m m' : Run α} {f f' : α → Run β} (first : Outlines m m')
    (next : ∀ a, Outlines (f a) (f' a)) : Outlines (m >>= f) (m' >>= f') := by
  intro w
  rcases ran : exec m w with ⟨e | a, v⟩
  · rw [exec_bind_of_error ran, exec_bind_of_error (first.exec_eq ran)]
  · rw [exec_bind_of_ok ran, exec_bind_of_ok (first.exec_eq ran)]
    exact next a v

theorem Outlines.bind_disk {f : Disk → Run α} (next : ∀ d, Outlines (f d) (f d.outline)) :
    Outlines (Run.disk >>= f) (Run.disk >>= f) :=
  fun w => next w.disk w

theorem Outlines.forM {xs : List α} {f f' : α → Run PUnit} (each : ∀ a, Outlines (f a) (f' a)) :
    Outlines (xs.forM f) (xs.forM f') := by
  induction xs with
  | nil => exact Outlines.pure _
  | cons a rest ih => exact Outlines.bind (each a) fun _ => ih

theorem Outlines.write (p : Path) (content : ByteArray) (mark : Option Bool → Bool) :
    Outlines (change fun d => d.write p content mark)
      (change fun d => d.write p ByteArray.empty mark) := by
  intro w
  rw [exec_change, exec_change, World.disk_outline, Disk.write_outline]
  cases w.disk.write p content mark with
  | ok d => rfl
  | error e => rfl

theorem copyable_outline (d : Disk) (source : Path) :
    copyable d.outline source =
      (copyable d source).map fun (_, executable) => (ByteArray.empty, executable) := by
  rw [copyable, copyable, Disk.read_outline]
  cases d.read source with
  | error e => rfl
  | ok node =>
    cases node with
    | directory | file _ _ | link _ => rfl

/-- A file that is read to be copied has the same mark on the outline, and no bytes. -/
theorem Outlines.bind_copyable {source : Path} {f f' : ByteArray × Bool → Run β}
    (next : ∀ content executable,
      Outlines (f (content, executable)) (f' (ByteArray.empty, executable))) :
    Outlines (reading (copyable · source) >>= f) (reading (copyable · source) >>= f') := by
  intro w
  rw [exec_bind, exec_bind, exec_reading, exec_reading, World.disk_outline, copyable_outline]
  cases copyable w.disk source with
  | error e => rfl
  | ok file => exact next file.1 file.2 w

/-! ## Transfers -/

theorem outlines_makeDirectories (levels : Nat) (p : Path) :
    Outlines (makeDirectories levels p) (makeDirectories levels p) := by
  induction levels generalizing p with
  | zero => exact Outlines.pure _
  | succ levels ih =>
    have inTheWay (e : DiskError) :
        Outlines (do if !(← Run.disk).isDirectory p then throw (Failure.disk e))
          (do if !(← Run.disk).isDirectory p then throw (Failure.disk e)) := by
      refine Outlines.bind_disk fun d => ?_
      rw [Disk.isDirectory_outline]
      split
      · exact Outlines.throw _
      · exact Outlines.pure _
    rw [makeDirectories]
    split
    · exact Outlines.pure _
    · refine Outlines.bind_disk fun d => ?_
      rw [Disk.makeDirectory_outline]
      cases d.makeDirectory p with
      | ok made => exact Outlines.setDisk made
      | error e =>
        cases e with
        | notFound =>
          dsimp only [Except.map]
          split
          · exact Outlines.throw _
          · refine Outlines.bind (ih _) fun _ => Outlines.bind_disk fun d => ?_
            rw [Disk.makeDirectory_outline]
            cases d.makeDirectory p with
            | ok made => exact Outlines.setDisk made
            | error e => exact inTheWay e
        | _ => exact inTheWay _

theorem outlines_ensureDirectory (p : Path) : Outlines (ensureDirectory p) (ensureDirectory p) :=
  outlines_makeDirectories _ p

theorem outlines_ensureParent (p : Path) : Outlines (ensureParent p) (ensureParent p) := by
  unfold ensureParent
  split
  · exact Outlines.pure _
  · exact outlines_ensureDirectory _

/-- The text does not show in the outline. -/
theorem outlines_writeText (p : Path) (text : String) : Outlines (writeText p text) (writeText p "") :=
  Outlines.bind (outlines_ensureParent p) fun _ => Outlines.write _ _ _

theorem outlines_copyFile (source dest : Path) :
    Outlines (copyFile source dest) (copyFile source dest) :=
  Outlines.bind (outlines_ensureParent dest) fun _ => Outlines.bind_copyable fun _ _ =>
    Outlines.bind (Outlines.write _ _ _) fun _ => Outlines.bind_copyable fun _ _ =>
      Outlines.write _ _ _

theorem outlines_copyTree (levels : Nat) (source dest : Path) (isDirectory : Bool) :
    Outlines (copyTree levels source dest isDirectory) (copyTree levels source dest isDirectory) := by
  induction levels generalizing source dest isDirectory with
  | zero =>
    rw [copyTree]
    split
    · exact Outlines.pure _
    · exact Outlines.bind (Outlines.note _) fun _ => outlines_copyFile source dest
  | succ levels ih =>
    rw [copyTree]
    split
    · refine Outlines.bind_disk fun before => ?_
      rw [Disk.find_outline]
      refine Outlines.bind (outlines_ensureDirectory dest) fun _ => ?_
      split
      · exact Outlines.throw _
      · refine Outlines.bind_disk fun d => ?_
        rw [Disk.names_outline]
        refine Outlines.forM fun name => ?_
        simp only [Disk.isDirectory_outline_iff]
        exact ih _ _ _
    · exact Outlines.bind (Outlines.note _) fun _ => outlines_copyFile source dest

theorem outlines_copyPath (source dest : Path) :
    Outlines (copyPath source dest) (copyPath source dest) := by
  unfold copyPath
  split
  · exact Outlines.note _
  · refine Outlines.bind_disk fun d => ?_
    rw [Disk.isDirectory_outline]
    split
    · exact outlines_copyFile source dest
    · split
      · exact Outlines.throw _
      · simp only [Disk.entryItself?_outline, Option.map_eq_some_iff, Node.outline_eq_directory_iff,
          exists_eq_right]
        exact outlines_copyTree _ _ _ _

theorem outlines_copy (srcRoot destRoot : Path) (t : Transfer) :
    Outlines (copy srcRoot destRoot t) (copy srcRoot destRoot t) :=
  Outlines.bind (outlines_copyPath _ _) fun _ => Outlines.report _

/-! ## Steps -/

/-- What a step does to outlines: a template writes the empty text, and nothing is rendered. -/
def sketch (srcRoot destRoot : Path) : Step → Run Unit
  | .copy t => unlessGated destRoot t (copy srcRoot destRoot t)
  | .template t =>
    unlessGated destRoot t do
      report (.rendered t.src t.dest)
      writeText (destRoot.absolutize t.dest) ""
  | .expand tag => report (.expanding tag)
  | .bind name value => note (.argument name value)

variable {renderer : Renderer} {srcRoot destRoot : Path} {t : Transfer} {context : Context}
  {given : Option Directive} {w v : World}

theorem exec_sketch_of_template (ran : exec (template renderer srcRoot destRoot t context) w = (.ok (), v)) :
    exec (do report (.rendered t.src t.dest); writeText (destRoot.absolutize t.dest) "") w.outline =
      (.ok (), v.outline) := by
  obtain ⟨source, u, read, ran⟩ := exists_of_exec_bind ran
  obtain ⟨text, x, rendered, ran⟩ := exists_of_exec_bind ran
  rw [exec_reading] at read
  obtain ⟨-, rfl⟩ := Prod.mk.inj read
  rw [exec_render] at rendered
  obtain ⟨-, rfl⟩ := Prod.mk.inj rendered
  have outlines : Outlines (do report (.rendered t.src t.dest); writeText (destRoot.absolutize t.dest) text)
      (do report (.rendered t.src t.dest); writeText (destRoot.absolutize t.dest) "") :=
    Outlines.bind (Outlines.report _) fun _ => outlines_writeText _ _
  -- the outline forgets the rendering
  have written := outlines.exec_eq ran
  exact written

/-- What is left out on a disk is left out on its outline. -/
theorem exec_unlessGated_outline {body body' : Run Unit}
    (bodies : exec body w = (.ok (), v) → exec body' w.outline = (.ok (), v.outline))
    (ran : exec (do unlessGated destRoot t body; return none) w = (.ok given, v)) :
    exec (unlessGated destRoot t body') w.outline = (.ok (), v.outline) := by
  obtain ⟨⟨⟩, _, ran, rest⟩ := exists_of_exec_bind ran
  cases rest
  rw [exec_unlessGated] at ran ⊢
  rw [World.disk_outline, Disk.holds_outline]
  split at ran
  · next gated =>
    rw [if_pos gated]
    cases ran
    rfl
  · next carried =>
    rw [if_neg carried]
    exact bodies ran

/-- A step that succeeds leaves the outline that its sketch makes of the outline before. -/
theorem exec_sketch_of_apply {step : Step}
    (ran : exec (apply renderer srcRoot destRoot step context) w = (.ok given, v)) :
    exec (sketch srcRoot destRoot step) w.outline = (.ok (), v.outline) := by
  cases step with
  | copy t => exact exec_unlessGated_outline (outlines_copy srcRoot destRoot t).exec_eq ran
  | template t => exact exec_unlessGated_outline exec_sketch_of_template ran
  | expand tag =>
    cases ran
    rfl
  | bind name value =>
    cases ran
    rfl

end Run

end Scaffold
