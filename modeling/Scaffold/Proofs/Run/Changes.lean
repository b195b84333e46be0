import Mathlib.Logic.Relation
import Scaffold.Proofs.Run.Exec
import Scaffold.Run.Apply

/-!
# What transfers do to a world

Copying and writing are rows of single changes: a note, a directory that is made, a file that is
written. `Change` lists the three, and `Changes` is its reflexive-transitive closure. `Transfers m`
says that `m` only makes such changes, also when it fails, and that it fails only for the disk; every
operation of `Scaffold.Run.Transfer` below `copyPath` does (`transfers_copyFile`,
`transfers_copyTree`, `transfers_writeText`). What a single change keeps, a transfer keeps: the
console and the renderings are the first instance (`Changes.frame`).
-/

namespace Scaffold

/-- The failure comes from the disk. -/
def Failure.FromDisk : Failure → Prop
  | .disk _ | .listing _ _ => True
  | _ => False

namespace Run

/-- The error of the disk that a result is. -/
def diskError? {α : Type} : Except Failure α → Option DiskError
  | .error (.disk e) => some e
  | _ => none

theorem eq_error_of_diskError? {α : Type} {result : Except Failure α} {e : DiskError}
    (found : diskError? result = some e) : result = .error (.disk e) := by
  rcases result with ⟨e'⟩ | a
  · cases e' with
    | disk e' =>
      cases found
      rfl
    | _ => cases found
  · cases found

/-- A single change to a world. -/
inductive Change : World → World → Prop
  | note (w : World) (n : Note) : Change w { w with notes := w.notes ++ [n] }
  | directory {w : World} {p : Path} {d : Disk} :
    w.disk.makeDirectory p = .ok d → Change w { w with disk := d }
  | file {w : World} {p : Path} {content : ByteArray} {mark : Option Bool → Bool} {d : Disk} :
    w.disk.write p content mark = .ok d → Change w { w with disk := d }

/-- Any number of changes. -/
abbrev Changes : World → World → Prop := Relation.ReflTransGen Change

/-- Neither console nor renderings change. -/
theorem Changes.frame {w w' : World} (changes : Changes w w') :
    w'.reports = w.reports ∧ w'.renderings = w.renderings := by
  induction changes with
  | refl => exact ⟨rfl, rfl⟩
  | tail _ change ih =>
    cases change with
    | note n => exact ih
    | directory made => exact ih
    | file wrote => exact ih

/-- The computation makes single changes only, and fails only for the disk. -/
def Transfers {α : Type} (m : Run α) : Prop :=
  ∀ w, Changes w (exec m w).2 ∧ ∀ e, (exec m w).1 = .error e → e.FromDisk

variable {α β : Type}

/-! ## Sequences and single operations -/

theorem Transfers.pure (a : α) : Transfers (pure a) := fun _ => ⟨.refl, fun _ failed => by cases failed⟩

theorem Transfers.throw {e : Failure} (fromDisk : e.FromDisk) : Transfers (throw e : Run α) :=
  fun _ => ⟨.refl, fun _ failed => by cases failed; exact fromDisk⟩

theorem Transfers.bind {m : Run α} {f : α → Run β} (first : Transfers m)
    (next : ∀ a, Transfers (f a)) : Transfers (m >>= f) := by
  intro w
  obtain ⟨changes, failure⟩ := first w
  rcases ran : exec m w with ⟨e | a, w'⟩
  · rw [exec_bind_of_error ran]
    rw [ran] at changes failure
    exact ⟨changes, fun e' failed => by cases failed; exact failure e rfl⟩
  · rw [exec_bind_of_ok ran]
    rw [ran] at changes
    exact ⟨changes.trans (next a w').1, (next a w').2⟩

theorem Transfers.note (n : Note) : Transfers (note n) :=
  fun w => ⟨.single (.note w n), fun _ failed => by cases failed⟩

theorem Transfers.disk : Transfers disk := fun _ => ⟨.refl, fun _ failed => by cases failed⟩

theorem Transfers.reading (op : Disk → Except DiskError α) : Transfers (reading op) := by
  intro w
  rw [exec_reading]
  refine ⟨.refl, fun e failed => ?_⟩
  cases read : op w.disk with
  | ok a =>
    rw [read] at failed
    cases failed
  | error e' =>
    rw [read] at failed
    cases failed
    trivial

theorem Transfers.write (p : Path) (content : ByteArray) (mark : Option Bool → Bool) :
    Transfers (change fun d => d.write p content mark) := by
  intro w
  rw [exec_change]
  cases wrote : w.disk.write p content mark with
  | ok d => exact ⟨.single (.file wrote), fun _ failed => by cases failed⟩
  | error e => exact ⟨.refl, fun _ failed => by cases failed; trivial⟩

theorem Transfers.forM {xs : List α} {f : α → Run PUnit} (each : ∀ a ∈ xs, Transfers (f a)) :
    Transfers (xs.forM f) := by
  induction xs with
  | nil => exact Transfers.pure _
  | cons a rest ih =>
    exact Transfers.bind (each a List.mem_cons_self) fun _ =>
      ih fun b member => each b (List.mem_cons_of_mem a member)

/-- Looking at the disk first: what follows sees the disk as it is. -/
theorem Transfers.bind_disk {f : Disk → Run α}
    (next : ∀ w, Changes w (exec (f w.disk) w).2 ∧
      ∀ e, (exec (f w.disk) w).1 = .error e → e.FromDisk) :
    Transfers (Run.disk >>= f) := by
  intro w
  rw [exec_bind_of_ok (exec_disk w)]
  exact next w

/-! ## Transfers -/

theorem transfers_makeDirectories (levels : Nat) (p : Path) :
    Transfers (makeDirectories levels p) := by
  induction levels generalizing p with
  | zero => exact Transfers.pure _
  | succ levels ih =>
    have inTheWay (e : DiskError) :
        Transfers (do if !(← Run.disk).isDirectory p then throw (Failure.disk e)) := by
      refine Transfers.bind Transfers.disk fun d => ?_
      split
      · exact Transfers.throw trivial
      · exact Transfers.pure _
    have made {w : World} {d : Disk} (made : w.disk.makeDirectory p = .ok d) :
        Changes w (exec (modify fun w => { w with disk := d } : Run PUnit) w).2 ∧
          ∀ e, (exec (modify fun w => { w with disk := d } : Run PUnit) w).1 = .error e → e.FromDisk :=
      ⟨.single (.directory made), fun _ failed => by cases failed⟩
    rw [makeDirectories]
    split
    · exact Transfers.pure _
    · refine Transfers.bind_disk fun w => ?_
      split
      · next success => exact made success
      · split
        · exact Transfers.throw (e := .disk .notFound) trivial w
        · refine Transfers.bind (ih _) (fun _ => Transfers.bind_disk fun w => ?_) w
          split
          · next success => exact made success
          · exact inTheWay _ w
      · exact inTheWay _ w

theorem transfers_ensureDirectory (p : Path) : Transfers (ensureDirectory p) :=
  transfers_makeDirectories _ p

theorem transfers_ensureParent (p : Path) : Transfers (ensureParent p) := by
  unfold ensureParent
  split
  · exact Transfers.pure _
  · exact transfers_ensureDirectory _

theorem transfers_writeText (p : Path) (text : String) : Transfers (writeText p text) :=
  Transfers.bind (transfers_ensureParent p) fun _ => Transfers.write _ _ _

theorem transfers_copyFile (source dest : Path) : Transfers (copyFile source dest) :=
  Transfers.bind (transfers_ensureParent dest) fun _ => Transfers.bind (Transfers.reading _) fun _ =>
    Transfers.bind (Transfers.write _ _ _) fun _ => Transfers.bind (Transfers.reading _) fun _ =>
      Transfers.write _ _ _

theorem transfers_copyTree (levels : Nat) (source dest : Path) (isDirectory : Bool) :
    Transfers (copyTree levels source dest isDirectory) := by
  induction levels generalizing source dest isDirectory with
  | zero =>
    rw [copyTree]
    split
    · exact Transfers.pure _
    · exact Transfers.bind (Transfers.note _) fun _ => transfers_copyFile _ _
  | succ levels ih =>
    rw [copyTree]
    split
    · refine Transfers.bind Transfers.disk fun before =>
        Transfers.bind (transfers_ensureDirectory dest) fun _ => ?_
      split
      · exact Transfers.throw trivial
      · exact Transfers.bind Transfers.disk fun _ => Transfers.forM fun _ _ => ih _ _ _
    · exact Transfers.bind (Transfers.note _) fun _ => transfers_copyFile _ _

theorem copyTree_leaf (levels : Nat) (source dest : Path) :
    copyTree levels source dest false =
      (note (.copying source dest) >>= fun _ => copyFile source dest) := by
  cases levels with
  | zero => rfl
  | succ levels => rfl

/-- The copy of a directory that succeeds finds the source, makes the directory, and copies what it then
finds in the source. -/
theorem exists_of_copyTree_directory {levels : Nat} {source dest : Path} {w v : World}
    (ran : exec (copyTree (levels + 1) source dest true) w = (.ok (), v)) :
    ∃ place u, w.disk.find source = .ok place ∧ exec (ensureDirectory dest) w = (.ok (), u) ∧
      exec ((u.disk.names place).forM fun name => copyTree levels (source.join ⟨name⟩)
        (dest.join ⟨name⟩) (u.disk.get? (name :: place) = some .directory)) u = (.ok (), v) := by
  rw [copyTree, if_pos rfl, exec_bind_of_ok (exec_disk w)] at ran
  obtain ⟨⟨⟩, u, ensured, ran⟩ := exists_of_exec_bind ran
  split at ran
  · cases ran
  · next place found =>
    rw [exec_bind_of_ok (exec_disk u)] at ran
    exact ⟨place, u, found, ensured, ran⟩

/-! ## Copying a path -/

/-- A copy is refused: the source is a directory, and its parts begin those of another path. -/
def refuses (d : Disk) (source dest : Path) : Bool :=
  !source.sameParts dest && d.isDirectory source && dest.startsWith source

variable {source dest : Path} {w : World}

/-- A copy that is refused leaves the world alone. -/
theorem exec_copyPath_of_refused (refused : refuses w.disk source dest = true) :
    exec (copyPath source dest) w = (.error (.intoItself source dest), w) := by
  simp only [refuses, Bool.and_eq_true, Bool.not_eq_true'] at refused
  obtain ⟨⟨other, directory⟩, begins⟩ := refused
  simp only [copyPath, other, Bool.false_eq_true, if_false]
  rw [exec_bind_of_ok (exec_disk w)]
  simp only [directory, begins, Bool.not_true, Bool.false_eq_true, if_false, if_true]
  exact exec_throw w _

/-- Any other copy makes single changes, and fails only for the disk. -/
theorem changes_copyPath (accepted : refuses w.disk source dest = false) :
    Changes w (exec (copyPath source dest) w).2 ∧
      ∀ e, (exec (copyPath source dest) w).1 = .error e → e.FromDisk := by
  unfold copyPath
  split
  · exact Transfers.note _ w
  · next other =>
    rw [exec_bind_of_ok (exec_disk w)]
    split
    · exact transfers_copyFile source dest w
    · next directory =>
      split
      · next begins =>
        simp only [refuses, other, begins, Bool.not_false, Bool.true_and, Bool.and_true] at accepted
        simp only [accepted, Bool.not_false, not_true_eq_false] at directory
      · exact transfers_copyTree _ _ _ _ w

/-- A copy below the roots ends as the copy of the path does, and reports itself beside it. -/
theorem copy_beside_report (srcRoot destRoot : Path) (t : Transfer) (w : World) :
    let copied := exec (copy srcRoot destRoot t) w
    let moved := exec (copyPath (srcRoot.absolutize t.src) (destRoot.absolutize t.dest)) w
    copied.1 = moved.1 ∧ copied.2.disk = moved.2.disk ∧
      copied.2.renderings = moved.2.renderings := by
  rw [copy, exec_bind]
  rcases exec (copyPath (srcRoot.absolutize t.src) (destRoot.absolutize t.dest)) w with ⟨e | a, v⟩
  · exact ⟨rfl, rfl, rfl⟩
  · exact ⟨rfl, rfl, rfl⟩

end Run

end Scaffold
