import Scaffold.Proofs.Disk.Follow
import Scaffold.Proofs.Run.Exec
import Scaffold.Run.Transfer

/-!
# How directories are made

Making a directory together with those above it tries the directory first, goes up if that is of no
use, and tries again. `Tries` says what a single attempt can do and `Makes` what all of them can; the
levels that bound the way up are enough for every path (`makes_makeDirectories`). What is said of making
directories is said by these two, without a look at the computation.

Where it succeeds, the path names a directory (`Makes.isDirectory`). It fails for the disk only
(`Makes.error_disk`), and what it changes is a directory then (`Makes.directory_of_changed`).
-/

namespace Scaffold.Run

/-- One attempt to make a directory. -/
inductive Tries (p : Path) (w : World) : Except Failure Unit × World → Prop
  | made {d : Disk} : w.disk.makeDirectory p = .ok d → Tries p w (.ok (), { w with disk := d })
  | there : w.disk.isDirectory p = true → Tries p w (.ok (), w)
  | blocked (e : DiskError) : Tries p w (.error (.disk e), w)

/-- Making a directory and all directories above it. The empty path stands for no directory. -/
inductive Makes : Path → World → Except Failure Unit × World → Prop
  | nothing {p : Path} {w : World} : p.text = "" → Makes p w (.ok (), w)
  | tries {p : Path} {w : World} {out : Except Failure Unit × World} : Tries p w out → Makes p w out
  | failed {p outer : Path} {w v : World} {e : Failure} :
    p.parent? = some outer → Makes outer w (.error e, v) → Makes p w (.error e, v)
  | above {p outer : Path} {w v : World} {out : Except Failure Unit × World} :
    p.parent? = some outer → Makes outer w (.ok (), v) → Tries p v out → Makes p w out

theorem length_parts_of_parent? {p outer : Path} (above : p.parent? = some outer) :
    outer.parts.length < p.parts.length := by
  rw [Path.parts_of_parent? above, List.length_dropLast]
  have filled : p.parts ≠ [] := by
    intro none
    rw [Path.parent?, none] at above
    cases above
  have := List.length_pos_iff.2 filled
  omega

theorem makes_makeDirectories (levels : Nat) (p : Path) (w : World) (enough : p.parts.length < levels) :
    Makes p w (exec (makeDirectories levels p) w) := by
  induction levels generalizing p w with
  | zero => exact absurd enough (Nat.not_lt_zero _)
  | succ levels ih =>
    -- an entry in the way is an error unless it is a directory
    have inTheWay (e : DiskError) (v : World) :
        Tries p v (exec (do if !(← Run.disk).isDirectory p then throw (Failure.disk e)) v) := by
      rw [exec_bind_of_ok (exec_disk v)]
      cases there : v.disk.isDirectory p with
      | true => exact .there there
      | false => exact .blocked e
    rw [makeDirectories]
    split
    · next empty => exact .nothing empty
    · rw [exec_bind_of_ok (exec_disk w)]
      split
      · next d made => exact .tries (.made made)
      · split
        · exact .tries (.blocked .notFound)
        · next outer above =>
          have first := ih outer w (Nat.lt_of_lt_of_le (length_parts_of_parent? above)
            (Nat.le_of_lt_succ enough))
          rcases ran : exec (makeDirectories levels outer) w with ⟨e | ⟨⟨⟩⟩, v⟩
          · rw [ran] at first
            rw [exec_bind_of_error ran]
            exact .failed above first
          · rw [ran] at first
            rw [exec_bind_of_ok ran, exec_bind_of_ok (exec_disk v)]
            refine .above above first ?_
            split
            · next d made => exact .made made
            · next e _ => exact inTheWay e v
      · next e _ _ => exact .tries (inTheWay e w)

theorem makes_ensureDirectory (p : Path) (w : World) : Makes p w (exec (ensureDirectory p) w) :=
  makes_makeDirectories _ p w (Nat.lt_succ_self _)

variable {p : Path} {w v : World}

theorem makes_of_exec {out : Except Failure Unit × World} (ran : exec (ensureDirectory p) w = out) :
    Makes p w out := ran ▸ makes_ensureDirectory p w

theorem Tries.isDirectory (tries : Tries p w (.ok (), v)) : v.disk.isDirectory p = true := by
  cases tries with
  | made made =>
    obtain ⟨place, leads, -⟩ := Disk.exists_leadsTo_of_makeDirectory made
    exact leads.isDirectory (Disk.checkText_of_makeDirectory made)
  | there there => exact there

/-- The path names a directory then. -/
theorem Makes.isDirectory (makes : Makes p w (.ok (), v)) (filled : p.text ≠ "") :
    v.disk.isDirectory p = true := by
  cases makes with
  | nothing empty => exact absurd empty filled
  | tries tries => exact tries.isDirectory
  | above _ _ tries => exact tries.isDirectory

theorem Tries.error_disk {e : Failure} (tries : Tries p w (.error e, v)) :
    ∃ reason, e = .disk reason := by
  cases tries with
  | blocked reason => exact ⟨reason, rfl⟩

/-- Making directories fails for the disk. -/
theorem Makes.error_disk {e : Failure} (makes : Makes p w (.error e, v)) :
    ∃ reason, e = .disk reason := by
  generalize result : (Except.error e, v) = out at makes
  induction makes with
  | nothing => cases result
  | tries tries =>
    subst result
    exact tries.error_disk
  | failed _ _ ih =>
    cases result
    exact ih rfl
  | above _ _ tries =>
    subst result
    exact tries.error_disk

theorem Tries.directory_of_changed {out : Except Failure Unit × World} (tries : Tries p w out)
    {x : Place} (changed : out.2.disk.get? x ≠ w.disk.get? x) :
    out.2.disk.get? x = some .directory := by
  cases tries with
  | made made =>
    obtain ⟨n, outer, -, -, -, -, rfl⟩ := Disk.exists_of_makeDirectory made
    rw [Disk.get?_set (List.cons_ne_nil n outer)] at changed ⊢
    split at changed
    · next same => exact if_pos same
    · exact absurd rfl changed
  | there => exact absurd rfl changed
  | blocked => exact absurd rfl changed

/-- What changes while directories are made is a directory then. -/
theorem Makes.directory_of_changed {out : Except Failure Unit × World} (makes : Makes p w out)
    {x : Place} (changed : out.2.disk.get? x ≠ w.disk.get? x) :
    out.2.disk.get? x = some .directory := by
  induction makes with
  | nothing => exact absurd rfl changed
  | tries tries => exact tries.directory_of_changed changed
  | failed _ _ ih => exact ih changed
  | @above p outer w v out _ _ tries ih =>
    by_cases later : out.2.disk.get? x = v.disk.get? x
    · rw [later] at changed ⊢
      exact ih changed
    · exact tries.directory_of_changed later

end Scaffold.Run
