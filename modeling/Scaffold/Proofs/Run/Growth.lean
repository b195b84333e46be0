import Scaffold.Proofs.Disk.Growth
import Scaffold.Proofs.Run.Footprint
import Scaffold.Proofs.Run.Making

/-!
# Transfers to where nothing is

A transfer whose destination names nothing lets the disk grow, over links as well and whether it
succeeds or fails. That is more than the destination says: directories above it are made first, a dangling link at
its end is written through, and a tree has many files of which none is asked for. The directories
come first, and they are where the argument is: a directory on the way that is made is new, and so is what
the path goes on to name in it (`Makes.stays_or_leads`). So a path that missed the disk at the beginning
still misses it when the file is written (`misses_ensureParent`), and a tree lies in a directory that
the disk did not have (`exists_leadsTo_of_ensureDirectory`).

`Spares` carries this through a copy: what it does, it does at a path that misses the earlier disk.
`growsTo_apply` is the result for a step that is conditional.
-/

namespace Scaffold

namespace Run

open Disk (Edits Misses)

variable {p : Path} {w v : World}

/-! ## Directories on the way -/

theorem Tries.growsTo {out : Except Failure Unit × World} (tries : Tries p w out) :
    w.disk.GrowsTo out.2.disk := by
  cases tries with
  | made made => exact Disk.growsTo_of_makeDirectory made
  | there => exact .refl _
  | blocked => exact .refl _

/-- Making directories changes nothing that is there. -/
theorem Makes.growsTo {out : Except Failure Unit × World} (makes : Makes p w out) :
    w.disk.GrowsTo out.2.disk := by
  induction makes with
  | nothing => exact .refl _
  | tries tries => exact tries.growsTo
  | failed _ _ ih => exact ih
  | above _ _ tries ih => exact ih.trans tries.growsTo

/-- So does making those above a path. -/
theorem growsTo_ensureParent (p : Path) (w : World) :
    w.disk.GrowsTo (exec (ensureParent p) w).2.disk := by
  unfold ensureParent
  split
  · exact .refl _
  · exact (makes_ensureDirectory _ w).growsTo

/-- The path leads into a directory that the earlier disk does not have. -/
def LeadsAnew (earlier d : Disk) (p : Path) : Prop :=
  p.EndsInName ∧ ∃ place, d.LeadsTo p place ∧ earlier.get? place = none

/-- Making directories changes nothing at all, or the last of them is new. -/
theorem Makes.stays_or_leads {out : Except Failure Unit × World} (makes : Makes p w out)
    (success : out.1 = .ok ()) (straight : p.Straight) (sound : w.disk.Sound) :
    out.2.disk = w.disk ∨ LeadsAnew w.disk out.2.disk p := by
  induction makes with
  | nothing => exact .inl rfl
  | tries tries =>
    cases tries with
    | made made =>
      obtain ⟨n, outer, last, -⟩ := Disk.exists_of_makeDirectory made
      exact .inr ⟨Path.endsInName_of_writtenParts last, Disk.exists_leadsTo_of_makeDirectory made⟩
    | there => exact .inl rfl
    | blocked => cases success
  | failed => cases success
  | @above p outer w v out above makes tries ih =>
    have grown := makes.growsTo
    cases tries with
    | made made =>
      obtain ⟨n, _, last, -⟩ := Disk.exists_of_makeDirectory made
      obtain ⟨place, leads, free⟩ := Disk.exists_leadsTo_of_makeDirectory made
      exact .inr ⟨Path.endsInName_of_writtenParts last, place, leads, grown.edits.free free⟩
    | there there =>
      rcases ih rfl (straight.parent above) sound with same | ⟨named, place, leads, free⟩
      · exact .inl same
      · -- the directory above is new, so the one that the path names in it is
        obtain ⟨n, written⟩ := straight.exists_writtenParts_eq above named
        obtain ⟨inner, found, leadsIn⟩ := Disk.exists_leadsTo_of_isDirectory there
        refine .inr ⟨(straight.descends.place_parent above named []).1, inner, leadsIn, ?_⟩
        exact leads.misses_child sound grown.edits free written inner found
    | blocked => cases success

variable {earlier : Disk}

/-- The directory that is made for a path that misses the earlier disk is new. -/
theorem exists_leadsTo_of_ensureDirectory (sound : earlier.Sound) (edits : Edits earlier w.disk)
    (misses : Misses earlier w.disk p) (straight : p.Straight) (filled : p.text ≠ "")
    (ran : exec (ensureDirectory p) w = (.ok (), v)) :
    ∃ place, v.disk.LeadsTo p place ∧ earlier.get? place = none := by
  have makes := makes_of_exec ran
  rcases makes.stays_or_leads rfl straight (edits.sound sound) with same | ⟨-, place, leads, free⟩
  · obtain ⟨place, found, leads⟩ := Disk.exists_leadsTo_of_isDirectory (makes.isDirectory filled)
    refine ⟨place, leads, misses place ?_⟩
    rw [← same]
    exact found
  · exact ⟨place, leads, edits.free free⟩

/-- A path that misses the earlier disk does so when the directories above it have been made. -/
theorem misses_ensureParent (sound : earlier.Sound) (edits : Edits earlier w.disk)
    (misses : Misses earlier w.disk p) (straight : p.Straight)
    (ran : exec (ensureParent p) w = (.ok (), v)) : Misses earlier v.disk p := by
  unfold ensureParent at ran
  split at ran
  · cases ran
    exact misses
  · next outer above =>
    have makes := makes_of_exec ran
    rcases makes.stays_or_leads rfl (straight.parent above) (edits.sound sound) with
      same | ⟨named, place, leads, free⟩
    · dsimp only at same
      rw [same]
      exact misses
    · obtain ⟨n, written⟩ := straight.exists_writtenParts_eq above named
      exact leads.misses_child sound (edits.trans makes.growsTo.edits) (edits.free free) written

/-! ## Sparing computations -/

/-- Where the path misses the earlier disk, the computation lets that disk grow, and the path goes on
missing it unless the computation fails. -/
def Spares (earlier : Disk) (p : Path) {α : Type} (m : Run α) : Prop :=
  ∀ w, earlier.GrowsTo w.disk → Misses earlier w.disk p →
    earlier.GrowsTo (exec m w).2.disk ∧ ∀ a, (exec m w).1 = .ok a → Misses earlier (exec m w).2.disk p

variable {α β : Type}

theorem Spares.bind {m : Run α} {f : α → Run β} (first : Spares earlier p m)
    (next : ∀ a, Spares earlier p (f a)) : Spares earlier p (m >>= f) := by
  intro w grows misses
  obtain ⟨grown, missed⟩ := first w grows misses
  rcases ran : exec m w with ⟨e | a, v⟩
  · rw [exec_bind_of_error ran]
    rw [ran] at grown
    exact ⟨grown, fun _ failed => by cases failed⟩
  · rw [exec_bind_of_ok ran]
    rw [ran] at grown missed
    exact next a v grown (missed a rfl)

theorem Spares.note (n : Note) : Spares earlier p (note n) :=
  fun _ grows misses => ⟨grows, fun _ _ => misses⟩

theorem Spares.reading (op : Disk → Except DiskError α) : Spares earlier p (reading op) := by
  intro w grows misses
  rw [exec_reading]
  exact ⟨grows, fun _ _ => misses⟩

theorem Spares.write (content : ByteArray) (mark : Option Bool → Bool) :
    Spares earlier p (change fun d => d.write p content mark) := by
  intro w grows misses
  rw [exec_change]
  cases wrote : w.disk.write p content mark with
  | error e => exact ⟨grows, fun _ failed => by cases failed⟩
  | ok d =>
    obtain ⟨grown, missed⟩ := grows.write misses wrote
    exact ⟨grown, fun _ _ => missed⟩

theorem spares_ensureParent (sound : earlier.Sound) (straight : p.Straight) :
    Spares earlier p (ensureParent p) := by
  intro w grows misses
  exact ⟨grows.trans (growsTo_ensureParent p w), fun _ success =>
    misses_ensureParent sound grows.edits misses straight (Prod.ext success rfl)⟩

theorem spares_writeText (sound : earlier.Sound) (straight : p.Straight) (text : String) :
    Spares earlier p (writeText p text) :=
  Spares.bind (spares_ensureParent sound straight) fun _ => Spares.write _ _

theorem spares_copyFile (sound : earlier.Sound) (source : Path) (straight : p.Straight) :
    Spares earlier p (copyFile source p) :=
  Spares.bind (spares_ensureParent sound straight) fun _ => Spares.bind (Spares.reading _) fun _ =>
    Spares.bind (Spares.write _ _) fun _ => Spares.bind (Spares.reading _) fun _ => Spares.write _ _

/-! ## Trees -/

/-- What each round keeps, all rounds keep, also those before a failure. -/
theorem forM_keeps (kept : World → Prop) {xs : List α} {f : α → Run PUnit}
    (each : ∀ a ∈ xs, ∀ w, kept w → kept (exec (f a) w).2) (w : World) (holds : kept w) :
    kept (exec (xs.forM f) w).2 := by
  induction xs generalizing w with
  | nil => exact holds
  | cons a rest ih =>
    have first := each a List.mem_cons_self w holds
    have later := ih fun b member => each b (List.mem_cons_of_mem a member)
    change kept (exec (f a >>= fun _ => rest.forM f) w).2
    rcases ran : exec (f a) w with ⟨e | ⟨⟨⟩⟩, v⟩
    · rw [exec_bind_of_error ran]
      rw [ran] at first
      exact first
    · rw [exec_bind_of_ok ran]
      rw [ran] at first
      exact later v first

/-- Copying a tree to a path that misses the earlier disk lets that disk grow. -/
theorem growsTo_copyTree (sound : earlier.Sound) (levels : Nat) (source : Path) {dest : Path}
    (straight : dest.Straight) (filled : dest.text ≠ "") (isDirectory : Bool) (w : World)
    (grows : earlier.GrowsTo w.disk) (misses : Misses earlier w.disk dest) :
    earlier.GrowsTo (exec (copyTree levels source dest isDirectory) w).2.disk := by
  induction levels generalizing source dest isDirectory w with
  | zero =>
    rw [copyTree]
    split
    · exact grows
    · exact ((Spares.note _).bind (fun _ => spares_copyFile sound source straight) w grows misses).1
  | succ levels ih =>
    rw [copyTree]
    split
    · rw [exec_bind_of_ok (exec_disk w)]
      have grown := grows.trans (makes_ensureDirectory dest w).growsTo
      rcases ran : exec (ensureDirectory dest) w with ⟨e | ⟨⟨⟩⟩, v⟩
      · rw [exec_bind_of_error ran]
        rw [ran] at grown
        exact grown
      · rw [exec_bind_of_ok ran]
        rw [ran] at grown
        split
        · exact grown
        · rw [exec_bind_of_ok (exec_disk v)]
          obtain ⟨place, leads, free⟩ :=
            exists_leadsTo_of_ensureDirectory sound grows.edits misses straight filled ran
          -- every round finds the new directory, and copies to a name in it
          refine (forM_keeps (fun u => earlier.GrowsTo u.disk ∧ u.disk.LeadsTo dest place) ?_ v
            ⟨grown, leads⟩).1
          rintro name listed u ⟨grows, leads⟩
          have plain : Plain name := (grown.edits.sound sound).plain (Disk.mem_names listed) name
            List.mem_cons_self
          have written : (dest.join ⟨name⟩).writtenParts = dest.writtenParts ++ [.name name] := by
            rw [Path.writtenParts_join dest (Path.writtenParts_name plain).1,
              (Path.writtenParts_name plain).2]
          refine ⟨ih _ (straight.join_name plain) (Path.text_join_ne_empty filled ⟨name⟩) _ u
            grows (leads.misses_child sound grows.edits free written), ?_⟩
          exact (transfers_copyTree _ _ _ _ u).1.edits.leadsTo leads
    · exact ((Spares.note _).bind (fun _ => spares_copyFile sound source straight) w grows misses).1

/-- Copying to a path that names nothing lets the disk grow. -/
theorem growsTo_copyPath (source : Path) {dest : Path} (straight : dest.Straight)
    (filled : dest.text ≠ "") (sound : w.disk.Sound) (missing : ¬ w.disk.holds dest = true) :
    w.disk.GrowsTo (exec (copyPath source dest) w).2.disk := by
  have misses := Disk.misses_of_not_holds missing
  unfold copyPath
  split
  · exact .refl _
  · rw [exec_bind_of_ok (exec_disk w)]
    split
    · exact (spares_copyFile sound source straight w (.refl _) misses).1
    · split
      · exact .refl _
      · exact growsTo_copyTree sound _ source straight.join_empty (Path.text_join_ne_empty filled _) _ w
          (.refl _) fun place found => misses place (Disk.find_of_find_join_empty filled found)

end Run

/-! ## Conditional steps -/

/-- The step leaves out what it would write where something is. -/
def Step.IsConditional (step : Step) : Prop := ∀ t, step.transfer? = some t → t.conditional = true

namespace Run

/-- A conditional step that is carried out goes where nothing is. -/
theorem Carried.missing {destRoot : Path} {t : Transfer} {d : Disk} (carried : Carried destRoot t d)
    (conditional : t.conditional = true) : ¬ d.holds (destRoot.absolutize t.dest) = true :=
  fun held => carried ⟨conditional, held⟩

/-- A conditional step lets the disk grow, whether it succeeds or fails. -/
theorem growsTo_apply (renderer : Renderer) (srcRoot destRoot : Path) (context : Context)
    {step : Step} (conditional : step.IsConditional) {w : World} (sound : w.disk.Sound) :
    w.disk.GrowsTo (exec (apply renderer srcRoot destRoot step context) w).2.disk := by
  have leaves := leaves_apply renderer srcRoot destRoot context step w
  generalize (exec (apply renderer srcRoot destRoot step context) w).2.disk = left at leaves ⊢
  cases leaves with
  | asItWas => exact .refl _
  | @copied t _ carried =>
    exact growsTo_copyPath _ (Path.straight_absolutize destRoot t.dest)
      (Path.text_absolutize_ne_empty destRoot t.dest) sound (carried.missing (conditional t rfl))
  | @written t _ v _ text carried _ _ same =>
    have misses := Disk.misses_of_not_holds (carried.missing (conditional t rfl))
    rw [← same] at sound misses ⊢
    exact (spares_writeText sound (Path.straight_absolutize destRoot t.dest) text v (.refl _) misses).1

end Run

end Scaffold
