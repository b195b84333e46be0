import Scaffold.Proofs.Run.Exec
import Scaffold.Run.Session

/-!
# Loading

Loading manifests looks at the disk and leaves it alone, and what it prints is about manifests only
(`World.Quiet`). Its result depends on the disk and on nothing else, so a manifest that loads does so
whatever was loaded before. `Reads m` says both of a computation, and holds of `load`, `loadAll` and
`buildRegistry`.

A row of directories therefore fails to load with the failure of the first one that does
(`failure_loadAll`).
-/

namespace Scaffold

/-- The line on the console is about a step. -/
def Report.IsStep : Report → Prop
  | .skipped _ | .copied _ _ | .rendered _ _ | .expanding _ => True
  | .noManifest _ | .nothingToDo | .notADestination => False

/-- From the earlier world to the later one neither disk nor renderings change, and no line about a
step is printed. -/
structure World.Quiet (w w' : World) : Prop where
  disk : w'.disk = w.disk
  renderings : w'.renderings = w.renderings
  reports : ∃ added, w'.reports = w.reports ++ added ∧ ∀ r ∈ added, ¬ r.IsStep

theorem World.Quiet.refl (w : World) : w.Quiet w :=
  ⟨rfl, rfl, [], (List.append_nil _).symm, fun _ printed => absurd printed List.not_mem_nil⟩

theorem World.Quiet.trans {w₁ w₂ w₃ : World} (first : w₁.Quiet w₂) (second : w₂.Quiet w₃) :
    w₁.Quiet w₃ := by
  obtain ⟨added₁, printed₁, fine₁⟩ := first.reports
  obtain ⟨added₂, printed₂, fine₂⟩ := second.reports
  refine ⟨second.disk.trans first.disk, second.renderings.trans first.renderings,
    added₁ ++ added₂, by rw [printed₂, printed₁, List.append_assoc], fun r printed => ?_⟩
  rcases List.mem_append.1 printed with earlier | later
  · exact fine₁ r earlier
  · exact fine₂ r later

theorem World.Quiet.report {w : World} {r : Report} (fine : ¬ r.IsStep) :
    w.Quiet { w with reports := w.reports ++ [r] } := by
  refine ⟨rfl, rfl, [r], rfl, fun r' printed => ?_⟩
  rw [List.mem_singleton.1 printed]
  exact fine

namespace Run

/-! ## Computations that only read -/

/-- The computation is quiet, and its result depends on the disk alone. -/
def Reads {α : Type} (m : Run α) : Prop :=
  ∀ w, w.Quiet (exec m w).2 ∧ ∀ w', w'.disk = w.disk → (exec m w').1 = (exec m w).1

variable {α β : Type}

/-- So it leaves the disk alone. -/
theorem Reads.disk_eq {m : Run α} (reads : Reads m) {w v : World} {result : Except Failure α}
    (ran : exec m w = (result, v)) : v.disk = w.disk := by
  have quiet := (reads w).1.disk
  rw [ran] at quiet
  exact quiet

theorem Reads.pure (a : α) : Reads (pure a) := fun w => ⟨.refl w, fun _ _ => rfl⟩

theorem Reads.bind {m : Run α} {f : α → Run β} (first : Reads m) (next : ∀ a, Reads (f a)) :
    Reads (m >>= f) := by
  intro w
  obtain ⟨quiet, same⟩ := first w
  rcases ran : exec m w with ⟨e | a, v⟩
  · rw [ran] at quiet same
    rw [exec_bind_of_error ran]
    refine ⟨quiet, fun w' disk => ?_⟩
    have failed : exec m w' = (.error e, (exec m w').2) := Prod.ext (same w' disk) rfl
    rw [exec_bind_of_error failed]
  · rw [ran] at quiet same
    rw [exec_bind_of_ok ran]
    obtain ⟨quiet', same'⟩ := next a v
    refine ⟨quiet.trans quiet', fun w' disk => ?_⟩
    have gave : exec m w' = (.ok a, (exec m w').2) := Prod.ext (same w' disk) rfl
    rw [exec_bind_of_ok gave]
    exact same' _ ((first w').1.disk.trans (disk.trans quiet.disk.symm))

theorem Reads.note (n : Note) : Reads (note n) :=
  fun w => ⟨⟨rfl, rfl, (World.Quiet.refl w).reports⟩, fun _ _ => rfl⟩

theorem Reads.report {r : Report} (fine : ¬ r.IsStep) : Reads (report r) :=
  fun _ => ⟨.report fine, fun _ _ => rfl⟩

theorem Reads.disk : Reads disk := by
  intro w
  refine ⟨.refl w, fun w' same => ?_⟩
  rw [exec_disk, exec_disk, same]

theorem Reads.ofExcept (r : Except Failure α) : Reads (ofExcept r) := by
  intro w
  rw [exec_ofExcept]
  exact ⟨.refl w, fun w' _ => by rw [exec_ofExcept]⟩

theorem Reads.reading (op : Disk → Except DiskError α) : Reads (reading op) :=
  Reads.bind Reads.disk fun _ => Reads.ofExcept _

/-! ## Loading -/

section Parsing

variable (parse : Edn.Parser)

theorem reads_load (root : Path) : Reads (load parse root) := by
  unfold load
  refine Reads.bind Reads.disk fun d => ?_
  split
  · exact Reads.bind (Reads.report id) fun _ => Reads.pure _
  · exact Reads.bind (Reads.note _) fun _ => Reads.bind (Reads.reading _) fun _ =>
      Reads.bind (Reads.ofExcept _) fun _ => Reads.bind (Reads.note _) fun _ => Reads.pure _

theorem reads_loadAll (roots : List Path) : Reads (loadAll parse roots) := by
  induction roots with
  | nil => exact Reads.pure _
  | cons root rest ih =>
    exact Reads.bind (reads_load parse root) fun _ => Reads.bind ih fun _ => Reads.pure _

theorem reads_buildRegistry (roots : List Path) : Reads (buildRegistry parse roots) :=
  Reads.bind (reads_loadAll parse roots) fun _ => Reads.bind (Reads.note _) fun _ => Reads.pure _

/-! ## The first failure -/

/-- The failure that a result is. -/
def failure? : Except Failure α → Option Failure
  | .error e => some e
  | .ok _ => none

theorem failure?_map (f : α → β) (result : Except Failure α) :
    failure? (result.map f) = failure? result := by
  cases result with
  | error e => rfl
  | ok a => rfl

/-- The failure of the first directory whose manifest does not load. -/
def firstFailure (w : World) (roots : List Path) : Option Failure :=
  roots.findSome? fun root => failure? (exec (load parse root) w).1

theorem firstFailure_congr {w w' : World} (same : w'.disk = w.disk) (roots : List Path) :
    firstFailure parse w' roots = firstFailure parse w roots := by
  unfold firstFailure
  congr 1
  funext root
  rw [(reads_load parse root w).2 w' same]

theorem firstFailure_append_one (w : World) (roots : List Path) (last : Path) :
    firstFailure parse w (roots ++ [last]) =
      (firstFailure parse w roots).or (failure? (exec (load parse last) w).1) := by
  rw [firstFailure, List.findSome?_append, List.findSome?_singleton]
  rfl

/-- Directories are loaded until one fails. -/
theorem failure_loadAll (roots : List Path) (w : World) :
    failure? (exec (loadAll parse roots) w).1 = firstFailure parse w roots := by
  induction roots generalizing w with
  | nil => rfl
  | cons root rest ih =>
    have first := reads_load parse root w
    rw [loadAll, firstFailure, List.findSome?_cons]
    rcases loaded : exec (load parse root) w with ⟨e | m, v⟩
    · rw [exec_bind_of_error loaded]
      rfl
    · rw [loaded] at first
      rw [exec_bind_of_ok loaded, exec_bind_pure, failure?_map, ih v, firstFailure_congr parse first.1.disk]
      rfl

theorem failure_buildRegistry (roots : List Path) (w : World) :
    failure? (exec (buildRegistry parse roots) w).1 = firstFailure parse w roots := by
  rw [← failure_loadAll, buildRegistry, exec_bind]
  rcases exec (loadAll parse roots) w with ⟨e | ms, v⟩
  · rfl
  · rfl

end Parsing

end Run

end Scaffold
