import Scaffold.Proofs.Walk.Footprint

/-!
# Where a failing walk stops

A walk that fails has applied the steps of the flat row up to one that fails, and stops there.
`Stop` holds that step with what stands before and behind it, the context that it got and the world
that it met. There is one `Stop` for a failing row and no second one (`exists_stop`, `Stop.unique`),
so "the failing step" is well defined however deep the packs are nested.

`walk_stops_at_failure` is the result: what is left is what the failing step has left, and beside the
footprint of that step the disk is the one that the steps before it left. A template that could not
be read or rendered has no footprint at all.
-/

namespace Scaffold.Run

/-- The step at which a row fails: the steps before it leave the context and the world in which it is
applied. -/
structure Stop (renderer : Renderer) (destRoot : Path) (row : List (Path × Step)) (seed : Context)
    (w : World) (e : Failure) where
  before : List (Path × Step)
  srcRoot : Path
  step : Step
  behind : List (Path × Step)
  context : Context
  world : World
  row_eq : row = before ++ (srcRoot, step) :: behind
  applied : exec (execute renderer destRoot before seed) w = (.ok context, world)
  fails : (exec (apply renderer srcRoot destRoot step context) world).1 = .error e

variable {renderer : Renderer} {destRoot : Path} {row : List (Path × Step)} {seed : Context}
  {w : World} {e : Failure}

namespace Stop

/-- The world that the failing step leaves. -/
def after (stop : Stop renderer destRoot row seed w e) : World :=
  (exec (apply renderer stop.srcRoot destRoot stop.step stop.context) stop.world).2

/-- A row that fails behind its first step fails where the rest of it does. -/
def tail {srcRoot : Path} {step : Step} {given : Option Directive} {v : World}
    (applied : exec (apply renderer srcRoot destRoot step seed) w = (.ok given, v))
    (stop : Stop renderer destRoot row (contextBehind seed step) v e) :
    Stop renderer destRoot ((srcRoot, step) :: row) seed w e where
  before := (srcRoot, step) :: stop.before
  srcRoot := stop.srcRoot
  step := stop.step
  behind := stop.behind
  context := stop.context
  world := stop.world
  row_eq := congrArg (List.cons (srcRoot, step)) stop.row_eq
  applied := by rw [execute_cons step stop.before applied, stop.applied]
  fails := stop.fails

end Stop

/-- A row that fails stops at one of its steps, in the world that this step leaves. -/
theorem exists_stop (failed : (exec (execute renderer destRoot row seed) w).1 = .error e) :
    ∃ stop : Stop renderer destRoot row seed w e,
      (exec (execute renderer destRoot row seed) w).2 = stop.after := by
  induction row generalizing seed w with
  | nil =>
    rw [execute, exec_pure] at failed
    cases failed
  | cons step row ih =>
    obtain ⟨srcRoot, step⟩ := step
    rcases applied : exec (apply renderer srcRoot destRoot step seed) w with ⟨e' | given, v⟩
    · rw [execute_cons_of_error step row applied] at failed ⊢
      cases failed
      refine ⟨⟨[], srcRoot, step, row, seed, w, rfl, rfl, by rw [applied]⟩, ?_⟩
      rw [Stop.after, applied]
    · rw [execute_cons step row applied] at failed ⊢
      obtain ⟨stop, left⟩ := ih failed
      exact ⟨stop.tail applied, left⟩

/-- Steps that are applied without a failure do not go beyond one that fails. -/
theorem not_applied_beyond_failure {before between : List (Path × Step)} {srcRoot : Path}
    {step : Step} {c c' : Context} {v v' : World}
    (applied : exec (execute renderer destRoot before seed) w = (.ok c, v))
    (fails : (exec (apply renderer srcRoot destRoot step c) v).1 = .error e) :
    exec (execute renderer destRoot (before ++ (srcRoot, step) :: between) seed) w ≠
      (.ok c', v') := by
  intro beyond
  rcases failed : exec (apply renderer srcRoot destRoot step c) v with ⟨e' | given, u⟩
  · rw [execute_append, exec_bind_of_ok applied, execute_cons_of_error step between failed] at beyond
    cases beyond
  · rw [failed] at fails
    cases fails

/-- A row fails at one step only. -/
theorem Stop.unique (stop other : Stop renderer destRoot row seed w e) : other = stop := by
  obtain ⟨before, srcRoot, step, behind, c, v, rfl, applied, fails⟩ := stop
  obtain ⟨before', srcRoot', step', behind', c', v', same, applied', fails'⟩ := other
  have together : before' = before := by
    rcases List.append_eq_append_iff.1 same with ⟨between, longer, rest⟩ | ⟨between, longer, rest⟩
    · cases between with
      | nil => rw [longer, List.append_nil]
      | cons first between =>
        cases rest
        exact absurd (longer ▸ applied') (not_applied_beyond_failure applied fails)
    · cases between with
      | nil => rw [longer, List.append_nil]
      | cons first between =>
        cases rest
        exact absurd (longer ▸ applied) (not_applied_beyond_failure applied' fails')
  subst together
  cases List.append_cancel_left same
  cases applied.symm.trans applied'
  rfl

/-! ## The failing step -/

/-- Only a transfer fails. -/
theorem transfer_of_failure {srcRoot : Path} {step : Step} {c : Context}
    (fails : (exec (apply renderer srcRoot destRoot step c) w).1 = .error e) :
    ∃ t, step.transfer? = some t := by
  cases step with
  | copy t => exact ⟨t, rfl⟩
  | template t => exact ⟨t, rfl⟩
  | expand tag => cases fails
  | bind name value => cases fails

/-- The source of the template is a text, and rendering it gives one. -/
def Renders (renderer : Renderer) (srcRoot : Path) (t : Transfer) (context : Context) (d : Disk) :
    Prop :=
  ∃ source text, d.readText (srcRoot.absolutize t.src) = .ok source ∧
    renderer source context = .ok text

/-- A template that is not rendered leaves the disk alone. -/
theorem disk_apply_of_not_renders {srcRoot : Path} {t : Transfer} {c : Context}
    (failed : ¬ Renders renderer srcRoot t c w.disk) :
    (exec (apply renderer srcRoot destRoot (.template t) c) w).2.disk = w.disk := by
  have leaves := leaves_apply renderer srcRoot destRoot c (.template t) w
  generalize (exec (apply renderer srcRoot destRoot (.template t) c) w).2.disk = left at leaves ⊢
  cases leaves with
  | asItWas => rfl
  | written _ read rendered => exact absurd ⟨_, _, read, rendered⟩ failed

/-! ## The failing walk -/

/-- **A failing walk keeps what was done before it failed.** There is one step of the flat row at which
the walk stops. Nothing behind it has an effect: the disk, the console and the renderings are those
that the failing step leaves. That step is a transfer, and the disk differs from the one that the
steps before it left at or below its destination only, and by new directories above it. If it is a
template that could not be read or rendered, the two disks are the same. -/
theorem walk_stops_at_failure (renderer : Renderer) (destRoot srcRoot : Path) (registry : Registry)
    (steps : List Step) (seed : Context) (w : World) (e : Failure) (sound : w.disk.Sound)
    (linkless : w.disk.Linkless)
    (failed : (exec (walk renderer destRoot srcRoot registry steps seed) w).1 = .error e) :
    let left := (exec (walk renderer destRoot srcRoot registry steps seed) w).2
    ∃ stop : Stop renderer destRoot (flatten registry srcRoot steps) seed w e,
      (∀ other : Stop renderer destRoot (flatten registry srcRoot steps) seed w e, other = stop) ∧
      left.Alike stop.after ∧
      ∃ t, stop.step.transfer? = some t ∧
        Disk.ChangedAt ((destRoot.absolutize t.dest).place w.disk.cwd) stop.world.disk left.disk ∧
        (stop.step = .template t → ¬ Renders renderer stop.srcRoot t stop.context stop.world.disk →
          left.disk = stop.world.disk) := by
  obtain ⟨result, alike⟩ := walk_alike_execute renderer destRoot srcRoot registry steps seed w
  obtain ⟨stop, ended⟩ := exists_stop (result.symm.trans failed)
  rw [ended] at alike
  have steady : Disk.Steady w.disk.cwd stop.world.disk := by
    have edits := edits_execute renderer destRoot stop.before seed w
    rw [stop.applied] at edits
    exact Disk.Steady.edits ⟨sound, linkless, rfl⟩ edits
  obtain ⟨t, transfer⟩ := transfer_of_failure stop.fails
  refine ⟨stop, stop.unique, alike, t, transfer, ?_, ?_⟩
  · intro p changed
    rw [alike.disk] at changed ⊢
    obtain ⟨_, found, -, touched⟩ :=
      footprint_apply renderer stop.srcRoot destRoot stop.context stop.step steady p changed
    cases transfer.symm.trans found
    exact touched
  · intro template failed
    rw [alike.disk, Stop.after, template]
    exact disk_apply_of_not_renders failed

/-- The second step of the pack fails for want of its source. What the pack did before stays, and the
step behind the expansion is not reached. -/
theorem walk_stops_inside_pack :
    let pack : Manifest :=
      ⟨"p", ⟨"pack"⟩, [.copy ⟨⟨"t"⟩, ⟨"a"⟩, false⟩, .copy ⟨⟨"missing"⟩, ⟨"c/d"⟩, false⟩], false⟩
    let steps := [.expand "p", .copy ⟨⟨"pack/t"⟩, ⟨"late"⟩, false⟩]
    let w := World.start Disk.packAndProject
    let walked := exec (walk verbatim ⟨"proj"⟩ ⟨"."⟩ ⟨[("p", pack)]⟩ steps .empty) w
    w.disk.Sound ∧ w.disk.Linkless ∧ walked.1 = .error (.disk .notFound) ∧
      ∃ stop : Stop verbatim ⟨"proj"⟩ (flatten ⟨[("p", pack)]⟩ ⟨"."⟩ steps) .empty w
          (.disk .notFound),
        (∀ other : Stop verbatim ⟨"proj"⟩ (flatten ⟨[("p", pack)]⟩ ⟨"."⟩ steps) .empty w
          (.disk .notFound), other = stop) ∧
        walked.2.Alike stop.after ∧
        ∃ t, stop.step.transfer? = some t ∧
          Disk.ChangedAt ((Path.absolutize ⟨"proj"⟩ t.dest).place w.disk.cwd) stop.world.disk
            walked.2.disk ∧
          (stop.step = .template t →
            ¬ Renders verbatim stop.srcRoot t stop.context stop.world.disk →
            walked.2.disk = stop.world.disk) := by
  intro pack steps w walked
  have failed : walked.1 = .error (.disk .notFound) := by
    obtain ⟨result, -⟩ :=
      walk_alike_execute verbatim ⟨"proj"⟩ ⟨"."⟩ ⟨[("p", pack)]⟩ steps .empty w
    have row : flatten ⟨[("p", pack)]⟩ ⟨"."⟩ steps =
        (⟨"."⟩, .expand "p") :: pack.steps.map (fun step => (⟨"pack"⟩, step)) ++
          [(⟨"."⟩, .copy ⟨⟨"pack/t"⟩, ⟨"late"⟩, false⟩)] := by
      have found : Registry.get? ⟨[("p", pack)]⟩ "p" = some pack := rfl
      rw [flatten_cons, flatten_cons, flatten_nil, expansion, found]
      dsimp only [pack]
      rw [flatten_cons, flatten_cons, flatten_nil]
      rfl
    rw [row] at result
    exact result.trans (eq_error_of_diskError? (by decide +kernel))
  exact ⟨Disk.sound_packAndProject, Disk.linkless_packAndProject, failed,
    walk_stops_at_failure verbatim ⟨"proj"⟩ ⟨"."⟩ ⟨[("p", pack)]⟩ steps .empty w (.disk .notFound)
      Disk.sound_packAndProject Disk.linkless_packAndProject failed⟩

end Scaffold.Run
