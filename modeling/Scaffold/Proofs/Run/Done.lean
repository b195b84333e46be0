import Scaffold.Proofs.Run.Growth

/-!
# Steps that are done

A step that has succeeded leaves something at its destination, or it was a copy of a path to itself,
which does nothing (`done_of_apply`). What is there stays there, so the step is `Done` ever after
(`Done.edits`). A conditional step that is done has nothing left to do: it is left out, or it is again the copy
of a path to itself, and either way it leaves the disk alone and renders nothing
(`exec_apply_of_done`).
-/

namespace Scaffold.Run

variable {w v : World} {source dest : Path}

/-! ## What a transfer leaves -/

theorem holds_of_exec_write {p : Path} {content : ByteArray} {mark : Option Bool → Bool}
    (ran : exec (change fun d => d.write p content mark) w = (.ok (), v)) : v.disk.holds p = true :=
  Disk.holds_of_write (eq_of_exec_change ran)

theorem holds_of_writeText {text : String} (ran : exec (writeText dest text) w = (.ok (), v)) :
    v.disk.holds dest = true := by
  obtain ⟨_, _, -, wrote⟩ := exists_of_exec_bind ran
  exact holds_of_exec_write wrote

theorem holds_of_copyFile (ran : exec (copyFile source dest) w = (.ok (), v)) :
    v.disk.holds dest = true := by
  obtain ⟨_, _, -, ran⟩ := exists_of_exec_bind ran
  obtain ⟨_, _, -, ran⟩ := exists_of_exec_bind ran
  obtain ⟨_, _, -, ran⟩ := exists_of_exec_bind ran
  obtain ⟨_, _, -, wrote⟩ := exists_of_exec_bind ran
  exact holds_of_exec_write wrote

theorem holds_of_copyTree {levels : Nat} {isDirectory : Bool} (filled : dest.text ≠ "")
    (ran : exec (copyTree (levels + 1) source dest isDirectory) w = (.ok (), v)) :
    v.disk.holds dest = true := by
  cases isDirectory with
  | false =>
    rw [copyTree_leaf] at ran
    obtain ⟨_, _, -, ran⟩ := exists_of_exec_bind ran
    exact holds_of_copyFile ran
  | true =>
    obtain ⟨place, u, -, ensured, ran⟩ := exists_of_copyTree_directory ran
    have makes := makes_of_exec ensured
    -- the directory is there before what it holds, and stays
    have held := Disk.holds_of_isDirectory (makes.isDirectory filled)
    have rest : Transfers ((u.disk.names place).forM fun name =>
        copyTree levels (source.join ⟨name⟩) (dest.join ⟨name⟩)
          (u.disk.get? (name :: place) = some .directory)) :=
      Transfers.forM fun _ _ => transfers_copyTree _ _ _ _
    exact (rest.edits ran).holds held

/-- A copy that succeeds leaves something at its destination, or it was one of a path to itself. -/
theorem holds_of_copyPath (filled : dest.text ≠ "")
    (ran : exec (copyPath source dest) w = (.ok (), v)) :
    source.sameParts dest = true ∨ v.disk.holds dest = true := by
  unfold copyPath at ran
  split at ran
  · next same => exact .inl same
  · rw [exec_bind_of_ok (exec_disk w)] at ran
    split at ran
    · exact .inr (holds_of_copyFile ran)
    · split at ran
      · cases ran
      · have held := holds_of_copyTree (Path.text_join_ne_empty filled ⟨""⟩) ran
        exact .inr (Disk.holds_of_holds_join_empty filled held)

/-! ## Done steps -/

/-- The step has nothing left to do: something is where its transfer goes, or it is the copy of a path
to itself. -/
def Done (destRoot : Path) (d : Disk) (srcRoot : Path) (step : Step) : Prop :=
  ∀ t, step.transfer? = some t → d.holds (destRoot.absolutize t.dest) = true ∨
    step = .copy t ∧ (srcRoot.absolutize t.src).sameParts (destRoot.absolutize t.dest) = true

/-- What is done stays done. -/
theorem Done.edits {srcRoot destRoot : Path} {step : Step} {d d' : Disk}
    (done : Done destRoot d srcRoot step) (edits : Disk.Edits d d') :
    Done destRoot d' srcRoot step := by
  intro t transfer
  exact (done t transfer).imp_left edits.holds

variable {renderer : Renderer} {srcRoot destRoot : Path} {step : Step} {context : Context}

/-- A transfer that succeeds has been left out or carried out. -/
theorem exec_unlessGated_ok {t : Transfer} {body : Run Unit} {given : Option Directive}
    (ran : exec (do unlessGated destRoot t body; return none) w = (.ok given, v)) :
    (w.disk.holds (destRoot.absolutize t.dest) = true ∧ v.disk = w.disk) ∨
      exec body w = (.ok (), v) := by
  obtain ⟨⟨⟩, _, ran, rest⟩ := exists_of_exec_bind ran
  cases rest
  rw [exec_unlessGated] at ran
  split at ran
  · next gated =>
    cases ran
    exact .inl ⟨(Bool.and_eq_true_iff.1 gated).2, rfl⟩
  · exact .inr ran

/-- A step that succeeds is done. -/
theorem done_of_apply {given : Option Directive}
    (ran : exec (apply renderer srcRoot destRoot step context) w = (.ok given, v)) :
    Done destRoot v.disk srcRoot step := by
  intro t transfer
  cases step with
  | copy t =>
    cases transfer
    rcases exec_unlessGated_ok ran with ⟨held, same⟩ | ran
    · rw [same]
      exact .inl held
    · obtain ⟨⟨⟩, u, copied, reported⟩ := exists_of_exec_bind ran
      cases reported
      rcases holds_of_copyPath (Path.text_absolutize_ne_empty destRoot t.dest) copied with own | held
      · exact .inr ⟨rfl, own⟩
      · exact .inl held
  | template t =>
    cases transfer
    rcases exec_unlessGated_ok ran with ⟨held, same⟩ | ran
    · rw [same]
      exact .inl held
    · obtain ⟨_, _, -, ran⟩ := exists_of_exec_bind ran
      obtain ⟨_, _, -, ran⟩ := exists_of_exec_bind ran
      obtain ⟨_, _, -, ran⟩ := exists_of_exec_bind ran
      exact .inl (holds_of_writeText ran)
  | expand tag => cases transfer
  | bind name value => cases transfer

/-- A conditional step that is done succeeds, leaves the disk alone, and renders nothing. -/
theorem exec_apply_of_done (conditional : step.IsConditional)
    (done : Done destRoot w.disk srcRoot step) :
    ∃ u, exec (apply renderer srcRoot destRoot step context) w = (.ok step.directive?, u) ∧
      u.disk = w.disk ∧ u.renderings = w.renderings := by
  cases step with
  | copy t =>
    simp only [apply, exec_bind_pure, exec_unlessGated]
    split
    · exact ⟨_, rfl, rfl, rfl⟩
    · next carried =>
      -- nothing is there, so the step is the copy of a path to itself
      rcases done t rfl with held | ⟨-, own⟩
      · exact absurd held ((carried_iff.2 carried).missing (conditional t rfl))
      · have copied : exec (copyPath (srcRoot.absolutize t.src) (destRoot.absolutize t.dest)) w =
            exec (note (.ownDestination (srcRoot.absolutize t.src))) w := by
          rw [copyPath, if_pos own]
        rw [copy, exec_bind_of_ok (copied.trans (exec_note w _))]
        exact ⟨_, rfl, rfl, rfl⟩
  | template t =>
    simp only [apply, exec_bind_pure, exec_unlessGated]
    split
    · exact ⟨_, rfl, rfl, rfl⟩
    · next carried =>
      rcases done t rfl with held | ⟨⟨⟩, -⟩
      exact absurd held ((carried_iff.2 carried).missing (conditional t rfl))
  | expand tag => exact ⟨_, rfl, rfl, rfl⟩
  | bind name value => exact ⟨_, rfl, rfl, rfl⟩

end Scaffold.Run
