import Scaffold.Proofs.Run.Changes
import Scaffold.Proofs.Session.Loading
import Scaffold.Proofs.Walk.Stop
import Scaffold.Renderer

/-!
# Everything is validated before anything is written

A session loads the packs and then the destination, and only then walks. `Ends` lists the ways in
which it goes: a manifest fails to load, or there is nothing to apply, or the walk decides. Before the
walk the session is quiet.

A renderer may fail for anything, also for a manifest. But no step does so by itself: the failing step is a
transfer, and a transfer fails for the disk, for a copy into itself, or as the renderer has failed on its
template. So a walk that fails for a manifest has the renderer to blame (`blames_walk`), and with a renderer
that fails for templates only, as that of an engine does, no walk fails for one. A session that fails for a
manifest has then not begun to walk.
-/

namespace Scaffold

/-- The failure is one of a manifest: it is no EDN, it is no manifest, or it has a step of no known
kind. -/
def Failure.FromManifest : Failure → Prop
  | .notEdn _ _ | .badManifest _ | .unknownStep _ => True
  | .disk _ | .intoItself _ _ | .template _ | .listing _ _ => False

theorem Failure.FromDisk.not_fromManifest {e : Failure} (fromDisk : e.FromDisk) :
    ¬ e.FromManifest := by
  cases e with
  | disk _ | listing _ _ => exact id
  | notEdn _ _ | badManifest _ | unknownStep _ | intoItself _ _ | template _ => cases fromDisk

/-- The renderer does not fail for a manifest. -/
def Renderer.SparesManifests (renderer : Renderer) : Prop :=
  ∀ template context e, renderer template context = .error e → ¬ e.FromManifest

/-- What an engine fails for is a fault of the template. -/
theorem Renderer.sparesManifests_ofEngine (engine : Template.Engine) :
    (Renderer.ofEngine engine).SparesManifests := by
  intro template context e failed
  unfold Renderer.ofEngine at failed
  cases rendered : engine Renderer.settings template context with
  | error fault =>
    rw [rendered] at failed
    cases failed
    exact id
  | ok text =>
    rw [rendered] at failed
    cases failed

namespace Run

/-! ## What steps fail for -/

/-- The last template that was rendered failed so. -/
def RendererFailed (renderer : Renderer) (e : Failure) (w : World) : Prop :=
  ∃ template context, w.renderings.getLast? = some (template, context) ∧
    renderer template context = .error e

/-- Where the computation fails for a manifest, the renderer is to blame. -/
def Blames (renderer : Renderer) {α : Type} (m : Run α) : Prop :=
  ∀ w e, (exec m w).1 = .error e → e.FromManifest → RendererFailed renderer e (exec m w).2

section

variable {renderer : Renderer} {α β : Type}

theorem Blames.pure (a : α) : Blames renderer (pure a) := fun _ _ failed => by cases failed

theorem Blames.bind {m : Run α} {f : α → Run β} (first : Blames renderer m)
    (next : ∀ a, Blames renderer (f a)) : Blames renderer (m >>= f) := by
  intro w e failed
  rcases ran : exec m w with ⟨e' | a, v⟩
  · rw [exec_bind_of_error ran] at failed ⊢
    cases failed
    have blamed := first w e
    rw [ran] at blamed
    exact blamed rfl
  · rw [exec_bind_of_ok ran] at failed ⊢
    exact next a v e failed

theorem Blames.report (r : Report) : Blames renderer (report r) := fun _ _ failed => by cases failed

theorem Blames.note (n : Note) : Blames renderer (note n) := fun _ _ failed => by cases failed

/-- What fails only for the disk does not fail for a manifest. -/
theorem Blames.of_transfers {m : Run α} (transfers : Transfers m) : Blames renderer m :=
  fun w e failed fromManifest => absurd fromManifest ((transfers w).2 e failed).not_fromManifest

theorem Blames.render (template : String) (context : Context) :
    Blames renderer (render renderer template context) := by
  intro w e failed _
  rw [exec_render] at failed ⊢
  exact ⟨template, context, List.getLast?_concat, failed⟩

/-- A copy is refused, or it fails for the disk. -/
theorem blames_copyPath (source dest : Path) : Blames renderer (copyPath source dest) := by
  intro w e failed fromManifest
  cases refused : refuses w.disk source dest with
  | true =>
    rw [exec_copyPath_of_refused refused] at failed
    cases failed
    cases fromManifest
  | false => exact absurd fromManifest ((changes_copyPath refused).2 e failed).not_fromManifest

theorem blames_template (srcRoot destRoot : Path) (t : Transfer) (context : Context) :
    Blames renderer (template renderer srcRoot destRoot t context) :=
  .bind (.of_transfers (Transfers.reading _)) fun _ => .bind (.render _ _) fun _ =>
    .bind (.report _) fun _ => .of_transfers (transfers_writeText _ _)

theorem blames_unlessGated (destRoot : Path) (t : Transfer) {body : Run Unit}
    (blames : Blames renderer body) : Blames renderer (unlessGated destRoot t body) := by
  have gate : Blames renderer (isGated destRoot t) :=
    .bind (.of_transfers Transfers.disk) fun _ => .pure _
  refine .bind gate fun gated => ?_
  split
  · exact .report _
  · exact blames

/-- A step that fails for a manifest fails as the renderer did. -/
theorem blames_apply (srcRoot destRoot : Path) (step : Step) (context : Context) :
    Blames renderer (apply renderer srcRoot destRoot step context) := by
  cases step with
  | copy t =>
    have copied : Blames renderer (copy srcRoot destRoot t) :=
      .bind (blames_copyPath _ _) fun _ => .report _
    exact .bind (blames_unlessGated destRoot t copied) fun _ => .pure _
  | template t =>
    have rendered : Blames renderer (template renderer srcRoot destRoot t context) :=
      blames_template srcRoot destRoot t context
    exact .bind (blames_unlessGated destRoot t rendered) fun _ => .pure _
  | expand tag => exact .bind (.report _) fun _ => .pure _
  | bind name value => exact .bind (.note _) fun _ => .pure _

end

/-- So does a walk, however deep the packs are that it expands. -/
theorem blames_walk (renderer : Renderer) (destRoot srcRoot : Path) (registry : Registry)
    (steps : List Step) (context : Context) :
    Blames renderer (walk renderer destRoot srcRoot registry steps context) := by
  intro w e failed fromManifest
  obtain ⟨result, alike⟩ := walk_alike_execute renderer destRoot srcRoot registry steps context w
  obtain ⟨stop, left⟩ := exists_stop (result.symm.trans failed)
  obtain ⟨template, context', last, blamed⟩ :=
    blames_apply stop.srcRoot destRoot stop.step stop.context stop.world e stop.fails fromManifest
  refine ⟨template, context', ?_, blamed⟩
  rw [alike.renderings, left]
  exact last

/-! ## How a session goes -/

/-- What a session gives and leaves. -/
inductive Ends (parse : Edn.Parser) (renderer : Renderer) (imports : List Path) (dest : Path) (w : World) :
    Except Failure Outcome × World → Prop
  | notLoaded {e : Failure} {v : World} :
    firstFailure parse w (imports ++ [dest]) = some e → w.Quiet v →
      Ends parse renderer imports dest w (.error e, v)
  | noManifest {v : World} :
    firstFailure parse w (imports ++ [dest]) = none → w.Quiet v →
      Ends parse renderer imports dest w (.ok .noManifest, v)
  | noDest {v : World} :
    firstFailure parse w (imports ++ [dest]) = none → w.Quiet v →
      Ends parse renderer imports dest w (.ok .noDest, v)
  | applied {registry : Registry} {steps : List Step} {v v' : World} {context : Context} :
    firstFailure parse w (imports ++ [dest]) = none → w.Quiet v →
      exec (walk renderer dest dest registry steps .empty) v = (.ok context, v') →
        Ends parse renderer imports dest w (.ok (.applied context), v')
  | notApplied {registry : Registry} {steps : List Step} {v v' : World} {e : Failure} :
    firstFailure parse w (imports ++ [dest]) = none → w.Quiet v →
      exec (walk renderer dest dest registry steps .empty) v = (.error e, v') →
        Ends parse renderer imports dest w (.error e, v')

/-- A session loads all directories in order. Then it stops, or it walks. -/
theorem ends_session (parse : Edn.Parser) (renderer : Renderer) (imports : List Path) (dest : Path)
    (w : World) : Ends parse renderer imports dest w (exec (session parse renderer imports dest) w) := by
  obtain ⟨quiet, -⟩ := reads_buildRegistry parse imports w
  have first := failure_buildRegistry parse imports w
  have all := firstFailure_append_one parse w imports dest
  rw [session]
  rcases built : exec (buildRegistry parse imports) w with ⟨e | registry, v⟩
  · rw [built] at first quiet
    rw [← first] at all
    rw [exec_bind_of_error built]
    exact .notLoaded all quiet
  · rw [built] at first quiet
    rw [exec_bind_of_ok built]
    obtain ⟨quiet', same⟩ := reads_load parse dest v
    rw [← first, same w quiet.disk.symm] at all
    have reached : w.Quiet (exec (load parse dest) v).2 := quiet.trans quiet'
    rcases loaded : exec (load parse dest) v with ⟨e | found, u⟩
    · rw [loaded] at all reached
      rw [exec_bind_of_error loaded]
      exact .notLoaded all reached
    · rw [loaded] at all reached
      rw [exec_bind_of_ok loaded]
      cases found with
      | none => exact .noManifest all (reached.trans (.report id))
      | some manifest =>
        dsimp only
        split
        · exact .noDest all (reached.trans (.report id))
        · rcases walked : exec (walk renderer dest dest registry manifest.steps .empty) u with
            ⟨e | context, v'⟩
          · rw [exec_bind_of_error walked]
            exact .notApplied all reached walked
          · rw [exec_bind_of_ok walked]
            exact .applied all reached walked

end Run

end Scaffold
