import Scaffold.Proofs.Run.Exec
import Scaffold.Run.Apply

/-!
# What applying a step gives

A step that is applied without a failure hands to the walk what can be read off the step itself:
nothing for a transfer, an expansion of its tag, or its binding (`directive_of_exec_apply`). What a
template does is told by the reading and the rendering that it begins with (`exec_template_cases`).
-/

namespace Scaffold

/-- What a step asks of the walk when it does not fail. -/
def Step.directive? : Step → Option Directive
  | .copy _ | .template _ => none
  | .expand tag => some (.expand tag)
  | .bind name value => some (.bind name value)

namespace Run

/-- A template is its own text. -/
def verbatim : Renderer := fun text _ => .ok text

theorem eq_of_exec_bind_pure {α β : Type} {m : Run α} {a b : β} {w w' : World}
    (ran : exec (m >>= fun _ => pure a) w = (.ok b, w')) : b = a := by
  rw [exec_bind_pure] at ran
  cases first : (exec m w).1 with
  | ok c =>
    rw [first] at ran
    cases ran
    rfl
  | error e =>
    rw [first] at ran
    cases ran

/-- The directive of a step does not depend on the world. -/
theorem directive_of_exec_apply {renderer : Renderer} {srcRoot destRoot : Path} {step : Step}
    {context : Context} {given : Option Directive} {w w' : World}
    (ran : exec (apply renderer srcRoot destRoot step context) w = (.ok given, w')) :
    given = step.directive? := by
  cases step with
  | copy t => exact eq_of_exec_bind_pure ran
  | template t => exact eq_of_exec_bind_pure ran
  | expand tag => exact eq_of_exec_bind_pure ran
  | bind name value => exact eq_of_exec_bind_pure ran

/-- A template cannot be read, or it is read and fails as the renderer does, or it is reported and its text
is written. -/
theorem exec_template_cases (renderer : Renderer) (srcRoot destRoot : Path) (t : Transfer)
    (context : Context) (w : World) :
    (∃ e, w.disk.readText (srcRoot.absolutize t.src) = .error e ∧
      exec (template renderer srcRoot destRoot t context) w = (.error (.disk e), w)) ∨
    ∃ source, w.disk.readText (srcRoot.absolutize t.src) = .ok source ∧
      ((∃ e, renderer source context = .error e ∧
        exec (template renderer srcRoot destRoot t context) w =
          (.error e, { w with renderings := w.renderings ++ [(source, context)] })) ∨
      ∃ text, renderer source context = .ok text ∧
        exec (template renderer srcRoot destRoot t context) w =
          exec (writeText (destRoot.absolutize t.dest) text)
            { w with
              renderings := w.renderings ++ [(source, context)]
              reports := w.reports ++ [.rendered t.src t.dest] }) := by
  rw [template, exec_bind, exec_reading]
  cases w.disk.readText (srcRoot.absolutize t.src) with
  | error e => exact .inl ⟨e, rfl, rfl⟩
  | ok source =>
    refine .inr ⟨source, rfl, ?_⟩
    simp only [mapError_ok, exec_bind, exec_render]
    cases renderer source context with
    | error e => exact .inl ⟨e, rfl, rfl⟩
    | ok text => exact .inr ⟨text, rfl, rfl⟩

/-- A transfer that is left out is reported as skipped, any other one is carried out. -/
theorem exec_unlessGated (destRoot : Path) (t : Transfer) (body : Run Unit) (w : World) :
    exec (unlessGated destRoot t body) w =
      if t.conditional && w.disk.holds (destRoot.absolutize t.dest) then
        (.ok (), { w with reports := w.reports ++ [.skipped t.dest] })
      else exec body w := by
  have gate : exec (isGated destRoot t) w =
      (.ok (t.conditional && w.disk.holds (destRoot.absolutize t.dest)), w) := rfl
  rw [unlessGated, exec_bind_of_ok gate]
  split
  · rfl
  · rfl

end Run

end Scaffold
