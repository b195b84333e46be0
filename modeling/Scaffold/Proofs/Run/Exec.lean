import Scaffold.Run.World

/-!
# Executing a run

`Run.exec` takes a computation through a world: it gives the result or the failure, and the world
that is left. Each operation of `Scaffold.Run.World` has its equation here and `Run.exec_bind`
composes them, so that no proof beyond this module opens the monad.
-/

namespace Scaffold.Run

/-- The result of a computation, and the world that it leaves. -/
def exec {α : Type} (m : Run α) (w : World) : Except Failure α × World := m.run.run w

variable {α β : Type} (w : World)

@[simp] theorem exec_pure (a : α) : exec (pure a) w = (.ok a, w) := rfl

@[simp] theorem exec_throw (e : Failure) : exec (throw e : Run α) w = (.error e, w) := rfl

theorem exec_bind (m : Run α) (f : α → Run β) :
    exec (m >>= f) w =
      match exec m w with
      | (.ok a, w') => exec (f a) w'
      | (.error e, w') => (.error e, w') := by
  simp only [exec, ExceptT.run_bind, StateT.run_bind]
  rcases m.run.run w with ⟨e | a, w'⟩
  · rfl
  · rfl

/-- What a first computation gives is what the second one goes on from. -/
theorem exec_bind_of_ok {m : Run α} {a : α} {w w' : World} (first : exec m w = (.ok a, w'))
    (f : α → Run β) : exec (m >>= f) w = exec (f a) w' := by
  rw [exec_bind, first]

/-- A failure ends a sequence. -/
theorem exec_bind_of_error {m : Run α} {e : Failure} {w w' : World}
    (first : exec m w = (.error e, w')) (f : α → Run β) :
    exec (m >>= f) w = (.error e, w') := by
  rw [exec_bind, first]

/-- A sequence that succeeds has succeeded in both parts. -/
theorem exists_of_exec_bind {m : Run α} {f : α → Run β} {b : β} {w w' : World}
    (ran : exec (m >>= f) w = (.ok b, w')) :
    ∃ a v, exec m w = (.ok a, v) ∧ exec (f a) v = (.ok b, w') := by
  rcases first : exec m w with ⟨e | a, v⟩
  · rw [exec_bind_of_error first] at ran
    cases ran
  · rw [exec_bind_of_ok first] at ran
    exact ⟨a, v, rfl, ran⟩

theorem exists_exec_of_isOk {m : Run α} {w : World} (ok : (exec m w).1.isOk = true) :
    ∃ a v, exec m w = (.ok a, v) := by
  rcases ran : exec m w with ⟨e | a, v⟩
  · rw [ran] at ok
    cases ok
  · exact ⟨a, v, rfl⟩

/-- What is made of a result in the end does not touch the world. -/
theorem exec_bind_pure (m : Run α) (f : α → β) :
    exec (m >>= fun a => pure (f a)) w = ((exec m w).1.map f, (exec m w).2) := by
  rw [exec_bind]
  rcases exec m w with ⟨e | a, w'⟩
  · rfl
  · rfl

@[simp] theorem exec_modify (f : World → World) :
    exec (modify f : Run PUnit) w = (.ok ⟨⟩, f w) := rfl

@[simp] theorem exec_report (r : Report) :
    exec (report r) w = (.ok (), { w with reports := w.reports ++ [r] }) := rfl

@[simp] theorem exec_note (n : Note) :
    exec (note n) w = (.ok (), { w with notes := w.notes ++ [n] }) := rfl

@[simp] theorem exec_disk : exec disk w = (.ok w.disk, w) := rfl

@[simp] theorem exec_ofExcept (r : Except Failure α) : exec (ofExcept r) w = (r, w) := by
  cases r with
  | ok a => rfl
  | error e => rfl

@[simp] theorem mapError_ok {ε ε' : Type} (f : ε → ε') (a : α) :
    (Except.ok a : Except ε α).mapError f = .ok a := rfl

@[simp] theorem mapError_error {ε ε' : Type} (f : ε → ε') (e : ε) :
    (Except.error e : Except ε α).mapError f = .error (f e) := rfl

@[simp] theorem exec_reading (op : Disk → Except DiskError α) :
    exec (reading op) w = ((op w.disk).mapError .disk, w) := by
  rw [reading, exec_bind_of_ok (exec_disk w), exec_ofExcept]

theorem exec_change (op : Disk → Except DiskError Disk) :
    exec (change op) w =
      match op w.disk with
      | .ok d => (.ok (), { w with disk := d })
      | .error e => (.error (.disk e), w) := by
  rw [change, exec_bind, exec_reading]
  cases op w.disk with
  | ok d => rfl
  | error e => rfl

theorem eq_of_exec_reading {op : Disk → Except DiskError α} {a : α} {w v : World}
    (ran : exec (reading op) w = (.ok a, v)) : op w.disk = .ok a ∧ v = w := by
  rw [exec_reading] at ran
  cases read : op w.disk with
  | error e =>
    rw [read] at ran
    cases ran
  | ok b =>
    rw [read] at ran
    cases ran
    exact ⟨rfl, rfl⟩

theorem eq_of_exec_change {op : Disk → Except DiskError Disk} {w v : World}
    (ran : exec (change op) w = (.ok (), v)) : op w.disk = .ok v.disk := by
  rw [exec_change] at ran
  cases made : op w.disk with
  | error e =>
    rw [made] at ran
    cases ran
  | ok d =>
    rw [made] at ran
    cases ran
    rfl

@[simp] theorem exec_render (renderer : Renderer) (template : String) (context : Context) :
    exec (render renderer template context) w =
      (renderer template context,
        { w with renderings := w.renderings ++ [(template, context)] }) := by
  rw [render, exec_bind_of_ok (exec_modify w _), exec_ofExcept]

end Scaffold.Run
