/-!
# Results

What is made of a result or put behind it, when the result is read as an equation or as an option.
-/

namespace Scaffold

variable {ε α β : Type} {x : Except ε α} {f : α → β}

theorem map_eq_ok_iff {b : β} : x.map f = .ok b ↔ ∃ a, x = .ok a ∧ f a = b := by
  cases x <;> simp [Except.map]

theorem map_eq_error_iff {e : ε} : x.map f = .error e ↔ x = .error e := by
  cases x <;> simp [Except.map]

/-- A result that is evaluated as an option. -/
theorem eq_ok_of_toOption {a : α} (given : x.toOption = some a) : x = .ok a := by
  cases x with
  | error _ => cases given
  | ok _ => exact congrArg Except.ok (Option.some.inj given)

theorem toOption_map (x : Except ε α) (f : α → β) : (x.map f).toOption = x.toOption.map f := by
  cases x <;> rfl

theorem toOption_bind (x : Except ε α) (f : α → Except ε β) :
    (x >>= f).toOption = x.toOption.bind fun a => (f a).toOption := by
  cases x <;> rfl

end Scaffold
