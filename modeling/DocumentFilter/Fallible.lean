/-!
# Steps that may fail

When a step that follows another one succeeds, and when the two fail.
-/

namespace Except

variable {ε ε' α β : Type}

theorem map_eq_ok_iff {f : α → β} {step : Except ε α} {result : β} :
    step.map f = .ok result ↔ ∃ a, step = .ok a ∧ f a = result := by
  cases step <;> simp [Except.map]

theorem map_eq_error_iff {f : α → β} {step : Except ε α} {fault : ε} :
    step.map f = .error fault ↔ step = .error fault := by
  cases step <;> simp [Except.map]

@[simp]
theorem mapError_ok (f : ε → ε') (result : α) :
    (.ok result : Except ε α).mapError f = .ok result := rfl

@[simp]
theorem mapError_error (f : ε → ε') (fault : ε) :
    (.error fault : Except ε α).mapError f = .error (f fault) := rfl

theorem mapError_eq_ok_iff {f : ε → ε'} {step : Except ε α} {result : α} :
    step.mapError f = .ok result ↔ step = .ok result := by
  cases step <;> simp

theorem mapError_eq_error_iff {f : ε → ε'} {step : Except ε α} {fault : ε'} :
    step.mapError f = .error fault ↔ ∃ e, step = .error e ∧ f e = fault := by
  cases step <;> simp

theorem bind_eq_ok_iff {f : α → Except ε β} {step : Except ε α} {result : β} :
    step.bind f = .ok result ↔ ∃ a, step = .ok a ∧ f a = .ok result := by
  cases step <;> simp [Except.bind]

end Except
