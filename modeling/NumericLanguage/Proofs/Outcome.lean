/-!
# Outcomes of steps

A step that works on a state ends with a result or with a failure, and in a state in either case.
The outcome of a sequence follows by computing one step after the other.
-/

set_option autoImplicit false

namespace NumericLanguage

section Outcomes

variable {ε σ α β : Type} {state middle : σ}

theorem bind_apply (first : EStateM ε σ α) (next : α → EStateM ε σ β) (state : σ) :
    (first >>= next) state =
      match first state with
      | .ok result state => next result state
      | .error failure state => .error failure state := by
  cases run : first state <;> simp only [bind, EStateM.bind, run]

/-- A sequence of steps goes on from where its first step ends. -/
theorem bind_of_ok {first : EStateM ε σ α} {next : α → EStateM ε σ β} {result : α}
    (run : first state = .ok result middle) : (first >>= next) state = next result middle := by
  rw [bind_apply, run]

theorem bind_of_error {first : EStateM ε σ α} {next : α → EStateM ε σ β} {failure : ε}
    (run : first state = .error failure middle) :
    (first >>= next) state = .error failure middle := by
  rw [bind_apply, run]

theorem pure_apply (result : α) (state : σ) :
    (pure result : EStateM ε σ α) state = .ok result state := rfl

theorem get_apply (state : σ) : (get : EStateM ε σ σ) state = .ok state state := rfl

theorem map_apply (change : α → β) (step : EStateM ε σ α) (state : σ) :
    (change <$> step) state =
      match step state with
      | .ok result state => .ok (change result) state
      | .error failure state => .error failure state := by
  cases run : step state <;> simp only [Functor.map, EStateM.map, run]

theorem tryCatch_apply (step : EStateM ε σ α) (handle : ε → EStateM ε σ α) (state : σ) :
    (tryCatch step handle) state =
      match step state with
      | .ok result state => .ok result state
      | .error failure state => handle failure state := by
  change EStateM.tryCatch step handle state = _
  delta EStateM.tryCatch
  cases step state <;> rfl

end Outcomes

end NumericLanguage
