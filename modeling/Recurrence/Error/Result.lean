namespace Recurrence

/-!
# Steps that can fail

A step gives a value or fails with an error.  Steps that follow one another give
values and errors of a chain of steps, and an error can be told in other words.
-/

/-- Two steps give a result if the first gives a value with which the second gives it. -/
theorem bind_eq_ok_iff
    {first : Except ε α}
    {second : α → Except ε β}
    {result : β} :
    first >>= second = .ok result ↔
      ∃ value, first = .ok value ∧ second value = .ok result := by
  cases first with
  | error error => simp [bind, Except.bind]
  | ok value => simp [bind, Except.bind]

/-- Two steps fail if the first fails, or gives a value with which the second fails. -/
theorem bind_eq_error_iff
    {first : Except ε α}
    {second : α → Except ε β}
    {error : ε} :
    first >>= second = .error error ↔
      first = .error error ∨ ∃ value, first = .ok value ∧ second value = .error error := by
  cases first with
  | error error => simp [bind, Except.bind]
  | ok value => simp [bind, Except.bind]

@[simp] theorem mapError_ok
    (f : ε → ε')
    (value : α) :
    (Except.ok value).mapError f = .ok value :=
  rfl

@[simp] theorem mapError_error
    (f : ε → ε')
    (error : ε) :
    (Except.error error : Except ε α).mapError f = .error (f error) :=
  rfl

theorem mapError_eq_ok_iff
    {f : ε → ε'}
    {result : Except ε α}
    {value : α} :
    result.mapError f = .ok value ↔ result = .ok value := by
  cases result with
  | error error => simp
  | ok found => simp

theorem mapError_eq_error_iff
    {f : ε → ε'}
    {result : Except ε α}
    {error : ε'} :
    result.mapError f = .error error ↔ ∃ cause, result = .error cause ∧ f cause = error := by
  cases result with
  | error cause => simp
  | ok found => simp

theorem eq_ok_of_toOption
    {result : Except ε α}
    {value : α}
    (given : result.toOption = some value) :
    result = .ok value := by
  cases result with
  | error error => cases given
  | ok found => rw [Option.some.inj given]

end Recurrence
