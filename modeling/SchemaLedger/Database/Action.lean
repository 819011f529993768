/-!
# Actions with a state

An action reads and changes a state and ends with a result or an error. What it did to the state
before an error stays done.
-/

namespace SchemaLedger

/-- A computation over a state `σ` that gives an `α` or fails with an `ε`. -/
def Action (σ ε α : Type) : Type := σ → Except ε α × σ

namespace Action

variable {σ ε ε' α β : Type}

/-- Runs an action on a state. -/
def run (a : Action σ ε α) (s : σ) : Except ε α × σ := a s

/-- The action that gives a value and does nothing else. -/
def result (a : α) : Action σ ε α := fun s => (.ok a, s)

/-- The action that fails. -/
def fail (e : ε) : Action σ ε α := fun s => (.error e, s)

/-- One action after another; the second one is left out when the first one fails. -/
def andThen (a : Action σ ε α) (next : α → Action σ ε β) : Action σ ε β := fun s =>
  match a s with
  | (.ok value, s') => next value s'
  | (.error e, s') => (.error e, s')

instance : Monad (Action σ ε) where
  pure := result
  bind := andThen

/-- An action that is the result of a computation without a state. -/
def ofExcept (result : Except ε α) : Action σ ε α := fun s => (result, s)

/-- An action with its errors seen as errors of another type. -/
def mapError (f : ε → ε') (a : Action σ ε α) : Action σ ε' α := fun s =>
  match a s with
  | (.ok value, s') => (.ok value, s')
  | (.error e, s') => (.error (f e), s')

/-- A value alone leaves the state as it is. -/
@[simp] theorem pure_apply (a : α) (s : σ) : (pure a : Action σ ε α) s = (.ok a, s) := rfl

/-- A result without a state leaves the state as it is. -/
@[simp] theorem ofExcept_apply (r : Except ε α) (s : σ) : (ofExcept r) s = (r, s) := rfl

/-- The second action starts in the state that the first one left, unless that one failed. -/
theorem bind_apply (a : Action σ ε α) (next : α → Action σ ε β) (s : σ) :
    (a >>= next) s =
      match a s with
      | (.ok value, s') => next value s'
      | (.error e, s') => (.error e, s') := rfl

/-- After a success, two actions do what the second one does. -/
theorem bind_of_ok {a : Action σ ε α} {next : α → Action σ ε β} {s s' : σ} {value : α}
    (h : a s = (.ok value, s')) : (a >>= next) s = next value s' := by
  simp [bind_apply, h]

/-- After a failure, the second action is left out. -/
theorem bind_of_error {a : Action σ ε α} {next : α → Action σ ε β} {s s' : σ} {e : ε}
    (h : a s = (.error e, s')) : (a >>= next) s = (.error e, s') := by
  simp [bind_apply, h]

/-- Three actions can be grouped either way. -/
theorem bind_assoc {γ : Type} (a : Action σ ε α) (next : α → Action σ ε β)
    (last : β → Action σ ε γ) : (a >>= next) >>= last = a >>= fun x => next x >>= last := by
  funext s
  rcases h : a s with ⟨e | value, s'⟩
  · exact (bind_of_error (bind_of_error h)).trans (bind_of_error h).symm
  · simp [bind_apply, h]

/-- A value alone is passed on to the next action. -/
theorem pure_bind (value : α) (next : α → Action σ ε β) : pure value >>= next = next value := rfl

/-- To give the value again adds nothing. -/
theorem bind_pure (a : Action σ ε α) : a >>= pure = a := by
  funext s
  rcases h : a s with ⟨e | value, s'⟩
  · exact bind_of_error h
  · exact bind_of_ok h

/-- A result that is a success is passed on to the next action. -/
theorem ofExcept_ok_bind (value : α) (next : α → Action σ ε β) :
    ofExcept (.ok value) >>= next = next value := rfl

/-- A result without a state can be mapped before it is an action. -/
theorem ofExcept_bind_pure (r : Except ε α) (f : α → β) :
    (ofExcept r >>= fun value => pure (f value) : Action σ ε β) = ofExcept (r.map f) := by
  funext s
  cases r <;> rfl

/-- Errors that are seen as others do not change a success. -/
theorem mapError_of_ok {f : ε → ε'} {a : Action σ ε α} {s s' : σ} {value : α}
    (h : a s = (.ok value, s')) : a.mapError f s = (.ok value, s') := by
  simp [mapError, h]

/-- A failure has the other error, and leaves the same state. -/
theorem mapError_of_error {f : ε → ε'} {a : Action σ ε α} {s s' : σ} {e : ε}
    (h : a s = (.error e, s')) : a.mapError f s = (.error (f e), s') := by
  simp [mapError, h]

end Action

end SchemaLedger
