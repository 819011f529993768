import SchemaLedger.Database.Connection
import Mathlib.Order.Defs.Unbundled

/-!
# Relations that actions stay within

An action stays within a relation between states (`Action.Within`) when the state that it leaves
is related to the state that it found, whether or not it failed in between.  Actions that stay
within a preorder compose.  So what is built from the queries of a connection stays within a
preorder as soon as opening, every query and closing do (`Connection.Within`).
-/

namespace SchemaLedger

variable {σ ε ε' α β : Type} {r : σ → σ → Prop}

/-- An action leaves a state that is related to the one that it found. -/
def Action.Within (r : σ → σ → Prop) (a : Action σ ε α) : Prop := ∀ s, r s (a s).2

namespace Action.Within

/-- The errors of an action do not matter. -/
lemma mapError {a : Action σ ε α} (ha : a.Within r) (f : ε → ε') : (a.mapError f).Within r := by
  intro s
  have hs := ha s
  rcases h : a s with ⟨e | value, s'⟩ <;> rw [h] at hs
  · rw [Action.mapError_of_error h]
    exact hs
  · rw [Action.mapError_of_ok h]
    exact hs

variable [IsPreorder σ r]

/-- A value stays within a preorder. -/
lemma result (value : α) : (pure value : Action σ ε α).Within r := fun s => refl_of r s

/-- An error stays within a preorder. -/
lemma fail (e : ε) : (Action.fail e : Action σ ε α).Within r := fun s => refl_of r s

/-- A computation without a state stays within a preorder. -/
lemma ofExcept (result : Except ε α) : (Action.ofExcept result : Action σ ε α).Within r :=
  fun s => refl_of r s

/-- Actions one after another stay within a preorder if each of them does. -/
lemma bind {a : Action σ ε α} {next : α → Action σ ε β} (ha : a.Within r)
    (hnext : ∀ value, (next value).Within r) : (a >>= next).Within r := by
  intro s
  have hs := ha s
  rcases h : a s with ⟨e | value, s'⟩ <;> rw [h] at hs
  · rw [Action.bind_of_error h]
    exact hs
  · rw [Action.bind_of_ok h]
    exact trans_of r hs (hnext value s')

end Action.Within

/-- Opening, every query and closing stay within a relation. -/
structure Connection.Within (r : σ → σ → Prop) (c : Connection σ) : Prop where
  connect : c.connect.Within r
  query : ∀ sql bindings, (c.query sql bindings).Within r
  close : c.close.Within r

end SchemaLedger
