/-!
# Powers of two and of ten
-/

namespace SchemaLedger

/-- The power of two with an exponent. -/
def twoPow (n : Nat) : Nat := Nat.pow 2 n

/-- The power of ten with an exponent. -/
def tenPow (n : Nat) : Nat := Nat.pow 10 n

/-- The power with the exponent zero. -/
@[simp] theorem tenPow_zero : tenPow 0 = 1 := rfl

/-- Every further exponent is a factor of ten. -/
theorem tenPow_succ (n : Nat) : tenPow (n + 1) = tenPow n * 10 := rfl

end SchemaLedger
