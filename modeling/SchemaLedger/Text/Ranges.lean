/-!
# Ranges of characters

A class of characters is written down as ascending ranges of code points.
-/

namespace SchemaLedger.Text

/-- Ranges of code points in ascending order, both ends included. -/
abbrev Ranges := List (Nat × Nat)

/-- Whether a character lies in one of the ranges. The search ends at the first range that begins
behind the character. -/
def Ranges.covers (ranges : Ranges) (c : Char) : Bool :=
  match ranges with
  | [] => false
  | (low, high) :: rest => low ≤ c.toNat && (c.toNat ≤ high || Ranges.covers rest c)

end SchemaLedger.Text
