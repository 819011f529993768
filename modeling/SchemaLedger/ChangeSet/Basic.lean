import SchemaLedger.Schema.ChangeQueue

/-!
# Change-sets

A change-set is a unit of schema change: a way to queue the changes, and a way to queue their
reversal.
-/

namespace SchemaLedger

/-- The halves of a change-set. -/
inductive Direction where
  | up
  | down
  deriving DecidableEq, Repr

/-- A unit of schema change, with its reversal. -/
structure ChangeSet where
  up : ChangeQueue → ChangeQueue
  down : ChangeQueue → ChangeQueue

namespace ChangeSet

/-- A change-set without a reversal. -/
def upOnly (up : ChangeQueue → ChangeQueue) : ChangeSet := ⟨up, id⟩

/-- Queues one half of a change-set. -/
def apply (c : ChangeSet) : Direction → ChangeQueue → ChangeQueue
  | .up => c.up
  | .down => c.down

end ChangeSet

end SchemaLedger
