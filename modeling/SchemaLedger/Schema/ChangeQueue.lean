import SchemaLedger.Grammar.Basic

/-!
# Queues of schema changes

A queue collects blueprints and statements written as they are, in order. The entries name the
blueprints by position, so that the blueprint queued last can still be edited. `ChangeQueue.toSql`
renders the entries one after another.
-/

namespace SchemaLedger

/-- An entry of a queue: a blueprint, by its position among the blueprints of the queue, or a
statement written as it is. -/
inductive QueueEntry where
  | blueprint (position : Nat)
  | raw (sql : Sql.Fragment)
  deriving DecidableEq, Repr

/-- Schema changes in order, with the dialect and the settings that render them. -/
structure ChangeQueue where
  grammar : Grammar
  settings : Settings
  blueprints : List Blueprint
  entries : List QueueEntry

namespace ChangeQueue

/-- A queue without entries. -/
def empty (grammar : Grammar) (settings : Settings) : ChangeQueue where
  grammar := grammar
  settings := settings
  blueprints := []
  entries := []

/-- The number of entries. -/
def length (q : ChangeQueue) : Nat := q.entries.length

/-- Whether there are no entries. -/
def isEmpty (q : ChangeQueue) : Bool := q.entries.isEmpty

/-- The queue without its entries. -/
def clear (q : ChangeQueue) : ChangeQueue := { q with blueprints := [], entries := [] }

/-! ### Queueing -/

/-- Queues a blueprint. -/
def push (q : ChangeQueue) (b : Blueprint) : ChangeQueue :=
  { q with
    blueprints := q.blueprints ++ [b]
    entries := q.entries ++ [.blueprint q.blueprints.length] }

/-- Edits the blueprint that was queued last. -/
def edit (q : ChangeQueue) (change : Blueprint → Blueprint) : ChangeQueue :=
  { q with blueprints := q.blueprints.modify (q.blueprints.length - 1) change }

/-- Queues a statement to be written as it is. -/
def raw (q : ChangeQueue) (sql : Sql.Fragment) : ChangeQueue :=
  { q with entries := q.entries ++ [.raw sql] }

/-- Queues changes of an existing table. -/
def table (q : ChangeQueue) (name : String) : ChangeQueue := q.push (.ofTable name)

/-- Queues the creation of a table. -/
def create (q : ChangeQueue) (name : String) : ChangeQueue := (q.table name).edit .create

/-- Queues the removal of a table. -/
def drop (q : ChangeQueue) (name : String) : ChangeQueue := (q.table name).edit .drop

/-- Queues the removal of a table if there is one. -/
def dropIfExists (q : ChangeQueue) (name : String) : ChangeQueue :=
  (q.table name).edit .dropIfExists

/-- Queues another name for a table. -/
def rename (q : ChangeQueue) (oldName newName : String) : ChangeQueue :=
  (q.table oldName).edit (·.rename newName)

/-! ### Rendering -/

/-- The statements of an entry. -/
def render (q : ChangeQueue) : QueueEntry → Except SchemaError (List String)
  | .raw sql => .ok [sql.text]
  | .blueprint position =>
    match q.blueprints[position]? with
    | some b => b.toSql q.grammar q.settings
    | none => .ok []

/-- The statements of entries in order, or the first error among them. -/
def renderAll (q : ChangeQueue) : List QueueEntry → Except SchemaError (List String)
  | [] => .ok []
  | entry :: entries =>
    match q.render entry with
    | .error e => .error e
    | .ok statements =>
      match q.renderAll entries with
      | .error e => .error e
      | .ok rest => .ok (statements ++ rest)

/-- The statements of all entries. -/
def toSql (q : ChangeQueue) : Except SchemaError (List String) := q.renderAll q.entries

end ChangeQueue

end SchemaLedger
