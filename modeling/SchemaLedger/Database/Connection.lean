import SchemaLedger.Database.Action
import SchemaLedger.Schema.ChangeQueue

/-!
# Connections

A connection opens a session, answers statements one at a time, and closes the session. All three
act on a state that belongs to the connection. A queue of schema changes is executed on a connection
statement by statement, and a schema can be asked for its tables and columns.
-/

namespace SchemaLedger

/-- A connection to a database whose state is a `σ`. -/
structure Connection (σ : Type) where
  settings : Settings
  grammar : Grammar
  connect : Action σ ConnectionError Unit
  query : String → List Sql.Value → Action σ ConnectionError (List Sql.Row)
  close : Action σ ConnectionError Unit

namespace Connection

variable {σ : Type}

/-- A queue without entries for the connection. -/
def queue (c : Connection σ) : ChangeQueue := .empty c.grammar c.settings

end Connection

namespace ChangeQueue

variable {σ : Type}

/-- Sends a statement; a rejected one is reported together with the reason. -/
def send (c : Connection σ) (sql : String) (bindings : List Sql.Value) :
    Action σ SchemaError (List Sql.Row) :=
  (c.query sql bindings).mapError (.execution sql)

/-- Sends statements up to the first rejected one, and counts them. -/
def sendAll (c : Connection σ) : List String → Action σ SchemaError Nat
  | [] => pure 0
  | sql :: rest => do
    let _ ← send c sql []
    let count ← sendAll c rest
    pure (count + 1)

/-- Renders and sends entries one by one. An entry is rendered as a whole before its first statement
is sent. -/
def executeEntries (q : ChangeQueue) (c : Connection σ) : List QueueEntry → Action σ SchemaError Nat
  | [] => pure 0
  | entry :: entries => do
    let statements ← Action.ofExcept (q.render entry)
    let count ← sendAll c statements
    let more ← q.executeEntries c entries
    pure (count + more)

/-- Sends all statements of a queue and counts them. The queue is empty afterwards, whether or not a
statement was rejected. -/
def execute (q : ChangeQueue) (c : Connection σ) : Action σ SchemaError Nat × ChangeQueue :=
  (q.executeEntries c q.entries, q.clear)

/-- The values bound in questions about a table: the database, which may be unknown, and the name
of the table with its prefix. -/
def tableBindings (q : ChangeQueue) (c : Connection σ) (table : String) : List Sql.Value :=
  [.ofText? c.settings.database, .text (q.grammar.tablePrefix ++ table)]

/-- Whether the database has a table. -/
def hasTable (q : ChangeQueue) (c : Connection σ) (table : String) : Action σ SchemaError Bool := do
  let sql ← Action.ofExcept q.grammar.tableExists
  let rows ← send c sql (q.tableBindings c table)
  pure (!rows.isEmpty)

/-- The names of the columns of a table. -/
def columnListing (q : ChangeQueue) (c : Connection σ) (table : String) :
    Action σ SchemaError (List String) := do
  let sql ← Action.ofExcept q.grammar.columnListing
  let rows ← send c sql (q.tableBindings c table)
  pure (rows.filterMap (·.text? "column_name"))

end ChangeQueue

end SchemaLedger
