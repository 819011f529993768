import SchemaLedger.Database.Connection
import SchemaLedger.Ledger.Record
import SchemaLedger.Migration.Error

/-!
# The ledger table

The table in which a database keeps which change-sets were applied to it: how it is created, asked
and written through a connection.
-/

namespace SchemaLedger

/-- The errors of a connection as errors of migrations. -/
def Action.orMigrateError {σ α : Type} (a : Action σ ConnectionError α) :
    Action σ MigrateError α :=
  a.mapError .connection

/-- A success of a connection is one of the migration. -/
theorem Action.orMigrateError_of_ok {σ α : Type} {a : Action σ ConnectionError α} {s s' : σ}
    {value : α} (h : a s = (.ok value, s')) : a.orMigrateError s = (.ok value, s') :=
  Action.mapError_of_ok h

/-- A failure of a connection is one of the migration, with its error inside. -/
theorem Action.orMigrateError_of_error {σ α : Type} {a : Action σ ConnectionError α} {s s' : σ}
    {e : ConnectionError} (h : a s = (.error e, s')) :
    a.orMigrateError s = (.error (.connection e), s') :=
  Action.mapError_of_error h

namespace Ledger

variable {σ : Type}

/-- The name of the ledger table, without the table prefix. -/
def tableName : String := "tramp_migrations"

/-- The quoted name of the ledger table. -/
def quotedTable (c : Connection σ) : String := c.grammar.naming.wrapTable tableName

/-- The blueprint of the ledger table. -/
def blueprint : Blueprint :=
  [Column.increments "id" .integer,
    (Column.ofType "migration" (.string none)).setUnique,
    (Column.ofType "path" (.string none)).setDefault (.text ""),
    (Column.ofType "authors" (.string none)).setDefault (.text ""),
    Column.ofType "ran_sql" .text,
    (Column.ofType "ran_at" (.dateTime 0)).setDefault (.fragment ⟨"CURRENT_TIMESTAMP"⟩)].foldl
    Blueprint.addColumn (Blueprint.ofTable tableName).create

/-- Creates the ledger table unless it exists. -/
def ensureTable (c : Connection σ) : Action σ MigrateError Unit := do
  let found ← (c.queue.hasTable c tableName).mapError .schema
  if found then pure ()
  else
    let _ ← ((c.queue.push blueprint).execute c).1.mapError .schema
    pure ()

/-- The statement that asks for the names of all records. -/
def namesSql (c : Connection σ) : String := "SELECT migration FROM " ++ quotedTable c

/-- The statement that asks for the records of a name. -/
def lookupSql (c : Connection σ) : String :=
  "SELECT id FROM " ++ quotedTable c ++ " WHERE migration = ?"

/-- The statement that adds a record. -/
def insertSql (c : Connection σ) : String :=
  "INSERT INTO " ++ quotedTable c ++ " (migration, path, authors, ran_sql) VALUES (?, ?, ?, ?)"

/-- The statement that asks for the latest records. -/
def recentSql (c : Connection σ) : String :=
  "SELECT * FROM " ++ quotedTable c ++ " ORDER BY ran_at DESC, id DESC LIMIT ?"

/-- The names of all records. -/
def names (c : Connection σ) : Action σ MigrateError (List String) := do
  let rows ← (c.query (namesSql c) []).orMigrateError
  pure (rows.filterMap (·.text? "migration"))

/-- Whether there is a record of a name. -/
def isRecorded (c : Connection σ) (migration : String) : Action σ MigrateError Bool := do
  let rows ← (c.query (lookupSql c) [.text migration]).orMigrateError
  pure (!rows.isEmpty)

/-- Adds a record. -/
def record (c : Connection σ) (entry : LedgerEntry) : Action σ MigrateError Unit := do
  let _ ← (c.query (insertSql c) entry.bindings).orMigrateError
  pure ()

/-- The latest records, newest first. -/
def recent (c : Connection σ) (limit : Nat) : Action σ MigrateError (List LedgerRecord) := do
  let rows ← (c.query (recentSql c) [.int limit]).orMigrateError
  Action.ofExcept ((LedgerRecord.ofRows rows).mapError .invalidRecord)

end Ledger

end SchemaLedger
