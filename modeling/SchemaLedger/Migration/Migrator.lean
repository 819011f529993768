import SchemaLedger.Database.Ledger
import SchemaLedger.Migration.Pending
import SchemaLedger.Migration.Preview

/-!
# Migrators

A migrator applies the change-sets of its configuration that the ledger does not know yet, in the
order of their file names, and records each of them in the ledger. All statements are made before
the first one is sent, so a change-set that cannot be loaded leaves the database as it was; a
statement that is rejected ends the run, and its change-set is not recorded.
-/

namespace SchemaLedger

/-- A configuration with everything that is needed to act on it. -/
structure Migrator (σ : Type) where
  config : Config
  connection : Connection σ
  loaders : List Loader
  authors : Path → Option String
  files : FileSystem

/-- What a run did: the files of the change-sets that ran, and of those that were passed over. -/
structure RunSummary where
  migrated : List String
  skipped : List String
  deriving DecidableEq, Repr

namespace RunSummary

/-- A summary of nothing. -/
def empty : RunSummary := ⟨[], []⟩

/-- The number of change-sets recorded. -/
def total (s : RunSummary) : Nat := s.migrated.length + s.skipped.length

/-- The summary with one more file in front that was passed over. -/
def consSkipped (file : String) (s : RunSummary) : RunSummary :=
  { s with skipped := file :: s.skipped }

/-- The summary with one more file in front that ran. -/
def consMigrated (file : String) (s : RunSummary) : RunSummary :=
  { s with migrated := file :: s.migrated }

end RunSummary

namespace Migrator

variable {σ : Type}

/-- A migrator with the loader of change scripts only, and without authors. -/
def ofConfig (config : Config) (connection : Connection σ) (files : FileSystem) : Migrator σ where
  config := config
  connection := connection
  loaders := [Loader.scripts]
  authors := fun _ => none
  files := files

/-! ### The session -/

/-- Sends statements up to the first rejected one. -/
def sendAll (c : Connection σ) : List String → Action σ MigrateError Unit
  | [] => pure ()
  | sql :: rest => do
    let _ ← (c.query sql []).orMigrateError
    sendAll c rest

/-- Opens the session and prepares the database: the initial statements of the dialect, and the
ledger table. -/
def bootstrap (m : Migrator σ) : Action σ MigrateError Unit := do
  m.connection.connect.orMigrateError
  sendAll m.connection m.connection.grammar.initialSql
  Ledger.ensureTable m.connection

/-- Closes the session. -/
def close (m : Migrator σ) : Action σ MigrateError Unit := m.connection.close.orMigrateError

/-! ### Change-sets -/

/-- All change-sets, in the order of their file names. -/
def changeSets (m : Migrator σ) : Except MigrateError (List Pending) :=
  discover m.files m.loaders m.config.paths

/-- The change-sets without a record. -/
def pending (m : Migrator σ) : Action σ MigrateError (List Pending) := do
  let names ← Ledger.names m.connection
  let found ← Action.ofExcept m.changeSets
  pure (found.filter fun p => !names.contains p.file)

/-- The change-set of a file name. -/
def find (m : Migrator σ) (file : String) : Except MigrateError Pending :=
  match m.changeSets with
  | .error e => .error e
  | .ok found =>
    match found.find? fun p => p.file == file with
    | some p => .ok p
    | none => .error (.notFound file)

/-- Loads a change-set. -/
def load (m : Migrator σ) (p : Pending) : Except MigrateError ChangeSet :=
  match loaderFor m.loaders p.fullPath with
  | none => .error (.load p.fullPath .noLoader)
  | some loader =>
    match loader.load m.files p.fullPath with
    | .ok c => .ok c
    | .error e => .error (.load p.fullPath e)

/-- The statements of one half of a change-set. -/
def sql (m : Migrator σ) (p : Pending) (direction : Direction) :
    Except MigrateError (List String) :=
  match m.load p with
  | .error e => .error e
  | .ok c =>
    match (c.apply direction m.connection.queue).toSql with
    | .ok statements => .ok statements
    | .error e => .error (.schema e)

/-! ### Recording -/

/-- The entry of a change-set in the ledger. The directory is left out when there is only one. -/
def entryOf (m : Migrator σ) (p : Pending) (ran : Ran) : LedgerEntry where
  migration := p.file
  path := if 1 < m.config.paths.length then m.config.relativePath p.path else ""
  authors := (m.authors p.fullPath).getD ""
  ranSql := ran.toText

/-- Records a change-set that has no record yet. -/
def mark (m : Migrator σ) (p : Pending) (ran : Ran) : Action σ MigrateError Unit := do
  let recorded ← Ledger.isRecorded m.connection p.file
  if recorded then Action.fail (.alreadyMigrated p.file)
  else Ledger.record m.connection (m.entryOf p ran)

/-! ### Running -/

/-- The statements of change-sets, or the first error among them. -/
def plan (m : Migrator σ) : List Pending → Except MigrateError (List (Pending × List String))
  | [] => .ok []
  | p :: rest =>
    match m.sql p .up with
    | .error e => .error e
    | .ok statements =>
      match m.plan rest with
      | .error e => .error e
      | .ok planned => .ok ((p, statements) :: planned)

/-- Sends the statements of a change-set; `completed` counts those before. -/
def runStatements (c : Connection σ) (file : String) (completed : Nat) :
    List String → Action σ MigrateError Unit
  | [] => pure ()
  | sql :: rest => do
    let _ ← (c.query sql []).mapError (.statement file sql completed)
    runStatements c file (completed + 1) rest

/-- Carries out a plan: runs and records each change-set, or only records it as passed over. -/
def carryOut (m : Migrator σ) (skip : List String) :
    List (Pending × List String) → Action σ MigrateError RunSummary
  | [] => pure .empty
  | (p, statements) :: rest =>
    if skip.contains p.file then do
      m.mark p .skipped
      let summary ← m.carryOut skip rest
      pure (summary.consSkipped p.file)
    else do
      runStatements m.connection p.file 0 statements
      m.mark p (.statements statements)
      let summary ← m.carryOut skip rest
      pure (summary.consMigrated p.file)

/-- Applies all change-sets without a record; those in `skip` are recorded without being run. -/
def run (m : Migrator σ) (skip : List String) : Action σ MigrateError RunSummary := do
  let found ← m.pending
  let planned ← Action.ofExcept (m.plan found)
  m.carryOut skip planned

/-! ### Showing -/

/-- The entry of a change-set in a preview. -/
def previewEntry (m : Migrator σ) (summary : Bool) (p : Pending) :
    Except MigrateError PreviewEntry :=
  if summary then .ok ⟨m.config.relativePath p.path, p.file, none⟩
  else
    match m.sql p .up with
    | .error e => .error e
    | .ok statements => .ok ⟨m.config.relativePath p.path, p.file, some statements⟩

/-- The entries of change-sets in a preview, or the first error among them. -/
def previewEntries (m : Migrator σ) (summary : Bool) :
    List Pending → Except MigrateError (List PreviewEntry)
  | [] => .ok []
  | p :: rest =>
    match m.previewEntry summary p with
    | .error e => .error e
    | .ok entry =>
      match m.previewEntries summary rest with
      | .error e => .error e
      | .ok entries => .ok (entry :: entries)

/-- The change-sets without a record, with their statements unless it is a summary. -/
def preview (m : Migrator σ) (summary : Bool) : Action σ MigrateError (List PreviewEntry) := do
  let found ← m.pending
  Action.ofExcept (m.previewEntries summary found)

/-- The latest records of the ledger. -/
def history (m : Migrator σ) (limit : Nat) : Action σ MigrateError (List LedgerRecord) :=
  Ledger.recent m.connection limit

end Migrator

end SchemaLedger
