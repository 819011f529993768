import SchemaLedger.CommandLine.Invocation
import SchemaLedger.Grammar.MySql
import SchemaLedger.Migration.Migrator

/-!
# Sessions at the console

A job is carried out by a migrator. What it prints stays printed when it fails, and the connection
is closed in either case.
-/

namespace SchemaLedger

/-- The state of a database together with what was printed. -/
structure Console (σ : Type) where
  database : σ
  output : String
  deriving DecidableEq, Repr

namespace Console

variable {σ ε α : Type}

/-- Prints a text. -/
def print (text : String) : Action (Console σ) ε Unit := fun s =>
  (.ok (), { s with output := s.output ++ text })

/-- An action on the database, which prints nothing. -/
def onDatabase (a : Action σ ε α) : Action (Console σ) ε α := fun s =>
  let (result, database) := a s.database
  (result, { s with database := database })

end Console

namespace Job

/-! ### Texts -/

/-- The line about a directory that does not exist. -/
def missingLine (dir : Path) : String :=
  " WARN migration directory does not exist path=" ++ dir.text

/-- The lines about the directories that do not exist. -/
def warnings (files : FileSystem) (dirs : List Path) : String :=
  unlines ((missingDirectories files dirs).map missingLine)

/-- The line about what a run did. -/
def summaryText (s : RunSummary) : String :=
  if s.total = 0 then unlines [" INFO No pending migrations to migrate."]
  else
    unlines [" INFO " ++ toString s.total ++ " migrations migrated. migrated=" ++
      toString s.migrated.length ++ " skipped=" ++ toString s.skipped.length]

/-- A text with blanks in front up to a width. -/
def padLeft (width : Nat) (text : String) : String :=
  String.ofList (List.replicate (width - text.length) ' ') ++ text

/-- A text with blanks behind it up to a width. -/
def padRight (width : Nat) (text : String) : String :=
  text ++ String.ofList (List.replicate (width - text.length) ' ')

/-- The line of a record. -/
def recordLine (r : LedgerRecord) : String :=
  " " ++ padLeft 4 (toString r.id) ++ "  " ++ padRight 16 r.path ++ " " ++ r.migration ++
    (if r.isSkipped then " [skipped]" else "") ++ "  " ++ r.ranAt.toText ++ "  " ++ r.authors

/-- The lines of the latest records. -/
def historyText (limit : Nat) (records : List LedgerRecord) : String :=
  if records.isEmpty then unlines [" INFO No migrations migrated yet."]
  else
    unlines (["", "Last " ++ toString limit ++ " migrated migrations:",
      String.ofList (List.replicate 80 '-')] ++ records.map recordLine ++ [""])

/-! ### Carrying out -/

open Console

variable {σ : Type}

/-- Carries out a job. -/
def perform (m : Migrator σ) : Job → Action (Console σ) MigrateError Unit
  | .migrate skip => do
    onDatabase m.bootstrap
    print (warnings m.files m.config.paths)
    let summary ← onDatabase (m.run skip)
    print (summaryText summary)
  | .preview summary => do
    onDatabase m.bootstrap
    print (warnings m.files m.config.paths)
    let entries ← onDatabase (m.preview summary)
    print (previewText entries)
  | .history limit => do
    onDatabase m.bootstrap
    let records ← onDatabase (m.history limit)
    print (historyText limit records)
  | .sql name direction => do
    print (warnings m.files m.config.paths)
    let found ← Action.ofExcept (m.find name)
    let statements ← Action.ofExcept (m.sql found direction)
    print (unlines statements)

/-- Carries out a job and closes the connection. An error of the job goes before that of closing
the connection. -/
def performAndClose (m : Migrator σ) (job : Job) : Action (Console σ) MigrateError Unit :=
  fun s =>
  let (result, s) := job.perform m s
  let (closed, s) := onDatabase m.close s
  (result.bind fun _ => closed, s)

end Job

/-- What the program leaves: its exit code, and the texts on the standard streams. -/
structure Report where
  code : Nat
  output : String
  errors : String
  deriving DecidableEq, Repr

namespace Report

/-- The report of a failure. -/
def failure (output : String) (e : MigrateError) : Report :=
  ⟨1, output, unlines ["Error: " ++ e.message]⟩

/-- The name and the version of the program. -/
def versionText : String := unlines ["tramp 0.1.0"]

/-- A short description of the arguments. -/
def helpText : String :=
  unlines
    ["Tracks and applies schema change-sets.",
      "",
      "Usage: tramp [OPTIONS] <COMMAND>",
      "",
      "Commands:",
      "  migrate [--skip <FILES>]      Apply pending migrations",
      "  preview [--summary]           Show pending migrations",
      "  history [--limit <COUNT>]     Show recently applied migrations",
      "  sql [--down] <FILE>           Print the SQL of one migration file without executing it",
      "",
      "Options:",
      "  -c, --config <FILE>           Configuration file [env: TRAMP_CONFIG]",
      "  -d, --database-url <URL>      Database URL [env: DATABASE_URL]",
      "  -v, --verbose                 Enable verbose output",
      "  -h, --help                    Print help",
      "  -V, --version                 Print version"]

/-- The report when there is nothing to carry out. -/
def ofStop : Stop → Report
  | .usage cause => ⟨2, "", unlines ["error: " ++ cause.message]⟩
  | .help => ⟨0, helpText, ""⟩
  | .version => ⟨0, versionText, ""⟩

end Report

namespace Invocation

/-- The configuration of an invocation. -/
def config (i : Invocation) (files : FileSystem) : Except MigrateError Config :=
  (Config.load files i.configFile).map fun c =>
    match i.databaseUrl with
    | some url => c.withDatabaseUrl url
    | none => c

/-- The connection of a configuration. -/
def connectionOf (c : Config) : Connection Unit :=
  .unopened c.connection (Grammar.mysql c.connection.tablePrefix MySql.defaultStringLength)

/-- Carries out an invocation. -/
def perform (i : Invocation) (files : FileSystem) : Report :=
  match i.config files with
  | .error e => .failure "" e
  | .ok config =>
    match i.job.performAndClose (.ofConfig config (connectionOf config) files) ⟨(), ""⟩ with
    | (.ok _, console) => ⟨0, console.output, ""⟩
    | (.error e, console) => .failure console.output e

end Invocation

/-- What the program does with its arguments. -/
def answerArguments (environment : Environment) (files : FileSystem) (arguments : List String) :
    Report :=
  match Invocation.ofArguments environment arguments with
  | .error stop => .ofStop stop
  | .ok invocation => invocation.perform files

end SchemaLedger
