import SchemaLedger.ChangeSet.Basic
import SchemaLedger.CommandLine.Arguments
import SchemaLedger.Files.Path

/-!
# Invocations

The arguments of the program name the file of the configuration, and a job with options of its own.
The file and the URL of the server can also come from the environment; an argument goes before it.
-/

namespace SchemaLedger

/-- What the program is to do. -/
inductive Job where
  | migrate (skip : List String)
  | preview (summary : Bool)
  | history (limit : Nat)
  | sql (file : String) (direction : Direction)
  deriving DecidableEq, Repr

/-- The names of jobs. -/
inductive JobName where
  | migrate
  | preview
  | history
  | sql
  deriving DecidableEq, Repr

namespace JobName

/-- The names with their texts. -/
def named : List (String × JobName) :=
  [("migrate", .migrate), ("preview", .preview), ("history", .history), ("sql", .sql)]

/-- The name with a text. -/
def ofText? (text : String) : Option JobName :=
  (named.find? fun entry => entry.1 == text).map (·.2)

/-- The arguments of a job. -/
def shape : JobName → CommandShape
  | .migrate => ⟨[.skip, .help], 0⟩
  | .preview => ⟨[.summary, .help], 0⟩
  | .history => ⟨[.limit, .help], 0⟩
  | .sql => ⟨[.down, .help], 1⟩

/-- How many records are shown if nothing else is said. -/
def defaultLimit : Nat := 20

/-- The job that arguments ask for. A value of `skip` is a list of files with commas between
them. -/
def ofGiven (g : Given) : JobName → Except Stop Job
  | .migrate => .ok (.migrate ((g.values .skip).flatMap (Text.split ',')))
  | .preview => .ok (.preview (g.has .summary))
  | .history => .ok (.history (((g.value? .limit).bind readLimit).getD defaultLimit))
  | .sql =>
    match g.words with
    | [] => .error (.usage (.wordMissing "FILE"))
    | name :: _ => .ok (.sql name (if g.has .down then .down else .up))

end JobName

/-- What the environment says. -/
structure Environment where
  config : Option String
  databaseUrl : Option String
  deriving DecidableEq, Repr

/-- A job with the file of its configuration. -/
structure Invocation where
  configFile : Path
  databaseUrl : Option String
  verbose : Bool
  job : Job
  deriving DecidableEq, Repr

namespace Invocation

/-- The file of the configuration if nothing else is said. -/
def defaultConfigFile : String := "tramp.json"

/-- The arguments in front of the job. -/
def shape : CommandShape := ⟨[.config, .databaseUrl, .verbose, .help, .version], 0⟩

/-- The file of the configuration. -/
def configFileOf (environment : Environment) (g : Given) : Except Stop String :=
  match (g.value? .config).or environment.config with
  | none => .ok defaultConfigFile
  | some "" => .error (.usage (.invalidValue .config ""))
  | some name => .ok name

/-- A request for help about a job, or about the program. -/
def helpAbout : List String → Stop
  | [] => .help
  | [name] =>
    if name = "help" ∨ (JobName.ofText? name).isSome then .help
    else .usage (.unknownCommand name)
  | _ :: name :: _ => .usage (.unknownCommand name)

/-- The job that the arguments from its name on ask for. -/
def jobOf (name : String) (arguments : List String) : Except Stop Job :=
  if name = "help" then .error (helpAbout arguments)
  else
    match JobName.ofText? name with
    | none => .error (.usage (.unknownCommand name))
    | some name =>
      match name.shape.readAll arguments with
      | .error stop => .error stop
      | .ok given => name.ofGiven given

/-- The invocation that arguments ask for in an environment. -/
def ofArguments (environment : Environment) (arguments : List String) : Except Stop Invocation :=
  match shape.read .empty arguments with
  | .error stop => .error stop
  | .ok (_, []) => .error (.usage .commandMissing)
  | .ok (g, name :: rest) => do
    if name = "--" then throw (.usage .commandMissing)
    let job ← jobOf name rest
    let configFile ← configFileOf environment g
    pure
      { configFile := ⟨configFile⟩
        databaseUrl := (g.value? .databaseUrl).or environment.databaseUrl
        verbose := g.has .verbose
        job := job }

end Invocation

end SchemaLedger
