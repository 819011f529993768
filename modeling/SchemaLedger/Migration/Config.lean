import SchemaLedger.Database.Address
import SchemaLedger.Migration.Error
import SchemaLedger.Schema.Document

/-!
# Configurations

A configuration says in which directories change-sets are looked for and how the server is reached.
Relative directories are seen from a base directory, which is where the file of the configuration
lies. No directory is listed twice, whatever its spelling.
-/

namespace SchemaLedger

open Json

/-- The configuration of a migrator. -/
structure Config where
  baseDir : Path
  paths : List Path
  connection : Settings
  deriving DecidableEq, Repr

namespace Config

/-- A configuration without directories. -/
def ofBase (baseDir : Path) : Config := ⟨baseDir, [], .empty⟩

/-! ### Directories -/

/-- A path seen from the base directory. -/
def absolutePath (c : Config) (p : Path) : Path :=
  if p.normal.isAbsolute then p.normal else c.baseDir.join p.normal

/-- The text of a path relative to the base directory if it lies below it, or of the path itself. -/
def relativePath (c : Config) (p : Path) : String :=
  ((p.normal.below c.baseDir).getD p.normal).text

/-- Adds a directory that is not listed yet. -/
def addPath (c : Config) (p : Path) : Config :=
  let path := c.absolutePath p
  if c.paths.any fun other => other.same path then c else { c with paths := c.paths ++ [path] }

/-! ### Documents -/

/-- The paths in a text with commas between them; white space around them and empty ones do not
count. -/
def splitPaths (text : String) : List String :=
  ((Text.split ',' text).map Text.trim).filter fun path => !path.isEmpty

/-- The list of paths is a list of texts or one text. -/
def decodePaths (_ : Source) : Json → Except DecodeError (List String) :=
  firstOf "PathsSetting"
    [Json.list Json.text .memory, fun v => (Json.text .memory v).map splitPaths]

/-- A configuration as it is written: its paths, a table prefix, and connection settings. -/
structure Written where
  paths : Option (List String)
  tablePrefix : Option String
  connection : Settings
  deriving DecidableEq, Repr

/-- The fields of a written configuration. -/
def Written.fields : List (RecordField Written) :=
  [.optional "paths" (Json.nullable decodePaths) fun paths w => { w with paths := paths },
    .optional "tablePrefix" (Json.nullable Json.text) fun s w => { w with tablePrefix := s },
    .optional "connection" Settings.decode fun s w => { w with connection := s }]

/-- A written configuration is a record of which nothing is required. -/
def Written.decode : Source → Json → Except DecodeError Written :=
  Json.record "struct RawConfig" Written.fields ⟨none, none, .empty⟩

/-- The configuration that is meant by a written one. Its own table prefix goes before that of the
connection settings. -/
def ofWritten (w : Written) (baseDir : Path) : Config :=
  let settings := w.connection.completed
  let start : Config :=
    { baseDir := baseDir
      paths := []
      connection := { settings with tablePrefix := w.tablePrefix.getD settings.tablePrefix } }
  ((w.paths.getD []).map Path.mk).foldl addPath start

/-- Reads a text as a configuration. -/
def ofText (text : String) (baseDir : Path) : Except MigrateError Config :=
  match (Document.ofText text).decode Written.decode with
  | .ok written => .ok (ofWritten written baseDir)
  | .error e => .error (.document e)

/-- The directory of an absolute path. -/
def directoryOf (p : Path) : Path := .ofComponents p.components.dropLast

/-- Loads the configuration in a file. -/
def load (files : FileSystem) (path : Path) : Except MigrateError Config :=
  match files.readText path with
  | .error e => .error (.settings path e)
  | .ok text =>
    match files.canonical path with
    | .error e => .error (.file e)
    | .ok absolute => ofText text (directoryOf absolute)

/-- The configuration with another URL, and with the database of that URL if it names one. -/
def withDatabaseUrl (c : Config) (url : String) : Config :=
  { c with
    connection :=
      { c.connection with
        url := some url
        database := (ServerAddress.databaseOfUrl url).or c.connection.database } }

end Config

end SchemaLedger
