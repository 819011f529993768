import SchemaLedger.Files.Tree
import SchemaLedger.Json.Decode
import SchemaLedger.Ledger.Record
import SchemaLedger.Schema.Error

/-!
# Errors of migrations
-/

namespace SchemaLedger

/-- Why a change-set could not be loaded from its file. -/
inductive LoadError where
  | file (cause : FileError)
  | document (cause : DecodeError)
  | unregistered
  | noLoader
  deriving DecidableEq, Repr

/-- The text of a load error. -/
def LoadError.message : LoadError → String
  | .file cause => cause.message
  | .document cause => cause.message
  | .unregistered => "no registered change-set for this file"
  | .noLoader => "no loader accepts this file"

/-- Why an operation on migrations failed. -/
inductive MigrateError where
  | schema (cause : SchemaError)
  | connection (cause : ConnectionError)
  | file (cause : FileError)
  | settings (path : Path) (cause : FileError)
  | load (path : Path) (cause : LoadError)
  | statement (file sql : String) (completed : Nat) (source : ConnectionError)
  | alreadyMigrated (file : String)
  | duplicate (file : String) (first second : Path)
  | notFound (file : String)
  | invalidRecord (cause : RecordError)
  | document (cause : DecodeError)
  deriving DecidableEq, Repr

/-- The text of a migration error. -/
def MigrateError.message : MigrateError → String
  | .schema cause => cause.message
  | .connection cause => "Connection error: " ++ cause.message
  | .file cause => "IO error: " ++ cause.message
  | .settings path cause =>
    "Invalid configuration: cannot read " ++ path.text ++ ": " ++ cause.message
  | .load path cause =>
    "Failed to load change-set \x27" ++ path.text ++ "\x27: " ++ cause.message
  | .statement name sql completed _ =>
    "Migration \x27" ++ name ++ "\x27 failed after " ++ toString completed ++ " statement(s): " ++
      sql
  | .alreadyMigrated name => "Migration \x27" ++ name ++ "\x27 has already been migrated"
  | .duplicate name first second =>
    "Migration \x27" ++ name ++ "\x27 exists in both " ++ first.text ++ " and " ++ second.text
  | .notFound name => "Migration not found: " ++ name
  | .invalidRecord cause => "Invalid migration record: " ++ cause.message
  | .document cause => "Serialization error: " ++ cause.message

end SchemaLedger
