/-!
# Errors of compiling and executing
-/

namespace SchemaLedger

/-- Why a connection did not answer a request. -/
inductive ConnectionError where
  | notConnected
  | driver (text : String)
  deriving DecidableEq, Repr

/-- The text of a connection error. -/
def ConnectionError.message : ConnectionError → String
  | .notConnected => "Connection is not open"
  | .driver text => text

/-- Abilities that a dialect may lack. -/
inductive Capability where
  | tableExists
  | columnListing
  | enableForeignKeys
  | disableForeignKeys
  deriving DecidableEq, Repr

/-- The name of an ability in messages. -/
def Capability.name : Capability → String
  | .tableExists => "compile_table_exists"
  | .columnListing => "compile_column_listing"
  | .enableForeignKeys => "compile_enable_foreign_key_constraints"
  | .disableForeignKeys => "compile_disable_foreign_key_constraints"

/-- Why a schema could not be compiled or executed. -/
inductive SchemaError where
  | unsupportedModifier (modifier column type : String)
  | missingTypeRenderer (grammar column type : String)
  | notImplemented (capability : Capability) (grammar : String)
  | execution (sql : String) (source : ConnectionError)
  deriving DecidableEq, Repr

/-- The text of a schema error. -/
def SchemaError.message : SchemaError → String
  | .unsupportedModifier modifier column type =>
    modifier ++ " modifier for `" ++ column ++ "` of type " ++ type ++ " is unsupported"
  | .missingTypeRenderer grammar column type =>
    "The " ++ grammar ++ " grammar cannot render `" ++ column ++ "` of type " ++ type
  | .notImplemented capability grammar =>
    "`" ++ capability.name ++ "` has not been implemented for the " ++ grammar ++ " grammar"
  | .execution sql _ => "Failed to execute statement: " ++ sql

end SchemaLedger
