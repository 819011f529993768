import SchemaLedger.Schema.ColumnType
import SchemaLedger.Sql.Value

/-!
# Columns

A column is a name, a type and a set of attributes that may be present or absent. An attribute that
is present with the value `false` differs from one that is absent.
-/

namespace SchemaLedger

/-- The default value of a column. -/
inductive DefaultValue where
  | fragment (f : Sql.Fragment)
  | null
  | bool (b : Bool)
  | int (i : Int)
  | float (f : Binary64)
  | text (s : String)
  deriving DecidableEq, Repr

/-- A request for an index on a column: on or off, or on under a given name. -/
inductive IndexFlag where
  | enabled (on : Bool)
  | named (name : String)
  deriving DecidableEq, Repr

namespace IndexFlag

/-- Whether an index is requested; an empty name requests none. -/
def isEnabled : IndexFlag → Bool
  | .enabled on => on
  | .named name => !name.isEmpty

/-- The name given to the index. -/
def name? : IndexFlag → Option String
  | .enabled _ => none
  | .named name => some name

end IndexFlag

/-- A column that is added to a table, or an existing one that is changed. -/
structure Column where
  name : String
  type : ColumnType
  unsigned : Option Bool
  autoIncrement : Option Bool
  nullable : Option Bool
  defaultValue : Option DefaultValue
  comment : Option String
  charset : Option String
  collation : Option String
  after : Option String
  first : Option Bool
  virtualAs : Option String
  storedAs : Option String
  primary : Option IndexFlag
  unique : Option IndexFlag
  index : Option IndexFlag
  change : Option Bool
  renameTo : Option String
  deriving DecidableEq, Repr

namespace Column

/-- A column without attributes. -/
def ofType (name : String) (type : ColumnType) : Column where
  name := name
  type := type
  unsigned := none
  autoIncrement := none
  nullable := none
  defaultValue := none
  comment := none
  charset := none
  collation := none
  after := none
  first := none
  virtualAs := none
  storedAs := none
  primary := none
  unique := none
  index := none
  change := none
  renameTo := none

/-- Whether the column alters an existing one. -/
def isChange (column : Column) : Bool := column.change.getD false

/-- Whether an expression that may be absent is there and not empty. -/
def isWritten (expression : Option String) : Bool :=
  match expression with
  | some text => !text.isEmpty
  | none => false

/-- Whether the column is computed from others. -/
def isGenerated (column : Column) : Bool :=
  isWritten column.virtualAs || isWritten column.storedAs

/-- The column with the current time as default of its type; other types than time stamps have no
such default. -/
def useCurrent (column : Column) : Column :=
  match column.type with
  | .timestamp precision _ => { column with type := .timestamp precision true }
  | .timestampTz precision _ => { column with type := .timestampTz precision true }
  | _ => column

/-- The column as an unsigned one. -/
def setUnsigned (column : Column) : Column := { column with unsigned := some true }

/-- The column as one that counts up. -/
def setAutoIncrement (column : Column) : Column := { column with autoIncrement := some true }

/-- The column with a unique index under the derived name. -/
def setUnique (column : Column) : Column := { column with unique := some (.enabled true) }

/-- The column with a default value. -/
def setDefault (column : Column) (value : DefaultValue) : Column :=
  { column with defaultValue := some value }

/-- A counting key column of an integer type: unsigned, and counting up by itself. -/
def increments (name : String) (type : ColumnType) : Column :=
  ((ofType name type).setUnsigned).setAutoIncrement

end Column

end SchemaLedger
