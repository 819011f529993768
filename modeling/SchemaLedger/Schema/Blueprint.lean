import SchemaLedger.Schema.Column
import SchemaLedger.Schema.Command
import SchemaLedger.Text.Search

/-!
# Blueprints

A blueprint collects the columns and commands requested for one table. Compiling it leaves it as it
is: the commands it implies, and the indexes that its columns ask for, are computed into a list of
their own. `Blueprint.resolvedCommands` is that list.
-/

namespace SchemaLedger

/-- The changes requested for one table. -/
structure Blueprint where
  table : String
  columns : List Column
  commands : List Command
  engine : Option String
  charset : Option String
  collation : Option String
  comment : Option String
  temporary : Bool
  deriving DecidableEq, Repr

namespace Blueprint

/-- A blueprint that requests nothing. -/
def ofTable (table : String) : Blueprint where
  table := table
  columns := []
  commands := []
  engine := none
  charset := none
  collation := none
  comment := none
  temporary := false

/-! ### Views -/

/-- The columns that are new to the table. -/
def addedColumns (b : Blueprint) : List Column :=
  b.columns.filter fun column => !column.isChange

/-- The columns that alter existing ones. -/
def changedColumns (b : Blueprint) : List Column :=
  b.columns.filter Column.isChange

/-- Whether the blueprint creates its table. -/
def isCreating (b : Blueprint) : Bool :=
  b.commands.contains .create

/-- The name derived from the table, columns and a last word: joined by underscores, without hyphens
and dots. -/
def derivedName (b : Blueprint) (lastWord : String) (columns : List String) : String :=
  let name := b.table ++ "_" ++ Text.join "_" columns ++ "_" ++ lastWord
  String.ofList (name.toList.filter fun c => c != '-' && c != '.')

/-- The derived name of an index; its last word is the role of the index. -/
def indexName (b : Blueprint) (role : IndexRole) (columns : List String) : String :=
  b.derivedName role.suffix columns

/-! ### Requests -/

/-- Appends a command. -/
def addCommand (b : Blueprint) (command : Command) : Blueprint :=
  { b with commands := b.commands ++ [command] }

/-- Appends a column. -/
def addColumn (b : Blueprint) (column : Column) : Blueprint :=
  { b with columns := b.columns ++ [column] }

/-- The index of a request, under its own name or the derived one. -/
def indexOfRequest (b : Blueprint) (role : IndexRole) (request : IndexRequest) : IndexCommand where
  index := request.name.getD (b.indexName role request.columns)
  columns := request.columns
  algorithm := request.algorithm
  inline := false

/-- The index of a target to drop. -/
def indexOfTarget (b : Blueprint) (role : IndexRole) : IndexTarget → IndexCommand
  | .named name => .ofColumns name []
  | .over columns => .ofColumns (b.indexName role columns) columns

/-- Requests the creation of the table. -/
def create (b : Blueprint) : Blueprint := b.addCommand .create

/-- Requests the removal of the table. -/
def drop (b : Blueprint) : Blueprint := b.addCommand .drop

/-- Requests the removal of the table if there is one. -/
def dropIfExists (b : Blueprint) : Blueprint := b.addCommand .dropIfExists

/-- Requests another name for the table. -/
def rename (b : Blueprint) (newName : String) : Blueprint := b.addCommand (.rename newName)

/-- Requests the removal of columns. -/
def dropColumn (b : Blueprint) (columns : List String) : Blueprint :=
  b.addCommand (.dropColumn columns)

/-- Requests another name for a column. -/
def renameColumn (b : Blueprint) (oldName newName : String) : Blueprint :=
  b.addCommand (.renameColumn oldName newName)

/-- Requests another comment for an existing table. -/
def setComment (b : Blueprint) (text : String) : Blueprint := b.addCommand (.comment text)

/-- Requests a primary key. -/
def primary (b : Blueprint) (request : IndexRequest) : Blueprint :=
  b.addCommand (.primary (b.indexOfRequest .primary request))

/-- Requests a unique index. -/
def unique (b : Blueprint) (request : IndexRequest) : Blueprint :=
  b.addCommand (.unique (b.indexOfRequest .unique request))

/-- Requests a plain index. -/
def index (b : Blueprint) (request : IndexRequest) : Blueprint :=
  b.addCommand (.index (b.indexOfRequest .index request))

/-- Requests a foreign key. -/
def foreign (b : Blueprint) (key : ForeignKey) : Blueprint :=
  b.addCommand (.foreign
    { index := key.name.getD (b.indexName .foreign key.columns)
      columns := key.columns
      references := key.references
      on := key.on
      onDelete := key.onDelete
      onUpdate := key.onUpdate })

/-- Requests the removal of the primary key. -/
def dropPrimary (b : Blueprint) : Blueprint :=
  b.addCommand (.dropPrimary (.ofColumns (b.indexName .primary []) []))

/-- Requests the removal of a unique index. -/
def dropUnique (b : Blueprint) (target : IndexTarget) : Blueprint :=
  b.addCommand (.dropUnique (b.indexOfTarget .unique target))

/-- Requests the removal of a plain index. -/
def dropIndex (b : Blueprint) (target : IndexTarget) : Blueprint :=
  b.addCommand (.dropIndex (b.indexOfTarget .index target))

/-- Requests the removal of a foreign key. -/
def dropForeign (b : Blueprint) (target : IndexTarget) : Blueprint :=
  b.addCommand (.dropForeign (b.indexOfTarget .foreign target))

/-! ### Resolution -/

/-- The first index that a column asks for: a primary key before a unique index before a plain
one. -/
def requestedKey (column : Column) : Option (KeyRole × IndexFlag) :=
  let requested (role : KeyRole) (flag : Option IndexFlag) : Option (KeyRole × IndexFlag) :=
    (flag.filter IndexFlag.isEnabled).map fun flag => (role, flag)
  (requested .primary column.primary).or
    ((requested .unique column.unique).or (requested .index column.index))

/-- The command for the index that a column asks for, if it asks for one. On a blueprint that
creates its table the index is part of the statement that does so. -/
def fluentIndex (b : Blueprint) (column : Column) : Option Command :=
  (requestedKey column).map fun (role, flag) =>
    role.command
      { index := flag.name?.getD (b.indexName role.indexRole [column.name])
        columns := [column.name]
        algorithm := none
        inline := b.isCreating }

/-- The commands for the indexes that the columns ask for, in the order of the columns. -/
def fluentIndexes (b : Blueprint) : List Command :=
  b.columns.filterMap b.fluentIndex

/-- The commands that the columns imply on an existing table: a change before an addition. -/
def impliedCommands (b : Blueprint) : List Command :=
  if b.isCreating then []
  else
    (if b.changedColumns.isEmpty then [] else [.change]) ++
      (if b.addedColumns.isEmpty then [] else [.add])

/-- All commands to compile: the implied ones, the requested ones, and those of the columns. -/
def resolvedCommands (b : Blueprint) : List Command :=
  b.impliedCommands ++ b.commands ++ b.fluentIndexes

end Blueprint

end SchemaLedger
