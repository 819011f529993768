import SchemaLedger.Grammar.MySql.AlterColumn
import SchemaLedger.Grammar.MySql.Modifier
import SchemaLedger.Json.Writer

/-!
# The MySQL dialect

`Grammar.mysql` compiles every command. A column is written as its name, its type and its modifiers;
a change of a column passes its new properties to the stored function as quoted texts, with `NULL`
for a property that stays as it is.
-/

namespace SchemaLedger

namespace MySql

/-- The length of a string column for which none is given, unless it is set otherwise. -/
def defaultStringLength : Nat := 255

/-- How MySQL quotes identifiers. -/
def naming (tablePrefix : String) : Naming := ⟨'\x60', tablePrefix⟩

/-! ### Columns -/

/-- A number in parentheses behind the name of a type. -/
def sized (name : String) (n : Nat) : String := name ++ "(" ++ toString n ++ ")"

/-- The name of a type with its digits, when both counts are given. -/
def scaled (name : String) (total places : Option Nat) : String :=
  match total, places with
  | some total, some places => name ++ "(" ++ toString total ++ ", " ++ toString places ++ ")"
  | _, _ => name

/-- The type of a time stamp. -/
def timestampType (precision : Nat) (useCurrent : Bool) : String :=
  sized "TIMESTAMP" precision ++ (if useCurrent then " DEFAULT CURRENT_TIMESTAMP" else "")

/-- The text of a column type. -/
def typeText (stringLength : Nat) : ColumnType → String
  | .char length => sized "CHAR" (length.getD stringLength)
  | .string length => sized "VARCHAR" (length.getD stringLength)
  | .text => "TEXT"
  | .mediumText => "MEDIUMTEXT"
  | .longText => "LONGTEXT"
  | .tinyInteger => "TINYINT"
  | .smallInteger => "SMALLINT"
  | .mediumInteger => "MEDIUMINT"
  | .integer => "INT"
  | .bigInteger => "BIGINT"
  | .float total places => scaled "DOUBLE" total places
  | .double total places => scaled "DOUBLE" total places
  | .decimal total places => scaled "DECIMAL" total places
  | .boolean => "TINYINT(1)"
  | .enumeration allowed => "ENUM(" ++ Text.join ", " (allowed.map Sql.quoteString) ++ ")"
  | .json => "JSON"
  | .jsonb => "JSON"
  | .date => "DATE"
  | .dateTime precision => sized "DATETIME" precision
  | .dateTimeTz precision => sized "DATETIME" precision
  | .time => "TIME"
  | .timeTz => "TIME"
  | .timestamp precision useCurrent => timestampType precision useCurrent
  | .timestampTz precision useCurrent => timestampType precision useCurrent
  | .binary => "BLOB"
  | .uuid => "CHAR(36)"
  | .ipAddress => "VARCHAR(45)"
  | .macAddress => "VARCHAR(17)"

/-- How MySQL writes the columns of a table. -/
def columnWriter (tablePrefix : String) (stringLength : Nat) : ColumnWriter where
  naming := naming tablePrefix
  columnType := fun column => .ok (typeText stringLength column.type)
  addModifiers := fun column sql => Modifier.append (naming tablePrefix) column Modifier.order sql

/-! ### Creating tables -/

/-- A table property behind its words: the blueprint's, or else the connection's. -/
def tableProperty (words : String) (own inherited : Option String) : String :=
  match own.or inherited with
  | some value => words ++ value
  | none => ""

/-- The character set and the collation of a table. -/
def encodingClause (b : Blueprint) (settings : Settings) : String :=
  tableProperty " DEFAULT CHARACTER SET " b.charset settings.charset ++
    tableProperty " COLLATE " b.collation settings.collation

/-- The storage engine of a table. -/
def engineClause (b : Blueprint) (settings : Settings) : String :=
  tableProperty " ENGINE = " b.engine settings.engine

/-- The comment of a table that is created. -/
def commentClause (b : Blueprint) : String :=
  match b.comment with
  | some comment => " COMMENT " ++ Sql.quoteString comment
  | none => ""

/-- An index inside the statement that creates its table. -/
def inlineIndex (naming : Naming) : Command → Option String
  | .primary index =>
    if index.inline then some ("PRIMARY KEY (" ++ naming.columnList index.columns ++ ")") else none
  | .unique index =>
    if index.inline then
      some ("UNIQUE KEY " ++ naming.wrap index.index ++ " (" ++ naming.columnList index.columns ++
        ")")
    else none
  | .index index =>
    if index.inline then
      some ("INDEX " ++ naming.wrap index.index ++ " (" ++ naming.columnList index.columns ++ ")")
    else none
  | _ => none

/-- The statement that creates a table, without its properties. -/
def createTable (writer : ColumnWriter) (b : Blueprint) : Except SchemaError String :=
  match writer.definitions b.addedColumns with
  | .error e => .error e
  | .ok columns =>
    let indexes := b.fluentIndexes.filterMap (inlineIndex writer.naming)
    .ok ((if b.temporary then "CREATE TEMPORARY" else "CREATE") ++ " TABLE " ++
      writer.naming.wrapTable b.table ++ " (" ++ Text.join ", " (columns ++ indexes) ++ ")")

/-! ### Changing columns -/

/-- A modifier of a changed column as a quoted text, or `NULL` to keep the present property. -/
def changeArgument (naming : Naming) (column : Column) (modifier : Modifier) :
    Except SchemaError String :=
  if modifier.isPresent column then
    match modifier.render naming column with
    | .error e => .error e
    | .ok (some text) => .ok (Json.quote text)
    | .ok none => .ok "NULL"
  else .ok "NULL"

/-- A new name as a quoted text, or `NULL` to keep the present one. -/
def nameArgument : Option String → String
  | some name => Json.quote name
  | none => "NULL"

/-- The change of one column of a table. -/
def changeColumn (writer : ColumnWriter) (table : String) (column : Column) :
    Except SchemaError String := do
  let type ← writer.columnType column
  let charset ← changeArgument writer.naming column .charset
  let collation ← changeArgument writer.naming column .collation
  let nullability ← changeArgument writer.naming column .nullable
  let defaultText ← changeArgument writer.naming column .defaultValue
  let comment ← changeArgument writer.naming column .comment
  pure (alterColumnCall table column.name
    [nameArgument column.renameTo, Json.quote type, charset, collation, nullability, "NULL",
      defaultText, comment])

/-- The changes of columns of a table, or the first error among them. -/
def changeColumns (writer : ColumnWriter) (table : String) :
    List Column → Except SchemaError (List String)
  | [] => .ok []
  | column :: columns =>
    match changeColumn writer table column with
    | .error e => .error e
    | .ok block =>
      match changeColumns writer table columns with
      | .error e => .error e
      | .ok blocks => .ok (block :: blocks)

/-- The change of nothing but the name of a column. -/
def renameColumn (table oldName newName : String) : String :=
  alterColumnCall table oldName
    [Json.quote newName, "NULL", "NULL", "NULL", "NULL", "NULL", "NULL", "NULL"]

/-! ### Indexes -/

/-- The statement that adds an index; an empty word for its kind is left out. -/
def addIndex (naming : Naming) (table : String) (index : IndexCommand) (kind : String) : String :=
  let kinds := if kind.isEmpty then [] else [kind]
  let algorithm := match index.algorithm with
    | some algorithm => if algorithm.isEmpty then [] else ["USING " ++ algorithm]
    | none => []
  Text.join " "
    (["ALTER TABLE", naming.wrapTable table, "ADD"] ++ kinds ++ [naming.wrap index.index] ++
      algorithm ++ ["(" ++ naming.columnList index.columns ++ ")"])

/-- The statement that adds an index, unless it is part of the creation of its table. -/
def standaloneIndex (naming : Naming) (table : String) (index : IndexCommand) (kind : String) :
    Option String :=
  if index.inline then none else some (addIndex naming table index kind)

/-! ### Commands -/

/-- The statement that begins with a table to alter. -/
def alterTable (naming : Naming) (b : Blueprint) (change : String) : String :=
  "ALTER TABLE " ++ naming.wrapTable b.table ++ " " ++ change

/-- The text of a command. -/
def compile (writer : ColumnWriter) (b : Blueprint) (command : Command) (settings : Settings) :
    Except SchemaError (Option String) :=
  let n := writer.naming
  match command with
  | .create =>
    match createTable writer b with
    | .error e => .error e
    | .ok sql =>
      .ok (some (sql ++ encodingClause b settings ++ engineClause b settings ++ commentClause b))
  | .add =>
    match writer.definitions b.addedColumns with
    | .error e => .error e
    | .ok [] => .ok none
    | .ok columns =>
      .ok (some (alterTable n b (Text.join ", " (Naming.prependWord "ADD" columns))))
  | .change =>
    match changeColumns writer (n.tablePrefix ++ b.table) b.changedColumns with
    | .error e => .error e
    | .ok [] => .ok none
    | .ok blocks => .ok (some (Text.join ";\n\n" blocks))
  | .drop => .ok (some ("DROP TABLE " ++ n.wrapTable b.table))
  | .dropIfExists => .ok (some ("DROP TABLE IF EXISTS " ++ n.wrapTable b.table))
  | .rename newName =>
    .ok (some ("RENAME TABLE " ++ n.wrapTable b.table ++ " TO " ++ n.wrapTable newName))
  | .primary index => .ok (standaloneIndex n b.table index "PRIMARY KEY")
  | .unique index => .ok (standaloneIndex n b.table index "UNIQUE")
  | .index index => .ok (standaloneIndex n b.table index "INDEX")
  | .foreign key => .ok (some (n.addForeignKey b.table key))
  | .dropPrimary _ => .ok (some (alterTable n b "DROP PRIMARY KEY"))
  | .dropUnique index => .ok (some (alterTable n b ("DROP INDEX " ++ n.wrap index.index)))
  | .dropIndex index => .ok (some (alterTable n b ("DROP INDEX " ++ n.wrap index.index)))
  | .dropForeign index => .ok (some (alterTable n b ("DROP FOREIGN KEY " ++ n.wrap index.index)))
  | .dropColumn columns =>
    .ok (some (alterTable n b (Text.join ", " (Naming.prependWord "DROP" (n.wrapAll columns)))))
  | .renameColumn oldName newName =>
    .ok (some (renameColumn (n.tablePrefix ++ b.table) oldName newName))
  | .comment text => .ok (some (alterTable n b ("COMMENT " ++ Sql.quoteString text)))

end MySql

/-- The MySQL dialect with a table prefix and a length for string columns without one. -/
def Grammar.mysql (tablePrefix : String) (stringLength : Nat) : Grammar where
  toColumnWriter := MySql.columnWriter tablePrefix stringLength
  name := "mysql"
  compileCommand := MySql.compile (MySql.columnWriter tablePrefix stringLength)
  tableExists :=
    .ok "SELECT * FROM information_schema.tables WHERE table_schema = ? AND table_name = ?"
  columnListing :=
    .ok
      "SELECT column_name FROM information_schema.columns WHERE table_schema = ? AND table_name = ?"
  enableForeignKeys := .ok "SET FOREIGN_KEY_CHECKS=1;"
  disableForeignKeys := .ok "SET FOREIGN_KEY_CHECKS=0;"
  initialSql := [MySql.dropAlterFunction, MySql.createAlterFunction]

end SchemaLedger
