import SchemaLedger.Grammar.Naming
import SchemaLedger.Schema.Blueprint
import SchemaLedger.Schema.Error
import SchemaLedger.Schema.Settings

/-!
# Dialects

A grammar writes the commands of blueprints as statements of one dialect. It says how identifiers
are quoted, how columns are written, and what each command compiles to; a command may compile to
nothing. `Blueprint.toSql` compiles a whole blueprint and ends every statement in one semicolon.
-/

namespace SchemaLedger

/-- How a dialect writes the columns of a table. -/
structure ColumnWriter where
  naming : Naming
  columnType : Column → Except SchemaError String
  addModifiers : Column → String → Except SchemaError String

namespace ColumnWriter

/-- The full definition of a column: its name, its type and its modifiers. -/
def definition (w : ColumnWriter) (column : Column) : Except SchemaError String :=
  match w.columnType column with
  | .error e => .error e
  | .ok type => w.addModifiers column (w.naming.wrap column.name ++ " " ++ type)

/-- The definitions of columns, or the first error among them. -/
def definitions (w : ColumnWriter) : List Column → Except SchemaError (List String)
  | [] => .ok []
  | column :: columns =>
    match w.definition column with
    | .error e => .error e
    | .ok sql =>
      match definitions w columns with
      | .error e => .error e
      | .ok rest => .ok (sql :: rest)

end ColumnWriter

/-- A dialect: what its statements look like. -/
structure Grammar extends ColumnWriter where
  name : String
  compileCommand : Blueprint → Command → Settings → Except SchemaError (Option String)
  tableExists : Except SchemaError String
  columnListing : Except SchemaError String
  enableForeignKeys : Except SchemaError String
  disableForeignKeys : Except SchemaError String
  initialSql : List String

namespace Grammar

/-- The definitions of the columns that a blueprint adds. -/
def columnDefinitions (g : Grammar) (b : Blueprint) : Except SchemaError (List String) :=
  g.toColumnWriter.definitions b.addedColumns

/-- The prefix of table names. -/
def tablePrefix (g : Grammar) : String := g.naming.tablePrefix

end Grammar

/-- A default value as it stands in a definition. -/
def DefaultValue.toSql : DefaultValue → String
  | .fragment f => f.text
  | .null => "NULL"
  | .bool b => if b then "1" else "0"
  | .int i => Sql.quoteString (toString i)
  | .float f => Sql.quoteString f.toText
  | .text s => Sql.quoteString s

/-- A clause for an action, if there is one. -/
def Naming.actionClause (words : String) : Option ForeignAction → String
  | some action => words ++ action.toSql
  | none => ""

/-- The statement that adds a foreign key to a table. -/
def Naming.addForeignKey (n : Naming) (table : String) (key : ForeignCommand) : String :=
  "ALTER TABLE " ++ n.wrapTable table ++ " ADD CONSTRAINT " ++ n.wrap key.index ++
    " FOREIGN KEY (" ++ n.columnList key.columns ++ ") REFERENCES " ++ n.wrapTable key.on ++
    " (" ++ n.columnList key.references ++ ")" ++
    Naming.actionClause " ON DELETE " key.onDelete ++
    Naming.actionClause " ON UPDATE " key.onUpdate

namespace Blueprint

/-- The statement of a compiled text: without white space at its ends and with one semicolon at the
end. A text of white space and semicolons is no statement. -/
def statement? (sql : String) : Option String :=
  let body :=
    Text.dropEndWhile Text.isBlank (Text.dropEndWhile (· == ';') (Text.trim sql).toList)
  if body.isEmpty then none else some (String.ofList (body ++ [';']))

/-- Compiles commands one by one, up to the first error. -/
def compileCommands (g : Grammar) (settings : Settings) (b : Blueprint) :
    List Command → Except SchemaError (List String)
  | [] => .ok []
  | command :: commands =>
    match g.compileCommand b command settings with
    | .error e => .error e
    | .ok sql =>
      match compileCommands g settings b commands with
      | .error e => .error e
      | .ok rest => .ok ((sql.bind statement?).toList ++ rest)

/-- The statements of a blueprint in a dialect. -/
def toSql (b : Blueprint) (g : Grammar) (settings : Settings) : Except SchemaError (List String) :=
  compileCommands g settings b b.resolvedCommands

end Blueprint

end SchemaLedger
