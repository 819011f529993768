import SchemaLedger.Grammar.Basic

/-!
# Plain dialects

Two dialects that say no more than they have to: a column type is written as the name of the type,
and a column has no modifiers. `Grammar.ansi` compiles foreign keys only; `Grammar.sparse` compiles
a few other commands instead.
-/

namespace SchemaLedger

/-- Columns written as their name and the name of their type. -/
def ColumnWriter.plain (tablePrefix : String) : ColumnWriter where
  naming := ⟨'"', tablePrefix⟩
  columnType := fun column => .ok column.type.name
  addModifiers := fun _ sql => .ok sql

namespace Grammar

/-- A dialect of a name without abilities of its own. -/
def plain (name : String) (writer : ColumnWriter)
    (compileCommand : Blueprint → Command → Settings → Except SchemaError (Option String)) :
    Grammar where
  toColumnWriter := writer
  name := name
  compileCommand := compileCommand
  tableExists := .error (.notImplemented .tableExists name)
  columnListing := .error (.notImplemented .columnListing name)
  enableForeignKeys := .error (.notImplemented .enableForeignKeys name)
  disableForeignKeys := .error (.notImplemented .disableForeignKeys name)
  initialSql := []

/-- The dialect that compiles foreign keys and nothing else. -/
def ansi (tablePrefix : String) : Grammar :=
  let writer := ColumnWriter.plain tablePrefix
  plain "ansi" writer fun b command _ =>
    match command with
    | .foreign key => .ok (some (writer.naming.addForeignKey b.table key))
    | _ => .ok none

/-- The dialect that compiles the creation of a table, its removal and its comment. -/
def sparse (tablePrefix : String) : Grammar :=
  let writer := ColumnWriter.plain tablePrefix
  plain "sparse" writer fun b command _ =>
    match command with
    | .create =>
      match writer.definitions b.addedColumns with
      | .error e => .error e
      | .ok columns =>
        .ok (some ("CREATE TABLE " ++ writer.naming.wrapTable b.table ++ " (" ++
          Text.join ", " columns ++ ")"))
    | .dropIfExists =>
      .ok (some ("DROP TABLE IF EXISTS " ++ writer.naming.wrapTable b.table ++ ";;"))
    | .comment text => .ok (some text)
    | _ => .ok none

end Grammar

end SchemaLedger
