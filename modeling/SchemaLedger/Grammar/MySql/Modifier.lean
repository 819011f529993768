import SchemaLedger.Grammar.Basic

/-!
# Modifiers of MySQL columns

A modifier writes one attribute of a column behind its type. The modifiers of the attributes that
are present are written in a fixed order, and three of them refuse columns of the wrong type.
-/

namespace SchemaLedger.MySql

/-- A modifier, named for the attribute it writes. -/
inductive Modifier where
  | virtualAs
  | storedAs
  | unsigned
  | charset
  | collation
  | nullable
  | defaultValue
  | autoIncrement
  | comment
  | after
  | first
  deriving DecidableEq, Repr

namespace Modifier

/-- The name of a modifier in messages. -/
def name : Modifier → String
  | .virtualAs => "virtualAs"
  | .storedAs => "storedAs"
  | .unsigned => "unsigned"
  | .charset => "charset"
  | .collation => "collation"
  | .nullable => "nullable"
  | .defaultValue => "default"
  | .autoIncrement => "autoIncrement"
  | .comment => "comment"
  | .after => "after"
  | .first => "first"

/-- The modifiers in the order in which they are written. -/
def order : List Modifier :=
  [.virtualAs, .storedAs, .unsigned, .charset, .collation, .nullable, .defaultValue, .autoIncrement,
    .comment, .after, .first]

/-- Whether a column has the attribute that the modifier writes. -/
def isPresent (column : Column) : Modifier → Bool
  | .virtualAs => column.virtualAs.isSome
  | .storedAs => column.storedAs.isSome
  | .unsigned => column.unsigned.isSome
  | .charset => column.charset.isSome
  | .collation => column.collation.isSome
  | .nullable => column.nullable.isSome
  | .defaultValue => column.defaultValue.isSome
  | .autoIncrement => column.autoIncrement.isSome
  | .comment => column.comment.isSome
  | .after => column.after.isSome
  | .first => column.first.isSome

/-- The error for an attribute that the type of the column cannot have. -/
def unsupported (column : Column) (modifier : Modifier) : SchemaError :=
  .unsupportedModifier modifier.name column.name column.type.name

/-- A text that is there and not empty. -/
def written? (text : Option String) : Option String :=
  text.filter fun s => !s.isEmpty

/-- The text of a modifier, whether or not the column has its attribute. -/
def render (naming : Naming) (column : Column) (modifier : Modifier) :
    Except SchemaError (Option String) :=
  match modifier with
  | .virtualAs => .ok ((written? column.virtualAs).map fun e => " AS (" ++ e ++ ")")
  | .storedAs => .ok ((written? column.storedAs).map fun e => " AS (" ++ e ++ ") STORED")
  | .unsigned =>
    match column.unsigned with
    | none => .ok none
    | some on =>
      if column.type.isNumeric then .ok (if on then some " UNSIGNED" else none)
      else .error (unsupported column .unsigned)
  | .charset =>
    match column.charset with
    | none => .ok none
    | some name =>
      if column.type.isTextual then .ok (some (" CHARACTER SET " ++ name))
      else .error (unsupported column .charset)
  | .collation =>
    match written? column.collation with
    | none => .ok none
    | some name =>
      if column.type.isTextual then .ok (some (" COLLATE " ++ name))
      else .error (unsupported column .collation)
  | .nullable =>
    .ok (if column.isGenerated then none
      else if column.nullable = some true then some " NULL" else some " NOT NULL")
  | .defaultValue => .ok (column.defaultValue.map fun value => " DEFAULT " ++ value.toSql)
  | .autoIncrement =>
    .ok (if column.type.isSerial && column.autoIncrement = some true then
      some " AUTO_INCREMENT PRIMARY KEY" else none)
  | .comment => .ok (column.comment.map fun text => " COMMENT " ++ Sql.quoteString text)
  | .after => .ok ((written? column.after).map fun name => " AFTER " ++ naming.wrap name)
  | .first => .ok (if column.first = some true then some " FIRST" else none)

/-- The text of a modifier whose attribute is present, and the empty text of one whose attribute is
absent. -/
def fragment (naming : Naming) (column : Column) (modifier : Modifier) :
    Except SchemaError String :=
  if modifier.isPresent column then
    match modifier.render naming column with
    | .error e => .error e
    | .ok text => .ok (text.getD "")
  else .ok ""

/-- Writes modifiers behind a text, one after another. -/
def append (naming : Naming) (column : Column) : List Modifier → String → Except SchemaError String
  | [], sql => .ok sql
  | modifier :: modifiers, sql =>
    match modifier.fragment naming column with
    | .error e => .error e
    | .ok text => append naming column modifiers (sql ++ text)

end Modifier

end SchemaLedger.MySql
