/-!
# Commands on a table

Every change requested for a table is a command. A dialect compiles commands one by one; the kind of
a command is the command without its parameters.
-/

namespace SchemaLedger

/-- An index to add or to drop: its name, its columns in order, and whether it is written inside the
statement that creates the table. -/
structure IndexCommand where
  index : String
  columns : List String
  algorithm : Option String
  inline : Bool
  deriving DecidableEq, Repr

/-- The index of a name over columns, on its own and without an algorithm. -/
def IndexCommand.ofColumns (index : String) (columns : List String) : IndexCommand :=
  ⟨index, columns, none, false⟩

/-- What happens to referring rows when a referred row goes or changes. -/
inductive ForeignAction where
  | noAction
  | restrict
  | cascade
  | setNull
  | setDefault
  deriving DecidableEq, Repr

namespace ForeignAction

/-- The text of an action in statements. -/
def toSql : ForeignAction → String
  | .noAction => "NO ACTION"
  | .restrict => "RESTRICT"
  | .cascade => "CASCADE"
  | .setNull => "SET NULL"
  | .setDefault => "SET DEFAULT"

/-- The actions with their names in documents. -/
def named : List (String × ForeignAction) :=
  [("no_action", .noAction), ("restrict", .restrict), ("cascade", .cascade),
    ("set_null", .setNull), ("set_default", .setDefault)]

end ForeignAction

/-- A foreign key to add. -/
structure ForeignCommand where
  index : String
  columns : List String
  references : List String
  on : String
  onDelete : Option ForeignAction
  onUpdate : Option ForeignAction
  deriving DecidableEq, Repr

/-- A requested change of a table. -/
inductive Command where
  | create
  | add
  | change
  | drop
  | dropIfExists
  | rename (newName : String)
  | primary (index : IndexCommand)
  | unique (index : IndexCommand)
  | index (index : IndexCommand)
  | foreign (key : ForeignCommand)
  | dropPrimary (index : IndexCommand)
  | dropUnique (index : IndexCommand)
  | dropIndex (index : IndexCommand)
  | dropForeign (index : IndexCommand)
  | dropColumn (columns : List String)
  | renameColumn (oldName newName : String)
  | comment (text : String)
  deriving DecidableEq, Repr

/-- The name of the kind of a command. -/
def Command.kind : Command → String
  | .create => "create"
  | .add => "add"
  | .change => "change"
  | .drop => "drop"
  | .dropIfExists => "dropIfExists"
  | .rename _ => "rename"
  | .primary _ => "primary"
  | .unique _ => "unique"
  | .index _ => "index"
  | .foreign _ => "foreign"
  | .dropPrimary _ => "dropPrimary"
  | .dropUnique _ => "dropUnique"
  | .dropIndex _ => "dropIndex"
  | .dropForeign _ => "dropForeign"
  | .dropColumn _ => "dropColumn"
  | .renameColumn _ _ => "renameColumn"
  | .comment _ => "comment"

/-- A request for an index: its columns, and a name and an algorithm if they are given. -/
structure IndexRequest where
  columns : List String
  name : Option String
  algorithm : Option String
  deriving DecidableEq, Repr

/-- An index to drop: by its name, or by the columns from which its name is derived. -/
inductive IndexTarget where
  | named (name : String)
  | over (columns : List String)
  deriving DecidableEq, Repr

/-- A request for a foreign key. -/
structure ForeignKey where
  columns : List String
  name : Option String
  references : List String
  on : String
  onDelete : Option ForeignAction
  onUpdate : Option ForeignAction
  deriving DecidableEq, Repr

/-- The role of an index in derived names. -/
inductive IndexRole where
  | primary
  | unique
  | index
  | foreign
  deriving DecidableEq, Repr

/-- The last part of a derived name. -/
def IndexRole.suffix : IndexRole → String
  | .primary => "primary"
  | .unique => "unique"
  | .index => "index"
  | .foreign => "foreign"

/-- The role of an index that a column can ask for. -/
inductive KeyRole where
  | primary
  | unique
  | index
  deriving DecidableEq, Repr

namespace KeyRole

/-- The role in derived names. -/
def indexRole : KeyRole → IndexRole
  | .primary => .primary
  | .unique => .unique
  | .index => .index

/-- The command that adds an index of the role. -/
def command : KeyRole → IndexCommand → Command
  | .primary => .primary
  | .unique => .unique
  | .index => .index

end KeyRole

end SchemaLedger
