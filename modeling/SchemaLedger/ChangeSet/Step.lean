import SchemaLedger.ChangeSet.Basic

/-!
# Steps of change-sets

A change script lists the steps of both halves of a change-set. A step that creates or alters a
table holds its changes in groups; `TableChanges.apply` requests them group by group in a fixed
order, and within a group in the order of the script.
-/

namespace SchemaLedger

/-- Another name for a column. -/
structure ColumnRename where
  oldName : String
  newName : String
  deriving DecidableEq, Repr

/-- The changes of a table in one step. -/
structure TableChanges where
  engine : Option String
  charset : Option String
  collation : Option String
  comment : Option String
  temporary : Bool
  columns : List Column
  renameColumn : List ColumnRename
  dropColumn : List String
  dropPrimary : Bool
  dropUnique : List IndexTarget
  dropIndex : List IndexTarget
  dropForeign : List IndexTarget
  primary : List IndexRequest
  unique : List IndexRequest
  index : List IndexRequest
  foreign : List ForeignKey
  deriving DecidableEq, Repr

/-- A step of a change script. -/
inductive Step where
  | create (table : String) (changes : TableChanges)
  | table (table : String) (changes : TableChanges)
  | drop (table : String)
  | dropIfExists (table : String)
  | rename (oldName newName : String)
  | raw (sql : Sql.Fragment)
  deriving DecidableEq, Repr

namespace TableChanges

/-- Changes of nothing. -/
def none : TableChanges where
  engine := .none
  charset := .none
  collation := .none
  comment := .none
  temporary := false
  columns := []
  renameColumn := []
  dropColumn := []
  dropPrimary := false
  dropUnique := []
  dropIndex := []
  dropForeign := []
  primary := []
  unique := []
  index := []
  foreign := []

/-- Sets the properties of the table. An existing table takes its comment by a command. -/
def applyProperties (c : TableChanges) (b : Blueprint) : Blueprint :=
  let described : Blueprint :=
    { b with
      engine := c.engine.or b.engine
      charset := c.charset.or b.charset
      collation := c.collation.or b.collation
      temporary := b.temporary || c.temporary }
  match c.comment with
  | .none => described
  | some text =>
    if b.isCreating then { described with comment := some text } else described.setComment text

/-- Requests the changes of a table. -/
def apply (c : TableChanges) (b : Blueprint) : Blueprint :=
  let b := c.applyProperties b
  let b := c.columns.foldl Blueprint.addColumn b
  let b := c.renameColumn.foldl (fun b rename => b.renameColumn rename.oldName rename.newName) b
  let b := if c.dropColumn.isEmpty then b else b.dropColumn c.dropColumn
  let b := if c.dropPrimary then b.dropPrimary else b
  let b := c.dropUnique.foldl Blueprint.dropUnique b
  let b := c.dropIndex.foldl Blueprint.dropIndex b
  let b := c.dropForeign.foldl Blueprint.dropForeign b
  let b := c.primary.foldl Blueprint.primary b
  let b := c.unique.foldl Blueprint.unique b
  let b := c.index.foldl Blueprint.index b
  c.foreign.foldl Blueprint.foreign b

end TableChanges

/-- Queues a step. -/
def Step.apply (q : ChangeQueue) : Step → ChangeQueue
  | .create name changes => (q.create name).edit changes.apply
  | .table name changes => (q.table name).edit changes.apply
  | .drop name => q.drop name
  | .dropIfExists name => q.dropIfExists name
  | .rename oldName newName => q.rename oldName newName
  | .raw sql => q.raw sql

/-- The steps of both halves of a change-set. -/
structure ChangeScript where
  up : List Step
  down : List Step
  deriving DecidableEq, Repr

/-- The change-set that queues the steps of a script in order. -/
def ChangeScript.toChangeSet (script : ChangeScript) : ChangeSet where
  up := fun q => script.up.foldl Step.apply q
  down := fun q => script.down.foldl Step.apply q

end SchemaLedger
