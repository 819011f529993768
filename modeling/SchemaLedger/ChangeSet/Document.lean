import SchemaLedger.ChangeSet.Step
import SchemaLedger.Schema.Document

/-!
# Change scripts in documents

A change script is written as an object with its two lists of steps. A step names its kind under
`action`; the changes of a table stand beside the name of the table.
-/

namespace SchemaLedger

open Json

/-- The fields of a column rename. -/
def ColumnRename.fields : List (RecordField ColumnRename) :=
  [.required "from" Json.text fun name r => { r with oldName := name },
    .required "to" Json.text fun name r => { r with newName := name }]

/-- A column rename is a record of two names. -/
def ColumnRename.decode : Source → Json → Except DecodeError ColumnRename :=
  Json.record "struct ColumnRename" ColumnRename.fields ⟨"", ""⟩

/-- The changes of a table as fields. -/
def TableChanges.fields : List (RecordField TableChanges) :=
  [.optional "engine" (Json.nullable Json.text) fun s c => { c with engine := s },
    .optional "charset" (Json.nullable Json.text) fun s c => { c with charset := s },
    .optional "collation" (Json.nullable Json.text) fun s c => { c with collation := s },
    .optional "comment" (Json.nullable Json.text) fun s c => { c with comment := s },
    .optional "temporary" Json.boolean fun on c => { c with temporary := on },
    .optional "columns" (Json.list Column.decode) fun columns c => { c with columns := columns },
    .optional "renameColumn" (Json.list ColumnRename.decode) fun renames c =>
      { c with renameColumn := renames },
    .optional "dropColumn" (Json.list Json.text) fun names c => { c with dropColumn := names },
    .optional "dropPrimary" Json.boolean fun on c => { c with dropPrimary := on },
    .optional "dropUnique" (Json.list IndexTarget.decode) fun targets c =>
      { c with dropUnique := targets },
    .optional "dropIndex" (Json.list IndexTarget.decode) fun targets c =>
      { c with dropIndex := targets },
    .optional "dropForeign" (Json.list IndexTarget.decode) fun targets c =>
      { c with dropForeign := targets },
    .optional "primary" (Json.list IndexRequest.decode) fun requests c =>
      { c with primary := requests },
    .optional "unique" (Json.list IndexRequest.decode) fun requests c =>
      { c with unique := requests },
    .optional "index" (Json.list IndexRequest.decode) fun requests c =>
      { c with index := requests },
    .optional "foreign" (Json.list ForeignKey.decode) fun keys c => { c with foreign := keys }]

/-- The kinds of steps. -/
inductive StepKind where
  | create
  | table
  | drop
  | dropIfExists
  | rename
  | raw
  deriving DecidableEq, Repr

/-- The kinds of steps with their names. -/
def StepKind.named : List (String × StepKind) :=
  [("create", .create), ("table", .table), ("drop", .drop), ("dropIfExists", .dropIfExists),
    ("rename", .rename), ("raw", .raw)]

/-- The field with the name of a table. -/
def tableField : List (RecordField String) := [.required "table" Json.text fun table _ => table]

/-- Decodes the name of a table and its changes, which stand beside it. -/
def decodeTableChanges (kind : String) : Json → Except DecodeError (String × TableChanges)
  | .object members =>
    match recordOfMembers tableField hold "" .memory members with
    | .error e => .error e
    | .ok (table, others) =>
      match recordOfMembers TableChanges.fields ignore .none .memory others with
      | .error e => .error e
      | .ok (changes, _) => .ok (table, changes)
  | value => .error (mismatch kind value)

/-- Decodes what a step of a kind says beside its kind. -/
def StepKind.decode (value : Json) : StepKind → Except DecodeError Step
  | .create =>
    (decodeTableChanges "struct variant Step::Create" value).map fun p => .create p.1 p.2
  | .table => (decodeTableChanges "struct variant Step::Table" value).map fun p => .table p.1 p.2
  | .drop => (Json.record "struct variant Step::Drop" tableField "" .memory value).map .drop
  | .dropIfExists =>
    (Json.record "struct variant Step::DropIfExists" tableField "" .memory value).map .dropIfExists
  | .rename =>
    (Json.record "struct variant Step::Rename" ColumnRename.fields ⟨"", ""⟩ .memory value).map
      fun names => .rename names.oldName names.newName
  | .raw =>
    (Json.record "struct variant Step::Raw" [.required "sql" Json.text fun sql _ => sql] "" .memory
      value).map fun sql => .raw ⟨sql⟩

/-- A step is an object with its kind under `action`, or a list with its kind in front. -/
def Step.decode (source : Source) (value : Json) : Except DecodeError Step :=
  match tagged "internally tagged enum Step" "action" StepKind.named source value with
  | .error e => .error e
  | .ok (kind, rest) => kind.decode rest

/-- The fields of a change script. -/
def ChangeScript.fields : List (RecordField ChangeScript) :=
  [.optional "up" (Json.list Step.decode) fun steps s => { s with up := steps },
    .optional "down" (Json.list Step.decode) fun steps s => { s with down := steps }]

/-- A change script is a record of two lists, either of which may be absent. -/
def ChangeScript.decode : Source → Json → Except DecodeError ChangeScript :=
  Json.record "struct JsonChangeSet" ChangeScript.fields ⟨[], []⟩

/-- Reads a text as a change script. -/
def ChangeScript.ofText (text : String) : Except DecodeError ChangeScript :=
  (Document.ofText text).decode ChangeScript.decode

end SchemaLedger
