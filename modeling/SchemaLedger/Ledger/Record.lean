import SchemaLedger.Ledger.Timestamp
import SchemaLedger.Sql.Value

/-!
# Records of the ledger

The ledger is a table with a record for every change-set that was applied or passed over. A record
is read back from a row; missing and null texts count as empty.
-/

namespace SchemaLedger

/-- What was done for a change-set: its statements ran, or it was passed over. -/
inductive Ran where
  | statements (sql : List String)
  | skipped
  deriving DecidableEq, Repr

namespace Ran

/-- What the ledger holds for a change-set that was passed over. -/
def skippedText : String := "skipped"

/-- What the ledger holds: the statements with a blank line between neighbours, or a word. -/
def toText : Ran → String
  | .statements sql => Text.join "\n\n" sql
  | .skipped => skippedText

/-- The statements that ran are kept as one text, with a blank line between neighbours. -/
theorem toText_statements (sql : List String) :
    (Ran.statements sql).toText = "\n\n".intercalate sql :=
  Text.join_eq_intercalate _ _

end Ran

/-- A record as it is stored: the file of the change-set, its directory, its authors, and what ran.
-/
structure LedgerEntry where
  migration : String
  path : String
  authors : String
  ranSql : String
  deriving DecidableEq, Repr

/-- The values bound when a record is stored. -/
def LedgerEntry.bindings (r : LedgerEntry) : List Sql.Value :=
  [.text r.migration, .text r.path, .text r.authors, .text r.ranSql]

/-- A record read back, with its number and its time. -/
structure LedgerRecord extends LedgerEntry where
  id : Int
  ranAt : Timestamp
  deriving DecidableEq, Repr

/-- Why a row is no record. -/
inductive RecordError where
  | missingId
  | notText (column : String)
  | badTime (text : String) (cause : TimestampError)
  deriving DecidableEq, Repr

/-- The text of a record error. -/
def RecordError.message : RecordError → String
  | .missingId => "missing `id`"
  | .notText column => "`" ++ column ++ "` is not text"
  | .badTime text cause => "`ran_at` value \x27" ++ text ++ "\x27: " ++ cause.message

namespace LedgerRecord

/-- Whether the record says that its change-set was passed over. -/
def isSkipped (r : LedgerRecord) : Bool := r.ranSql == Ran.skippedText

/-- The text in a column of a row. -/
def textOf (row : Sql.Row) (column : String) : Except RecordError String :=
  match row.get? column with
  | none => .ok ""
  | some .null => .ok ""
  | some (.text s) => .ok s
  | some _ => .error (.notText column)

/-- The record in a row. -/
def ofRow (row : Sql.Row) : Except RecordError LedgerRecord :=
  match row.int? "id" with
  | none => .error .missingId
  | some id => do
    let time ← textOf row "ran_at"
    match Timestamp.ofText time with
    | .error cause => .error (.badTime time cause)
    | .ok ranAt =>
      let migration ← textOf row "migration"
      let path ← textOf row "path"
      let authors ← textOf row "authors"
      let ranSql ← textOf row "ran_sql"
      pure ⟨⟨migration, path, authors, ranSql⟩, id, ranAt⟩

/-- The records in rows, or the first error among them. -/
def ofRows : List Sql.Row → Except RecordError (List LedgerRecord)
  | [] => .ok []
  | row :: rows =>
    match ofRow row with
    | .error e => .error e
    | .ok record =>
      match ofRows rows with
      | .error e => .error e
      | .ok records => .ok (record :: records)

end LedgerRecord

end SchemaLedger
