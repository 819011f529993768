import SchemaLedger.Proofs.Database.Ledger

/-!
# Records read back

A row of the ledger table is read back as the entry that it holds (`LedgerEntry.IsRow`), with the
number and the time that the database gave it (`LedgerRecord.ofRow_eq_ok`).  The history asks for
whole rows, and a database in memory answers with rows of its records, so each record of the history
has the entry of a record (`Ledger.toLedgerEntry_mem_of_recent`).
-/

namespace SchemaLedger

/-- A row holds the texts of an entry. -/
structure LedgerEntry.IsRow (entry : LedgerEntry) (row : Sql.Row) : Prop where
  migration : row.get? "migration" = some (.text entry.migration)
  path : row.get? "path" = some (.text entry.path)
  authors : row.get? "authors" = some (.text entry.authors)
  ranSql : row.get? "ran_sql" = some (.text entry.ranSql)

namespace LedgerRecord

variable {entry : LedgerEntry} {row : Sql.Row} {rows : List Sql.Row} {r : LedgerRecord}

/-! ## Rows -/

/-- The text in a column is the text of its cell. -/
lemma textOf_of_get? {column text : String} (h : row.get? column = some (.text text)) :
    textOf row column = .ok text := by
  simp only [textOf, h]

/-- A row that holds an entry is read back as that entry, with the number and the time of the row.
-/
theorem ofRow_eq_ok (h : entry.IsRow row) {id : Int} (hid : row.int? "id" = some id)
    {time : String} (htime : row.get? "ran_at" = some (.text time)) {ranAt : Timestamp}
    (hranAt : Timestamp.ofText time = .ok ranAt) : ofRow row = .ok ⟨entry, id, ranAt⟩ := by
  have hmigration := textOf_of_get? h.migration
  have hpath := textOf_of_get? h.path
  have hauthors := textOf_of_get? h.authors
  have hranSql := textOf_of_get? h.ranSql
  have hcolumn := textOf_of_get? htime
  simp only [ofRow, hid, hcolumn, hranAt, hmigration, hpath, hauthors, hranSql, bind,
    Except.bind, pure, Except.pure]

/-- What is read back from a row that holds an entry has that entry. -/
theorem toLedgerEntry_of_ofRow (h : entry.IsRow row) (hr : ofRow row = .ok r) :
    r.toLedgerEntry = entry := by
  have hmigration := textOf_of_get? h.migration
  have hpath := textOf_of_get? h.path
  have hauthors := textOf_of_get? h.authors
  have hranSql := textOf_of_get? h.ranSql
  simp only [ofRow, hmigration, hpath, hauthors, hranSql, bind, Except.bind, pure,
    Except.pure] at hr
  split at hr
  · cases hr
  · split at hr
    · cases hr
    · split at hr
      · cases hr
      · cases hr
        rfl

/-- Each record that is read back from rows is read back from one of them. -/
lemma exists_row_of_ofRows {records : List LedgerRecord} (h : ofRows rows = .ok records)
    (hr : r ∈ records) : ∃ row ∈ rows, ofRow row = .ok r := by
  induction rows generalizing records with
  | nil =>
    cases h
    exact absurd hr List.not_mem_nil
  | cons row rows ih =>
    rw [ofRows] at h
    split at h
    · cases h
    next first hfirst =>
      split at h
      · cases h
      next others hothers =>
        cases h
        rcases List.mem_cons.mp hr with rfl | hr
        · exact ⟨row, List.mem_cons_self, hfirst⟩
        · obtain ⟨row', hrow', hread⟩ := ih hothers hr
          exact ⟨row', List.mem_cons_of_mem _ hrow', hread⟩

end LedgerRecord

variable {c : Connection Memory} {s : Memory}

namespace Memory

/-- The row of a record holds its entry. -/
lemma isRow_recordRow (position : Nat) (entry : LedgerEntry) :
    entry.IsRow (recordRow position entry) := by
  constructor <;> simp [recordRow, Sql.Row.get?, Text.sameIgnoringCase, Text.lowerAscii]

/-- The items up to a bound are items. -/
lemma mem_of_mem_takeBound {α : Type} {bound : Option Sql.Value} {items : List α} {item : α}
    (h : item ∈ takeBound bound items) : item ∈ items := by
  unfold takeBound at h
  split at h
  · split at h
    · exact List.mem_of_mem_take h
    · exact h
  · exact h

/-- The question for the latest records is answered with rows of records. -/
lemma exists_record_of_respond_recentSql (h : s.responses = []) {limit : Int} {row : Sql.Row}
    (hrow : row ∈ (respond c.settings c.grammar (Ledger.recentSql c) [.int limit] s).1) :
    ∃ position, ∃ entry ∈ s.records, row = recordRow position entry := by
  set sql := Ledger.recentSql c
  have hwords : Text.beginsWith sql "SELECT * FROM " = true :=
    Text.beginsWith_of_append (Text.beginsWith_append _ _)
  have hnames : Text.beginsWith sql
      ("SELECT migration FROM " ++ c.grammar.naming.wrapTable Ledger.tableName) = false :=
    Text.beginsWith_append_eq_false hwords (by decide) _
  have hlookup : Text.beginsWith sql
      ("SELECT id FROM " ++ c.grammar.naming.wrapTable Ledger.tableName) = false :=
    Text.beginsWith_append_eq_false hwords (by decide) _
  simp only [respond, h, List.find?_nil, hnames, hlookup, Bool.false_eq_true, if_false] at hrow
  split_ifs at hrow
  · -- The bound of the question is no name of a database.
    simp [tableRows, Sql.Value.text?] at hrow
  · cases hrow
  · cases hrow
  · dsimp only at hrow
    obtain ⟨⟨entry, position⟩, hentry, rfl⟩ := List.mem_map.mp (mem_of_mem_takeBound hrow)
    rw [List.mem_reverse] at hentry
    exact ⟨position, entry, List.fst_mem_of_mem_zipIdx hentry, rfl⟩
  · cases hrow

end Memory

/-- Each record of the history has the entry of a record of the database. -/
theorem Ledger.toLedgerEntry_mem_of_recent (hc : c.Unreliable) (hs : s.responses = [])
    {limit : Nat} {found : List LedgerRecord} (h : (Ledger.recent c limit s).1 = .ok found)
    {r : LedgerRecord} (hr : r ∈ found) : r.toLedgerEntry ∈ s.records := by
  rcases hc.query (recentSql c) [.int limit] s with ⟨e, s', hquery, -⟩ | hquery
  · have hrecent : Ledger.recent c limit s = (.error (.connection e), s') :=
      Action.bind_of_error (Action.orMigrateError_of_error hquery)
    rw [hrecent] at h
    cases h
  · have hreceived : (s.receive ⟨recentSql c, [.int limit]⟩).responses = [] := hs
    set answer := Memory.respond c.settings c.grammar (recentSql c) [.int limit]
      (s.receive ⟨recentSql c, [.int limit]⟩) with hanswer
    have hrecent : Ledger.recent c limit s =
        ((LedgerRecord.ofRows answer.1).mapError .invalidRecord, answer.2) :=
      Action.bind_of_ok (Action.orMigrateError_of_ok hquery)
    rw [hrecent] at h
    cases hrows : LedgerRecord.ofRows answer.1 with
    | error e =>
      rw [hrows] at h
      cases h
    | ok records =>
      rw [hrows] at h
      cases h
      obtain ⟨row, hrow, hread⟩ := LedgerRecord.exists_row_of_ofRows hrows hr
      rw [hanswer] at hrow
      obtain ⟨position, entry, hentry, rfl⟩ :=
        Memory.exists_record_of_respond_recentSql hreceived hrow
      rw [LedgerRecord.toLedgerEntry_of_ofRow (Memory.isRow_recordRow position entry) hread]
      exact hentry

end SchemaLedger
