import SchemaLedger.Proofs.Database.Memory

/-!
# The ledger in memory

The questions and the insertion of the ledger on a database in memory without canned responses.
Each of them is one query.  Either it fails, and then the records are as before, or it does what its
name says: `Ledger.names` gives the names of the records, `Ledger.isRecorded` says whether a name is
among them, and `Ledger.record` adds one record at the end.  Each has a lemma for the answer, one
for a statement that is told to be rejected, and one for a connection that can fail (`_cases`).
-/

namespace SchemaLedger

variable {c : Connection Memory} {s : Memory}

namespace Memory

/-! ## Answers to the statements of the ledger -/

/-- The question for names is answered with a row for every record. -/
lemma respond_namesSql (h : s.responses = []) (bindings : List Sql.Value) :
    respond c.settings c.grammar (Ledger.namesSql c) bindings s =
      (s.records.map fun r => rowOf "migration" (.text r.migration), s) := by
  set sql := Ledger.namesSql c
  have hwords : Text.beginsWith sql "SELECT migration FROM " = true := Text.beginsWith_append _ _
  have hexists : Text.beginsWith sql "SELECT * FROM information_schema.tables" = false :=
    Text.beginsWith_eq_false hwords (by decide)
  have hcreate : Text.beginsWith sql "CREATE TABLE" = false :=
    Text.beginsWith_eq_false hwords (by decide)
  have hnames : Text.beginsWith sql
      ("SELECT migration FROM " ++ c.grammar.naming.wrapTable Ledger.tableName) = true :=
    Text.beginsWith_self _
  simp only [respond, h, List.find?_nil, hexists, hcreate, hnames, Bool.false_and]
  rfl

/-- The question for a name is answered with a row for every record of that name. -/
lemma respond_lookupSql (h : s.responses = []) (bindings : List Sql.Value) :
    respond c.settings c.grammar (Ledger.lookupSql c) bindings s =
      (s.records.zipIdx.filterMap fun (r, position) =>
        if some r.migration = bindings[0]?.bind Sql.Value.text? then
          some (rowOf "id" (.int (position + 1)))
        else none, s) := by
  set sql := Ledger.lookupSql c
  have hlookup : Text.beginsWith sql
      ("SELECT id FROM " ++ c.grammar.naming.wrapTable Ledger.tableName) = true :=
    Text.beginsWith_append _ _
  have hwords : Text.beginsWith sql "SELECT id FROM " = true := Text.beginsWith_of_append hlookup
  have hexists : Text.beginsWith sql "SELECT * FROM information_schema.tables" = false :=
    Text.beginsWith_eq_false hwords (by decide)
  have hcreate : Text.beginsWith sql "CREATE TABLE" = false :=
    Text.beginsWith_eq_false hwords (by decide)
  have hnames : Text.beginsWith sql
      ("SELECT migration FROM " ++ c.grammar.naming.wrapTable Ledger.tableName) = false :=
    Text.beginsWith_append_eq_false hwords (by decide) _
  simp only [respond, h, List.find?_nil, hexists, hcreate, hnames, hlookup, Bool.false_and]
  rfl

/-- An insertion adds the record of its bindings. -/
lemma respond_insertSql (h : s.responses = []) (bindings : List Sql.Value) :
    respond c.settings c.grammar (Ledger.insertSql c) bindings s =
      ([], { s with records := s.records ++ [insertion bindings] }) := by
  set sql := Ledger.insertSql c
  have hinsert : Text.beginsWith sql
      ("INSERT INTO " ++ c.grammar.naming.wrapTable Ledger.tableName) = true :=
    Text.beginsWith_append _ _
  have hwords : Text.beginsWith sql "INSERT INTO " = true := Text.beginsWith_of_append hinsert
  have hexists : Text.beginsWith sql "SELECT * FROM information_schema.tables" = false :=
    Text.beginsWith_eq_false hwords (by decide)
  have hcreate : Text.beginsWith sql "CREATE TABLE" = false :=
    Text.beginsWith_eq_false hwords (by decide)
  have hnames : Text.beginsWith sql
      ("SELECT migration FROM " ++ c.grammar.naming.wrapTable Ledger.tableName) = false :=
    Text.beginsWith_append_eq_false hwords (by decide) _
  have hlookup : Text.beginsWith sql
      ("SELECT id FROM " ++ c.grammar.naming.wrapTable Ledger.tableName) = false :=
    Text.beginsWith_append_eq_false hwords (by decide) _
  simp only [respond, h, List.find?_nil, hexists, hcreate, hnames, hlookup, hinsert,
    Bool.false_and]
  rfl

end Memory

namespace Ledger

open Memory

/-! ## The names of all records -/

/-- The question for names, when it is answered, gives the names of the records. -/
theorem names_of_answers (hs : s.responses = []) (h : c.Answers (namesSql c) [] s) :
    Ledger.names c s = (.ok s.names, s.receive ⟨namesSql c, []⟩) := by
  have hreceived : (s.receive ⟨namesSql c, []⟩).responses = [] := hs
  rw [Connection.Answers, respond_namesSql hreceived] at h
  refine (Action.bind_of_ok (Action.orMigrateError_of_ok h)).trans ?_
  rw [Action.pure_apply]
  congr 2
  have hrow : ((fun row : Sql.Row => row.text? "migration") ∘ fun r : LedgerEntry =>
      rowOf "migration" (.text r.migration)) = some ∘ LedgerEntry.migration := by
    funext r
    simp [rowOf, Sql.Row.text?, Sql.Row.get?, Text.sameIgnoringCase, Sql.Value.text?]
  rw [List.filterMap_map, hrow, Memory.names, ← List.filterMap_eq_map]
  rfl

/-- The question for names, when it is accepted, gives the names of the records. -/
theorem names_of_accepts (hc : c.InMemory) (hs : s.Ready) (h : s.rejects (namesSql c) = false) :
    Ledger.names c s = (.ok s.names, s.receive ⟨namesSql c, []⟩) :=
  names_of_answers hs.responses (query_of_accepts hc hs.connected h [])

/-- The question for names, when it is rejected, fails with its rejection. -/
theorem names_of_rejects (hc : c.InMemory) (hs : s.Ready) (h : s.rejects (namesSql c) = true) :
    Ledger.names c s =
      (.error (.connection (rejection (namesSql c))), s.receive ⟨namesSql c, []⟩) :=
  Action.bind_of_error (Action.orMigrateError_of_error (query_of_rejects hc hs.connected h []))

/-- The question for names fails and leaves the records, or gives their names. -/
theorem names_cases (hc : c.Unreliable) (hs : s.responses = []) :
    (∃ e s', Ledger.names c s = (.error (.connection e), s') ∧ s.Keeps s' ∧
      s'.records = s.records ∧ ¬c.Accepts (namesSql c) [] s) ∨
    Ledger.names c s = (.ok s.names, s.receive ⟨namesSql c, []⟩) := by
  rcases hc.query (namesSql c) [] s with ⟨e, s', h, hkeeps, hrecords⟩ | h
  · refine Or.inl ⟨e, s', ?_, hkeeps, hrecords, ?_⟩
    · exact Action.bind_of_error (Action.orMigrateError_of_error h)
    · rintro ⟨rows, hrows⟩
      rw [h] at hrows
      cases hrows
  · exact Or.inr (names_of_answers hs h)

/-! ## One name -/

/-- There are rows for the records of a name exactly if it is the name of a record. -/
lemma isEmpty_lookup_rows (records : List LedgerEntry) (name : String) (k : Nat) :
    (!((records.zipIdx k).filterMap fun (r, position) =>
        if some r.migration = some name then some (rowOf "id" (.int (position + 1)))
        else none).isEmpty) = decide (name ∈ records.map LedgerEntry.migration) := by
  induction records generalizing k with
  | nil => rfl
  | cons r records ih =>
    rw [List.zipIdx_cons, List.filterMap_cons]
    by_cases hname : r.migration = name
    · simp [hname]
    · have hne : name ≠ r.migration := Ne.symm hname
      simpa [hname, hne] using ih (k + 1)

/-- The question for a name, when it is answered, says whether a record has it. -/
theorem isRecorded_of_answers (hs : s.responses = []) {name : String}
    (h : c.Answers (lookupSql c) [.text name] s) :
    isRecorded c name s =
      (.ok (decide (name ∈ s.names)), s.receive ⟨lookupSql c, [.text name]⟩) := by
  have hreceived : (s.receive ⟨lookupSql c, [.text name]⟩).responses = [] := hs
  rw [Connection.Answers, respond_lookupSql hreceived] at h
  refine (Action.bind_of_ok (Action.orMigrateError_of_ok h)).trans ?_
  rw [Action.pure_apply]
  congr 2
  exact isEmpty_lookup_rows s.records name 0

/-- The question for a name, when it is accepted, says whether a record has it. -/
theorem isRecorded_of_accepts (hc : c.InMemory) (hs : s.Ready)
    (h : s.rejects (lookupSql c) = false) (name : String) :
    isRecorded c name s =
      (.ok (decide (name ∈ s.names)), s.receive ⟨lookupSql c, [.text name]⟩) :=
  isRecorded_of_answers hs.responses (query_of_accepts hc hs.connected h [.text name])

/-- The question for a name, when it is rejected, fails with its rejection. -/
theorem isRecorded_of_rejects (hc : c.InMemory) (hs : s.Ready)
    (h : s.rejects (lookupSql c) = true) (name : String) :
    isRecorded c name s =
      (.error (.connection (rejection (lookupSql c))),
        s.receive ⟨lookupSql c, [.text name]⟩) :=
  Action.bind_of_error (Action.orMigrateError_of_error
    (query_of_rejects hc hs.connected h [.text name]))

/-- The question for a name fails and leaves the records, or says whether a record has it. -/
theorem isRecorded_cases (hc : c.Unreliable) (hs : s.responses = []) (name : String) :
    (∃ e s', isRecorded c name s = (.error (.connection e), s') ∧ s.Keeps s' ∧
      s'.records = s.records ∧ ¬c.Accepts (lookupSql c) [.text name] s) ∨
    isRecorded c name s =
        (.ok (decide (name ∈ s.names)), s.receive ⟨lookupSql c, [.text name]⟩) ∧
      c.Accepts (lookupSql c) [.text name] s := by
  rcases hc.query (lookupSql c) [.text name] s with ⟨e, s', h, hkeeps, hrecords⟩ | h
  · refine Or.inl ⟨e, s', ?_, hkeeps, hrecords, ?_⟩
    · exact Action.bind_of_error (Action.orMigrateError_of_error h)
    · rintro ⟨rows, hrows⟩
      rw [h] at hrows
      cases hrows
  · exact Or.inr ⟨isRecorded_of_answers hs h, _, congrArg Prod.fst h⟩

/-! ## Adding a record -/

/-- The insertion of a record, when it is answered, adds the record at the end. -/
theorem record_of_answers (hs : s.responses = []) {entry : LedgerEntry}
    (h : c.Answers (insertSql c) entry.bindings s) :
    record c entry s =
      (.ok (),
        { s.receive ⟨insertSql c, entry.bindings⟩ with records := s.records ++ [entry] }) := by
  have hreceived : (s.receive ⟨insertSql c, entry.bindings⟩).responses = [] := hs
  rw [Connection.Answers, respond_insertSql hreceived, insertion_bindings] at h
  exact Action.bind_of_ok (Action.orMigrateError_of_ok h)

/-- The insertion of a record, when it is accepted, adds the record at the end. -/
theorem record_of_accepts (hc : c.InMemory) (hs : s.Ready) (h : s.rejects (insertSql c) = false)
    (entry : LedgerEntry) :
    record c entry s =
      (.ok (),
        { s.receive ⟨insertSql c, entry.bindings⟩ with records := s.records ++ [entry] }) :=
  record_of_answers hs.responses (query_of_accepts hc hs.connected h entry.bindings)

/-- The insertion of a record, when it is rejected, fails with its rejection. -/
theorem record_of_rejects (hc : c.InMemory) (hs : s.Ready) (h : s.rejects (insertSql c) = true)
    (entry : LedgerEntry) :
    record c entry s =
      (.error (.connection (rejection (insertSql c))),
        s.receive ⟨insertSql c, entry.bindings⟩) :=
  Action.bind_of_error (Action.orMigrateError_of_error
    (query_of_rejects hc hs.connected h entry.bindings))

/-- The insertion of a record fails and leaves the records, or adds the record at the end. -/
theorem record_cases (hc : c.Unreliable) (hs : s.responses = []) (entry : LedgerEntry) :
    s.Keeps (record c entry s).2 ∧
    ((∃ e, (record c entry s).1 = .error (.connection e) ∧
        (record c entry s).2.records = s.records) ∨
      (record c entry s).1 = .ok () ∧
        (record c entry s).2.records = s.records ++ [entry]) := by
  rcases hc.query (insertSql c) entry.bindings s with ⟨e, s', h, hkeeps, hrecords⟩ | h
  · have hfails : record c entry s = (.error (.connection e), s') :=
      Action.bind_of_error (Action.orMigrateError_of_error h)
    rw [hfails]
    exact ⟨hkeeps, Or.inl ⟨e, rfl, hrecords⟩⟩
  · rw [record_of_answers hs h]
    exact ⟨⟨rfl, rfl, rfl⟩, Or.inr ⟨rfl, rfl⟩⟩

end Ledger

end SchemaLedger
