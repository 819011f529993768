import SchemaLedger.Database.Memory
import SchemaLedger.Proofs.Text.Beginning

/-!
# Answers of a database in memory

What each statement of the ledger does to a database in memory without canned responses
(`Memory.Ready`), and what no statement does.  Every later fact about migrations on such a database
rests on the lemmas here: only a statement that begins with the words of an insertion
(`Ledger.insertWords`) changes the records, and a change-set can at most add records without a name.
What does not depend on which statements are rejected is said of connections on which any query can
fail (`Connection.Unreliable`).
-/

namespace SchemaLedger

/-- The words with which an insertion into the ledger begins. -/
def Ledger.insertWords {σ : Type} (c : Connection σ) : String :=
  "INSERT INTO " ++ Ledger.quotedTable c

/-- The database of a connection is one in memory. -/
def Connection.InMemory (c : Connection Memory) : Prop :=
  ∃ settings grammar, c = Memory.connection settings grammar

/-- A query is received and answered by the database in memory. -/
def Connection.Answers (c : Connection Memory) (sql : String) (bindings : List Sql.Value)
    (s : Memory) : Prop :=
  c.query sql bindings s =
    (.ok (Memory.respond c.settings c.grammar sql bindings (s.receive ⟨sql, bindings⟩)).1,
      (Memory.respond c.settings c.grammar sql bindings (s.receive ⟨sql, bindings⟩)).2)

/-- A query does not fail. -/
def Connection.Accepts (c : Connection Memory) (sql : String) (bindings : List Sql.Value)
    (s : Memory) : Prop :=
  ∃ rows, (c.query sql bindings s).1 = .ok rows

variable {c : Connection Memory} {s : Memory}

namespace Memory

/-- The names of the records, in order. -/
def names (s : Memory) : List String := s.records.map LedgerEntry.migration

/-- The session is open, and there are no canned responses. -/
structure Ready (s : Memory) : Prop where
  connected : s.connected = true
  responses : s.responses = []

/-- What no statement changes: whether the session is open, which statements are rejected, and the
canned responses. -/
structure Keeps (s s' : Memory) : Prop where
  connected : s'.connected = s.connected
  failOn : s'.failOn = s.failOn
  responses : s'.responses = s.responses

namespace Keeps

/-- A state keeps what it has. -/
lemma refl (s : Memory) : s.Keeps s := ⟨rfl, rfl, rfl⟩

/-- What is kept twice in a row is kept. -/
lemma trans {s s' s'' : Memory} (h : s.Keeps s') (h' : s'.Keeps s'') : s.Keeps s'' :=
  ⟨h'.connected.trans h.connected, h'.failOn.trans h.failOn, h'.responses.trans h.responses⟩

/-- The session stays open. -/
lemma ready {s s' : Memory} (h : s.Keeps s') (hs : s.Ready) : s'.Ready :=
  ⟨h.connected.trans hs.connected, h.responses.trans hs.responses⟩

/-- The same statements are rejected. -/
lemma rejects_eq {s s' : Memory} (h : s.Keeps s') (sql : String) :
    s'.rejects sql = s.rejects sql := by
  rw [rejects, rejects, h.failOn]

end Keeps

/-- Receiving a statement changes nothing but the log. -/
lemma keeps_receive (s : Memory) (received : Received) : s.Keeps (s.receive received) :=
  ⟨rfl, rfl, rfl⟩

@[simp] lemma names_receive (s : Memory) (received : Received) :
    (s.receive received).names = s.names := rfl

@[simp] lemma records_receive (s : Memory) (received : Received) :
    (s.receive received).records = s.records := rfl

/-! ## The three things that an answer can do -/

/-- The record that an insertion with some bindings adds. -/
def insertion (bindings : List Sql.Value) : LedgerEntry :=
  ⟨bindingText bindings 0, bindingText bindings 1, bindingText bindings 2, bindingText bindings 3⟩

/-- The bindings of a record are read back as that record. -/
lemma insertion_bindings (entry : LedgerEntry) : insertion entry.bindings = entry := rfl

/-- An insertion without bindings adds a record of empty texts. -/
lemma insertion_nil : insertion [] = ⟨"", "", "", ""⟩ := rfl

/-- An answer leaves the database as it is, or the statement created the table of the ledger, or it
added a record. -/
theorem respond_cases (c : Connection Memory) (s : Memory) (sql : String)
    (bindings : List Sql.Value) :
    (respond c.settings c.grammar sql bindings s).2 = s ∨
    (Text.beginsWith sql "CREATE TABLE" = true ∧
      Text.contains sql (Ledger.quotedTable c) = true ∧
      (respond c.settings c.grammar sql bindings s).2 = { s with tableCreated := true }) ∨
    (Text.beginsWith sql (Ledger.insertWords c) = true ∧
      (respond c.settings c.grammar sql bindings s).2 =
        { s with records := s.records ++ [insertion bindings] }) := by
  unfold respond
  split
  · exact Or.inl rfl
  · dsimp only
    split_ifs with hexists hcreate hnames hlookup hinsert hrecent
    · exact Or.inl rfl
    · rw [Bool.and_eq_true] at hcreate
      exact Or.inr (Or.inl ⟨hcreate.1, hcreate.2, rfl⟩)
    · exact Or.inl rfl
    · exact Or.inl rfl
    · exact Or.inr (Or.inr ⟨hinsert, rfl⟩)
    · exact Or.inl rfl
    · exact Or.inl rfl

/-- Answering a statement keeps all that decides about later statements. -/
lemma keeps_respond (c : Connection Memory) (s : Memory) (sql : String)
    (bindings : List Sql.Value) : s.Keeps (respond c.settings c.grammar sql bindings s).2 := by
  rcases respond_cases c s sql bindings with h | ⟨-, -, h⟩ | ⟨-, h⟩ <;>
    rw [h] <;> exact ⟨rfl, rfl, rfl⟩

/-- Answering a statement does not change the log. -/
lemma log_respond (c : Connection Memory) (s : Memory) (sql : String)
    (bindings : List Sql.Value) :
    (respond c.settings c.grammar sql bindings s).2.log = s.log := by
  rcases respond_cases c s sql bindings with h | ⟨-, -, h⟩ | ⟨-, h⟩ <;> rw [h]

/-- Only a statement that begins with the words of an insertion changes the records. -/
lemma records_respond {sql : String} (hsql : Text.beginsWith sql (Ledger.insertWords c) = false)
    (s : Memory) (bindings : List Sql.Value) :
    (respond c.settings c.grammar sql bindings s).2.records = s.records := by
  rcases respond_cases c s sql bindings with h | ⟨-, -, h⟩ | ⟨hinsert, -⟩
  · rw [h]
  · rw [h]
  · rw [hsql] at hinsert
    contradiction

/-- A statement without bindings adds at most a record without a name. -/
lemma mem_names_respond_nil {sql name : String}
    (hname : name ∈ (respond c.settings c.grammar sql [] s).2.names) :
    name ∈ s.names ∨ name = "" := by
  rcases respond_cases c s sql [] with h | ⟨-, -, h⟩ | ⟨-, h⟩ <;> rw [h] at hname
  · exact Or.inl hname
  · exact Or.inl hname
  · rw [names, List.map_append, List.mem_append] at hname
    refine hname.imp_right fun h => ?_
    simpa [insertion_nil] using h

/-! ## Sending a statement -/

/-- Nothing is received when the session is closed. -/
lemma query_of_closed (hc : c.InMemory) (h : s.connected = false) (sql : String)
    (bindings : List Sql.Value) : c.query sql bindings s = (.error .notConnected, s) := by
  obtain ⟨settings, grammar, rfl⟩ := hc
  simp [connection, query, h]

/-- A rejected statement is received and not answered. -/
lemma query_of_rejects (hc : c.InMemory) (hs : s.connected = true) {sql : String}
    (h : s.rejects sql = true) (bindings : List Sql.Value) :
    c.query sql bindings s = (.error (rejection sql), s.receive ⟨sql, bindings⟩) := by
  obtain ⟨settings, grammar, rfl⟩ := hc
  simp [connection, query, hs, h]

/-- An accepted statement is received and answered. -/
lemma query_of_accepts (hc : c.InMemory) (hs : s.connected = true) {sql : String}
    (h : s.rejects sql = false) (bindings : List Sql.Value) : c.Answers sql bindings s := by
  obtain ⟨settings, grammar, rfl⟩ := hc
  simp [Connection.Answers, connection, query, hs, h]

/-- A query fails and does no more than remember the statement, or it is answered. -/
lemma query_cases (hc : c.InMemory) (sql : String) (bindings : List Sql.Value) (s : Memory) :
    (∃ e s', c.query sql bindings s = (.error e, s') ∧
      (s' = s ∨ s' = s.receive ⟨sql, bindings⟩)) ∨ c.Answers sql bindings s := by
  cases hconnected : s.connected with
  | false => exact Or.inl ⟨_, s, query_of_closed hc hconnected sql bindings, Or.inl rfl⟩
  | true =>
    cases hrejects : s.rejects sql with
    | true => exact Or.inl ⟨_, _, query_of_rejects hc hconnected hrejects bindings, Or.inr rfl⟩
    | false => exact Or.inr (query_of_accepts hc hconnected hrejects bindings)

end Memory

/-! ## Connections that fail -/

open Memory

/-- A connection to a database in memory that can fail at any time, for whatever reason: a query is
answered by the database, or it fails and leaves the records.  Opening and closing the session do
not touch the records either. -/
structure Connection.Unreliable (c : Connection Memory) : Prop where
  query : ∀ sql bindings s,
    (∃ e s', c.query sql bindings s = (.error e, s') ∧ s.Keeps s' ∧ s'.records = s.records) ∨
    c.Answers sql bindings s
  connect : ∀ s, (c.connect s).2.records = s.records ∧ (c.connect s).2.responses = s.responses
  close : ∀ s, (c.close s).2.records = s.records ∧ (c.close s).2.responses = s.responses

/-- A database in memory fails for statements that it is told to reject, and while the session is
closed. -/
lemma Connection.InMemory.unreliable (hc : c.InMemory) : c.Unreliable := by
  refine ⟨fun sql bindings s => ?_, fun s => ?_, fun s => ?_⟩
  · rcases query_cases hc sql bindings s with ⟨e, s', h, rfl | rfl⟩ | h
    · exact Or.inl ⟨e, s', h, .refl s', rfl⟩
    · exact Or.inl ⟨e, _, h, keeps_receive s _, rfl⟩
    · exact Or.inr h
  · obtain ⟨settings, grammar, rfl⟩ := hc
    simp only [connection, Memory.connect]
    split <;> exact ⟨rfl, rfl⟩
  · obtain ⟨settings, grammar, rfl⟩ := hc
    simp only [connection, Memory.close]
    split <;> exact ⟨rfl, rfl⟩

/-- A connection with more failures: whether and how a query fails may depend on the query and on
all that happened before. -/
def Connection.failing (c : Connection Memory)
    (fails : Received → Memory → Option ConnectionError) : Connection Memory :=
  { c with
    query := fun sql bindings s =>
      match fails ⟨sql, bindings⟩ s with
      | some e => (.error e, s.receive ⟨sql, bindings⟩)
      | none => c.query sql bindings s }

/-- A query fails and the statement is remembered, or it is what it is without more failures. -/
lemma Connection.query_failing (c : Connection Memory)
    (fails : Received → Memory → Option ConnectionError) (sql : String)
    (bindings : List Sql.Value) (s : Memory) :
    (∃ e, (c.failing fails).query sql bindings s = (.error e, s.receive ⟨sql, bindings⟩)) ∨
      (c.failing fails).query sql bindings s = c.query sql bindings s := by
  unfold Connection.failing
  dsimp only
  split
  · exact Or.inl ⟨_, rfl⟩
  · exact Or.inr rfl

namespace Connection.Unreliable

/-- More failures change nothing but that more queries fail. -/
lemma failing (hc : c.Unreliable) (fails : Received → Memory → Option ConnectionError) :
    (c.failing fails).Unreliable := by
  refine ⟨fun sql bindings s => ?_, hc.connect, hc.close⟩
  rcases c.query_failing fails sql bindings s with ⟨e, hquery⟩ | hquery
  · exact Or.inl ⟨e, _, hquery, keeps_receive s _, rfl⟩
  · rw [Connection.Answers, hquery]
    exact hc.query sql bindings s

/-- A query keeps all that decides about later statements. -/
lemma keeps_query (hc : c.Unreliable) (sql : String) (bindings : List Sql.Value) (s : Memory) :
    s.Keeps (c.query sql bindings s).2 := by
  rcases hc.query sql bindings s with ⟨e, s', h, hkeeps, -⟩ | h <;> rw [h]
  · exact hkeeps
  · exact (keeps_receive s _).trans (keeps_respond c _ sql bindings)

/-- Only a statement that begins with the words of an insertion changes the records. -/
lemma records_query (hc : c.Unreliable) {sql : String}
    (hsql : Text.beginsWith sql (Ledger.insertWords c) = false) (bindings : List Sql.Value)
    (s : Memory) : (c.query sql bindings s).2.records = s.records := by
  rcases hc.query sql bindings s with ⟨e, s', h, -, hrecords⟩ | h <;> rw [h]
  · exact hrecords
  · rw [records_respond hsql, records_receive]

/-- A statement without bindings adds at most a record without a name. -/
lemma mem_names_query_nil (hc : c.Unreliable) {sql name : String}
    (hname : name ∈ (c.query sql [] s).2.names) : name ∈ s.names ∨ name = "" := by
  rcases hc.query sql [] s with ⟨e, s', h, -, hrecords⟩ | h <;> rw [h] at hname
  · rw [names, hrecords] at hname
    exact Or.inl hname
  · have hadded := mem_names_respond_nil hname
    rwa [names_receive] at hadded

end Connection.Unreliable

end SchemaLedger
