import SchemaLedger.Database.Ledger

/-!
# A database in memory

A connection that keeps its whole state in one value. It answers the statements of the ledger table,
remembers every statement it received, and can be told to reject statements and to give canned rows.
-/

namespace SchemaLedger

/-- Rows given to every statement that contains a text. -/
structure CannedResponse where
  contains : String
  rows : List Sql.Row
  deriving DecidableEq, Repr

/-- A statement that was received, with its bindings. -/
structure Received where
  sql : String
  bindings : List Sql.Value
  deriving DecidableEq, Repr

/-- The state of a database in memory. `log` holds the statements received, last one first. -/
structure Memory where
  connected : Bool
  tableCreated : Bool
  failOn : Option String
  failConnect : Option String
  failClose : Option String
  responses : List CannedResponse
  records : List LedgerEntry
  log : List Received
  deriving DecidableEq, Repr

namespace Memory

/-- A database that was not used yet. -/
def fresh : Memory where
  connected := false
  tableCreated := false
  failOn := none
  failConnect := none
  failClose := none
  responses := []
  records := []
  log := []

/-- The text of a binding; empty for a missing one and for one that is no text. -/
def bindingText (bindings : List Sql.Value) (position : Nat) : String :=
  (bindings[position]?.bind Sql.Value.text?).getD ""

/-- A row of one cell. -/
def rowOf (name : String) (value : Sql.Value) : Sql.Row := ⟨[(name, value)]⟩

/-- The time of the record at a position. -/
def recordTime (position : Nat) : String :=
  "2024-01-01 00:00:" ++ (if position < 10 then "0" else "") ++ toString position

/-- A record as a row. -/
def recordRow (position : Nat) (r : LedgerEntry) : Sql.Row :=
  ⟨[("id", .int (position + 1)), ("migration", .text r.migration), ("path", .text r.path),
    ("authors", .text r.authors), ("ran_sql", .text r.ranSql),
    ("ran_at", .text (recordTime position))]⟩

/-- The first items of a list, as many as a bound value says; a value that is no count bounds
nothing. -/
def takeBound {α : Type} (bound : Option Sql.Value) (items : List α) : List α :=
  match bound with
  | some (.int n) => if 0 ≤ n then items.take n.toNat else items
  | _ => items

/-- The answer to a question whether a table exists. -/
def tableRows (settings : Settings) (bindings : List Sql.Value) (m : Memory) : List Sql.Row :=
  let table := settings.tablePrefix ++ Ledger.tableName
  let schema := bindings[0]?.bind Sql.Value.text?
  let wanted := bindings[1]?.bind Sql.Value.text?
  if m.tableCreated && schema.isSome && schema == settings.database && wanted == some table then
    [rowOf "table_name" (.text table)]
  else []

/-- Answers a statement that is accepted. -/
def respond (settings : Settings) (grammar : Grammar) (sql : String) (bindings : List Sql.Value)
    (m : Memory) : List Sql.Row × Memory :=
  let table := grammar.naming.wrapTable Ledger.tableName
  match m.responses.find? fun r => Text.contains sql r.contains with
  | some response => (response.rows, m)
  | none =>
    if Text.beginsWith sql "SELECT * FROM information_schema.tables" then
      (tableRows settings bindings m, m)
    else if Text.beginsWith sql "CREATE TABLE" && Text.contains sql table then
      ([], { m with tableCreated := true })
    else if Text.beginsWith sql ("SELECT migration FROM " ++ table) then
      (m.records.map fun r => rowOf "migration" (.text r.migration), m)
    else if Text.beginsWith sql ("SELECT id FROM " ++ table) then
      let wanted := bindings[0]?.bind Sql.Value.text?
      (m.records.zipIdx.filterMap fun (r, position) =>
        if some r.migration = wanted then some (rowOf "id" (.int (position + 1))) else none, m)
    else if Text.beginsWith sql ("INSERT INTO " ++ table) then
      let text := bindingText bindings
      ([], { m with records := m.records ++ [⟨text 0, text 1, text 2, text 3⟩] })
    else if Text.beginsWith sql ("SELECT * FROM " ++ table) then
      (takeBound bindings[0]? (m.records.zipIdx.reverse.map fun (r, position) =>
        recordRow position r), m)
    else ([], m)

/-- Opens the session. -/
def connect : Action Memory ConnectionError Unit := fun m =>
  match m.failConnect with
  | some text => (.error (.driver text), m)
  | none => (.ok (), { m with connected := true })

/-- Closes the session. -/
def close : Action Memory ConnectionError Unit := fun m =>
  match m.failClose with
  | some text => (.error (.driver text), m)
  | none => (.ok (), { m with connected := false })

/-- Whether a statement is to be rejected. -/
def rejects (m : Memory) (sql : String) : Bool := (m.failOn.map (Text.contains sql)).getD false

/-- The error of a statement that is rejected. -/
def rejection (sql : String) : ConnectionError := .driver ("rejected: " ++ sql)

/-- The state in which a statement is remembered. -/
def receive (m : Memory) (received : Received) : Memory := { m with log := received :: m.log }

/-- Receives a statement: it is remembered, and then rejected or answered. -/
def query (settings : Settings) (grammar : Grammar) (sql : String) (bindings : List Sql.Value) :
    Action Memory ConnectionError (List Sql.Row) := fun m =>
  if !m.connected then (.error .notConnected, m)
  else
    let received := m.receive ⟨sql, bindings⟩
    if m.rejects sql then (.error (rejection sql), received)
    else
      let (rows, answered) := respond settings grammar sql bindings received
      (.ok rows, answered)

/-- The connection to a database in memory. -/
def connection (settings : Settings) (grammar : Grammar) : Connection Memory where
  settings := settings
  grammar := grammar
  connect := connect
  query := query settings grammar
  close := close

end Memory

end SchemaLedger
