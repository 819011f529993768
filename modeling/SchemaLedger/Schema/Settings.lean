/-!
# Connection settings

How to reach a server, and the defaults for tables created through the connection.
-/

namespace SchemaLedger

/-- The settings of a connection. The server is named by a URL or by its parts; the table prefix is
put in front of every table name. -/
structure Settings where
  url : Option String
  host : Option String
  port : Option Nat
  user : Option String
  password : Option String
  database : Option String
  charset : Option String
  collation : Option String
  engine : Option String
  tablePrefix : String
  deriving DecidableEq, Repr

/-- Settings that say nothing. -/
def Settings.empty : Settings where
  url := none
  host := none
  port := none
  user := none
  password := none
  database := none
  charset := none
  collation := none
  engine := none
  tablePrefix := ""

end SchemaLedger
