import SchemaLedger.Number.Decimal
import SchemaLedger.Text.Search

/-!
# Values of statements

The values that are bound to placeholders of a statement or read back from its rows, fragments of
statements that are written as they are, and rows with their named cells.
-/

namespace SchemaLedger.Sql

/-- A fragment of a statement that is neither quoted nor bound. -/
structure Fragment where
  text : String
  deriving DecidableEq, Repr

/-- A value bound to a placeholder or read from a row. -/
inductive Value where
  | null
  | bool (b : Bool)
  | int (i : Int)
  | float (f : Binary64)
  | text (s : String)
  | blob (bytes : List UInt8)
  deriving DecidableEq, Repr

namespace Value

/-- The text of a value that is a text. -/
def text? : Value → Option String
  | .text s => some s
  | _ => none

/-- The integer of a value that is an integer. -/
def int? : Value → Option Int
  | .int i => some i
  | _ => none

/-- Whether a value is null. -/
def isNull : Value → Bool
  | .null => true
  | _ => false

/-- A text that may be missing, as a value. -/
def ofText? : Option String → Value
  | some s => .text s
  | none => .null

end Value

/-- What stands in the place of a parameter. -/
inductive Parameter where
  | value (v : Value)
  | fragment (f : Fragment)
  deriving DecidableEq, Repr

/-- The text in the place of a parameter: a placeholder for a value, a fragment as it is. -/
def Parameter.toSql : Parameter → String
  | .value _ => "?"
  | .fragment f => f.text

/-- The texts of parameters in a row. -/
def Parameter.listSql (parameters : List Parameter) : String :=
  Text.join ", " (parameters.map Parameter.toSql)

/-- A row of a result: its cells with their names, in the order of the query. -/
structure Row where
  cells : List (String × Value)
  deriving DecidableEq, Repr

namespace Row

/-- The value of the first cell with a name, whatever the case of its ASCII letters. -/
def get? (row : Row) (name : String) : Option Value :=
  (row.cells.find? fun cell => Text.sameIgnoringCase cell.1 name).map (·.2)

/-- The text of the first cell with a name, if it is a text. -/
def text? (row : Row) (name : String) : Option String :=
  (row.get? name).bind Value.text?

/-- The integer of the first cell with a name, if it is an integer. -/
def int? (row : Row) (name : String) : Option Int :=
  (row.get? name).bind Value.int?

end Row

end SchemaLedger.Sql
