import SchemaLedger.Json.Basic
import SchemaLedger.Text.Quoted
import SchemaLedger.Text.Search

/-!
# Decoding values of documents

A decoder takes a value of a document to a value of the domain or to the reason why it does not
stand for one. A value is decoded either while its text is being read or from a copy that was taken
into memory first. The two differ in what they say about items left over in a list, and in memory
the position of a variant stands for its name.
-/

namespace SchemaLedger

/-- Where a decoder finds the value: in the text being read, or in memory. -/
inductive Json.Source where
  | text
  | memory
  deriving DecidableEq, Repr

/-- What a decoder found, for a message. -/
inductive Json.Found where
  | null
  | bool (b : Bool)
  | number (n : Json.Number)
  | string (s : String)
  | list
  | object
  deriving DecidableEq, Repr

/-- The words of a message for what was found. -/
def Json.Found.describe : Json.Found → String
  | .null => "null"
  | .bool b => "boolean `" ++ (if b then "true" else "false") ++ "`"
  | .number (.int i) => "integer `" ++ toString i ++ "`"
  | .number (.float f) => "floating point `" ++ f.toPointedText ++ "`"
  | .string s => "string " ++ Text.showQuoted s
  | .list => "sequence"
  | .object => "map"

/-- The reasons why a value does not stand for one of the domain. -/
inductive DecodeError where
  | malformed (cause : SyntaxError)
  | wrongType (found : Json.Found) (expected : String)
  | wrongValue (found : Json.Found) (expected : String)
  | wrongLength (length : Nat) (expected : String)
  | missingField (field : String)
  | duplicateField (field : String)
  | unknownVariant (found : String) (known : List String)
  | noVariant (type : String)
  deriving DecidableEq, Repr

namespace DecodeError

/-- The names from which one has to be chosen, as a message lists them. -/
def choices (names : List String) : String :=
  let quoted := names.map fun name => "`" ++ name ++ "`"
  match quoted with
  | [] => "there are no variants"
  | [name] => "expected " ++ name
  | [first, second] => "expected " ++ first ++ " or " ++ second
  | _ => "expected one of " ++ Text.join ", " quoted

/-- The text of a decoding error. -/
def message : DecodeError → String
  | .malformed cause => cause.message
  | .wrongType found expected => "invalid type: " ++ found.describe ++ ", expected " ++ expected
  | .wrongValue found expected => "invalid value: " ++ found.describe ++ ", expected " ++ expected
  | .wrongLength length expected =>
    "invalid length " ++ toString length ++ ", expected " ++ expected
  | .missingField field => "missing field `" ++ field ++ "`"
  | .duplicateField field => "duplicate field `" ++ field ++ "`"
  | .unknownVariant found known => "unknown variant `" ++ found ++ "`, " ++ choices known
  | .noVariant type => "data did not match any variant of untagged enum " ++ type

end DecodeError

namespace Json

/-- The error for a value of another type than the expected one. -/
def mismatch (expected : String) : Json → DecodeError
  | .null => .wrongType .null expected
  | .bool b => .wrongType (.bool b) expected
  | .number n => .wrongType (.number n) expected
  | .string s => .wrongType (.string s) expected
  | .array _ => .wrongType .list expected
  | .object _ => .wrongType .object expected
  | .flawed flaw => .malformed flaw.reading

/-- A syntax error as a decoding error. -/
def orMalformed (result : Except SyntaxError Unit) : Except DecodeError Unit :=
  match result with
  | .ok _ => .ok ()
  | .error e => .error (.malformed e)

/-- Takes a value into memory. -/
def hold (value : Json) : Except DecodeError Unit := orMalformed value.check

/-- Passes over a value. -/
def ignore (value : Json) : Except DecodeError Unit := orMalformed value.skip

/-! ### Scalars -/

/-- Decodes a text. -/
def text (_ : Source) : Json → Except DecodeError String
  | .string s => .ok s
  | value => .error (mismatch "a string" value)

/-- Decodes a truth value. -/
def boolean (_ : Source) : Json → Except DecodeError Bool
  | .bool b => .ok b
  | value => .error (mismatch "a boolean" value)

/-- Decodes a natural number below `2 ^ bits`. -/
def word (bits : Nat) (_ : Source) : Json → Except DecodeError Nat
  | .number (.int i) =>
    if 0 ≤ i ∧ i < twoPow bits then .ok i.toNat
    else .error (.wrongValue (.number (.int i)) ("u" ++ toString bits))
  | value => .error (mismatch ("u" ++ toString bits) value)

/-- Decodes an integer that fits a signed word of 64 bits. -/
def integer (_ : Source) : Json → Except DecodeError Int
  | .number (.int i) =>
    if i < twoPow 63 then .ok i else .error (.wrongValue (.number (.int i)) "i64")
  | value => .error (mismatch "i64" value)

/-- Decodes a number as a double; an integer becomes the double nearest to it. -/
def double (_ : Source) : Json → Except DecodeError Binary64
  | .number (.float f) => .ok f
  | .number (.int i) => .ok (.ofQuotient (i < 0) i.natAbs 1)
  | value => .error (mismatch "f64" value)

/-- Decodes a value that may be `null`. -/
def nullable {α : Type} (decode : Source → Json → Except DecodeError α) (source : Source) :
    Json → Except DecodeError (Option α)
  | .null => .ok none
  | value =>
    match decode source value with
    | .ok a => .ok (some a)
    | .error e => .error e

/-! ### Lists -/

/-- Decodes the items of a list. -/
def listItems {α : Type} (decode : Json → Except DecodeError α) :
    List Json → Except DecodeError (List α)
  | [] => .ok []
  | item :: items =>
    match decode item with
    | .error e => .error e
    | .ok a =>
      match listItems decode items with
      | .error e => .error e
      | .ok as => .ok (a :: as)

/-- Decodes a list. -/
def list {α : Type} (decode : Source → Json → Except DecodeError α) (source : Source) :
    Json → Except DecodeError (List α)
  | .array items => listItems (decode source) items
  | value => .error (mismatch "a sequence" value)

/-! ### Choices -/

/-- Tries decoders on a value held in memory and takes the first that succeeds. -/
def firstOf {α : Type} (type : String) (decoders : List (Json → Except DecodeError α)) :
    Json → Except DecodeError α :=
  fun value =>
    match value.check with
    | .error e => .error (.malformed e)
    | .ok _ =>
      match decoders with
      | [] => .error (.noVariant type)
      | decode :: rest =>
        match decode value with
        | .ok a => .ok a
        | .error _ => firstOf type rest value

/-- The variant of a name. -/
def variantNamed {α : Type} (variants : List (String × α)) (name : String) :
    Except DecodeError α :=
  match variants.find? fun variant => variant.1 == name with
  | some variant => .ok variant.2
  | none => .error (.unknownVariant name (variants.map (·.1)))

/-- Decodes the tag of a variant: its name, or in memory its position. -/
def variantTag {α : Type} (variants : List (String × α)) (source : Source) :
    Json → Except DecodeError α
  | .string name => variantNamed variants name
  | .number (.int i) =>
    if source = .memory ∧ 0 ≤ i then
      match variants[i.toNat]? with
      | some variant => .ok variant.2
      | none =>
        .error (.wrongValue (.number (.int i))
          ("variant index 0 <= i < " ++ toString variants.length))
    else .error (mismatch "variant identifier" (.number (.int i)))
  | value => .error (mismatch "variant identifier" value)

/-- Decodes the payload of a variant without one. -/
def unitPayload (source : Source) : Json → Except DecodeError Unit
  | .null => .ok ()
  | .object [] =>
    if source = .memory then .ok () else .error (mismatch "unit" (.object []))
  | value => .error (mismatch "unit" value)

/-- What follows the only member of an object in the text. -/
def afterOnlyMember : List (Key × Json) → Except DecodeError Unit
  | [] => .ok ()
  | (.flawed flaw, _) :: _ =>
    .error (.malformed (if flaw.reading = .endInObject then .endInObject else .expectedValue))
  | _ :: _ => .error (.malformed .expectedValue)

/-- Decodes a variant without payload from the text: its name, or an object with the name as its
only key and `null` beside it. A value that begins like anything else is not looked at further. -/
def variantOfText {α : Type} (variants : List (String × α)) : Json → Except DecodeError α
  | .string name => variantNamed variants name
  | .object [] => .error (.malformed .expectedValue)
  | .object ((.flawed flaw, _) :: _) => .error (.malformed flaw.peeking)
  | .object ((.name name, payload) :: rest) => do
    let variant ← variantNamed variants name
    unitPayload .text payload
    afterOnlyMember rest
    pure variant
  | .flawed flaw => .error (.malformed flaw.peeking)
  | _ => .error (.malformed .expectedValue)

/-- Decodes a variant without payload from memory. -/
def variantOfMemory {α : Type} (variants : List (String × α)) : Json → Except DecodeError α
  | .string name => variantNamed variants name
  | .object [(.name name, payload)] => do
    let variant ← variantNamed variants name
    unitPayload .memory payload
    pure variant
  | .object _ => .error (.wrongValue .object "map with a single key")
  | value => .error (mismatch "string or map" value)

/-- Decodes a variant without payload. -/
def variant {α : Type} (variants : List (String × α)) (source : Source) :
    Json → Except DecodeError α :=
  match source with
  | .text => variantOfText variants
  | .memory => variantOfMemory variants

end Json

end SchemaLedger
