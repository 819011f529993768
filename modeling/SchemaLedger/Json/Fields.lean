import SchemaLedger.Json.Decode

/-!
# Decoding records

A record is described by a table of its fields. It is decoded from an object, in the order of its
members and with every field at most once, or from a list that gives the fields in the order of the
table. A field that is not required keeps the value it has in the initial record.
-/

namespace SchemaLedger

namespace Json

/-- A field of a record: its name, other names under which it is accepted, whether it is required,
and how its value enters the record. -/
structure RecordField (σ : Type) where
  name : String
  aliases : List String
  isRequired : Bool
  store : Source → Json → σ → Except DecodeError σ

namespace RecordField

/-- How a decoded value enters a record. -/
def storeWith {σ α : Type} (decode : Source → Json → Except DecodeError α) (set : α → σ → σ)
    (source : Source) (value : Json) (record : σ) : Except DecodeError σ :=
  match decode source value with
  | .ok a => .ok (set a record)
  | .error e => .error e

/-- A field that must be there. -/
def required {σ α : Type} (name : String) (decode : Source → Json → Except DecodeError α)
    (set : α → σ → σ) : RecordField σ :=
  ⟨name, [], true, storeWith decode set⟩

/-- A field that may be absent. -/
def optional {σ α : Type} (name : String) (decode : Source → Json → Except DecodeError α)
    (set : α → σ → σ) : RecordField σ :=
  ⟨name, [], false, storeWith decode set⟩

/-- The field under one more name. -/
def orNamed {σ : Type} (field : RecordField σ) (name : String) : RecordField σ :=
  { field with aliases := name :: field.aliases }

/-- Whether a key names the field. -/
def accepts {σ : Type} (field : RecordField σ) (key : String) : Bool :=
  field.name == key || field.aliases.contains key

end RecordField

/-- A record being decoded: its value so far, the names of the fields that were there, and the
members that belong to no field, last one first. -/
structure Draft (σ : Type) where
  record : σ
  seen : List String
  others : List (Key × Json)

/-- Decodes the members of an object. Values of members that belong to no field are treated by
`other`. -/
def readMembers {σ : Type} (fields : List (RecordField σ)) (other : Json → Except DecodeError Unit)
    (source : Source) : List (Key × Json) → Draft σ → Except DecodeError (Draft σ)
  | [], draft => .ok draft
  | (.flawed flaw, _) :: _, _ => .error (.malformed flaw.reading)
  | (.name key, value) :: members, draft =>
    match fields.find? (·.accepts key) with
    | none =>
      match other value with
      | .error e => .error e
      | .ok _ =>
        readMembers fields other source members
          { draft with others := (.name key, value) :: draft.others }
    | some field =>
      if draft.seen.contains field.name then .error (.duplicateField field.name)
      else
        match field.store source value draft.record with
        | .error e => .error e
        | .ok record =>
          readMembers fields other source members
            { draft with record := record, seen := field.name :: draft.seen }

/-- The first required field that was not there. -/
def missingField? {σ : Type} (fields : List (RecordField σ)) (seen : List String) : Option String :=
  (fields.find? fun field => field.isRequired && !seen.contains field.name).map (·.name)

/-- Decodes an object into a record and the members that belong to no field. -/
def recordOfMembers {σ : Type} (fields : List (RecordField σ))
    (other : Json → Except DecodeError Unit) (initial : σ) (source : Source)
    (members : List (Key × Json)) : Except DecodeError (σ × List (Key × Json)) :=
  match readMembers fields other source members ⟨initial, [], []⟩ with
  | .error e => .error e
  | .ok draft =>
    match missingField? fields draft.seen with
    | some name => .error (.missingField name)
    | none => .ok (draft.record, draft.others.reverse)

/-- A count of elements in words. -/
def elements (n : Nat) : String :=
  if n = 1 then "1 element" else toString n ++ " elements"

/-- The error for items left over in a list, if there are any. -/
def leftOver (source : Source) (taken : Nat) (items : List Json) : Except DecodeError Unit :=
  match source, items with
  | _, [] => .ok ()
  | .memory, items =>
    .error (.wrongLength (taken + items.length) (elements taken ++ " in sequence"))
  | .text, .flawed flaw :: _ =>
    .error (.malformed (if flaw.reading = .endInList ∨ flaw.reading = .trailingComma then
      flaw.reading else .trailingCharacters))
  | .text, _ :: _ => .error (.malformed .trailingCharacters)

/-- Decodes the items of a list into the fields of a record; `taken` counts the fields before. -/
def readItems {σ : Type} (expected : String) (source : Source) :
    List (RecordField σ) → List Json → Nat → σ → Except DecodeError σ
  | [], items, taken, record =>
    match leftOver source taken items with
    | .ok _ => .ok record
    | .error e => .error e
  | field :: fields, [], taken, record =>
    if field.isRequired then .error (.wrongLength taken expected)
    else readItems expected source fields [] (taken + 1) record
  | field :: fields, item :: items, taken, record =>
    match field.store source item record with
    | .error e => .error e
    | .ok record => readItems expected source fields items (taken + 1) record

/-- Decodes a list into a record; `kind` names the record in messages. -/
def recordOfItems {σ : Type} (kind : String) (fields : List (RecordField σ)) (initial : σ)
    (source : Source) (items : List Json) : Except DecodeError σ :=
  readItems (kind ++ " with " ++ elements fields.length) source fields items 0 initial

/-- Decodes a record from an object or from a list; `kind` names the record in messages. -/
def record {σ : Type} (kind : String) (fields : List (RecordField σ)) (initial : σ)
    (source : Source) : Json → Except DecodeError σ
  | .array items => recordOfItems kind fields initial source items
  | .object members =>
    match recordOfMembers fields ignore initial source members with
    | .ok (record, _) => .ok record
    | .error e => .error e
  | value => .error (mismatch kind value)

/-- Takes the tag out of the members of an object, and holds the other members in memory. -/
def splitTag {α : Type} (field : String) (decode : Json → Except DecodeError α) :
    List (Key × Json) → Option α → Except DecodeError (Option α × List (Key × Json))
  | [], tag => .ok (tag, [])
  | (.flawed flaw, _) :: _, _ => .error (.malformed flaw.reading)
  | (.name key, value) :: members, tag =>
    if key = field then
      if tag.isSome then .error (.duplicateField field)
      else
        match decode value with
        | .error e => .error e
        | .ok a => splitTag field decode members (some a)
    else
      match hold value with
      | .error e => .error e
      | .ok _ =>
        match splitTag field decode members tag with
        | .error e => .error e
        | .ok (tag, others) => .ok (tag, (.name key, value) :: others)

/-- Decodes the tag among the members of an object. -/
def taggedMembers {α : Type} (field : String) (variants : List (String × α)) (source : Source)
    (members : List (Key × Json)) : Except DecodeError (α × List (Key × Json)) :=
  match splitTag field (variantTag variants source) members none with
  | .error e => .error e
  | .ok (none, _) => .error (.missingField field)
  | .ok (some tag, others) => .ok (tag, others)

/-- Splits a tagged value into its tag and the rest of it in memory: an object with the tag under
`field`, or a list with the tag as its first item. -/
def tagged {α : Type} (kind field : String) (variants : List (String × α)) (source : Source) :
    Json → Except DecodeError (α × Json)
  | .array [] => .error (.missingField field)
  | .array (first :: items) =>
    match variantTag variants source first with
    | .error e => .error e
    | .ok tag =>
      match hold (.array items) with
      | .error e => .error e
      | .ok _ => .ok (tag, .array items)
  | .object members =>
    match taggedMembers field variants source members with
    | .error e => .error e
    | .ok (tag, others) => .ok (tag, .object others)
  | value => .error (mismatch kind value)

end Json

/-- Decodes a whole document: nothing but white space may follow its value. -/
def Document.decode {α : Type} (decode : Json.Source → Json → Except DecodeError α)
    (document : Document) : Except DecodeError α :=
  match decode .text document.root with
  | .error e => .error e
  | .ok a => if document.hasMore then .error (.malformed .trailingCharacters) else .ok a

end SchemaLedger
