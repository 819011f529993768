import SchemaLedger.Json.Fields
import SchemaLedger.Json.Reader
import SchemaLedger.Json.Writer
import SchemaLedger.Schema.Blueprint
import SchemaLedger.Schema.Settings

/-!
# Schema values in documents

Decoders for columns, indexes, foreign keys and connection settings. The type of a column stands in
the object of the column itself: `type` names it, and its parameters are members beside the
attributes of the column.
-/

namespace SchemaLedger

open Json

/-! ### Fragments and defaults -/

/-- A fragment is an object with the text under `raw`. -/
def Sql.Fragment.decode : Source → Json → Except DecodeError Sql.Fragment :=
  Json.record "struct Expression" [.required "raw" Json.text fun s _ => ⟨s⟩] ⟨""⟩

/-- The document of a fragment. -/
def Sql.Fragment.toDocument (f : Sql.Fragment) : String :=
  "\x7b\"raw\":" ++ Json.quote f.text ++ "\x7d"

/-- A value that must be `null`. -/
def nullOnly : Json → Except DecodeError Unit
  | .null => .ok ()
  | value => .error (Json.mismatch "null" value)

/-- A default value is a fragment, `null`, a truth value, an integer, another number or a text, the
first of these that it can be. -/
def DefaultValue.decode (_ : Source) : Json → Except DecodeError DefaultValue :=
  Json.firstOf "DefaultValue"
    [fun v => (Sql.Fragment.decode .memory v).map .fragment,
      fun v => (nullOnly v).map fun _ => .null,
      fun v => (Json.boolean .memory v).map .bool,
      fun v => (Json.integer .memory v).map .int,
      fun v => (Json.double .memory v).map .float,
      fun v => (Json.text .memory v).map .text]

/-! ### Indexes and foreign keys -/

/-- An index flag is a truth value or a name. -/
def IndexFlag.decode (_ : Source) : Json → Except DecodeError IndexFlag :=
  Json.firstOf "IndexFlag"
    [fun v => (Json.boolean .memory v).map .enabled, fun v => (Json.text .memory v).map .named]

/-- An index to drop is a name or a list of columns. -/
def IndexTarget.decode (_ : Source) : Json → Except DecodeError IndexTarget :=
  Json.firstOf "IndexTarget"
    [fun v => (Json.text .memory v).map .named, fun v => (Json.list Json.text .memory v).map .over]

/-- The fields of an index request. -/
def IndexRequest.fields : List (RecordField IndexRequest) :=
  [.required "columns" (Json.list Json.text) fun columns r => { r with columns := columns },
    .optional "name" (Json.nullable Json.text) fun name r => { r with name := name },
    .optional "algorithm" (Json.nullable Json.text) fun algorithm r =>
      { r with algorithm := algorithm }]

/-- Decodes an index request from an object. -/
def IndexRequest.ofObject : Json → Except DecodeError IndexRequest
  | .object members =>
    (recordOfMembers IndexRequest.fields ignore ⟨[], none, none⟩ .memory members).map (·.1)
  | value => .error (mismatch "an index request" value)

/-- An index request is a list of columns, or an object with the columns and maybe more. -/
def IndexRequest.decode (_ : Source) : Json → Except DecodeError IndexRequest :=
  firstOf "IndexSpec"
    [fun v => (Json.list Json.text .memory v).map fun columns => ⟨columns, none, none⟩,
      IndexRequest.ofObject]

/-- An action of a foreign key is its name. -/
def ForeignAction.decode : Source → Json → Except DecodeError ForeignAction :=
  Json.variant ForeignAction.named

/-- The fields of a foreign key. -/
def ForeignKey.fields : List (RecordField ForeignKey) :=
  [.required "columns" (Json.list Json.text) fun columns k => { k with columns := columns },
    .optional "name" (Json.nullable Json.text) fun name k => { k with name := name },
    .optional "references" (Json.list Json.text) fun columns k => { k with references := columns },
    .optional "on" Json.text fun table k => { k with on := table },
    .optional "onDelete" (Json.nullable ForeignAction.decode) fun a k => { k with onDelete := a },
    .optional "onUpdate" (Json.nullable ForeignAction.decode) fun a k => { k with onUpdate := a }]

/-- A foreign key is a record of which only the columns are required. -/
def ForeignKey.decode : Source → Json → Except DecodeError ForeignKey :=
  Json.record "struct ForeignKey" ForeignKey.fields ⟨[], none, [], "", none, none⟩

/-! ### Columns -/

/-- Decodes parameters of a column type from the members beside the attributes of the column. -/
def parameters {σ : Type} (fields : List (RecordField σ)) (initial : σ)
    (members : List (Key × Json)) : Except DecodeError σ :=
  (recordOfMembers fields ignore initial .memory members).map (·.1)

/-- The parameter of a text type. -/
def lengthFields : List (RecordField (Option Nat)) :=
  [.optional "length" (Json.nullable (Json.word 32)) fun length _ => length]

/-- The parameters of a number type with digits. -/
def digitsFields : List (RecordField (Option Nat × Option Nat)) :=
  [.optional "total" (Json.nullable (Json.word 32)) fun total p => (total, p.2),
    .optional "places" (Json.nullable (Json.word 32)) fun places p => (p.1, places)]

/-- The parameter of an enumeration. -/
def allowedFields : List (RecordField (List String)) :=
  [.required "allowed" (Json.list Json.text) fun allowed _ => allowed]

/-- The parameter of a date and time. -/
def precisionFields : List (RecordField Nat) :=
  [.optional "precision" (Json.word 8) fun precision _ => precision]

/-- The parameters of a time stamp. -/
def timestampFields : List (RecordField (Nat × Bool)) :=
  [.optional "precision" (Json.word 8) fun precision p => (precision, p.2),
    .optional "useCurrent" Json.boolean fun useCurrent p => (p.1, useCurrent)]

/-- The column type of a kind, with its parameters from a list of members. -/
def ColumnType.ofMembers (members : List (Key × Json)) :
    TypeKind → Except DecodeError ColumnType
  | .char => (parameters lengthFields none members).map .char
  | .string => (parameters lengthFields none members).map .string
  | .text => .ok .text
  | .mediumText => .ok .mediumText
  | .longText => .ok .longText
  | .tinyInteger => .ok .tinyInteger
  | .smallInteger => .ok .smallInteger
  | .mediumInteger => .ok .mediumInteger
  | .integer => .ok .integer
  | .bigInteger => .ok .bigInteger
  | .float => (parameters digitsFields (none, none) members).map fun p => .float p.1 p.2
  | .double => (parameters digitsFields (none, none) members).map fun p => .double p.1 p.2
  | .decimal => (parameters digitsFields (none, none) members).map fun p => .decimal p.1 p.2
  | .boolean => .ok .boolean
  | .enumeration => (parameters allowedFields [] members).map .enumeration
  | .json => .ok .json
  | .jsonb => .ok .jsonb
  | .date => .ok .date
  | .dateTime => (parameters precisionFields 0 members).map .dateTime
  | .dateTimeTz => (parameters precisionFields 0 members).map .dateTimeTz
  | .time => .ok .time
  | .timeTz => .ok .timeTz
  | .timestamp =>
    (parameters timestampFields (0, false) members).map fun p => .timestamp p.1 p.2
  | .timestampTz =>
    (parameters timestampFields (0, false) members).map fun p => .timestampTz p.1 p.2
  | .binary => .ok .binary
  | .uuid => .ok .uuid
  | .ipAddress => .ok .ipAddress
  | .macAddress => .ok .macAddress

/-- The kinds of column types with their names. -/
def TypeKind.named : List (String × TypeKind) := TypeKind.all.map fun kind => (kind.name, kind)

/-- Decodes a column type from the members that are no attributes of the column. -/
def ColumnType.decode (members : List (Key × Json)) : Except DecodeError ColumnType :=
  match taggedMembers "type" TypeKind.named .memory members with
  | .error e => .error e
  | .ok (kind, others) => ColumnType.ofMembers others kind

/-- The attributes of a column as fields. -/
def Column.fields : List (RecordField Column) :=
  [.required "name" Json.text fun name c => { c with name := name },
    .optional "unsigned" (Json.nullable Json.boolean) fun on c => { c with unsigned := on },
    .optional "autoIncrement" (Json.nullable Json.boolean) fun on c =>
      { c with autoIncrement := on },
    .optional "nullable" (Json.nullable Json.boolean) fun on c => { c with nullable := on },
    .optional "default" DefaultValue.decode fun value c => { c with defaultValue := some value },
    .optional "comment" (Json.nullable Json.text) fun s c => { c with comment := s },
    .optional "charset" (Json.nullable Json.text) fun s c => { c with charset := s },
    .optional "collation" (Json.nullable Json.text) fun s c => { c with collation := s },
    .optional "after" (Json.nullable Json.text) fun s c => { c with after := s },
    .optional "first" (Json.nullable Json.boolean) fun on c => { c with first := on },
    .optional "virtualAs" (Json.nullable Json.text) fun s c => { c with virtualAs := s },
    .optional "storedAs" (Json.nullable Json.text) fun s c => { c with storedAs := s },
    .optional "primary" (Json.nullable IndexFlag.decode) fun flag c => { c with primary := flag },
    .optional "unique" (Json.nullable IndexFlag.decode) fun flag c => { c with unique := flag },
    .optional "index" (Json.nullable IndexFlag.decode) fun flag c => { c with index := flag },
    .optional "change" (Json.nullable Json.boolean) fun on c => { c with change := on },
    (RecordField.optional "renameTo" (Json.nullable Json.text) fun s c =>
      { c with renameTo := s }).orNamed "newName"]

/-- A column is an object with a name, a type and attributes. A `null` default is the default
`NULL`; for any other attribute it means that the attribute is absent. -/
def Column.decode (source : Source) : Json → Except DecodeError Column
  | .object members =>
    match recordOfMembers Column.fields hold (Column.ofType "" .text) source members with
    | .error e => .error e
    | .ok (column, others) =>
      match ColumnType.decode others with
      | .error e => .error e
      | .ok type => .ok { column with type := type }
  | value => .error (Json.mismatch "struct ColumnDefinition" value)

/-! ### Connection settings -/

/-- The connection settings as fields. -/
def Settings.fields : List (RecordField Settings) :=
  [.optional "url" (Json.nullable Json.text) fun s c => { c with url := s },
    .optional "host" (Json.nullable Json.text) fun s c => { c with host := s },
    .optional "port" (Json.nullable (Json.word 16)) fun port c => { c with port := port },
    .optional "user" (Json.nullable Json.text) fun s c => { c with user := s },
    .optional "password" (Json.nullable Json.text) fun s c => { c with password := s },
    .optional "database" (Json.nullable Json.text) fun s c => { c with database := s },
    .optional "charset" (Json.nullable Json.text) fun s c => { c with charset := s },
    .optional "collation" (Json.nullable Json.text) fun s c => { c with collation := s },
    .optional "engine" (Json.nullable Json.text) fun s c => { c with engine := s },
    .optional "tablePrefix" Json.text fun s c => { c with tablePrefix := s }]

/-- Connection settings are a record of which nothing is required. -/
def Settings.decode : Source → Json → Except DecodeError Settings :=
  Json.record "struct ConnectionConfig" Settings.fields Settings.empty

end SchemaLedger
