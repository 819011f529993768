/-!
# Types of columns

The types a column can have in any dialect, with their parameters. A type kind is a type without its
parameters; its name is the one used in change-set documents.
-/

namespace SchemaLedger

/-- A column type without its parameters. -/
inductive TypeKind where
  | char
  | string
  | text
  | mediumText
  | longText
  | tinyInteger
  | smallInteger
  | mediumInteger
  | integer
  | bigInteger
  | float
  | double
  | decimal
  | boolean
  | enumeration
  | json
  | jsonb
  | date
  | dateTime
  | dateTimeTz
  | time
  | timeTz
  | timestamp
  | timestampTz
  | binary
  | uuid
  | ipAddress
  | macAddress
  deriving DecidableEq, Repr

namespace TypeKind

/-- The name of a type in documents and messages. -/
def name : TypeKind → String
  | .char => "char"
  | .string => "string"
  | .text => "text"
  | .mediumText => "mediumText"
  | .longText => "longText"
  | .tinyInteger => "tinyInteger"
  | .smallInteger => "smallInteger"
  | .mediumInteger => "mediumInteger"
  | .integer => "integer"
  | .bigInteger => "bigInteger"
  | .float => "float"
  | .double => "double"
  | .decimal => "decimal"
  | .boolean => "boolean"
  | .enumeration => "enum"
  | .json => "json"
  | .jsonb => "jsonb"
  | .date => "date"
  | .dateTime => "dateTime"
  | .dateTimeTz => "dateTimeTz"
  | .time => "time"
  | .timeTz => "timeTz"
  | .timestamp => "timestamp"
  | .timestampTz => "timestampTz"
  | .binary => "binary"
  | .uuid => "uuid"
  | .ipAddress => "ipAddress"
  | .macAddress => "macAddress"

/-- All type kinds, in the order in which messages list them. -/
def all : List TypeKind :=
  [.char, .string, .text, .mediumText, .longText, .tinyInteger, .smallInteger, .mediumInteger,
    .integer, .bigInteger, .float, .double, .decimal, .boolean, .enumeration, .json, .jsonb, .date,
    .dateTime, .dateTimeTz, .time, .timeTz, .timestamp, .timestampTz, .binary, .uuid, .ipAddress,
    .macAddress]

end TypeKind

/-- The type of a column with its parameters. Lengths and precisions that were not given are absent,
and the dialect fills them in. -/
inductive ColumnType where
  | char (length : Option Nat)
  | string (length : Option Nat)
  | text
  | mediumText
  | longText
  | tinyInteger
  | smallInteger
  | mediumInteger
  | integer
  | bigInteger
  | float (total places : Option Nat)
  | double (total places : Option Nat)
  | decimal (total places : Option Nat)
  | boolean
  | enumeration (allowed : List String)
  | json
  | jsonb
  | date
  | dateTime (precision : Nat)
  | dateTimeTz (precision : Nat)
  | time
  | timeTz
  | timestamp (precision : Nat) (useCurrent : Bool)
  | timestampTz (precision : Nat) (useCurrent : Bool)
  | binary
  | uuid
  | ipAddress
  | macAddress
  deriving DecidableEq, Repr

namespace ColumnType

/-- The type without its parameters. -/
def kind : ColumnType → TypeKind
  | .char _ => .char
  | .string _ => .string
  | .text => .text
  | .mediumText => .mediumText
  | .longText => .longText
  | .tinyInteger => .tinyInteger
  | .smallInteger => .smallInteger
  | .mediumInteger => .mediumInteger
  | .integer => .integer
  | .bigInteger => .bigInteger
  | .float _ _ => .float
  | .double _ _ => .double
  | .decimal _ _ => .decimal
  | .boolean => .boolean
  | .enumeration _ => .enumeration
  | .json => .json
  | .jsonb => .jsonb
  | .date => .date
  | .dateTime _ => .dateTime
  | .dateTimeTz _ => .dateTimeTz
  | .time => .time
  | .timeTz => .timeTz
  | .timestamp _ _ => .timestamp
  | .timestampTz _ _ => .timestampTz
  | .binary => .binary
  | .uuid => .uuid
  | .ipAddress => .ipAddress
  | .macAddress => .macAddress

/-- The name of the type in documents and messages. -/
def name (type : ColumnType) : String := type.kind.name

/-- Whether the type is an integer type; those can count up by themselves. -/
def isSerial : ColumnType → Bool
  | .tinyInteger | .smallInteger | .mediumInteger | .integer | .bigInteger => true
  | _ => false

/-- Whether the type is a number type; those can be unsigned. -/
def isNumeric : ColumnType → Bool
  | .float _ _ | .double _ _ | .decimal _ _ => true
  | type => type.isSerial

/-- Whether the type holds text; those have a character set and a collation. -/
def isTextual : ColumnType → Bool
  | .char _ | .string _ | .text | .mediumText | .longText | .enumeration _ => true
  | .uuid | .ipAddress | .macAddress => true
  | _ => false

end ColumnType

end SchemaLedger
