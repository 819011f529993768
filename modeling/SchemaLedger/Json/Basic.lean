import SchemaLedger.Number.Decimal

/-!
# JSON documents

A document is read into a tree that keeps its members in order, repeated keys included. The tree
also holds the places where the text breaks the rules, so that the reader of a tree meets a flaw
exactly when it reaches it: a wrong value earlier in the document is reported before a flaw that
comes later. A flaw may be harmless to a reader that passes over a value without using it.

Main definitions: `Json.check` is the first flaw met by a reader that uses the whole tree, and
`Json.skip` the first one met by a reader that passes over it.
-/

namespace SchemaLedger

/-- The ways in which a text fails to be a document. -/
inductive SyntaxError where
  | endInValue
  | endInList
  | endInObject
  | endInString
  | expectedValue
  | expectedWord
  | expectedColon
  | expectedListSeparator
  | expectedObjectSeparator
  | keyNotString
  | trailingComma
  | trailingCharacters
  | invalidNumber
  | numberOutOfRange
  | invalidEscape
  | controlCharacter
  | loneSurrogate
  | unpairedSurrogate
  | tooDeep
  deriving DecidableEq, Repr

/-- The text of a syntax error. -/
def SyntaxError.message : SyntaxError → String
  | .endInValue => "EOF while parsing a value"
  | .endInList => "EOF while parsing a list"
  | .endInObject => "EOF while parsing an object"
  | .endInString => "EOF while parsing a string"
  | .expectedValue => "expected value"
  | .expectedWord => "expected ident"
  | .expectedColon => "expected `:`"
  | .expectedListSeparator => "expected `,` or `]`"
  | .expectedObjectSeparator => "expected `,` or `\x7d`"
  | .keyNotString => "key must be a string"
  | .trailingComma => "trailing comma"
  | .trailingCharacters => "trailing characters"
  | .invalidNumber => "invalid number"
  | .numberOutOfRange => "number out of range"
  | .invalidEscape => "invalid escape"
  | .controlCharacter => "control character (\\u0000-\\u001F) found while parsing a string"
  | .loneSurrogate => "lone leading surrogate in hex escape"
  | .unpairedSurrogate => "unexpected end of hex escape"
  | .tooDeep => "recursion limit exceeded"

/-- A place where the text breaks the rules: the error for a reader that uses the value, the one for
a reader that passes over it, or `none` when that reader goes on, and the one for a reader that
looks for a text or an object and turns away from a value that begins like anything else. -/
structure Flaw where
  reading : SyntaxError
  skipping : Option SyntaxError
  peeking : SyntaxError := reading
  deriving DecidableEq, Repr

/-- A flaw that all readers meet alike. -/
def Flaw.both (e : SyntaxError) : Flaw := { reading := e, skipping := some e }

/-- The flaw as part of a value that begins like neither a text nor an object. -/
def Flaw.turnAway (flaw : Flaw) : Flaw := { flaw with peeking := .expectedValue }

/-- The error of a reader that passes over a flaw. -/
def Flaw.skip (flaw : Flaw) : Except SyntaxError Unit :=
  match flaw.skipping with
  | some e => .error e
  | none => .ok ()

/-- A number of a document: an integer that fits a signed or an unsigned word of 64 bits, or a
double. -/
inductive Json.Number where
  | int (i : Int)
  | float (f : Binary64)
  deriving DecidableEq, Repr

/-- A key of an object, or the flaw met where a key should stand. -/
inductive Json.Key where
  | name (s : String)
  | flawed (flaw : Flaw)
  deriving DecidableEq, Repr

/-- A value of a document. A flaw that ends the text stands last in its list, or as the last key of
its object with `null` beside it. -/
inductive Json where
  | null
  | bool (b : Bool)
  | number (n : Json.Number)
  | string (s : String)
  | array (items : List Json)
  | object (members : List (Json.Key × Json))
  | flawed (flaw : Flaw)

namespace Json

instance : Inhabited Json := ⟨.null⟩

/-- Reads a key. -/
def Key.check : Key → Except SyntaxError Unit
  | .name _ => .ok ()
  | .flawed flaw => .error flaw.reading

/-- Passes over a key. -/
def Key.skip : Key → Except SyntaxError Unit
  | .name _ => .ok ()
  | .flawed flaw => flaw.skip

mutual

/-- The first flaw met by a reader that uses the whole value. -/
def check : Json → Except SyntaxError Unit
  | .array items => checkItems items
  | .object members => checkMembers members
  | .flawed flaw => .error flaw.reading
  | _ => .ok ()

/-- The first flaw of a list of values. -/
def checkItems : List Json → Except SyntaxError Unit
  | [] => .ok ()
  | item :: items =>
    match check item with
    | .error e => .error e
    | .ok _ => checkItems items

/-- The first flaw of a list of members. -/
def checkMembers : List (Key × Json) → Except SyntaxError Unit
  | [] => .ok ()
  | (key, value) :: members =>
    match key.check with
    | .error e => .error e
    | .ok _ =>
      match check value with
      | .error e => .error e
      | .ok _ => checkMembers members

end

mutual

/-- The first flaw met by a reader that passes over the value. -/
def skip : Json → Except SyntaxError Unit
  | .array items => skipItems items
  | .object members => skipMembers members
  | .flawed flaw => flaw.skip
  | _ => .ok ()

/-- The first flaw met in passing over a list of values. -/
def skipItems : List Json → Except SyntaxError Unit
  | [] => .ok ()
  | item :: items =>
    match skip item with
    | .error e => .error e
    | .ok _ => skipItems items

/-- The first flaw met in passing over a list of members. -/
def skipMembers : List (Key × Json) → Except SyntaxError Unit
  | [] => .ok ()
  | (key, value) :: members =>
    match key.skip with
    | .error e => .error e
    | .ok _ =>
      match skip value with
      | .error e => .error e
      | .ok _ => skipMembers members

end

/-- The flaw of a list or an object below the admitted number of levels. -/
def tooDeep (value : Json) : Flaw where
  reading := .tooDeep
  skipping := match skip value with | .error e => some e | .ok _ => none

mutual

/-- The value with its lists and objects below `levels` levels replaced by flaws. -/
def limitDepth : Nat → Json → Json
  | 0, .array items => .flawed (tooDeep (.array items)).turnAway
  | 0, .object members => .flawed (tooDeep (.object members))
  | levels + 1, .array items => .array (limitItems levels items)
  | levels + 1, .object members => .object (limitMembers levels members)
  | _, value => value

/-- The items with their depth limited. -/
def limitItems : Nat → List Json → List Json
  | _, [] => []
  | levels, item :: items => limitDepth levels item :: limitItems levels items

/-- The members with their depth limited. -/
def limitMembers : Nat → List (Key × Json) → List (Key × Json)
  | _, [] => []
  | levels, (key, value) :: members =>
    (key, limitDepth levels value) :: limitMembers levels members

end

/-- The number of levels of lists and objects that a document may have. -/
def maxLevels : Nat := 127

end Json

/-- A text read as a document: its value, and whether anything but white space follows it. -/
structure Document where
  root : Json
  hasMore : Bool

end SchemaLedger
