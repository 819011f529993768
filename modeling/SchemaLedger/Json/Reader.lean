import SchemaLedger.Json.Numeral

/-!
# Reading documents

`Document.ofText` reads a text as a document. Nothing is rejected here: where the text breaks the
rules the tree holds a flaw, and reading stops after a flaw that no reader gets past. A string with
surrogates that do not pair is a flaw too, but the text goes on after it, since a reader that passes
over the string does not look at them.
-/

namespace SchemaLedger.Json

/-- The blanks of the document format. -/
def isSpace (c : Char) : Bool :=
  c = ' ' || c = '\n' || c = '\t' || c = '\r'

/-- Drops the blanks at the front. -/
def skipSpace (cs : List Char) : List Char := cs.dropWhile isSpace

/-! ### Strings -/

/-- The value of a hexadecimal digit. -/
def hexValue? (c : Char) : Option Nat :=
  if '0' ≤ c ∧ c ≤ '9' then some (c.toNat - 48)
  else if 'a' ≤ c ∧ c ≤ 'f' then some (c.toNat - 87)
  else if 'A' ≤ c ∧ c ≤ 'F' then some (c.toNat - 55)
  else none

/-- The value of four hexadecimal digits. -/
def hexWord? (a b c d : Char) : Option Nat := do
  let a ← hexValue? a
  let b ← hexValue? b
  let c ← hexValue? c
  let d ← hexValue? d
  pure (((a * 16 + b) * 16 + c) * 16 + d)

/-- Whether a word is a high surrogate. -/
def isHigh (n : Nat) : Bool := 0xD800 ≤ n && n ≤ 0xDBFF

/-- Whether a word is a low surrogate. -/
def isLow (n : Nat) : Bool := 0xDC00 ≤ n && n ≤ 0xDFFF

/-- The character of a pair of surrogates. -/
def pairChar (high low : Nat) : Char :=
  Char.ofNat ((high - 0xD800) * 0x400 + (low - 0xDC00) + 0x10000)

/-- The character of an escape of one letter. -/
def escapedChar? : Char → Option Char
  | '"' => some '"'
  | '\\' => some '\\'
  | '/' => some '/'
  | 'b' => some '\x08'
  | 'f' => some '\x0c'
  | 'n' => some '\n'
  | 'r' => some '\r'
  | 't' => some '\t'
  | _ => none

/-- The characters of a string read so far, last one first, or the first error in them for a reader
that uses the string. -/
abbrev Text := Except SyntaxError (List Char)

namespace Text

/-- Adds a character. -/
def push (t : Text) (c : Char) : Text :=
  match t with
  | .ok cs => .ok (c :: cs)
  | .error e => .error e

/-- Notes an error, unless there is one already. -/
def fail (t : Text) (e : SyntaxError) : Text :=
  match t with
  | .ok _ => .error e
  | .error first => .error first

/-- Notes that a high surrogate was left without its partner. -/
def settle (t : Text) (pending : Option Nat) : Text :=
  if pending.isSome then t.fail .unpairedSurrogate else t

/-- The key that ends with an error no reader gets past. -/
def stop (t : Text) (e : SyntaxError) : Key :=
  match t with
  | .ok _ => .flawed (.both e)
  | .error first => .flawed { reading := first, skipping := some e }

/-- The key of a string that has come to its closing quote. -/
def close (t : Text) : Key :=
  match t with
  | .ok cs => .name (String.ofList cs.reverse)
  | .error first => .flawed { reading := first, skipping := none }

/-- Adds the word of an escape after a high surrogate that may be pending. The second part is the
surrogate pending next. -/
def pushWord (t : Text) (pending : Option Nat) (n : Nat) : Text × Option Nat :=
  match pending with
  | some high =>
    if isLow n then (t.push (pairChar high n), none) else (t.fail .loneSurrogate, none)
  | none =>
    if isHigh n then (t, some n)
    else if isLow n then (t.fail .loneSurrogate, none)
    else (t.push (Char.ofNat n), none)

end Text

/-- The number of bytes of a list of characters. -/
def byteLength (cs : List Char) : Nat := cs.foldl (fun n c => n + c.utf8Size) 0

/-- Reads a string from behind its opening quote, with the text so far and a high surrogate that
waits for its partner. The second part is what follows the closing quote, if it was found. -/
def readString (t : Text) (pending : Option Nat) : List Char → Key × Option (List Char)
  | [] => (t.stop .endInString, none)
  | '"' :: rest => ((t.settle pending).close, some rest)
  | '\\' :: 'u' :: a :: b :: c :: d :: rest =>
    match hexWord? a b c d with
    | none => (t.stop .invalidEscape, none)
    | some n =>
      let (t, pending) := t.pushWord pending n
      readString t pending rest
  | '\\' :: 'u' :: rest =>
    (t.stop (if byteLength rest < 4 then .endInString else .invalidEscape), none)
  | ['\\'] => (t.stop .endInString, none)
  | '\\' :: c :: rest =>
    let t := t.settle pending
    match escapedChar? c with
    | none => (t.stop .invalidEscape, none)
    | some c => readString (t.push c) none rest
  | c :: rest =>
    let t := t.settle pending
    if c.toNat < 0x20 then (t.stop .controlCharacter, none)
    else readString (t.push c) none rest

/-- The value of a string. -/
def ofKey : Key → Json
  | .name s => .string s
  | .flawed flaw => .flawed flaw

/-! ### Words and numerals -/

/-- Reads the rest of a word, and gives its value if it is complete. -/
def readWord (value : Json) (word : List Char) (cs : List Char) : Json × Option (List Char) :=
  match word, cs with
  | [], rest => (value, some rest)
  | _ :: _, [] => (.flawed (.both .endInValue), none)
  | w :: word, c :: rest =>
    if w = c then readWord value word rest else (.flawed (.both .expectedWord), none)

/-- Turns away a reader that looks for a text or an object. -/
def turnAway : Json × Option (List Char) → Json × Option (List Char)
  | (.flawed flaw, rest) => (.flawed flaw.turnAway, rest)
  | result => result

/-- Reads a numeral. A numeral out of range is a flaw only for a reader that uses it. -/
def readNumeral (cs : List Char) : Json × Option (List Char) :=
  match Numeral.take cs with
  | .error flaw => (.flawed flaw, none)
  | .ok (numeral, rest) =>
    match numeral.value with
    | some n => (.number n, some rest)
    | none => (.flawed { reading := .numberOutOfRange, skipping := none }, some rest)

/-! ### Values -/

/-- The list that ends with a flaw. -/
def brokenItems (reading skipping : SyntaxError) : List Json × Option (List Char) :=
  ([.flawed { reading := reading, skipping := some skipping }], none)

/-- The members that end with a flaw. -/
def brokenMembers (reading skipping : SyntaxError) :
    List (Key × Json) × Option (List Char) :=
  ([(.flawed { reading := reading, skipping := some skipping }, .null)], none)

mutual

/-- Reads a value; the first argument bounds the number of nested calls. -/
def readValue : Nat → List Char → Json × Option (List Char)
  | 0, _ => (.flawed (.both .endInValue), none)
  | fuel + 1, cs =>
    match skipSpace cs with
    | [] => (.flawed (.both .endInValue), none)
    | 'n' :: rest => readWord .null ['u', 'l', 'l'] rest
    | 't' :: rest => turnAway (readWord (.bool true) ['r', 'u', 'e'] rest)
    | 'f' :: rest => turnAway (readWord (.bool false) ['a', 'l', 's', 'e'] rest)
    | '"' :: rest =>
      let (key, rest) := readString (.ok []) none rest
      (ofKey key, rest)
    | '[' :: rest =>
      let (items, rest) := readFirstItem fuel rest
      (.array items, rest)
    | '{' :: rest =>
      let (members, rest) := readFirstMember fuel rest
      (.object members, rest)
    | c :: rest =>
      if c = '-' ∨ isDigit c then turnAway (readNumeral (c :: rest))
      else (.flawed (.both .expectedValue), none)

/-- Reads a list from behind its opening bracket. -/
def readFirstItem : Nat → List Char → List Json × Option (List Char)
  | 0, _ => brokenItems .endInList .endInList
  | fuel + 1, cs =>
    match skipSpace cs with
    | [] => brokenItems .endInList .endInList
    | ']' :: rest => ([], some rest)
    | rest => readItem fuel rest

/-- Reads an item and the rest of its list. -/
def readItem : Nat → List Char → List Json × Option (List Char)
  | 0, _ => brokenItems .endInList .endInList
  | fuel + 1, cs =>
    match readValue fuel cs with
    | (item, none) => ([item], none)
    | (item, some rest) =>
      let (items, rest) := readMoreItems fuel rest
      (item :: items, rest)

/-- Reads the rest of a list from behind an item. -/
def readMoreItems : Nat → List Char → List Json × Option (List Char)
  | 0, _ => brokenItems .endInList .endInList
  | fuel + 1, cs =>
    match skipSpace cs with
    | [] => brokenItems .endInList .endInList
    | ']' :: rest => ([], some rest)
    | ',' :: rest =>
      match skipSpace rest with
      | [] => brokenItems .endInValue .endInValue
      | ']' :: _ => brokenItems .trailingComma .expectedValue
      | rest => readItem fuel rest
    | _ => brokenItems .expectedListSeparator .expectedListSeparator

/-- Reads an object from behind its opening brace. -/
def readFirstMember : Nat → List Char → List (Key × Json) × Option (List Char)
  | 0, _ => brokenMembers .endInObject .endInObject
  | fuel + 1, cs =>
    match skipSpace cs with
    | [] => brokenMembers .endInObject .endInObject
    | '}' :: rest => ([], some rest)
    | '"' :: rest => readMember fuel rest
    | _ => brokenMembers .keyNotString .keyNotString

/-- Reads a member from behind the opening quote of its key, and the rest of its object. -/
def readMember : Nat → List Char → List (Key × Json) × Option (List Char)
  | 0, _ => brokenMembers .endInObject .endInObject
  | fuel + 1, cs =>
    match readString (.ok []) none cs with
    | (key, none) => ([(key, .null)], none)
    | (key, some rest) =>
      match skipSpace rest with
      | [] => ([(key, .flawed (.both .endInObject))], none)
      | ':' :: rest =>
        match readValue fuel rest with
        | (value, none) => ([(key, value)], none)
        | (value, some rest) =>
          let (members, rest) := readMoreMembers fuel rest
          ((key, value) :: members, rest)
      | _ => ([(key, .flawed (.both .expectedColon))], none)

/-- Reads the rest of an object from behind a member. -/
def readMoreMembers : Nat → List Char → List (Key × Json) × Option (List Char)
  | 0, _ => brokenMembers .endInObject .endInObject
  | fuel + 1, cs =>
    match skipSpace cs with
    | [] => brokenMembers .endInObject .endInObject
    | '}' :: rest => ([], some rest)
    | ',' :: rest =>
      match skipSpace rest with
      | [] => brokenMembers .endInValue .endInObject
      | '}' :: _ => brokenMembers .trailingComma .keyNotString
      | '"' :: rest => readMember fuel rest
      | _ => brokenMembers .keyNotString .keyNotString
    | _ => brokenMembers .expectedObjectSeparator .expectedObjectSeparator

end

end SchemaLedger.Json

namespace SchemaLedger.Document

open SchemaLedger.Json

/-- Reads a list of characters as a document. Every call takes a character from the text or is made
by one that has, so the bound on nested calls is never reached. -/
def ofChars (cs : List Char) : Document :=
  let (root, rest) := readValue (3 * cs.length + 3) cs
  { root := root.limitDepth maxLevels
    hasMore := match rest with
      | none => false
      | some rest => !(skipSpace rest).isEmpty }

/-- Reads a text as a document. -/
def ofText (text : String) : Document := ofChars text.toList

end SchemaLedger.Document
