/-!
# Texts and bytes

A text is written as bytes in UTF-8, one to four bytes for each character. Bytes that are not the
writing of a text have a first place where they break the rules; a reader reports it, or puts the
replacement character there and goes on behind it.
-/

namespace SchemaLedger.Utf8

/-- The bytes of a list of characters. -/
def encode (cs : List Char) : List UInt8 := cs.flatMap String.utf8EncodeChar

/-- What stands at the front of a list of bytes: nothing, a character, a sequence of bytes that
begins no character, or the beginning of a character whose other bytes are missing. -/
inductive Front where
  | done
  | char (c : Char) (rest : List UInt8)
  | invalid (length : Nat) (rest : List UInt8)
  | incomplete
  deriving Repr

/-- Whether a byte continues a character. -/
def isContinuation (b : UInt8) : Bool := 0x80 ≤ b && b ≤ 0xBF

/-- The six bits that a byte adds to a character. -/
def payload (b : UInt8) : Nat := b.toNat % 0x40

/-- The first byte of a character: how many more bytes it has, its bits in the first byte, and the
bounds of the second byte. Those exclude longer writings than needed and what is no character. -/
def leadingByte (b : UInt8) : Option (Nat × Nat × UInt8 × UInt8) :=
  if b ≤ 0x7F then some (0, b.toNat, 0x80, 0xBF)
  else if 0xC2 ≤ b && b ≤ 0xDF then some (1, b.toNat % 0x20, 0x80, 0xBF)
  else if b == 0xE0 then some (2, 0, 0xA0, 0xBF)
  else if b == 0xED then some (2, 0x0D, 0x80, 0x9F)
  else if 0xE1 ≤ b && b ≤ 0xEF then some (2, b.toNat % 0x10, 0x80, 0xBF)
  else if b == 0xF0 then some (3, 0, 0x90, 0xBF)
  else if 0xF1 ≤ b && b ≤ 0xF3 then some (3, b.toNat % 0x08, 0x80, 0xBF)
  else if b == 0xF4 then some (3, 4, 0x80, 0x8F)
  else none

/-- Reads the later bytes of a character; `taken` counts the bytes before them. -/
def continueChar : Nat → Nat → Nat → List UInt8 → Front
  | 0, _, value, rest => .char (Char.ofNat value) rest
  | _ + 1, _, _, [] => .incomplete
  | more + 1, taken, value, b :: rest =>
    if isContinuation b then continueChar more (taken + 1) (value * 0x40 + payload b) rest
    else .invalid taken (b :: rest)

/-- Reads the front of a list of bytes. -/
def front : List UInt8 → Front
  | [] => .done
  | b :: rest =>
    match leadingByte b with
    | none => .invalid 1 rest
    | some (0, value, _, _) => .char (Char.ofNat value) rest
    | some (more + 1, value, low, high) =>
      match rest with
      | [] => .incomplete
      | second :: rest' =>
        if low ≤ second && second ≤ high then
          continueChar more 2 (value * 0x40 + payload second) rest'
        else .invalid 1 rest

/-- Why bytes are no text: the place of the first byte that belongs to no character, and how many
bytes are wrong there, or `none` if the bytes end inside a character. -/
structure DecodeFailure where
  start : Nat
  length : Option Nat
  deriving DecidableEq, Repr

/-- The text of a failure. -/
def DecodeFailure.message (failure : DecodeFailure) : String :=
  match failure.length with
  | some n =>
    "invalid utf-8 sequence of " ++ toString n ++ " bytes from index " ++ toString failure.start
  | none => "incomplete utf-8 byte sequence from index " ++ toString failure.start

/-- Reads bytes as characters; each takes a byte at least, so as many steps as there are bytes are
enough. -/
def decodeSteps : Nat → Nat → List UInt8 → Except DecodeFailure (List Char)
  | 0, _, _ => .ok []
  | steps + 1, start, bytes =>
    match front bytes with
    | .done => .ok []
    | .incomplete => .error ⟨start, none⟩
    | .invalid length _ => .error ⟨start, some length⟩
    | .char c rest =>
      match decodeSteps steps (start + c.utf8Size) rest with
      | .ok cs => .ok (c :: cs)
      | .error e => .error e

/-- Reads bytes as a text. -/
def decode (bytes : List UInt8) : Except DecodeFailure String :=
  (decodeSteps bytes.length 0 bytes).map String.ofList

/-- Reads bytes as characters, with the replacement character for what is none. -/
def decodeAnySteps : Nat → List UInt8 → List Char
  | 0, _ => []
  | steps + 1, bytes =>
    match front bytes with
    | .done => []
    | .incomplete => ['\ufffd']
    | .invalid _ rest => '\ufffd' :: decodeAnySteps steps rest
    | .char c rest => c :: decodeAnySteps steps rest

/-- Reads bytes as a text, with the replacement character for what is no character. -/
def decodeAny (bytes : List UInt8) : String := String.ofList (decodeAnySteps bytes.length bytes)

end SchemaLedger.Utf8
