/-!
# Writing strings of documents

A string is written between double quotes. A quote, a backslash and the five control characters with
a letter of their own are written with a backslash, any other control character below the space as
four hexadecimal digits, and every other character as it is.
-/

namespace SchemaLedger.Json

/-- A lower-case hexadecimal digit. -/
def hexDigit (n : Nat) : Char := Nat.digitChar (n % 16)

/-- The written form of a character inside a string. -/
def escapeChar (c : Char) : List Char :=
  if c = '"' then ['\\', '"']
  else if c = '\\' then ['\\', '\\']
  else if c = '\x08' then ['\\', 'b']
  else if c = '\x0c' then ['\\', 'f']
  else if c = '\n' then ['\\', 'n']
  else if c = '\r' then ['\\', 'r']
  else if c = '\t' then ['\\', 't']
  else if c.toNat < 0x20 then
    ['\\', 'u', '0', '0', hexDigit (c.toNat / 16), hexDigit c.toNat]
  else [c]

/-- The written form of the characters of a string. -/
def escape (cs : List Char) : List Char := cs.flatMap escapeChar

/-- The written form of a string. -/
def quote (s : String) : String :=
  String.ofList ('"' :: (escape s.toList ++ ['"']))

/-- A written text has its escaped characters between two quotes. -/
@[simp] theorem toList_quote (s : String) :
    (quote s).toList = '"' :: (escape s.toList ++ ['"']) := by
  simp [quote]

/-- Characters are escaped one by one. -/
@[simp] theorem escape_cons (c : Char) (cs : List Char) :
    escape (c :: cs) = escapeChar c ++ escape cs := rfl

end SchemaLedger.Json
