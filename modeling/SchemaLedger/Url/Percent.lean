import SchemaLedger.Text.Utf8

/-!
# Percent encoding

In a URL a byte may be written as a percent sign and two hexadecimal digits. A percent sign without
two such digits behind it stands for itself.
-/

namespace SchemaLedger.Url

/-- The value of a hexadecimal digit. -/
def hexValue (b : UInt8) : Option UInt8 :=
  if 0x30 ≤ b && b ≤ 0x39 then some (b - 0x30)
  else if 0x41 ≤ b && b ≤ 0x46 then some (b - 0x37)
  else if 0x61 ≤ b && b ≤ 0x66 then some (b - 0x57)
  else none

/-- The bytes behind percent signs. -/
def percentBytes : List UInt8 → List UInt8
  | [] => []
  | [b] => [b]
  | [b, d] => [b, d]
  | b :: d :: e :: rest =>
    if b = 0x25 then
      match hexValue d, hexValue e with
      | some high, some low => (high * 16 + low) :: percentBytes rest
      | _, _ => b :: percentBytes (d :: e :: rest)
    else b :: percentBytes (d :: e :: rest)

/-- A text without percent encoding, if its bytes are a text. -/
def percentDecode (cs : List Char) : Except Utf8.DecodeFailure String :=
  Utf8.decode (percentBytes (Utf8.encode cs))

/-- A name or a value of a query: plus signs stand for blanks, and bytes that are no text are
replaced. -/
def formDecode (cs : List Char) : String :=
  Utf8.decodeAny (percentBytes (Utf8.encode (cs.map fun c => if c = '+' then ' ' else c)))

end SchemaLedger.Url
