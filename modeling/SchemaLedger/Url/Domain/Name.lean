import SchemaLedger.Text.NormalForm
import SchemaLedger.Url.Domain.Label
import SchemaLedger.Url.Domain.Mapping
import SchemaLedger.Url.Domain.Punycode

/-!
# Domain names

A domain name is brought into its normal form: characters are replaced by those that they stand for,
the whole is composed, labels in Punycode are read, and every label is checked. A name without a
normal form is refused.
-/

namespace SchemaLedger.Domain

/-- Whether a character has a meaning of its own in a URL, so that no name may have it. -/
def isReserved (c : Char) : Bool :=
  c.toNat ≤ 0x20 || c.toNat == 0x7F ||
    ['#', '%', '/', ':', '<', '>', '?', '@', '[', '\\', ']', '^', '|'].contains c

/-- The characters of a name replaced by those that they stand for, and composed. -/
def mapped (name : List Char) : Option (List Char) :=
  match name.mapM image with
  | none => none
  | some images =>
    let cs := Text.normalForm images.flatten
    if cs.any isReserved then none else some cs

/-- What a label in Punycode begins with. -/
def punycodeMark : List Char := ['x', 'n', '-', '-']

/-- The greatest number of characters behind the mark of a label in Punycode. -/
def maxPunycodeLength : Nat := 2000

/-- Reads the part of a label behind the mark of Punycode. The result has to be in normal form. -/
def readPunycode (cs : List Char) : Option (List Char) :=
  if !isPlain cs || cs.getLast?.getD '-' == '-' || maxPunycodeLength < cs.length then none
  else
    match Punycode.decode cs with
    | none => none
    | some label => if mapped label = some label then some label else none

/-- The normal form of a label. -/
def readLabel (cs : List Char) : Option (List Char) :=
  let label := if punycodeMark.isPrefixOf cs then readPunycode (cs.drop 4) else some cs
  match label with
  | none => none
  | some label => if labelFits label then some label else none

/-- The labels of a name in normal form. -/
def labels? (name : List Char) : Option (List (List Char)) :=
  match mapped name with
  | none => none
  | some cs =>
    match (Text.splitOn '.' cs).mapM readLabel with
    | none => none
    | some labels =>
      if (labels.any fun label => label.any fun c => isRightward (Text.orientation c)) &&
          !labels.all keepsDirection then none
      else some labels

/-- Labels with dots between them. -/
def joinLabels : List (List Char) → List Char
  | [] => []
  | [label] => label
  | label :: rest => label ++ '.' :: joinLabels rest

/-- The normal form of a name. -/
def normalName? (name : List Char) : Option (List Char) := (labels? name).map joinLabels

end SchemaLedger.Domain
