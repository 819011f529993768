/-!
# Searching and cutting texts

Occurrence of one text in another, cutting at a separator, joining, and the lines of a text. All of
it works on lists of characters; the functions on `String` are views of those.
-/

namespace SchemaLedger.Text

/-- Whether `needle` occurs in a list of characters. -/
def occursIn (needle : List Char) : List Char → Bool
  | [] => needle.isEmpty
  | c :: rest => needle.isPrefixOf (c :: rest) || occursIn needle rest

/-- Whether `needle` occurs in `text`. -/
def contains (text needle : String) : Bool :=
  occursIn needle.toList text.toList

/-- Whether `text` begins with `start`. -/
def beginsWith (text start : String) : Bool :=
  start.toList.isPrefixOf text.toList

/-- Puts a character in front of the first piece. -/
def consFirst (c : Char) : List (List Char) → List (List Char)
  | [] => [[c]]
  | piece :: pieces => (c :: piece) :: pieces

/-- The pieces between the separators; there is one more piece than there are separators. -/
def splitOn (separator : Char) : List Char → List (List Char)
  | [] => [[]]
  | c :: rest =>
    if c = separator then [] :: splitOn separator rest else consFirst c (splitOn separator rest)

/-- The pieces of a text between the separators. -/
def split (separator : Char) (text : String) : List String :=
  (splitOn separator text.toList).map String.ofList

/-- The texts one after another with `separator` between neighbours. -/
def join (separator : String) : List String → String
  | [] => ""
  | [text] => text
  | text :: next :: rest => text ++ separator ++ join separator (next :: rest)

/-- Drops one carriage return at the end of a line. -/
def dropCarriageReturn (line : List Char) : List Char :=
  match line.reverse with
  | '\r' :: rest => rest.reverse
  | _ => line

/-- The lines among the pieces between line feeds. The last piece was not ended by a line feed: it
keeps its carriage return, and it is no line when it is empty. -/
def linesOfPieces : List (List Char) → List (List Char)
  | [] => []
  | [last] => if last.isEmpty then [] else [last]
  | piece :: next :: rest => dropCarriageReturn piece :: linesOfPieces (next :: rest)

/-- The lines of a text, without their ends. -/
def lines (text : String) : List String :=
  (linesOfPieces (splitOn '\n' text.toList)).map String.ofList

/-- The lower-case form of an ASCII capital; any other character is kept. -/
def lowerAscii (c : Char) : Char :=
  if 'A' ≤ c ∧ c ≤ 'Z' then Char.ofNat (c.toNat + 32) else c

/-- A text with its ASCII capitals in lower case. -/
def toLowerAscii (text : String) : String :=
  String.ofList (text.toList.map lowerAscii)

/-- Whether two texts differ at most in the case of ASCII letters. -/
def sameIgnoringCase (a b : String) : Bool :=
  a.toList.map lowerAscii == b.toList.map lowerAscii

/-- A text has at least one piece, which is the whole text when there is no separator in it. -/
theorem splitOn_ne_nil (separator : Char) (cs : List Char) : splitOn separator cs ≠ [] := by
  induction cs with
  | nil => simp [splitOn]
  | cons c rest ih =>
    unfold splitOn
    split
    · simp
    · cases h : splitOn separator rest with
      | nil => exact absurd h ih
      | cons piece pieces => simp [consFirst]

/-- One text alone gets no separator. -/
@[simp] theorem join_singleton (separator text : String) : join separator [text] = text := rfl

/-- Texts are joined as by the standard library, whose function builds its result from the left. -/
theorem join_eq_intercalate (separator : String) (texts : List String) :
    join separator texts = separator.intercalate texts := by
  induction texts with
  | nil => exact String.intercalate_nil.symm
  | cons text rest ih =>
    cases rest with
    | nil => exact String.intercalate_singleton.symm
    | cons next rest => rw [join, ih, String.intercalate_cons_cons]

end SchemaLedger.Text
