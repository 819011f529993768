/-!
# Quotation by doubling

A quoted text stands between two quotes, and a quote inside it is written twice. Identifiers and
string literals are both written in this way, with different quotes. `Quoted.read` is the reader of
this notation; a backslash means nothing to it.
-/

namespace SchemaLedger.Sql

namespace Quoted

/-- The inside of a quoted text: every quote twice and any other character once. -/
def double (quote : Char) : List Char → List Char
  | [] => []
  | c :: cs => if c = quote then quote :: quote :: double quote cs else c :: double quote cs

/-- A text between quotes. -/
def encode (quote : Char) (cs : List Char) : List Char :=
  quote :: (double quote cs ++ [quote])

/-- Reads a quoted text from behind its opening quote, up to and with the first quote that is not
followed by another one. -/
def readRest (quote : Char) : List Char → Option (List Char × List Char)
  | [] => none
  | [c] => if c = quote then some ([], []) else none
  | c :: d :: cs =>
    if c = quote then
      if d = quote then (readRest quote cs).map fun (inside, rest) => (quote :: inside, rest)
      else some ([], d :: cs)
    else (readRest quote (d :: cs)).map fun (inside, rest) => (c :: inside, rest)

/-- Reads a quoted text at the front, and gives it with what follows. -/
def read (quote : Char) : List Char → Option (List Char × List Char)
  | [] => none
  | c :: cs => if c = quote then readRest quote cs else none

/-- Nothing stands between the quotes of the empty text. -/
@[simp] theorem double_nil (quote : Char) : double quote [] = [] := rfl

end Quoted

/-- A string literal between single quotes. -/
def quoteString (s : String) : String :=
  String.ofList (Quoted.encode '\x27' s.toList)

/-- A string literal is its text, encoded with single quotes. -/
@[simp] theorem toList_quoteString (s : String) :
    (quoteString s).toList = Quoted.encode '\x27' s.toList := by
  simp [quoteString]

end SchemaLedger.Sql
