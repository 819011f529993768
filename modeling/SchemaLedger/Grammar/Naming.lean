import SchemaLedger.Sql.Quoted
import SchemaLedger.Text.Blank
import SchemaLedger.Text.Search

/-!
# Identifiers

A dialect writes an identifier between its quotes. An identifier may be dotted, and its first
segment then names a table and takes the table prefix; it may also carry an alias after the word
`as`. A bare star is never quoted.
-/

namespace SchemaLedger

/-- How a dialect writes identifiers: its quote, and the prefix of its table names. -/
structure Naming where
  quote : Char
  tablePrefix : String
  deriving DecidableEq, Repr

namespace Naming

/-- The characters behind the word `as` between blanks, in any case, if a list begins with it. -/
def dropAliasWord : List Char → Option (List Char)
  | ' ' :: a :: s :: ' ' :: rest =>
    if (a = 'a' ∨ a = 'A') ∧ (s = 's' ∨ s = 'S') then some rest else none
  | _ => none

/-- Splits at the first word `as` between blanks. -/
def splitAlias : List Char → Option (List Char × List Char)
  | [] => none
  | c :: cs =>
    match dropAliasWord (c :: cs) with
    | some rest => some ([], rest)
    | none => (splitAlias cs).map fun (target, rest) => (c :: target, rest)

/-- Quotes one segment of an identifier. -/
def wrapValue (n : Naming) (value : String) : String :=
  if value = "*" then value else String.ofList (Sql.Quoted.encode n.quote value.toList)

/-- Quotes the segments of an identifier without an alias. The first of several segments takes
`start` in front. -/
def wrapSegments (n : Naming) (start : String) (value : String) : String :=
  match Text.split '.' value with
  | [] => ""
  | [segment] => n.wrapValue segment
  | first :: rest => Text.join "." (n.wrapValue (start ++ first) :: rest.map n.wrapValue)

/-- Quotes an identifier that may have an alias: `start` goes in front of the first of several
segments, and `aliasStart` in front of the alias. -/
def wrapIdentifier (n : Naming) (start aliasStart : String) (value : String) : String :=
  match splitAlias value.toList with
  | none => n.wrapSegments start value
  | some (target, rest) =>
    n.wrapSegments start (Text.trim (String.ofList target)) ++ " AS " ++
      n.wrapValue (aliasStart ++ Text.trim (String.ofList rest))

/-- Quotes the name of a column or an index. -/
def wrap (n : Naming) (value : String) : String :=
  n.wrapIdentifier n.tablePrefix "" value

/-- Quotes the name of a table with its prefix. -/
def wrapTable (n : Naming) (table : String) : String :=
  n.wrapIdentifier "" n.tablePrefix (n.tablePrefix ++ table)

/-- Quotes names one by one. -/
def wrapAll (n : Naming) (values : List String) : List String :=
  values.map n.wrap

/-- Quotes the names of columns in a row. -/
def columnList (n : Naming) (columns : List String) : String :=
  Text.join ", " (n.wrapAll columns)

/-- Puts a word and a blank in front of each text. -/
def prependWord (word : String) (values : List String) : List String :=
  values.map fun value => word ++ " " ++ value

end Naming

end SchemaLedger
