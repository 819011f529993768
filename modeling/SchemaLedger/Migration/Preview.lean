import SchemaLedger.Text.Search

/-!
# Previews

A preview lists change-sets that were not applied yet, with their statements unless it is a summary.
-/

namespace SchemaLedger

/-- A change-set in a preview: its directory, its file, and its statements if they are shown. -/
structure PreviewEntry where
  path : String
  file : String
  sql : Option (List String)
  deriving DecidableEq, Repr

namespace PreviewEntry

/-- The line with the name of the file. -/
def title (e : PreviewEntry) : String :=
  if e.path.isEmpty then "  " ++ e.file else "  " ++ e.path ++ "/" ++ e.file

/-- The lines of an entry: its title and the lines of its statements. -/
def lines (e : PreviewEntry) : List String :=
  e.title :: ((e.sql.getD []).flatMap Text.lines).map fun line => "      " ++ line

end PreviewEntry

/-- Lines with their ends. -/
def unlines (lines : List String) : String :=
  String.ofList (lines.flatMap fun line => line.toList ++ ['\n'])

/-- The text of a preview. -/
def previewText (entries : List PreviewEntry) : String :=
  if entries.isEmpty then "No pending migrations.\n"
  else
    unlines ((toString entries.length ++ " pending migration(s):") ::
      entries.flatMap PreviewEntry.lines)

end SchemaLedger
