import SchemaLedger.Files.Tree

/-!
# Snapshots

What was seen of a file system at some moment, path by path. As a file system, a snapshot gives the
answers that were seen, and knows nothing about any other path.
-/

namespace SchemaLedger

/-- Answers about paths. -/
structure Snapshot where
  texts : List (Path × Except FileError String)
  listings : List (Path × Except FileError (List DirectoryEntry))
  places : List (Path × Except FileError Path)

namespace Snapshot

/-- A snapshot of nothing. -/
def empty : Snapshot := ⟨[], [], []⟩

/-- The answer about a path. -/
def answer {α : Type} (answers : List (Path × Except FileError α)) (p : Path) :
    Except FileError α :=
  ((answers.find? fun entry => entry.1 == p).map (·.2)).getD (.error .notFound)

/-- The file system of which this was seen. -/
def fileSystem (s : Snapshot) : FileSystem where
  readText := answer s.texts
  list := answer s.listings
  canonical := answer s.places

/-- The snapshot with the contents of a file. -/
def addText (s : Snapshot) (p : Path) (seen : Except FileError String) : Snapshot :=
  { s with texts := (p, seen) :: s.texts }

/-- The snapshot with what a directory holds. -/
def addListing (s : Snapshot) (p : Path) (seen : Except FileError (List DirectoryEntry)) :
    Snapshot :=
  { s with listings := (p, seen) :: s.listings }

/-- The snapshot with the place of a path seen from the root. -/
def addPlace (s : Snapshot) (p : Path) (seen : Except FileError Path) : Snapshot :=
  { s with places := (p, seen) :: s.places }

end Snapshot

end SchemaLedger
