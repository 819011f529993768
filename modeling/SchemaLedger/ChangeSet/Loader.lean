import SchemaLedger.ChangeSet.Document
import SchemaLedger.Migration.Error

/-!
# Loading change-sets

A loader turns the file at a path into a change-set, if it accepts the path. One loader reads change
scripts from files; another one knows change-sets by the names of their files and does not look into
them.
-/

namespace SchemaLedger

/-- A way to get the change-set of a file. -/
structure Loader where
  accepts : Path → Bool
  load : FileSystem → Path → Except LoadError ChangeSet

namespace Loader

/-- Reads the change script in a file. -/
def loadScript (files : FileSystem) (path : Path) : Except LoadError ChangeSet :=
  match files.readText path with
  | .error e => .error (.file e)
  | .ok text =>
    match ChangeScript.ofText text with
    | .error e => .error (.document e)
    | .ok script => .ok script.toChangeSet

/-- The loader of change scripts, for files with the extension `json`. -/
def scripts : Loader where
  accepts := fun path => path.extension == some "json"
  load := loadScript

end Loader

/-- Change-sets by the names of their files. -/
structure Registry where
  entries : List (String × ChangeSet)

namespace Registry

/-- A registry without entries. -/
def empty : Registry := ⟨[]⟩

/-- Whether there is an entry of a name. -/
def contains (r : Registry) (file : String) : Bool := r.entries.any fun entry => entry.1 == file

/-- The change-set of a name. -/
def get? (r : Registry) (file : String) : Option ChangeSet :=
  (r.entries.find? fun entry => entry.1 == file).map (·.2)

/-- Enters a change-set under a name, in place of an earlier one of that name. -/
def insert (r : Registry) (file : String) (c : ChangeSet) : Registry :=
  ⟨(file, c) :: r.entries.filter fun entry => entry.1 != file⟩

/-- The number of entries. -/
def size (r : Registry) : Nat := r.entries.length

/-- The loader that looks names up in a registry. -/
def loader (r : Registry) : Loader where
  accepts := fun path => (path.fileName.map r.contains).getD false
  load := fun _ path =>
    match path.fileName.bind r.get? with
    | some c => .ok c
    | none => .error .unregistered

end Registry

end SchemaLedger
