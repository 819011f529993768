import SchemaLedger.ChangeSet.Loader
import SchemaLedger.Migration.Config

/-!
# Finding change-sets

The change-sets of a configuration are the regular files in its directories that some loader
accepts. They are ordered by file name, and no two of them may have the same one.
-/

namespace SchemaLedger

/-- The file of a change-set: its directory and its name. -/
structure Pending where
  path : Path
  file : String
  deriving DecidableEq, Repr

namespace Pending

/-- The path of the file. -/
def fullPath (p : Pending) : Path := p.path.join ⟨p.file⟩

/-- Whether the name of one file does not come after that of another. -/
def nameLe (a b : Pending) : Bool := decide (a.file ≤ b.file)

/-- The first two neighbours with the same name. -/
def firstDuplicate : List Pending → Option (Pending × Pending)
  | a :: b :: rest => if a.file = b.file then some (a, b) else firstDuplicate (b :: rest)
  | _ => none

end Pending

/-- The first loader that accepts a path. -/
def loaderFor (loaders : List Loader) (path : Path) : Option Loader :=
  loaders.find? fun loader => loader.accepts path

/-- The accepted files in a directory; none in a directory that does not exist. -/
def acceptedFiles (files : FileSystem) (loaders : List Loader) (dir : Path) :
    Except FileError (List Pending) :=
  match files.list dir with
  | .error .notFound => .ok []
  | .error e => .error e
  | .ok entries =>
    .ok ((entries.filter fun entry =>
        entry.isFile && (loaderFor loaders (dir.join ⟨entry.name⟩)).isSome).map fun entry =>
      ⟨dir, entry.name⟩)

/-- The accepted files in directories one after another. -/
def acceptedInAll (files : FileSystem) (loaders : List Loader) :
    List Path → Except FileError (List Pending)
  | [] => .ok []
  | dir :: dirs =>
    match acceptedFiles files loaders dir with
    | .error e => .error e
    | .ok found =>
      match acceptedInAll files loaders dirs with
      | .error e => .error e
      | .ok more => .ok (found ++ more)

/-- The directories that do not exist, up to the first one that cannot be listed. -/
def missingDirectories (files : FileSystem) : List Path → List Path
  | [] => []
  | dir :: dirs =>
    match files.list dir with
    | .error .notFound => dir :: missingDirectories files dirs
    | .error _ => []
    | .ok _ => missingDirectories files dirs

/-- The change-sets in directories, in the order of their file names. -/
def discover (files : FileSystem) (loaders : List Loader) (dirs : List Path) :
    Except MigrateError (List Pending) :=
  match acceptedInAll files loaders dirs with
  | .error e => .error (.file e)
  | .ok found =>
    let sorted := found.mergeSort Pending.nameLe
    match Pending.firstDuplicate sorted with
    | some (a, b) => .error (.duplicate a.file a.path b.path)
    | none => .ok sorted

end SchemaLedger
