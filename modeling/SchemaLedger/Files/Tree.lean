import SchemaLedger.Files.Path

/-!
# Files

A file system answers three questions about a path: what the file there contains, what the directory
there holds, and where it is seen from the root. A tree of directories answers them by walking the
parts of the path from the directory that relative paths start from.
-/

namespace SchemaLedger

/-- Why a question about a path has no answer. -/
inductive FileError where
  | notFound
  | notDirectory
  | isDirectory
  | nameTooLong
  | zeroInName
  | notText
  | system (code : Nat) (details : String)
  deriving DecidableEq, Repr

/-- The text of a file error. -/
def FileError.message : FileError → String
  | .notFound => "No such file or directory (os error 2)"
  | .notDirectory => "Not a directory (os error 20)"
  | .isDirectory => "Is a directory (os error 21)"
  | .nameTooLong => "File name too long (os error 36)"
  | .zeroInName => "file name contained an unexpected NUL byte"
  | .notText => "stream did not contain valid UTF-8"
  | .system code details => details ++ " (os error " ++ toString code ++ ")"

/-- The file error with a number that the operating system gave. -/
def FileError.ofCode (code : Nat) (details : String) : FileError :=
  match code with
  | 2 => .notFound
  | 20 => .notDirectory
  | 21 => .isDirectory
  | 36 => .nameTooLong
  | _ => .system code details

/-- What a directory holds under a name, which is never empty. -/
structure DirectoryEntry where
  name : String
  isFile : Bool
  name_ne : name ≠ ""
  deriving DecidableEq, Repr

/-- What a directory holds under a name, if that can be a name. -/
def DirectoryEntry.ofName? (name : String) (isFile : Bool) : Option DirectoryEntry :=
  if h : name = "" then none else some ⟨name, isFile, h⟩

/-- What can be asked about paths. -/
structure FileSystem where
  readText : Path → Except FileError String
  list : Path → Except FileError (List DirectoryEntry)
  canonical : Path → Except FileError Path

/-- A tree of directories and files. A file whose bytes are no text has no contents. -/
inductive FileTree where
  | file (contents : Option String)
  | directory (entries : List (String × FileTree))

namespace FileTree

instance : Inhabited FileTree := ⟨.directory []⟩

/-- What a tree holds under a name. -/
def child (name : String) : FileTree → Option FileTree
  | .file _ => none
  | .directory entries => (entries.find? fun entry => entry.1 == name).map (·.2)

/-- A place in a tree: the tree there, and the directories on the way with the names taken, nearest
first. -/
structure Place where
  tree : FileTree
  above : List (String × FileTree)

/-- The place of the root of a tree. -/
def Place.root (tree : FileTree) : Place := ⟨tree, []⟩

/-- The directory above a place; the root is above itself. -/
def Place.parent (place : Place) : Place :=
  match place.above with
  | [] => place
  | (_, tree) :: above => ⟨tree, above⟩

/-- The greatest size of a name in bytes. -/
def maxNameBytes : Nat := 255

/-- The greatest size of a path in bytes. -/
def maxPathBytes : Nat := 4095

/-- One step of a walk, from a directory to what it holds under a part of a path. -/
def Place.step (place : Place) (part : String) : Except FileError Place :=
  match place.tree with
  | .file _ => .error .notDirectory
  | .directory entries =>
    if part = "" ∨ part = "." then .ok place
    else if part = ".." then .ok place.parent
    else if maxNameBytes < part.utf8ByteSize then .error .nameTooLong
    else
      match (FileTree.directory entries).child part with
      | some tree => .ok ⟨tree, (part, place.tree) :: place.above⟩
      | none => .error .notFound

/-- Walks the parts of a path one by one. -/
def Place.walk (place : Place) : List String → Except FileError Place
  | [] => .ok place
  | part :: parts =>
    match place.step part with
    | .ok next => next.walk parts
    | .error e => .error e

/-- The place of a path in a tree; a relative path starts from `start`. -/
def locate (tree : FileTree) (start p : Path) : Except FileError Place :=
  if p.text.toList.contains '\x00' then .error .zeroInName
  else if p.text = "" then .error .notFound
  else if maxPathBytes < p.text.utf8ByteSize then .error .nameTooLong
  else
    let whole := if p.isAbsolute then p else start.join p
    (Place.root tree).walk (Text.split '/' whole.text)

/-- The contents of the file at a place. -/
def Place.readText (place : Place) : Except FileError String :=
  match place.tree with
  | .directory _ => .error .isDirectory
  | .file none => .error .notText
  | .file (some text) => .ok text

/-- Whether a tree is a file. -/
def isFile : FileTree → Bool
  | .file _ => true
  | .directory _ => false

/-- What the directory at a place holds. -/
def Place.list (place : Place) : Except FileError (List DirectoryEntry) :=
  match place.tree with
  | .file _ => .error .notDirectory
  | .directory entries =>
    .ok (entries.filterMap fun (name, tree) => DirectoryEntry.ofName? name tree.isFile)

/-- The path of a place from the root. -/
def Place.path (place : Place) : Path :=
  ⟨"/" ++ Text.join "/" (place.above.map (·.1)).reverse⟩

/-- The questions about paths, answered from a tree. -/
def fileSystem (tree : FileTree) (start : Path) : FileSystem where
  readText := fun p => (tree.locate start p).bind Place.readText
  list := fun p => (tree.locate start p).bind Place.list
  canonical := fun p => (tree.locate start p).map Place.path

/-! ### Changing a tree -/

/-- The tree with something put under the names of a path; directories on the way are made. -/
def insert (new : FileTree) : List String → FileTree → FileTree
  | [], _ => new
  | name :: names, tree =>
    let entries := match tree with
      | .directory entries => entries
      | .file _ => []
    let inner := insert new names (((FileTree.directory entries).child name).getD (.directory []))
    if entries.any fun entry => entry.1 == name then
      .directory (entries.map fun entry => if entry.1 == name then (name, inner) else entry)
    else .directory (entries ++ [(name, inner)])

/-- The tree with a directory at a path; what is there already stays. -/
def insertDirectory (names : List String) (tree : FileTree) : FileTree :=
  match names with
  | [] => tree
  | name :: names =>
    let entries := match tree with
      | .directory entries => entries
      | .file _ => []
    let inner := insertDirectory names
      (((FileTree.directory entries).child name).getD (.directory []))
    if entries.any fun entry => entry.1 == name then
      .directory (entries.map fun entry => if entry.1 == name then (name, inner) else entry)
    else .directory (entries ++ [(name, inner)])

/-- The tree without what stands at a path. -/
def erase : List String → FileTree → FileTree
  | [], tree => tree
  | _ :: _, .file contents => .file contents
  | [name], .directory entries => .directory (entries.filter fun entry => entry.1 != name)
  | name :: names, .directory entries =>
    match (FileTree.directory entries).child name with
    | none => .directory entries
    | some inner =>
      let inner := erase names inner
      .directory (entries.map fun entry => if entry.1 == name then (name, inner) else entry)

end FileTree

end SchemaLedger
