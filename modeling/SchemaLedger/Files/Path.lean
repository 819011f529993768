import SchemaLedger.Text.Search

/-!
# Paths

A path is a text whose parts stand between slashes. Its components leave out what does not matter
for where it leads: repeated and trailing slashes, and every `.` that is not the first part of a
relative path. A `..` is kept. Paths are compared by their components and shown as their text.
-/

namespace SchemaLedger

/-- A path, as it was written. -/
structure Path where
  text : String
  deriving DecidableEq, Repr

namespace Path

/-- A component of a path. -/
inductive Component where
  | root
  | current
  | parent
  | name (s : String)
  deriving DecidableEq, Repr

/-- The text of a component. -/
def Component.text : Component → String
  | .root => "/"
  | .current => "."
  | .parent => ".."
  | .name s => s

/-- Whether a path starts at the root. -/
def isAbsolute (p : Path) : Bool :=
  match p.text.toList with
  | '/' :: _ => true
  | _ => false

/-- The component that a part between slashes stands for. -/
def componentOfPart (part : List Char) : Option Component :=
  if part = [] ∨ part = ['.'] then none
  else if part = ['.', '.'] then some .parent
  else some (.name (String.ofList part))

/-- The components of the parts of a path, in order. -/
def componentsOfParts (parts : List (List Char)) : List Component :=
  parts.filterMap componentOfPart

/-- The component in front of the others: the root of an absolute path, or the `.` with which a
relative path begins. -/
def leadingComponent (parts : List (List Char)) : List Component :=
  match parts with
  | [] :: _ :: _ => [.root]
  | ['.'] :: _ => [.current]
  | _ => []

/-- The components of a path. -/
def components (p : Path) : List Component :=
  let parts := Text.splitOn '/' p.text.toList
  leadingComponent parts ++ componentsOfParts parts

/-- The path of a list of components. -/
def ofComponents : List Component → Path
  | .root :: rest => ⟨"/" ++ Text.join "/" (rest.map Component.text)⟩
  | components => ⟨Text.join "/" (components.map Component.text)⟩

/-- A path without what its components leave out. -/
def normal (p : Path) : Path := ofComponents p.components

/-- Whether two paths have the same components. -/
def same (p q : Path) : Bool := p.components == q.components

/-- A path seen from another one: an absolute path stays, and a relative one is put behind a slash,
unless there is one already or nothing to put it behind. -/
def join (p q : Path) : Path :=
  if q.isAbsolute then q
  else
    match p.text.toList.getLast? with
    | none => q
    | some '/' => ⟨p.text ++ q.text⟩
    | some _ => ⟨p.text ++ "/" ++ q.text⟩

/-- The components of a path below another one, if it lies there. -/
def stripComponents : List Component → List Component → Option (List Component)
  | components, [] => some components
  | [], _ :: _ => none
  | c :: components, d :: base => if c = d then stripComponents components base else none

/-- The path relative to a base that it lies below. -/
def below (p base : Path) : Option Path :=
  (stripComponents p.components base.components).map ofComponents

/-- The last component of a path, if it is a name. -/
def fileName (p : Path) : Option String :=
  match p.components.getLast? with
  | some (.name s) => some s
  | _ => none

/-- What follows the last dot of a name that does not begin with it. -/
def extensionOfName (name : List Char) : Option String :=
  match name.reverse.dropWhile (· != '.') with
  | '.' :: _ :: _ => some (String.ofList (name.reverse.takeWhile (· != '.')).reverse)
  | _ => none

/-- The extension of the last component of a path. -/
def extension (p : Path) : Option String :=
  p.fileName.bind fun name => extensionOfName name.toList

end Path

end SchemaLedger
