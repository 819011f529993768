import SchemaLedger.CommandLine.Session
import SchemaLedger.Files.Snapshot
import SchemaLedger.Text.Utf8

/-!
# The program

Looks at the file of the configuration and at the directories it names, and leaves the rest to
`answerArguments`.
-/

namespace SchemaLedger.Program

/-- The number of an error of the operating system; it is negative when it comes from the run time.
-/
def errorNumber (code : UInt32) : Nat :=
  if code.toNat < twoPow 31 then code.toNat else twoPow 32 - code.toNat

/-- An error of the operating system as a file error. -/
def fileError (e : IO.Error) : FileError :=
  match e with
  | .noFileOrDirectory .. => .notFound
  | .inappropriateType _ code details | .permissionDenied _ code details
  | .invalidArgument _ code details | .resourceExhausted _ code details
  | .noSuchThing _ code details | .alreadyExists _ code details | .otherError code details
  | .hardwareFault code details | .resourceBusy code details | .illegalOperation code details
  | .unsupportedOperation code details | .interrupted _ code details =>
    .ofCode (errorNumber code) details
  | other => .system 0 (toString other)

/-- The result of an action on files. -/
def seen {α : Type} (action : IO α) : IO (Except FileError α) := do
  try
    let value ← action
    pure (.ok value)
  catch e => pure (.error (fileError e))

/-- The contents of a file. -/
def readText (p : Path) : IO (Except FileError String) := do
  let bytes ← seen (IO.FS.readBinFile p.text)
  pure (bytes.bind fun bytes =>
    match String.fromUTF8? bytes with
    | some text => .ok text
    | none => .error .notText)

/-- The place of a path seen from the root. -/
def place (p : Path) : IO (Except FileError Path) := do
  let place ← seen (IO.FS.realPath p.text)
  pure (place.map fun place => ⟨place.toString⟩)

/-- What a directory holds. The error about a path without a place is the one met when reading it.
-/
def list (p : Path) : IO (Except FileError (List DirectoryEntry)) := do
  try
    let place ← IO.FS.realPath p.text
    seen do
      let entries ← place.readDir
      let found ← entries.toList.mapM fun entry => do
        let metadata ← entry.path.symlinkMetadata
        pure (DirectoryEntry.ofName? entry.fileName (metadata.type == .file))
      pure (found.filterMap id)
  catch _ =>
    match ← readText p with
    | .ok _ => pure (.error .notDirectory)
    | .error e => pure (.error e)

/-- A snapshot with the contents of a directory and of the change scripts in it. -/
def lookAt (s : Snapshot) (dir : Path) : IO Snapshot := do
  let entries ← list dir
  let mut s := s.addListing dir entries
  for entry in entries.toOption.getD [] do
    let path := dir.join ⟨entry.name⟩
    if entry.isFile && Loader.scripts.accepts path then
      s := s.addText path (← readText path)
  pure s

/-- A snapshot of what an invocation needs. -/
def lookAround (i : Invocation) : IO Snapshot := do
  let text ← readText i.configFile
  let place ← place i.configFile
  let mut s := (Snapshot.empty.addText i.configFile text).addPlace i.configFile place
  match i.config s.fileSystem with
  | .error _ => pure s
  | .ok config =>
    for dir in config.paths do
      s ← lookAt s dir
    pure s

end SchemaLedger.Program

open SchemaLedger in
/-- Runs the program with its arguments. -/
def main (arguments : List String) : IO UInt32 := do
  let environment : Environment :=
    { config := ← IO.getEnv "TRAMP_CONFIG", databaseUrl := ← IO.getEnv "DATABASE_URL" }
  let seen ←
    match Invocation.ofArguments environment arguments with
    | .error _ => pure Snapshot.empty
    | .ok invocation => Program.lookAround invocation
  let report := answerArguments environment seen.fileSystem arguments
  (← IO.getStdout).putStr report.output
  (← IO.getStderr).putStr report.errors
  pure (UInt32.ofNat report.code)
