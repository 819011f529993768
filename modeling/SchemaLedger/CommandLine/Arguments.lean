import SchemaLedger.Database.Address

/-!
# Arguments

A command knows some options and takes some words. An option is written as two dashes and its name,
or as one dash and its letter. Letters may share a dash. The value of an option stands behind an
equals sign, directly behind the letter, or in the next argument, which then may not look like an
option. Two dashes alone end the options. Arguments are read from the left, and the first one that
is wrong, or that asks for help or the version, ends the reading.
-/

namespace SchemaLedger

/-- The options of the commands. -/
inductive OptionName where
  | config
  | databaseUrl
  | verbose
  | skip
  | summary
  | limit
  | down
  | help
  | version
  deriving DecidableEq, Repr

namespace OptionName

/-- The name of an option. -/
def long : OptionName → String
  | .config => "config"
  | .databaseUrl => "database-url"
  | .verbose => "verbose"
  | .skip => "skip"
  | .summary => "summary"
  | .limit => "limit"
  | .down => "down"
  | .help => "help"
  | .version => "version"

/-- The letter of an option. -/
def letter : OptionName → Option Char
  | .config => some 'c'
  | .databaseUrl => some 'd'
  | .verbose => some 'v'
  | .limit => some 'l'
  | .help => some 'h'
  | .version => some 'V'
  | _ => none

/-- Whether an option has a value. -/
def takesValue : OptionName → Bool
  | .config | .databaseUrl | .skip | .limit => true
  | _ => false

/-- Whether an option may be given more than once. -/
def isRepeatable : OptionName → Bool
  | .skip => true
  | _ => false

end OptionName

/-- What is wrong with arguments. -/
inductive UsageError where
  | unknownOption (text : String)
  | unexpectedWord (text : String)
  | repeated (name : OptionName)
  | valueMissing (name : OptionName)
  | valueNotTaken (name : OptionName) (value : String)
  | invalidValue (name : OptionName) (value : String)
  | commandMissing
  | unknownCommand (name : String)
  | wordMissing (name : String)
  deriving DecidableEq, Repr

/-- The text of a usage error. -/
def UsageError.message : UsageError → String
  | .unknownOption text => "unexpected argument \x27" ++ text ++ "\x27 found"
  | .unexpectedWord text => "unexpected argument \x27" ++ text ++ "\x27 found"
  | .repeated name => "the argument \x27--" ++ name.long ++ "\x27 cannot be used multiple times"
  | .valueMissing name =>
    "a value is required for \x27--" ++ name.long ++ "\x27 but none was supplied"
  | .valueNotTaken name value =>
    "unexpected value \x27" ++ value ++ "\x27 for \x27--" ++ name.long ++ "\x27 found"
  | .invalidValue name value =>
    "invalid value \x27" ++ value ++ "\x27 for \x27--" ++ name.long ++ "\x27"
  | .commandMissing => "a subcommand is required"
  | .unknownCommand name => "unrecognized subcommand \x27" ++ name ++ "\x27"
  | .wordMissing name => "the required argument <" ++ name ++ "> was not provided"

/-- Why there is nothing to carry out: the arguments are wrong, or they ask for a text. -/
inductive Stop where
  | usage (cause : UsageError)
  | help
  | version
  deriving DecidableEq, Repr

/-- The options that a command knows, and how many words it takes. -/
structure CommandShape where
  options : List OptionName
  words : Nat
  deriving DecidableEq, Repr

/-- The number of records in a text. A negative number is none, but a negative zero is one. -/
def readLimit (text : String) : Option Nat :=
  match text.toList with
  | '-' :: digits => if !digits.isEmpty && digits.all (· == '0') then some 0 else none
  | _ => (readCount 32 text).toOption

/-- Whether an option can have a value. The file of the configuration needs a name. -/
def OptionName.admits (name : OptionName) (value : String) : Bool :=
  match name with
  | .config => !value.isEmpty
  | .limit => (readLimit value).isSome
  | _ => true

/-- The options given so far, the latest one first, and the words given so far. -/
structure Given where
  options : List (OptionName × String)
  words : List String
  deriving DecidableEq, Repr

namespace Given

/-- No options and no words. -/
def empty : Given := ⟨[], []⟩

/-- Whether an option was given. -/
def has (g : Given) (name : OptionName) : Bool := g.options.any fun option => option.1 == name

/-- The value of an option. -/
def value? (g : Given) (name : OptionName) : Option String :=
  (g.options.find? fun option => option.1 == name).map (·.2)

/-- All values of an option, in the order in which they were given. -/
def values (g : Given) (name : OptionName) : List String :=
  (g.options.reverse.filter fun option => option.1 == name).map (·.2)

/-- Adds an option with its value, if it has one. -/
def addOption (g : Given) (name : OptionName) (value : Option String) : Except Stop Given :=
  match name.takesValue, value with
  | false, some value => .error (.usage (.valueNotTaken name value))
  | true, none => .error (.usage (.valueMissing name))
  | _, _ =>
    let value := value.getD ""
    if name = .help then .error .help
    else if name = .version then .error .version
    else if g.has name && !name.isRepeatable then .error (.usage (.repeated name))
    else if !name.admits value then .error (.usage (.invalidValue name value))
    else .ok { g with options := (name, value) :: g.options }

end Given

/-- What a part of an argument says: an option with the value it has there, an option whose value is
the next argument, or something that is no option of the command. -/
inductive Occurrence where
  | complete (name : OptionName) (value : Option String)
  | awaiting (name : OptionName)
  | unknown (text : String)
  deriving DecidableEq, Repr

namespace CommandShape

/-- What an argument behind two dashes says. -/
def longOccurrence (shape : CommandShape) (body : List Char) : Occurrence :=
  let name := body.takeWhile (· != '=')
  match shape.options.find? fun option => option.long.toList == name with
  | none => .unknown ("--" ++ String.ofList name)
  | some option =>
    match body.dropWhile (· != '=') with
    | [] => if option.takesValue then .awaiting option else .complete option none
    | _ :: value => .complete option (some (String.ofList value))

/-- The value directly behind a letter; an equals sign in front does not count. -/
def attachedValue : List Char → String
  | '=' :: value => String.ofList value
  | value => String.ofList value

/-- What the letters behind one dash say. -/
def letterOccurrences (shape : CommandShape) : List Char → List Occurrence
  | [] => []
  | c :: rest =>
    match shape.options.find? fun option => option.letter == some c with
    | none => [.unknown (String.ofList ['-', c])]
    | some option =>
      if !option.takesValue then .complete option none :: shape.letterOccurrences rest
      else if rest.isEmpty then [.awaiting option]
      else [.complete option (some (attachedValue rest))]

/-- Adds what an argument says; the option whose value is still to come, if there is one, is the
second part of the result. -/
def addOccurrences (g : Given) : List Occurrence → Except Stop (Given × Option OptionName)
  | [] => .ok (g, none)
  | .complete name value :: rest => do addOccurrences (← g.addOption name value) rest
  | .awaiting name :: _ => .ok (g, some name)
  | .unknown text :: _ => .error (.usage (.unknownOption text))

/-- Whether an argument looks like an option. A single dash does not. -/
def looksLikeOption (argument : String) : Bool :=
  match argument.toList with
  | '-' :: _ :: _ => true
  | _ => false

/-- What an argument that looks like an option says. -/
def occurrences (shape : CommandShape) (argument : String) : List Occurrence :=
  match argument.toList with
  | '-' :: '-' :: body => [shape.longOccurrence body]
  | '-' :: letters => shape.letterOccurrences letters
  | _ => []

/-- Reads arguments up to two dashes alone, or up to the first word that the command does not take;
the rest of the arguments is the second part of the result. -/
def read (shape : CommandShape) (g : Given) : List String → Except Stop (Given × List String)
  | [] => .ok (g, [])
  | argument :: rest =>
    if argument = "--" then .ok (g, argument :: rest)
    else if looksLikeOption argument then
      match addOccurrences g (shape.occurrences argument) with
      | .error stop => .error stop
      | .ok (g, none) => shape.read g rest
      | .ok (g, some name) =>
        match rest with
        | [] => .error (.usage (.valueMissing name))
        | value :: rest =>
          if looksLikeOption value then .error (.usage (.valueMissing name))
          else
            match g.addOption name (some value) with
            | .error stop => .error stop
            | .ok g => shape.read g rest
    else if g.words.length < shape.words then
      shape.read { g with words := g.words ++ [argument] } rest
    else .ok (g, argument :: rest)

/-- Reads all arguments. What stands behind two dashes alone is a word. -/
def readAll (shape : CommandShape) (arguments : List String) : Except Stop Given :=
  match shape.read .empty arguments with
  | .error stop => .error stop
  | .ok (g, []) => .ok g
  | .ok (g, argument :: rest) =>
    let words := g.words ++ if argument = "--" then rest else argument :: rest
    match words.drop shape.words with
    | [] => .ok { g with words := words }
    | word :: _ => .error (.usage (.unexpectedWord word))

end CommandShape

end SchemaLedger
