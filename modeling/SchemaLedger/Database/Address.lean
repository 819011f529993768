import SchemaLedger.Database.Connection
import SchemaLedger.Text.Quoted
import SchemaLedger.Url.Basic

/-!
# Server addresses

The URL in the settings of a connection names the user, the database and options of the session. The
database of a URL is its path without the slashes in front.
-/

namespace SchemaLedger

/-- Why a text is no count. -/
inductive CountError where
  | empty
  | notDigit
  | tooLarge
  deriving DecidableEq, Repr

/-- The text of a count error. -/
def CountError.message : CountError → String
  | .empty => "cannot parse integer from empty string"
  | .notDigit => "invalid digit found in string"
  | .tooLarge => "number too large to fit in target type"

/-- Adds digits to a number from left to right, as long as it stays below `2 ^ bits`. The first
character that does not fit decides what is wrong. -/
def addDigits (bits : Nat) : Nat → List Char → Except CountError Nat
  | n, [] => .ok n
  | n, c :: cs =>
    if !c.isDigit then .error .notDigit
    else
      let next := n * 10 + (c.toNat - 48)
      if next < twoPow bits then addDigits bits next cs else .error .tooLarge

/-- Checks that a text is a natural number below `2 ^ bits`; a plus sign may stand in front. -/
def readCount (bits : Nat) (text : String) : Except CountError Nat :=
  match text.toList with
  | [] => .error .empty
  | ['+'] => .error .notDigit
  | '+' :: digits => addDigits bits 0 digits
  | digits => addDigits bits 0 digits

/-- Why a URL is no server address. -/
inductive AddressError where
  | url (cause : UrlError)
  | encoding (cause : Utf8.DecodeFailure)
  | sslMode (value : String)
  | cacheCapacity (cause : CountError)
  deriving DecidableEq, Repr

/-- The text of an address error. -/
def AddressError.message (e : AddressError) : String :=
  "error with configuration: " ++
    match e with
    | .url cause => cause.message
    | .encoding cause => cause.message
    | .sslMode value =>
      "error with configuration: unknown value " ++ Text.showQuoted value ++ " for `ssl_mode`"
    | .cacheCapacity cause => cause.message

/-- What a URL says about a session. -/
structure ServerAddress where
  user : Option String
  password : Option String
  database : Option String
  deriving DecidableEq, Repr

namespace ServerAddress

/-- The names of the ways to encrypt a session, in lower case. -/
def sslModes : List String :=
  ["disabled", "preferred", "required", "verify_ca", "verify_identity"]

/-- Undoes the percent encoding of a part that may be empty. -/
def decodePart (part : List Char) : Except AddressError (Option String) :=
  if part.isEmpty then .ok none
  else
    match Url.percentDecode part with
    | .ok text => .ok (some text)
    | .error e => .error (.encoding e)

/-- Checks an option of the query. Unknown options say nothing. -/
def checkOption (option : String × String) : Except AddressError Unit :=
  let (name, value) := option
  if name = "sslmode" ∨ name = "ssl-mode" then
    if sslModes.contains (Text.toLowerAscii value) then .ok () else .error (.sslMode value)
  else if name = "statement-cache-capacity" then
    match readCount 64 value with
    | .ok _ => .ok ()
    | .error e => .error (.cacheCapacity e)
  else .ok ()

/-- Checks the options of a query in order. -/
def checkOptions : List (String × String) → Except AddressError Unit
  | [] => .ok ()
  | option :: options =>
    match checkOption option with
    | .ok _ => checkOptions options
    | .error e => .error e

/-- The server address of a URL. -/
def ofUrl (text : String) : Except AddressError ServerAddress :=
  match Url.parse text with
  | .error e => .error (.url e)
  | .ok url => do
    let user ← decodePart url.username
    let password ← decodePart (url.password.getD [])
    let database ← decodePart (url.path.dropWhile (· == '/'))
    checkOptions url.queryPairs
    pure ⟨user, password, database⟩

/-- The database named in a URL. -/
def databaseOfUrl (url : String) : Option String :=
  match ofUrl url with
  | .ok address => address.database
  | .error _ => none

end ServerAddress

namespace Settings

/-- The settings with the database of their URL, unless they name a database themselves. -/
def completed (s : Settings) : Settings :=
  { s with database := s.database.or (s.url.bind ServerAddress.databaseOfUrl) }

/-- Checks the URL of the settings, if there is one. -/
def checkUrl (s : Settings) : Except ConnectionError Unit :=
  match s.url with
  | none => .ok ()
  | some url =>
    match ServerAddress.ofUrl url with
    | .ok _ => .ok ()
    | .error e => .error (.driver e.message)

end Settings

/-- A session with a server that was not opened. Opening it takes a transport, which this library
leaves to others: `connect` reads the settings and reports what is wrong with them. -/
def Connection.unopened (settings : Settings) (grammar : Grammar) : Connection Unit where
  settings := settings.completed
  grammar := grammar
  connect := Action.ofExcept (settings.checkUrl.bind fun _ => .error .notConnected)
  query := fun _ _ => Action.fail .notConnected
  close := pure ()

end SchemaLedger
