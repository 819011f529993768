import SchemaLedger.Text.Blank
import SchemaLedger.Url.Host

/-!
# URLs

A URL is a scheme with a colon, and behind it mostly two slashes, an authority, a path, a query and
a fragment. Reading one follows the rules of the web: a few schemes take backslashes for slashes and
must have a host, dots in paths are resolved, and white space at the ends and line breaks anywhere
do not count. The path of a file may begin with the letter of a drive. Parts are kept as they were
written, without their percent encoding undone.
-/

namespace SchemaLedger

/-- A URL with the parts that a server address is made of. -/
structure Url where
  scheme : List Char
  username : List Char
  password : Option (List Char)
  path : List Char
  query : Option (List Char)
  deriving DecidableEq, Repr

namespace Url

/-- How a scheme is read: with rules of its own for files, as one of the schemes of the web, or as
any other one. -/
inductive SchemeKind where
  | file
  | web
  | other
  deriving DecidableEq, Repr

/-- The kind of a scheme. -/
def schemeKind (scheme : List Char) : SchemeKind :=
  let name := String.ofList scheme
  if name = "file" then .file
  else if ["http", "https", "ws", "wss", "ftp"].contains name then .web
  else .other

/-- Whether a character ends a part of a path. -/
def isSlash (kind : SchemeKind) (c : Char) : Bool :=
  c == '/' || (c == '\\' && kind != .other)

/-- Whether a character ends an authority. -/
def endsAuthority (kind : SchemeKind) (c : Char) : Bool :=
  isSlash kind c || c == '?' || c == '#'

/-- Whether a character breaks a line or is a tab. Such characters do not count. -/
def isBreak (c : Char) : Bool := c == '\t' || c == '\n' || c == '\r'

/-- A text without line breaks and tabs. -/
def dropBreaks (cs : List Char) : List Char := cs.filter fun c => !isBreak c

/-- A text without controls and blanks at its ends. -/
def trimEdges (cs : List Char) : List Char :=
  let isEdge (c : Char) : Bool := c.toNat ≤ 0x20
  Text.dropEndWhile isEdge (cs.dropWhile isEdge)

/-! ### The scheme -/

/-- Whether a character is an ASCII letter. -/
def isLetter (c : Char) : Bool := ('a' ≤ c && c ≤ 'z') || ('A' ≤ c && c ≤ 'Z')

/-- Whether a character may stand in a scheme. -/
def isSchemeChar (c : Char) : Bool :=
  isLetter c || ('0' ≤ c && c ≤ '9') || c == '+' || c == '-' || c == '.'

/-- The scheme in lower case, and what follows its colon. -/
def readScheme (cs : List Char) : Option (List Char × List Char) :=
  let scheme := cs.takeWhile isSchemeChar
  match scheme, cs.dropWhile isSchemeChar with
  | first :: _, ':' :: rest =>
    if isLetter first then some (scheme.map Text.lowerAscii, rest) else none
  | _, _ => none

/-! ### The authority -/

/-- Splits at the last occurrence of a character. -/
def splitLast (c : Char) : List Char → Option (List Char × List Char)
  | [] => none
  | d :: rest =>
    match splitLast c rest with
    | some (front, back) => some (d :: front, back)
    | none => if d = c then some ([], rest) else none

/-- Who logs in: a name and, if it is not empty, a password. -/
structure UserInfo where
  username : List Char
  password : Option (List Char)

/-- Reads the part in front of the last at sign. -/
def readUserInfo (cs : List Char) : UserInfo where
  username := cs.takeWhile (· != ':')
  password :=
    match cs.dropWhile (· != ':') with
    | _ :: c :: rest => some (c :: rest)
    | _ => none

/-- Whether nothing was said about who logs in. -/
def UserInfo.isEmpty (info : UserInfo) : Bool := info.username.isEmpty && info.password.isNone

/-- The host of an authority and what follows it; a colon in brackets belongs to the host. -/
def splitHost (kind : SchemeKind) (inBrackets : Bool) : List Char → List Char × List Char
  | [] => ([], [])
  | c :: rest =>
    if endsAuthority kind c || (c == ':' && !inBrackets) then ([], c :: rest)
    else
      let (host, rest) := splitHost kind (if c == '[' then true else if c == ']' then false
        else inBrackets) rest
      (c :: host, rest)

/-- What follows a port behind its colon. -/
def readPort (cs : List Char) : Except UrlError (List Char) :=
  let digits := cs.takeWhile Char.isDigit
  let rest := cs.dropWhile Char.isDigit
  if 65535 < valueInBase 10 digits then .error .invalidPort
  else
    match rest with
    | [] => .ok []
    | c :: _ => if endsAuthority .web c then .ok rest else .error .invalidPort

/-- Checks the host and the port of an authority, and gives what follows them. -/
def readHost (kind : SchemeKind) (login : Bool) (cs : List Char) :
    Except UrlError (List Char) := do
  let (host, rest) := splitHost kind false cs
  if host.isEmpty && kind = .web then throw .emptyHost
  if kind = .web then discard (readDomain host) else checkOpaqueHost host
  match rest with
  | ':' :: port =>
    if host.isEmpty then throw .emptyHost
    let rest ← readPort port
    pure rest
  | rest =>
    if host.isEmpty && login then throw .emptyHost
    pure rest

/-- Reads an authority, and gives who logs in and what follows it. -/
def readAuthority (kind : SchemeKind) (cs : List Char) : Except UrlError (UserInfo × List Char) :=
  let authority := cs.takeWhile fun c => !endsAuthority kind c
  let rest := cs.dropWhile fun c => !endsAuthority kind c
  match splitLast '@' authority with
  | none => (readHost kind false cs).map fun rest => (⟨[], none⟩, rest)
  | some ([], host) =>
    if host.isEmpty && !rest.isEmpty then .error .emptyHost
    else (readHost kind false (host ++ rest)).map fun rest => (⟨[], none⟩, rest)
  | some (userInfo, host) =>
    let info := readUserInfo userInfo
    (readHost kind (!info.isEmpty) (host ++ rest)).map fun rest => (info, rest)

/-! ### The path -/

/-- Whether a part of a path stands for the same directory. -/
def isSingleDot (part : List Char) : Bool :=
  [".", "%2e"].contains (String.ofList (part.map Text.lowerAscii))

/-- Whether a part of a path stands for the directory above. -/
def isDoubleDot (part : List Char) : Bool :=
  ["..", ".%2e", "%2e.", "%2e%2e"].contains (String.ofList (part.map Text.lowerAscii))

/-- Whether a part of a path names a drive. -/
def isDrive : List Char → Bool
  | [letter, mark] => isLetter letter && (mark == ':' || mark == '|')
  | _ => false

/-- Whether a part of a path is never taken back: it names a drive, and what may follow the drive is
behind a backslash. -/
def isLasting (part : List Char) : Bool := isDrive (part.takeWhile (· != '\\'))

/-- Whether a part goes on behind the name of a drive, with a break in between. -/
def isBrokenDrive (part : List Char) : Bool :=
  match part.dropWhile isBreak with
  | [] => false
  | letter :: rest =>
    match rest.dropWhile isBreak with
    | ':' :: c :: rest => isLetter letter && isBreak c && !(dropBreaks rest).isEmpty
    | _ => false

/-- Takes the last part back, given the parts from last to first. -/
def dropPart : List (List Char) → List (List Char)
  | [] => []
  | part :: parts => if isLasting part then part :: parts else parts

/-- Adds a part to the parts in front, given from last to first. At the start of the path of a file
the name of a drive ends in a colon, and a break behind that colon ends the part. -/
def addPart (kind : SchemeKind) (done : List (List Char)) (part : List Char) : List (List Char) :=
  let text := dropBreaks part
  if kind = .file ∧ done.isEmpty then
    if isDrive text then [text.take 1 ++ [':']]
    else if isBrokenDrive part then [text.drop 2, text.take 2]
    else [text]
  else text :: done

/-- Resolves the dots among the parts of a path; `done` holds the parts in front, last one first. -/
def resolveParts (kind : SchemeKind) (done : List (List Char)) :
    List (List Char) → List (List Char)
  | [] => done.reverse
  | [last] =>
    if isDoubleDot (dropBreaks last) then ([] :: dropPart done).reverse
    else if isSingleDot (dropBreaks last) then ([] :: done).reverse
    else (addPart kind done last).reverse
  | part :: rest =>
    if isDoubleDot (dropBreaks part) then resolveParts kind (dropPart done) rest
    else if isSingleDot (dropBreaks part) then resolveParts kind done rest
    else resolveParts kind (addPart kind done part) rest

/-- Parts with a slash in front of each. -/
def slashed (parts : List (List Char)) : List Char := parts.flatMap fun part => '/' :: part

/-- Whether a character ends a path. -/
def endsPath (c : Char) : Bool := c == '?' || c == '#'

/-- The path whose first slash is behind us. -/
def pathOf (kind : SchemeKind) (cs : List Char) : List Char :=
  let unified := cs.map fun c => if isSlash kind c then '/' else c
  slashed (resolveParts kind [] (Text.splitOn '/' unified))

/-- What follows a slash at the front of a text; breaks before it do not count. -/
def afterSlash? (kind : SchemeKind) (cs : List Char) : Option (List Char) :=
  match cs.dropWhile isBreak with
  | [] => none
  | c :: rest => if isSlash kind c then some rest else none

/-- The path behind an authority. -/
def pathAfterAuthority (kind : SchemeKind) (cs : List Char) : List Char :=
  if kind = .other ∧ cs.isEmpty then [] else pathOf kind ((afterSlash? kind cs).getD cs)

/-- The query of what follows an authority. -/
def queryOf (cs : List Char) : Option (List Char) :=
  match cs.dropWhile fun c => !endsPath c with
  | '?' :: rest => some (dropBreaks (rest.takeWhile (· != '#')))
  | _ => none

/-- A URL of a scheme and a login, from what follows the authority. -/
def ofParts (scheme : List Char) (info : UserInfo) (path : List Char → List Char)
    (cs : List Char) : Url where
  scheme := scheme
  username := info.username
  password := info.password
  path := path (cs.takeWhile fun c => !endsPath c)
  query := queryOf cs

/-- The host that stands for the absence of one. -/
def localHost : List Char := "localhost".toList

/-- How the path of a file is read from behind its host. With a host of its own the slash behind the
host is the first one of the path; otherwise that slash follows an empty part. -/
def pathAfterHost (host : List Char) : Except UrlError (List Char → List Char) :=
  if host.isEmpty then .ok (pathOf .file)
  else
    match readDomain host with
    | .error e => .error e
    | .ok name => .ok (if name = localHost then pathOf .file else pathAfterAuthority .file)

/-- Reads a URL of a file from behind its colon. Breaks are still in the text. -/
def readFile (scheme cs : List Char) : Except UrlError Url :=
  let ofPath (path : List Char → List Char) (cs : List Char) := ofParts scheme ⟨[], none⟩ path cs
  match afterSlash? .file cs with
  | none => .ok (ofPath (pathOf .file) cs)
  | some rest =>
    match afterSlash? .file rest with
    | none => .ok (ofPath (pathOf .file) rest)
    | some rest =>
      let host := dropBreaks (rest.takeWhile fun c => !endsAuthority .file c)
      if isDrive host then .ok (ofPath (pathOf .file) rest)
      else
        match pathAfterHost host with
        | .error e => .error e
        | .ok path => .ok (ofPath path (rest.dropWhile fun c => !endsAuthority .file c))

/-- Reads a URL with an authority from behind its slashes. -/
def readWithAuthority (kind : SchemeKind) (scheme cs : List Char) : Except UrlError Url :=
  (readAuthority kind cs).map fun (info, rest) =>
    ofParts scheme info (pathAfterAuthority kind) rest

/-- Reads a text as a URL. -/
def parse (text : String) : Except UrlError Url :=
  let text := trimEdges text.toList
  match readScheme (dropBreaks text) with
  | none => .error .noScheme
  | some (scheme, rest) =>
    match schemeKind scheme with
    | .file => readFile scheme ((text.dropWhile (· != ':')).drop 1)
    | .web => readWithAuthority .web scheme (rest.dropWhile (isSlash .web))
    | .other =>
      match rest with
      | '/' :: '/' :: rest => readWithAuthority .other scheme rest
      | '/' :: rest => .ok (ofParts scheme ⟨[], none⟩ (pathOf .other) rest)
      | rest => .ok (ofParts scheme ⟨[], none⟩ id rest)

/-! ### The query -/

/-- The names and values of a query. Pieces between ampersands that are empty do not count. -/
def queryPairs (u : Url) : List (String × String) :=
  match u.query with
  | none => []
  | some query =>
    ((Text.splitOn '&' query).filter fun piece => !piece.isEmpty).map fun piece =>
      (formDecode (piece.takeWhile (· != '=')), formDecode ((piece.dropWhile (· != '=')).drop 1))

end Url

end SchemaLedger
