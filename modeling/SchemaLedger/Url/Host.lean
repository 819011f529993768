import SchemaLedger.Url.Domain.Name
import SchemaLedger.Url.Percent

/-!
# Hosts of URLs

The host of a URL is an address in brackets, an address of four numbers, or a name. Names are read
in their normal form; of addresses this module only says which ones are admitted.
-/

namespace SchemaLedger

/-- Why a text is no URL. -/
inductive UrlError where
  | emptyHost
  | invalidDomainName
  | invalidPort
  | invalidIpv4
  | invalidIpv6
  | invalidDomainCharacter
  | noScheme
  deriving DecidableEq, Repr

/-- The text of a URL error. -/
def UrlError.message : UrlError → String
  | .emptyHost => "empty host"
  | .invalidDomainName => "invalid international domain name"
  | .invalidPort => "invalid port number"
  | .invalidIpv4 => "invalid IPv4 address"
  | .invalidIpv6 => "invalid IPv6 address"
  | .invalidDomainCharacter => "invalid domain character"
  | .noScheme => "relative URL without a base"

namespace Url

/-! ### Addresses in brackets -/

/-- Whether digits are one of the four numbers at the end of an address in brackets: at most 255 and
without a zero in front. -/
def isByteText (digits : List Char) : Bool :=
  !digits.isEmpty && digits.all Char.isDigit && valueInBase 10 digits ≤ 255 &&
    (digits.length == 1 || digits.head? != some '0')

/-- Whether a text is four numbers with dots between them. -/
def isByteQuad (cs : List Char) : Bool :=
  let parts := Text.splitOn '.' cs
  parts.length == 4 && parts.all isByteText

/-- Whether a text is a group of an address in brackets. -/
def isGroup (cs : List Char) : Bool :=
  !cs.isEmpty && cs.length ≤ 4 && cs.all isHexDigit

/-- The number of groups that a row of groups between colons stands for, if it is one. Four numbers
with dots stand for two groups and come last; they are admitted where `quad` says so. -/
def countGroups (quad : Bool) : List (List Char) → Option Nat
  | [] => some 0
  | [last] =>
    if isGroup last then some 1 else if quad && isByteQuad last then some 2 else none
  | group :: rest => if isGroup group then (countGroups quad rest).map (· + 1) else none

/-- The groups between the colons of a text; an empty text has none. -/
def groupsOf (cs : List Char) : List (List Char) :=
  if cs.isEmpty then [] else Text.splitOn ':' cs

/-- The texts in front of and behind the first two colons in a row. -/
def splitDoubleColon : List Char → Option (List Char × List Char)
  | [] => none
  | [_] => none
  | c :: d :: rest =>
    if c = ':' ∧ d = ':' then some ([], rest)
    else (splitDoubleColon (d :: rest)).map fun (front, back) => (c :: front, back)

/-- Whether a text is an address of eight groups; two colons in a row stand for one missing group or
more. -/
def isIpv6 (cs : List Char) : Bool :=
  match splitDoubleColon cs with
  | none => countGroups true (groupsOf cs) == some 8
  | some (front, back) =>
    match countGroups false (groupsOf front), countGroups true (groupsOf back) with
    | some m, some n => m + n ≤ 7
    | _, _ => false

/-! ### Addresses of four numbers -/

/-- The value of a part of an address: hexadecimal behind `0x`, octal behind `0`, or decimal. -/
def readIpv4Part : List Char → Option Nat
  | [] => none
  | '0' :: x :: digits =>
    if x = 'x' ∨ x = 'X' then
      if digits.all isHexDigit then some (valueInBase 16 digits) else none
    else
      if (x :: digits).all fun c => '0' ≤ c && c ≤ '7' then some (valueInBase 8 (x :: digits))
      else none
  | digits => if digits.all Char.isDigit then some (valueInBase 10 digits) else none

/-- The parts of a name between dots, without the empty one behind a final dot. -/
def domainParts (cs : List Char) : List (List Char) :=
  let parts := Text.splitOn '.' cs
  if 1 < parts.length && parts.getLast? == some [] then parts.dropLast else parts

/-- Whether a name ends in a number, so that it has to be an address. -/
def endsInNumber (cs : List Char) : Bool :=
  match (domainParts cs).getLast? with
  | none => false
  | some [] => false
  | some last => last.all Char.isDigit || (readIpv4Part last).isSome

/-- Whether a name is an address of at most four numbers. All but the last are bytes, and the last
one fills the bytes that remain. -/
def isIpv4 (cs : List Char) : Bool :=
  let parts := domainParts cs
  let values := parts.map readIpv4Part
  parts.length ≤ 4 && values.all Option.isSome &&
    (values.dropLast.all fun v => v.getD 0 ≤ 255) &&
    (values.getLast?.getD none).getD 0 < twoPow (8 * (5 - parts.length))

/-! ### Admitted hosts -/

/-- Whether a host of a scheme without rules of its own may not have a character. -/
def isForbiddenInHost (c : Char) : Bool :=
  ['\x00', '\t', '\n', '\r', ' ', '#', '/', ':', '<', '>', '?', '@', '[', '\\', ']', '^',
    '|'].contains c

/-- Checks an address in brackets. -/
def checkBracketed (inside : List Char) : Except UrlError Unit :=
  match inside.getLast? with
  | some ']' => if isIpv6 inside.dropLast then .ok () else .error .invalidIpv6
  | _ => .error .invalidIpv6

/-- Checks a host of a scheme without rules of its own. -/
def checkOpaqueHost : List Char → Except UrlError Unit
  | '[' :: inside => checkBracketed inside
  | host => if host.any isForbiddenInHost then .error .invalidDomainCharacter else .ok ()

/-- Reads a host that has to be a domain name or an address, and gives its normal form. -/
def readDomain : List Char → Except UrlError (List Char)
  | '[' :: inside => (checkBracketed inside).map fun _ => '[' :: inside
  | host =>
    match percentDecode host with
    | .error _ => .error .invalidDomainName
    | .ok text =>
      match Domain.normalName? text.toList with
      | none => .error .invalidDomainName
      | some name =>
        if name.isEmpty then .error .emptyHost
        else if endsInNumber name && !isIpv4 name then .error .invalidIpv4
        else .ok name

end Url

end SchemaLedger
