import SchemaLedger.Json.Basic

/-!
# Numerals of documents

A numeral is read in two steps: its parts are taken from the text, and its value is computed from
the parts. An integer that fits a word of 64 bits, signed or unsigned, stays an integer. Any other
numeral is a double, and that double is computed from at most 64 bits of its digits by one
multiplication or division with a power of ten, each rounded once; it need not be the double nearest
to the numeral.
-/

namespace SchemaLedger.Json

/-- The parts of a numeral. -/
structure Numeral where
  negative : Bool
  whole : List Char
  fraction : Option (List Char)
  exponent : Option (Bool × List Char)
  deriving DecidableEq, Repr

/-- The flaw of a broken numeral. Where the text ends inside the numeral, a reader that uses it
reports the end. -/
def Numeral.flaw (rest : List Char) : Flaw where
  reading := if rest.isEmpty then .endInValue else .invalidNumber
  skipping := some .invalidNumber

/-- Whether a character is a decimal digit. -/
def isDigit (c : Char) : Bool := '0' ≤ c && c ≤ '9'

/-- Takes a run of digits that must not be empty. -/
def Numeral.takeDigits (cs : List Char) : Except Flaw (List Char × List Char) :=
  let digits := cs.takeWhile isDigit
  if digits.isEmpty then .error (Numeral.flaw cs) else .ok (digits, cs.dropWhile isDigit)

/-- Takes the digits before the point: a lone zero, or digits that do not begin with one. -/
def Numeral.takeWhole (cs : List Char) : Except Flaw (List Char × List Char) :=
  match cs with
  | '0' :: rest =>
    match rest with
    | [] => .ok (['0'], [])
    | c :: _ => if isDigit c then .error (.both .invalidNumber) else .ok (['0'], rest)
  | _ => Numeral.takeDigits cs

/-- Takes the part after the point, if there is a point. -/
def Numeral.takeFraction (cs : List Char) : Except Flaw (Option (List Char) × List Char) :=
  match cs with
  | '.' :: rest =>
    match Numeral.takeDigits rest with
    | .error flaw => .error flaw
    | .ok (digits, rest) => .ok (some digits, rest)
  | _ => .ok (none, cs)

/-- Takes the sign of an exponent; the first part is true for a negative one. -/
def Numeral.takeSign : List Char → Bool × List Char
  | '+' :: rest => (false, rest)
  | '-' :: rest => (true, rest)
  | rest => (false, rest)

/-- Takes the exponent, if there is one. -/
def Numeral.takeExponent (cs : List Char) : Except Flaw (Option (Bool × List Char) × List Char) :=
  match cs with
  | c :: rest =>
    if c = 'e' ∨ c = 'E' then
      let (negative, rest) := Numeral.takeSign rest
      match Numeral.takeDigits rest with
      | .error flaw => .error flaw
      | .ok (digits, rest) => .ok (some (negative, digits), rest)
    else .ok (none, cs)
  | [] => .ok (none, [])

/-- Takes a numeral from the front of a text that begins with a digit or a minus sign. -/
def Numeral.take (cs : List Char) : Except Flaw (Numeral × List Char) :=
  let (negative, cs) := match cs with
    | '-' :: rest => (true, rest)
    | _ => (false, cs)
  match Numeral.takeWhole cs with
  | .error flaw => .error flaw
  | .ok (whole, cs) =>
    match Numeral.takeFraction cs with
    | .error flaw => .error flaw
    | .ok (fraction, cs) =>
      match Numeral.takeExponent cs with
      | .error flaw => .error flaw
      | .ok (exponent, cs) => .ok (⟨negative, whole, fraction, exponent⟩, cs)

/-- The value of a digit. -/
def digitValue (c : Char) : Nat := c.toNat - 48

/-- The greatest unsigned word of 64 bits. -/
def maxWord : Nat := twoPow 64 - 1

/-- Digits collected into a word as long as it does not overflow, and the digits left over. -/
def Numeral.collect : Nat → List Char → Nat × List Char
  | significand, [] => (significand, [])
  | significand, c :: cs =>
    let next := significand * 10 + digitValue c
    if maxWord < next then (significand, c :: cs) else Numeral.collect next cs

/-- Divides a double by `10 ^ k`, at most 308 powers at a time; a zero stays as it is. -/
def Numeral.divideByPower (f : Binary64) (k : Nat) : Binary64 :=
  if k ≤ 308 then f.div (.powerOfTen k)
  else if f.isZero then f
  else Numeral.divideByPower (f.div (.powerOfTen 308)) (k - 308)
termination_by k

/-- The double of a significand and a decimal exponent, or `none` when it is infinite. -/
def Numeral.scale (negative : Bool) (significand : Nat) (exponent : Int) : Option Binary64 :=
  let f := Binary64.ofNat significand
  let magnitude :=
    if exponent < 0 then some (Numeral.divideByPower f exponent.natAbs)
    else if 308 < exponent then if f.isZero then some f else none
    else
      let product := f.mul (.powerOfTen exponent.toNat)
      if product.isInfinite then none else some product
  magnitude.map fun f => if negative then f.neg else f

/-- The value of a numeral, or `none` when it is out of range. -/
def Numeral.value (n : Numeral) : Option Number :=
  let (significand, dropped) := Numeral.collect 0 n.whole
  match n.fraction, n.exponent, dropped with
  | none, none, [] =>
    if !n.negative then some (.int significand)
    else if significand = 0 ∨ twoPow 63 < significand then
      some (.float (Binary64.ofNat significand).neg)
    else some (.int (-(significand : Int)))
  | _, _, _ =>
    let fraction := n.fraction.getD []
    let (significand, unused) := Numeral.collect significand fraction
    let shift : Int := (dropped.length : Int) - ((fraction.length - unused.length : Nat) : Int)
    let exponent := match n.exponent with
      | none => shift
      | some (negative, digits) =>
        let k : Int := Binary64.valueOfDigits digits
        if negative then shift - k else shift + k
    (Numeral.scale n.negative significand exponent).map .float

end SchemaLedger.Json
