import SchemaLedger.Number.Binary64

/-!
# Decimal text of doubles

The digits of a double are the fewest that read back as the same double, and of those the nearest.
Two notations are built from them: the plain one never has an exponent, and the one for messages
about documents has a point always and an exponent for numbers that are very large or very small.
Where two decimals are equally near, the plain notation takes the greater one and the notation of
messages the even one. A third function reads a decimal as the nearest double.
-/

namespace SchemaLedger

/-- Decimal digits `d₁ d₂ …` with the position of the point: the value is `0.d₁d₂… * 10 ^ point`. -/
structure Decimal where
  digits : List Char
  point : Int
  deriving DecidableEq, Repr

namespace Decimal

/-- The decimal digits of a natural number. -/
def digitsOf (n : Nat) : List Char := Nat.toDigits 10 n

/-- The least `k` with `num / den < 10 ^ k`, for positive arguments. -/
def magnitude (num den : Nat) : Int :=
  if den ≤ num then ((digitsOf (num / den)).length : Int)
  else
    let j := (digitsOf (den / num)).length - 1
    if den ≤ num * tenPow j then 1 - (j : Int) else -(j : Int)

/-- Drops the zeros at the end of a list of digits. -/
def dropZeros (digits : List Char) : List Char :=
  (digits.reverse.dropWhile (· == '0')).reverse

/-- The value of a positive double and the ends of the interval of numbers that round to it, over
one denominator. -/
structure Interval where
  low : Nat
  value : Nat
  high : Nat
  den : Nat
  closed : Bool

/-- The interval of `m * 2 ^ e`. Below a power of two the neighbour is twice as near. -/
def interval (m : Nat) (e : Int) : Interval :=
  let up := Binary64.scaleUp (e - 2)
  let den := Binary64.scaleDown (e - 2)
  let below := if m = twoPow 52 ∧ Binary64.minExponent < e then 1 else 2
  { low := (4 * m - below) * up
    value := 4 * m * up
    high := (4 * m + 2) * up
    den := den
    closed := m % 2 = 0 }

/-- Whether `num / den` lies in the interval. -/
def Interval.contains (i : Interval) (num den : Nat) : Bool :=
  if i.closed then i.low * den ≤ num * i.den && num * i.den ≤ i.high * den
  else i.low * den < num * i.den && num * i.den < i.high * den

/-- Which of two decimals is taken when both are equally near. -/
inductive Tie where
  | toGreater
  | toEven
  deriving DecidableEq, Repr

/-- The one of two neighbours, of which `floor` is the smaller, that a tie between them goes to. -/
def Tie.pick (tie : Tie) (floor : Nat) : Nat :=
  match tie with
  | .toGreater => floor + 1
  | .toEven => if floor % 2 = 0 then floor else floor + 1

/-- The decimal with `count` digits nearest to the value of the interval, if one lies in it. -/
def Interval.candidate (i : Interval) (tie : Tie) (k : Int) (count : Nat) : Option Decimal :=
  let shift : Int := k - count
  let up := tenPow shift.toNat
  let down := tenPow (-shift).toNat
  let floor := i.value * down / (i.den * up)
  let ceil := floor + 1
  let floorIn := i.contains (floor * up) down
  let ceilIn := i.contains (ceil * up) down
  let doubled := 2 * i.value * down
  let middle := (floor + ceil) * up * i.den
  let nearer :=
    if doubled < middle then floor
    else if middle < doubled then ceil
    else tie.pick floor
  let pick :=
    if floorIn && ceilIn then some nearer
    else if floorIn then some floor
    else if ceilIn then some ceil
    else none
  pick.map fun n =>
    let ds := digitsOf n
    { digits := dropZeros ds, point := k + ((ds.length : Int) - count) }

/-- The first count of digits, from `count` on, for which a decimal lies in the interval. -/
def Interval.search (i : Interval) (tie : Tie) (k : Int) : Nat → Nat → Decimal
  | 0, count => (i.candidate tie k count).getD { digits := ['0'], point := 1 }
  | tries + 1, count =>
    match i.candidate tie k count with
    | some d => d
    | none => i.search tie k tries (count + 1)

/-- The fewest digits that read back as `m * 2 ^ e`; seventeen always suffice. -/
def shortest (tie : Tie) (m : Nat) (e : Int) : Decimal :=
  let i := interval m e
  i.search tie (magnitude i.value i.den) 17 1

/-- The digits of a decimal written without an exponent. -/
def plain (d : Decimal) : List Char :=
  let count : Int := d.digits.length
  if d.point ≤ 0 then '0' :: '.' :: List.replicate (-d.point).toNat '0' ++ d.digits
  else if count ≤ d.point then d.digits ++ List.replicate (d.point - count).toNat '0'
  else d.digits.take d.point.toNat ++ '.' :: d.digits.drop d.point.toNat

/-- The digits of a decimal in the notation of messages: plain with a point for decimal exponents
from `-5` to `15`, otherwise one digit before the point and a signed exponent. -/
def pointed (d : Decimal) : List Char :=
  let exponent := d.point - 1
  if -5 ≤ exponent ∧ exponent ≤ 15 then
    if (d.digits.length : Int) ≤ d.point then plain d ++ ['.', '0'] else plain d
  else
    let mantissa :=
      match d.digits with
      | [] => ['0']
      | [first] => [first]
      | first :: rest => first :: '.' :: rest
    let sign := if exponent < 0 then '-' else '+'
    mantissa ++ 'e' :: sign :: digitsOf exponent.natAbs

end Decimal

namespace Binary64

/-- The text of a double without an exponent and without a point when it is an integer. -/
def toText : Binary64 → String
  | .nan => "NaN"
  | .infinite s => if s then "-inf" else "inf"
  | .finite s m e =>
    let digits := if m = 0 then ['0'] else (Decimal.shortest .toGreater m e).plain
    String.ofList (if s then '-' :: digits else digits)

/-- The text of a double in messages about documents, always with a point or an exponent. -/
def toPointedText : Binary64 → String
  | .nan => "NaN"
  | .infinite s => if s then "-inf" else "inf"
  | .finite s m e =>
    let digits := if m = 0 then ['0', '.', '0'] else (Decimal.shortest .toEven m e).pointed
    String.ofList (if s then '-' :: digits else digits)

/-- The value of a list of decimal digits. -/
def valueOfDigits (digits : List Char) : Nat :=
  digits.foldl (fun n c => n * 10 + (c.toNat - 48)) 0

/-- The double nearest to `digits * 10 ^ exponent`. A decimal far outside the range of doubles is
decided by its magnitude alone. -/
def ofDecimal (negative : Bool) (digits : List Char) (exponent : Int) : Binary64 :=
  let significant := digits.dropWhile (· == '0')
  let magnitude := (significant.length : Int) + exponent
  if significant.isEmpty then zero negative
  else if 320 < magnitude then .infinite negative
  else if magnitude < -350 then zero negative
  else
    ofQuotient negative (valueOfDigits significant * tenPow exponent.toNat)
      (tenPow (-exponent).toNat)

/-- Reads the digits of an exponent with its sign. -/
def readExponent (cs : List Char) : Option Int :=
  let magnitude (ds : List Char) : Option Nat :=
    if ds.isEmpty || !ds.all Char.isDigit then none else some (valueOfDigits ds)
  match cs with
  | '-' :: ds => (magnitude ds).map fun n => -(n : Int)
  | '+' :: ds => (magnitude ds).map fun n => (n : Int)
  | ds => (magnitude ds).map fun n => (n : Int)

/-- Reads a decimal without a sign. -/
def readUnsigned (negative : Bool) (cs : List Char) : Option Binary64 :=
  let whole := cs.takeWhile Char.isDigit
  let afterWhole := cs.dropWhile Char.isDigit
  let fraction := match afterWhole with
    | '.' :: rest => rest.takeWhile Char.isDigit
    | _ => []
  let afterFraction := match afterWhole with
    | '.' :: rest => rest.dropWhile Char.isDigit
    | rest => rest
  if whole.isEmpty && fraction.isEmpty then none
  else
    match afterFraction with
    | [] => some (ofDecimal negative (whole ++ fraction) (-(fraction.length : Int)))
    | c :: rest =>
      if c == 'e' || c == 'E' then
        (readExponent rest).map fun k =>
          ofDecimal negative (whole ++ fraction) (k - (fraction.length : Int))
      else none

/-- Reads a double: a decimal with an optional sign, point and exponent, or the name of an infinity
or of not-a-number in any case. -/
def ofText? (text : String) : Option Binary64 :=
  let unsigned (negative : Bool) (cs : List Char) : Option Binary64 :=
    let name := String.ofList (cs.map Char.toLower)
    if name = "inf" ∨ name = "infinity" then some (.infinite negative)
    else if name = "nan" then some .nan
    else readUnsigned negative cs
  match text.toList with
  | '-' :: cs => unsigned true cs
  | '+' :: cs => unsigned false cs
  | cs => unsigned false cs

end Binary64

end SchemaLedger
