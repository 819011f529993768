import SchemaLedger.Number.Power
import SchemaLedger.Text.Search

/-!
# Punycode

A label of other characters than letters and digits is written with letters and digits alone: first
the plain characters and a hyphen, then a number for each of the others. The numbers say where to
put the next character, in the order of code points, and are written in digits of a base that
changes from digit to digit and from number to number. All of them fit a word of 32 bits.
-/

namespace SchemaLedger.Domain.Punycode

/-- The number of digits. -/
def base : Nat := 36

/-- The value of a digit: letters of any case come before the decimal digits. -/
def digit? (c : Char) : Option Nat :=
  let c := Text.lowerAscii c
  if 'a' ≤ c ∧ c ≤ 'z' then some (c.toNat - 97)
  else if '0' ≤ c ∧ c ≤ '9' then some (c.toNat - 22)
  else none

/-- The digits below this one end a number, at a position that counts in steps of `base`. -/
def threshold (position bias : Nat) : Nat :=
  if position ≤ bias then 1 else if bias + 26 ≤ position then 26 else position - bias

/-- Divides until the number is small, and counts the divisions in steps of `base`. -/
def shrink (delta steps : Nat) : Nat × Nat :=
  if 455 < delta then shrink (delta / 35) (steps + base) else (delta, steps)
termination_by delta
decreasing_by exact Nat.div_lt_self (by omega) (by omega)

/-- The bias for the number after `delta`, when the label has `count` characters. -/
def nextBias (delta count : Nat) (isFirst : Bool) : Nat :=
  let delta := if isFirst then delta / 700 else delta / 2
  let (delta, steps) := shrink (delta + delta / count) 0
  steps + base * delta / (delta + 38)

/-- A label being read: its characters, the code point and the place reached, the bias, and the
number in progress with the weight and the position of its next digit. -/
structure Draft where
  label : List Char
  code : Nat
  place : Nat
  bias : Nat
  sum : Nat
  weight : Nat
  position : Nat

/-- The draft before the first number. -/
def Draft.ofPlain (plain : List Char) : Draft where
  label := plain
  code := 128
  place := 0
  bias := 72
  sum := 0
  weight := 1
  position := base

/-- Whether no number is in progress. -/
def Draft.isComplete (d : Draft) : Bool := d.position == base

/-- Puts in the character that a complete number stands for. -/
def Draft.insert (d : Draft) (sum : Nat) : Option Draft :=
  let count := d.label.length + 1
  let code := d.code + sum / count
  let place := sum % count
  if code < twoPow 32 ∧ Nat.isValidChar code then
    some
      { label := d.label.take place ++ Char.ofNat code :: d.label.drop place
        code := code
        place := place + 1
        bias := nextBias (sum - d.place) count (d.place == 0)
        sum := place + 1
        weight := 1
        position := base }
  else none

/-- Reads a digit. -/
def Draft.read (d : Draft) (c : Char) : Option Draft :=
  match digit? c with
  | none => none
  | some digit =>
    let sum := d.sum + digit * d.weight
    if twoPow 32 ≤ sum then none
    else
      let threshold := threshold d.position d.bias
      if digit < threshold then d.insert sum
      else
        let weight := d.weight * (base - threshold)
        if twoPow 32 ≤ weight then none
        else some { d with sum := sum, weight := weight, position := d.position + base }

/-- The plain characters and the digits: what is before and behind the last hyphen. A hyphen in
front of everything belongs to the digits. -/
def split (cs : List Char) : List Char × List Char :=
  let digits := (cs.reverse.takeWhile (· != '-')).reverse
  let plain := cs.take (cs.length - digits.length - 1)
  if plain.isEmpty then ([], cs) else (plain, digits)

/-- The label that a text stands for. -/
def decode (cs : List Char) : Option (List Char) :=
  let (plain, digits) := split cs
  match digits.foldlM Draft.read (Draft.ofPlain plain) with
  | none => none
  | some draft => if draft.isComplete then some draft.label else none

end SchemaLedger.Domain.Punycode
