import SchemaLedger.Number.Power
import SchemaLedger.Text.Blank
import SchemaLedger.Text.Search

/-!
# Time stamps

A time stamp is written as `year-month-day hour:minute:second`. Reading admits fewer digits than
writing gives, and white space in front of every number.
-/

namespace SchemaLedger

/-- A point in time without a time zone, to the second. Second 60 is a leap second. -/
structure Timestamp where
  year : Int
  month : Nat
  day : Nat
  hour : Nat
  minute : Nat
  second : Nat
  deriving DecidableEq, Repr

/-- Why a text is no time stamp. -/
inductive TimestampError where
  | tooShort
  | tooLong
  | invalid
  | outOfRange
  deriving DecidableEq, Repr

/-- The text of a time stamp error. -/
def TimestampError.message : TimestampError → String
  | .tooShort => "premature end of input"
  | .tooLong => "trailing input"
  | .invalid => "input contains invalid characters"
  | .outOfRange => "input is out of range"

namespace Timestamp

/-! ### Reading -/

/-- The value of a list of decimal digits. -/
def valueOf (digits : List Char) : Nat :=
  digits.foldl (fun n c => n * 10 + (c.toNat - 48)) 0

/-- The greatest number that a text may stand for while it is read. -/
def maxNumber : Nat := twoPow 63 - 1

/-- Reads the digits at the front of a list, at most `width` of them if a width is given. -/
def readDigits (width : Option Nat) (cs : List Char) :
    Except TimestampError (Nat × List Char) :=
  match cs with
  | [] => .error .tooShort
  | c :: _ =>
    if !c.isDigit then .error .invalid
    else
      let digits := (match width with | some w => cs.take w | none => cs).takeWhile Char.isDigit
      if maxNumber < valueOf digits then .error .outOfRange
      else .ok (valueOf digits, cs.drop digits.length)

/-- Reads a year: four digits at most, or any number of them behind a sign. -/
def readYear (cs : List Char) : Except TimestampError (Int × List Char) :=
  let (sign, result) : Int × Except TimestampError (Nat × List Char) :=
    match cs.dropWhile Text.isBlank with
    | '-' :: rest => (-1, readDigits none rest)
    | '+' :: rest => (1, readDigits none rest)
    | rest => (1, readDigits (some 4) rest)
  match result with
  | .error e => .error e
  | .ok (n, rest) =>
    let year := sign * n
    if -twoPow 31 ≤ year ∧ year < twoPow 31 then .ok (year, rest) else .error .outOfRange

/-- Reads a number of two digits at most between two bounds. -/
def readField (low high : Nat) (cs : List Char) : Except TimestampError (Nat × List Char) :=
  match readDigits (some 2) (cs.dropWhile Text.isBlank) with
  | .error e => .error e
  | .ok (n, rest) => if low ≤ n ∧ n ≤ high then .ok (n, rest) else .error .outOfRange

/-- Reads a mark between two numbers. -/
def readMark (mark : Char) : List Char → Except TimestampError (List Char)
  | [] => .error .tooShort
  | c :: rest => if c = mark then .ok rest else .error .invalid

/-- Whether a year has a 29th of February. -/
def isLeapYear (year : Int) : Bool :=
  year % 4 == 0 && (year % 100 != 0 || year % 400 == 0)

/-- The number of days of a month. -/
def daysInMonth (year : Int) (month : Nat) : Nat :=
  if month = 2 then (if isLeapYear year then 29 else 28)
  else if [4, 6, 9, 11].contains month then 30
  else 31

/-- Whether a time stamp names a day of the calendar. -/
def isOnCalendar (t : Timestamp) : Bool :=
  -262143 ≤ t.year && t.year ≤ 262142 && t.day ≤ daysInMonth t.year t.month

/-- Reads a list of characters as a time stamp. -/
def ofChars (cs : List Char) : Except TimestampError Timestamp := do
  let (year, cs) ← readYear cs
  let cs ← readMark '-' cs
  let (month, cs) ← readField 1 12 cs
  let cs ← readMark '-' cs
  let (day, cs) ← readField 1 31 cs
  let (hour, cs) ← readField 0 23 cs
  let cs ← readMark ':' cs
  let (minute, cs) ← readField 0 59 cs
  let cs ← readMark ':' cs
  let (second, cs) ← readField 0 60 cs
  let t : Timestamp := ⟨year, month, day, hour, minute, second⟩
  if !cs.isEmpty then throw .tooLong
  if !t.isOnCalendar then throw .outOfRange
  pure t

/-- Reads a text as a time stamp. -/
def ofText (text : String) : Except TimestampError Timestamp := ofChars text.toList

/-! ### Writing -/

/-- A number with zeros in front up to a number of digits. -/
def padded (width n : Nat) : String :=
  let digits := Nat.toDigits 10 n
  String.ofList (List.replicate (width - digits.length) '0' ++ digits)

/-- The text of a year: four digits, or more behind a sign when it is not between 0 and 9999. -/
def yearText (year : Int) : String :=
  if 0 ≤ year ∧ year ≤ 9999 then padded 4 year.toNat
  else (if year < 0 then "-" else "+") ++ padded 4 year.natAbs

/-- The text of a time stamp. -/
def toText (t : Timestamp) : String :=
  yearText t.year ++ "-" ++ padded 2 t.month ++ "-" ++ padded 2 t.day ++ " " ++
    padded 2 t.hour ++ ":" ++ padded 2 t.minute ++ ":" ++ padded 2 t.second

end Timestamp

end SchemaLedger
