import SchemaLedger.Text.CombiningClass
import SchemaLedger.Text.Orientation
import SchemaLedger.Text.Joining

/-!
# Labels of domain names

The rules for one label: which characters may begin it, where the signs that join or part letters
may stand, and how letters of different directions may be mixed.
-/

namespace SchemaLedger.Domain

open SchemaLedger.Text (orientation Orientation)

/-! ### Joiners -/

/-- The sign that parts two letters. -/
def nonJoiner : Char := Char.ofNat 0x200C

/-- The sign that joins two letters. -/
def joiner : Char := Char.ofNat 0x200D

/-- Whether the first character that is not passed over has a property. -/
def firstJoining (p : Char → Bool) (cs : List Char) : Bool :=
  match cs.dropWhile fun c => Text.isTransparent c && !p c with
  | [] => false
  | c :: _ => p c

/-- Whether joiners stand only where they show: behind a sign that takes the vowel from a letter,
or, for the one that parts, between letters that would be joined. `before` holds the characters
before, last one first. -/
def joinersFit (before : List Char) : List Char → Bool
  | [] => true
  | c :: rest =>
    let fits :=
      if c = nonJoiner ∨ c = joiner then
        match before with
        | [] => false
        | last :: _ =>
          Text.combiningClass last == Text.vowelKillerClass ||
            (c == nonJoiner && firstJoining Text.joinsNext before &&
              firstJoining Text.joinsPrevious rest)
      else true
    fits && joinersFit (c :: before) rest

/-! ### Directions -/

/-- Whether a direction makes the whole name one of two directions. -/
def isRightward : Orientation → Bool
  | .right => true
  | .arabicNumber => true
  | _ => false

/-- Whether a direction may stand inside a label that runs from left to right. -/
def fitsLeft : Orientation → Bool
  | .left => true
  | .number => true
  | .mark => true
  | .neutral => true
  | _ => false

/-- Whether a direction may stand inside a label that runs from right to left. -/
def fitsRight : Orientation → Bool
  | .right => true
  | .arabicNumber => true
  | .number => true
  | .mark => true
  | .neutral => true
  | _ => false

/-- Whether a direction may end a label that runs from left to right, apart from marks. -/
def endsLeft : Orientation → Bool
  | .left => true
  | .number => true
  | _ => false

/-- Whether a direction may end a label that runs from right to left, apart from marks. -/
def endsRight : Orientation → Bool
  | .right => true
  | .arabicNumber => true
  | .number => true
  | _ => false

/-- Whether the directions behind the first one keep the rules: the last one that is no mark may end
a label, and those before it may stand inside one. -/
def tailFits (inside final : Orientation → Bool) (tail : List Orientation) : Bool :=
  match tail.reverse.dropWhile (· == .mark) with
  | [] => true
  | last :: middle => final last && middle.all inside

/-- Whether a label of a name with letters that run from right to left keeps to one direction: that
of its first letter. A label from right to left has digits of one kind only. -/
def keepsDirection (label : List Char) : Bool :=
  match label.map orientation with
  | [] => true
  | .left :: tail => tailFits fitsLeft endsLeft tail
  | .right :: tail =>
    tailFits fitsRight endsRight tail && !(tail.contains .number && tail.contains .arabicNumber)
  | _ => false

/-! ### Single labels -/

/-- The greatest number of characters of a label that is not plain. -/
def maxLabelLength : Nat := 1000

/-- Whether all characters are plain. -/
def isPlain (label : List Char) : Bool := label.all fun c => c.toNat < 0x80

/-- Whether a label keeps the rules that do not depend on the other labels. -/
def labelFits (label : List Char) : Bool :=
  (match label with
    | [] => true
    | c :: _ => !Text.isMark c) &&
  joinersFit [] label && (isPlain label || label.length ≤ maxLabelLength)

end SchemaLedger.Domain
