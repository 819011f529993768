import SchemaLedger.Text.CombiningClass
import SchemaLedger.Text.Composition

/-!
# The composed normal form

One text may be written in several ways: with composed characters or with their parts, and with
marks of different classes in any order. In the normal form the marks behind a character ascend by
their class, and whatever can be put together is. It is reached by taking all characters apart,
sorting the marks and putting the parts together again. Characters that the standard replaces by a
single other one are not looked at here.
-/

namespace SchemaLedger.Text

/-- The parts of a character that are not composed themselves, taken apart at most `depth` times. -/
def partsOf (depth : Nat) (c : Char) : List Char :=
  match depth, parts? c with
  | depth + 1, some (first, second) => partsOf depth first ++ [second]
  | _, _ => [c]

/-- The number of times that a character can be taken apart. -/
def maxDepth : Nat := 3

/-- Puts a character in front of a sorted text, behind the marks that its class lets pass. -/
def insertMark (c : Char) : List Char → List Char
  | [] => [c]
  | d :: rest =>
    if 0 < combiningClass d ∧ combiningClass d < combiningClass c then d :: insertMark c rest
    else c :: d :: rest

/-- A text whose marks ascend by their class. -/
def sortMarks (cs : List Char) : List Char := cs.foldr insertMark []

/-- Puts parts together: `base` is the character that later ones may join, and `marks` are the marks
between it and the rest that did not, last one first. A mark joins the base only over marks of lower
classes. -/
def joinParts (base : Char) (marks : List Char) : List Char → List Char
  | [] => base :: marks.reverse
  | c :: rest =>
    let isFree := match marks with
      | [] => true
      | last :: _ => combiningClass last < combiningClass c
    match if isFree then composite? base c else none with
    | some joined => joinParts joined marks rest
    | none =>
      if combiningClass c = 0 then base :: (marks.reverse ++ joinParts c [] rest)
      else joinParts base (c :: marks) rest

/-- The composed normal form of a text. -/
def normalForm (cs : List Char) : List Char :=
  match sortMarks (cs.flatMap (partsOf maxDepth)) with
  | [] => []
  | c :: rest => joinParts c [] rest

end SchemaLedger.Text
