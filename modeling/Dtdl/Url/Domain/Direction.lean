import Dtdl.Url.Domain.Direction.Table

/-!
# Directions in domain names

In a name with letters that run from right to left every label has to run in one
direction, so that the name reads the same wherever it stands.  A label runs in the
direction of its first character, which has to be a letter; it holds nothing that runs
the other way, and it ends in a letter or a digit, behind which there may be marks.
-/

namespace Dtdl.Url.Domain

/-- The part of a character in a line of mixed direction. -/
inductive Direction where
  | leftToRight
  | rightToLeft
  | arabicLetter
  | arabicNumber
  | europeanNumber
  | mark
  | neutral
  deriving DecidableEq, Repr

namespace Direction

/-- The ranges of the characters of each part; all others are letters that run from left
to right. -/
def table : List (Text.Ranges × Direction) :=
  [(rightToLeftRanges, rightToLeft), (arabicLetterRanges, arabicLetter),
    (arabicNumberRanges, arabicNumber), (europeanNumberRanges, europeanNumber),
    (markRanges, mark), (numberSeparatorRanges, neutral), (numberEndRanges, neutral),
    (neutralRanges, neutral)]

def ofChar (c : Char) : Direction :=
  if c.isAlpha then leftToRight
  else
    match table.find? fun entry => entry.1.contains c with
    | some entry => entry.2
    | none => leftToRight

def isRightToLeft (direction : Direction) : Bool :=
  [rightToLeft, arabicLetter, arabicNumber].contains direction

end Direction

/-- Whether the parts of a label run in one direction. -/
def isStraight (label : List Direction) : Bool :=
  let ending := (label.reverse.dropWhile (· = .mark)).head?
  match label with
  | [] => true
  | .leftToRight :: _ =>
      label.all (!Direction.isRightToLeft ·) &&
        (ending = some .leftToRight || ending = some .europeanNumber)
  | .rightToLeft :: _ | .arabicLetter :: _ =>
      label.all (· ≠ .leftToRight) &&
        !(ending = some .neutral) &&
        !(label.contains .europeanNumber && label.contains .arabicNumber)
  | _ => false

/-- Whether the labels of a name may stand together. -/
def areStraight (labels : List (List Char)) : Bool :=
  let directions := labels.map (·.map Direction.ofChar)
  !directions.any (·.any Direction.isRightToLeft) || directions.all isStraight

end Dtdl.Url.Domain
