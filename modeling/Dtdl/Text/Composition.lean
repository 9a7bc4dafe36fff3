import Dtdl.Text.Composition.Table

/-!
# Composed text

A letter with marks can be written as one character or as several.  The composed form
of a text takes every character apart, puts the marks on a letter into the order of
their classes, and then puts together whatever can be written as one.

The syllables of Hangul are numbered by their two or three letters, so their parts are
computed.
-/

namespace Dtdl.Text.Composition

/-- The class of a character; 0 for all that are no marks. -/
def classOf (c : Char) : Nat :=
  match classes.find? fun entry => Ranges.contains entry.2 c with
  | some entry => entry.1
  | none => 0

/-! ## Syllables of Hangul -/

def firstSyllable : Nat := 0xAC00

def firstLead : Nat := 0x1100

def firstVowel : Nat := 0x1161

/-- The code point in front of the first trailing consonant. -/
def beforeTrail : Nat := 0x11A7

/-- The number of leading consonants, of vowels, and of trailing consonants with the
case that there is none. -/
def leadCount : Nat := 19

@[inherit_doc leadCount] def vowelCount : Nat := 21

@[inherit_doc leadCount] def trailCount : Nat := 28

def syllableCount : Nat := leadCount * vowelCount * trailCount

def syllableParts? (code : Nat) : Option (Nat × Nat) :=
  if code < firstSyllable || firstSyllable + syllableCount ≤ code then none
  else
    let index := code - firstSyllable
    let trail := index % trailCount
    if trail = 0 then
      some (firstLead + index / trailCount / vowelCount,
        firstVowel + index / trailCount % vowelCount)
    else some (code - trail, beforeTrail + trail)

def syllable? (first second : Nat) : Option Nat :=
  if firstLead ≤ first && first < firstLead + leadCount &&
      firstVowel ≤ second && second < firstVowel + vowelCount then
    some (firstSyllable +
      ((first - firstLead) * vowelCount + (second - firstVowel)) * trailCount)
  else if firstSyllable ≤ first && first < firstSyllable + syllableCount &&
      (first - firstSyllable) % trailCount = 0 &&
      beforeTrail < second && second < beforeTrail + trailCount then
    some (first + (second - beforeTrail))
  else none

/-! ## Taking apart and putting together -/

def parts? (c : Char) : Option (Char × Char) :=
  let found : Option (Nat × Nat) :=
    match syllableParts? c.toNat with
    | some parts => some parts
    | none => (pairs.find? fun entry => entry.2 = c.toNat).map Prod.fst
  found.map fun parts => (Char.ofNat parts.1, Char.ofNat parts.2)

/-- The character that two characters are written as, if there is one. -/
def whole? (first second : Char) : Option Char :=
  let found : Option Nat :=
    match syllable? first.toNat second.toNat with
    | some code => some code
    | none => pairs.lookup (first.toNat, second.toNat)
  found.map Char.ofNat

/-- Take a character apart.  A letter has at most three marks. -/
def apart (fuel : Nat) (c : Char) : List Char :=
  match fuel with
  | 0 => [c]
  | fuel + 1 =>
      if c.toNat < 0x80 then [c]
      else
        match parts? c with
        | none => [c]
        | some (first, second) => apart fuel first ++ [second]

/-- Put a mark behind the marks of its class or of lower ones.  The list holds the text
in front of it, last character first. -/
def insertMark (mark : Char) : List Char → List Char
  | [] => [mark]
  | c :: rest =>
      if classOf mark ≠ 0 && classOf mark < classOf c then c :: insertMark mark rest
      else mark :: c :: rest

/-- Put the marks of a text into the order of their classes. -/
def ordered (text : List Char) : List Char :=
  (text.foldl (fun before c => insertMark c before) []).reverse

/-- Put a text together.  `letter` is the last character that is no mark, `marks` those
behind it that could not be put together with it, last one first. -/
def together (letter : Char) (marks : List Char) : List Char → List Char
  | [] => letter :: marks.reverse
  | c :: rest =>
      let isFree :=
        match marks with
        | [] => true
        | mark :: _ => classOf mark < classOf c
      match if isFree then whole? letter c else none with
      | some whole => together whole marks rest
      | none =>
          if classOf c = 0 then letter :: marks.reverse ++ together c [] rest
          else together letter (c :: marks) rest

def composed (text : List Char) : List Char :=
  if text.all fun c => c.toNat < 0x300 then text
  else
    let taken := ordered (text.flatMap (apart 4))
    let marks := taken.takeWhile fun c => classOf c ≠ 0
    match taken.drop marks.length with
    | [] => marks
    | letter :: rest => marks ++ together letter [] rest

end Dtdl.Text.Composition
