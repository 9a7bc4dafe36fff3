import Dtdl.Text.Composition
import Dtdl.Url.Domain.Joiner.Table

/-!
# Joiners in domain names

The two joiners cannot be seen, so they may stand only where they change what is seen:
behind a mark that ends a consonant, and the one that keeps characters apart also
between two characters that would join without it.
-/

namespace Dtdl.Url.Domain

/-- The joiner that keeps its neighbours apart. -/
def nonJoiner : Char := '\u200c'

/-- The joiner that holds its neighbours together. -/
def joiner : Char := '\u200d'

/-- The class of the marks that end a consonant. -/
def consonantEnd : Nat := 9

/-- Whether the nearest character that others do not join across belongs to a set. -/
def reaches (ranges : Text.Ranges) (text : List Char) : Bool :=
  match text.dropWhile transparentRanges.contains with
  | [] => false
  | c :: _ => ranges.contains c

/-- Whether every joiner of a label is in its place.  `before` holds the characters that
have been passed, last one first. -/
def joinersFit (before : List Char) : List Char → Bool
  | [] => true
  | c :: rest =>
      let endsConsonant :=
        match before with
        | [] => false
        | last :: _ => Text.Composition.classOf last = consonantEnd
      let separates := reaches joinsBehindRanges before && reaches joinsBeforeRanges rest
      let fits :=
        if c = nonJoiner then endsConsonant || separates
        else if c = joiner then endsConsonant
        else true
      fits && joinersFit (c :: before) rest

end Dtdl.Url.Domain
