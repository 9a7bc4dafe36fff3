import Dtdl.Yaml.Token

/-!
# Folding line breaks inside scalars

Blanks between two words of a line belong to the scalar.  Where the words stand on
different lines the blanks around the break are dropped: a single break becomes a
blank, and of several breaks the first one is dropped.
-/

namespace Dtdl.Yaml

/-- What stands between two words of a scalar. -/
structure Space where
  blanks : List Char
  broken : Bool
  firstBreak : List Char
  otherBreaks : List Char
  deriving DecidableEq, Repr

namespace Space

def none : Space := ⟨[], false, [], []⟩

/-- A break that is itself left out. -/
def hiddenBreak : Space := ⟨[], true, [], []⟩

/-- What the scalar keeps. -/
def text (space : Space) : List Char :=
  if !space.broken then space.blanks
  else if space.firstBreak = ['\n'] then
    if space.otherBreaks.isEmpty then [' '] else space.otherBreaks
  else space.firstBreak ++ space.otherBreaks

/-- Take in a blank; blanks behind a break are dropped. -/
def addBlank (space : Space) (c : Char) : Space :=
  if space.broken then space else { space with blanks := space.blanks ++ [c] }

/-- Take in a line break; blanks in front of it are dropped. -/
def addBreak (space : Space) (kept : List Char) : Space :=
  if space.broken then { space with otherBreaks := space.otherBreaks ++ kept }
  else ⟨[], true, kept, space.otherBreaks⟩

/-- Go past blanks and line breaks.  Behind a break a tab may not stand where `noTab`
forbids it; reading stops in front of such a tab and says so. -/
def scan (noTab : Nat → Bool) (fuel : Nat) (space : Space) (cursor : Cursor) :
    Space × Cursor × Bool :=
  match fuel with
  | 0 => (space, cursor, false)
  | fuel + 1 =>
      match cursor.next? with
      | .none => (space, cursor, false)
      | some c =>
          if isBlank c then
            if space.broken && c = '\t' && noTab cursor.position.column then
              (space, cursor, true)
            else scan noTab fuel (space.addBlank c) (cursor.advance 1)
          else if isBreak c then
            let (kept, behind) := cursor.takeBreak
            scan noTab fuel (space.addBreak kept) behind
          else (space, cursor, false)

end Space

end Dtdl.Yaml
