import Dtdl.Yaml.Fault

/-!
# Reading along a YAML text

The text that is still to be read, and the place where it begins.  A line ends in a
line feed, a carriage return, both together, a next-line mark, or one of the two
Unicode separators; only the separators are kept as they are when a scalar takes a
line break over.
-/

namespace Dtdl.Yaml

def isBreak (c : Char) : Bool :=
  c = '\n' || c = '\r' || c = '\u0085' || c = '\u2028' || c = '\u2029'

/-- Whether a character is a blank within a line. -/
def isBlank (c : Char) : Bool := c = ' ' || c = '\t'

/-- Whether a character may stand in the name of an anchor or of a tag handle. -/
def isWordChar (c : Char) : Bool := c.isAlphanum || c = '-' || c = '_'

/-- Whether nothing but a blank or a line end comes next. -/
def isGap : Option Char → Bool
  | none => true
  | some c => isBlank c || isBreak c

/-- The text that is still to be read, and the place where it begins. -/
structure Cursor where
  rest : List Char
  position : Position
  deriving DecidableEq, Repr

namespace Cursor

def ofText (text : String) : Cursor := ⟨text.toList, .start⟩

def next? (cursor : Cursor) : Option Char := cursor.rest.head?

def startsWith (cursor : Cursor) (c : Char) : Bool := cursor.next? = some c

/-- Whether a blank or a line end comes next, or nothing at all. -/
def atGap (cursor : Cursor) : Bool := isGap cursor.next?

/-- Whether a line end or the end of the text comes next. -/
def atLineEnd (cursor : Cursor) : Bool :=
  match cursor.next? with
  | none => true
  | some c => isBreak c

/-- Whether a blank or a line break comes next. -/
def atSpace (cursor : Cursor) : Bool :=
  match cursor.next? with
  | none => false
  | some c => isBlank c || isBreak c

/-- Go past some characters of the same line. -/
def advance (cursor : Cursor) (count : Nat) : Cursor :=
  ⟨cursor.rest.drop count,
    ⟨cursor.position.index + count, cursor.position.line, cursor.position.column + count⟩⟩

/-- Go past the characters of this line that belong to a class, and give them. -/
def span (cursor : Cursor) (belongs : Char → Bool) : List Char × Cursor :=
  let run := cursor.rest.takeWhile belongs
  (run, cursor.advance run.length)

/-- Go past the characters of this line that belong to a class. -/
def skipWhile (cursor : Cursor) (belongs : Char → Bool) : Cursor := (cursor.span belongs).2

def skipBlanks (cursor : Cursor) : Cursor := cursor.skipWhile isBlank

/-- Go past a comment, if one comes next. -/
def skipComment (cursor : Cursor) : Cursor :=
  if cursor.startsWith '#' then cursor.skipWhile fun c => !isBreak c else cursor

/-- Go past a line break, and give what a scalar keeps of it. -/
def takeBreak (cursor : Cursor) : List Char × Cursor :=
  let behind (rest : List Char) (count : Nat) : Cursor :=
    ⟨rest, ⟨cursor.position.index + count, cursor.position.line + 1, 0⟩⟩
  match cursor.rest with
  | '\r' :: '\n' :: rest => (['\n'], behind rest 2)
  | c :: rest =>
      if c = '\u2028' || c = '\u2029' then ([c], behind rest 1)
      else if isBreak c then (['\n'], behind rest 1)
      else ([], cursor)
  | [] => ([], cursor)

/-- Go past a line break, if one comes next. -/
def skipBreak (cursor : Cursor) : Cursor := cursor.takeBreak.2

/-- Whether a line that separates documents begins here. -/
def atDocumentMark (cursor : Cursor) : Bool :=
  cursor.position.column = 0 &&
    match cursor.rest with
    | '-' :: '-' :: '-' :: rest => isGap rest.head?
    | '.' :: '.' :: '.' :: rest => isGap rest.head?
    | _ => false

end Cursor

/-- A step that reads a part of the text and goes past it. -/
abbrev Scan (Result : Type) := Cursor → Except Fault (Result × Cursor)

/-- Fail while a part is read that began at a given place. -/
def Cursor.fail {Result : Type} (cursor : Cursor) (part : Part) (start : Position)
    (problem : Problem) : Except Fault Result :=
  .error (.within part start problem cursor.position)

end Dtdl.Yaml
