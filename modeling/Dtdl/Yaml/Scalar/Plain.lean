import Dtdl.Yaml.Scalar.Fold

/-!
# Scalars without quotation marks

A plain scalar ends at a colon in front of a gap, at a comment, at a line that
separates documents, and, outside flow collections, at a line that is not indented
deeper than the collection around it.  Inside flow collections their punctuation ends
it too.
-/

namespace Dtdl.Yaml.Plain

/-- What the surroundings of a scalar ask of it. -/
structure Surroundings where
  inFlow : Bool
  /-- The least column of a further line. -/
  indent : Int

/-- Whether a character, together with the one behind it, ends a run of a scalar. -/
def endsRun (inFlow : Bool) (c : Char) (next : Option Char) : Bool :=
  isBlank c || isBreak c || c = ':' && isGap next ||
    inFlow && [',', '[', ']', '\x7b', '\x7d'].contains c

/-- Whether a colon is followed by punctuation that may not follow it. -/
def isStrayColon (inFlow : Bool) (c : Char) (next : Option Char) : Bool :=
  inFlow && c = ':' &&
    match next with
    | some d => [',', '?', '[', ']', '\x7b', '\x7d'].contains d
    | none => false

/-- The characters up to the next gap or ending. -/
def run (inFlow : Bool) : List Char → List Char
  | [] => []
  | c :: rest =>
      if isStrayColon inFlow c rest.head? || endsRun inFlow c rest.head? then []
      else c :: run inFlow rest

/-- Whether a stray colon comes next. -/
def atStrayColon (inFlow : Bool) (cursor : Cursor) : Bool :=
  match cursor.rest with
  | c :: rest => isStrayColon inFlow c rest.head?
  | [] => false

/-- A plain scalar that has been read up to some place. -/
structure Progress where
  text : List Char
  stop : Position
  space : Space
  cursor : Cursor

/-- Read on, run by run. -/
def readOn (surroundings : Surroundings) (start : Position) (fuel : Nat) (progress : Progress) :
    Except Fault Progress :=
  match fuel with
  | 0 => .ok progress
  | fuel + 1 =>
      let cursor := progress.cursor
      if cursor.atDocumentMark || cursor.startsWith '#' then .ok progress
      else
        let word := run surroundings.inFlow cursor.rest
        let behind := cursor.advance word.length
        if atStrayColon surroundings.inFlow behind then
          behind.fail .plainScalar start .strayColon
        else
          let joined : Progress :=
            if word.isEmpty then progress
            else ⟨progress.text ++ progress.space.text ++ word, behind.position, .none, behind⟩
          if !behind.atSpace then .ok joined
          else
            let noTab (column : Nat) : Bool := (column : Int) < surroundings.indent
            let (space, cursor, tab) :=
              Space.scan noTab (behind.rest.length + 1) joined.space behind
            if tab then cursor.fail .plainScalar start .plainTab
            else
              let spaced : Progress := ⟨joined.text, joined.stop, space, cursor⟩
              if !surroundings.inFlow && (cursor.position.column : Int) < surroundings.indent then
                .ok spaced
              else readOn surroundings start fuel spaced

/-- Read a plain scalar.  The answer also says whether line breaks follow it. -/
def scan (surroundings : Surroundings) : Scan (Token × Bool) := fun cursor => do
  let start := cursor.position
  let progress ←
    readOn surroundings start (cursor.rest.length + 1) ⟨[], start, .none, cursor⟩
  return ((⟨.scalar (String.ofList progress.text) .plain, start, progress.stop⟩,
    progress.space.broken), progress.cursor)

end Dtdl.Yaml.Plain
