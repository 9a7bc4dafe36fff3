import Dtdl.Mismatch

/-!
# Places in a JSON text

Lines are counted from 1.  The column of a place is the number of bytes between the
start of its line and the place.
-/

namespace Dtdl.Json

structure Position where
  line : Nat
  column : Nat
  deriving DecidableEq, Repr

namespace Position

/-- The place before the first character. -/
def start : Position := ⟨1, 0⟩

/-- The place behind a character. -/
def behind (position : Position) (c : Char) : Position :=
  if c = '\n' then ⟨position.line + 1, 0⟩
  else ⟨position.line, position.column + c.utf8Size⟩

/-- The place behind the first byte of a character. -/
def insideOf (position : Position) (c : Char) : Position :=
  if c = '\n' then ⟨position.line + 1, 0⟩ else ⟨position.line, position.column + 1⟩

end Position

/-- What is wrong with a JSON text. -/
inductive Fault where
  | endInValue
  | endInString
  | endInArray
  | endInObject
  | noValue
  | noWord
  | noColon
  | noItemEnd
  | noMemberEnd
  | noKey
  | trailingComma
  | trailingText
  | number
  | numberRange
  | escape
  | surrogate
  | surrogateEnd
  | control
  | depth
  | mismatch (mismatch : Mismatch)
  deriving DecidableEq, Repr

def Fault.message : Fault → String
  | endInValue => "EOF while parsing a value"
  | endInString => "EOF while parsing a string"
  | endInArray => "EOF while parsing a list"
  | endInObject => "EOF while parsing an object"
  | noValue => "expected value"
  | noWord => "expected ident"
  | noColon => "expected `:`"
  | noItemEnd => "expected `,` or `]`"
  | noMemberEnd => "expected `,` or `\x7d`"
  | noKey => "key must be a string"
  | trailingComma => "trailing comma"
  | trailingText => "trailing characters"
  | number => "invalid number"
  | numberRange => "number out of range"
  | escape => "invalid escape"
  | surrogate => "lone leading surrogate in hex escape"
  | surrogateEnd => "unexpected end of hex escape"
  | control => "control character (\\u0000-\\u001F) found while parsing a string"
  | depth => "recursion limit exceeded"
  | mismatch problem => problem.message

structure Failure where
  fault : Fault
  position : Position
  deriving DecidableEq, Repr

def Failure.message (failure : Failure) : String :=
  s!"{failure.fault.message} at line {failure.position.line} column {failure.position.column}"

/-- The text that is still to be read, and the place where it begins. -/
structure Cursor where
  rest : List Char
  position : Position
  deriving DecidableEq, Repr

namespace Cursor

def ofText (text : String) : Cursor := ⟨text.toList, .start⟩

/-- The place behind the first byte of what comes next; at the end, the end itself. -/
def ahead (cursor : Cursor) : Position :=
  match cursor.rest with
  | [] => cursor.position
  | c :: _ => cursor.position.insideOf c

def step (cursor : Cursor) : Cursor :=
  match cursor.rest with
  | [] => cursor
  | c :: rest => ⟨rest, cursor.position.behind c⟩

def isBlank (c : Char) : Bool := c = ' ' || c = '\n' || c = '\t' || c = '\r'

def skipBlanks (cursor : Cursor) : Cursor :=
  go cursor.position cursor.rest
where
  /-- Go past blanks from a place on. -/
  go (position : Position) : List Char → Cursor
    | [] => ⟨[], position⟩
    | c :: rest => if isBlank c then go (position.behind c) rest else ⟨c :: rest, position⟩

/-- Go past a run of decimal digits, which are given as well. -/
def takeDigits (cursor : Cursor) : List Char × Cursor :=
  let digits := cursor.rest.takeWhile Char.isDigit
  (digits, ⟨cursor.rest.drop digits.length,
    ⟨cursor.position.line, cursor.position.column + digits.length⟩⟩)

end Cursor

/-- A reader takes a part off the front of the remaining text, or fails at a place. -/
abbrev Reader := StateT Cursor (Except Failure)

namespace Reader

def fail {Result : Type} (fault : Fault) : Reader Result :=
  fun cursor => .error ⟨fault, cursor.position⟩

/-- Fail behind the first byte of what comes next. -/
def failAhead {Result : Type} (fault : Fault) : Reader Result :=
  fun cursor => .error ⟨fault, cursor.ahead⟩

/-- Fail some bytes before this place, on the same line. -/
def failBefore {Result : Type} (fault : Fault) (bytes : Nat) : Reader Result :=
  fun cursor => .error ⟨fault, ⟨cursor.position.line, cursor.position.column - bytes⟩⟩

def step : Reader Unit := fun cursor => .ok ((), cursor.step)

def next? : Reader (Option Char) := fun cursor => .ok (cursor.rest.head?, cursor)

def nextSolid? : Reader (Option Char) := fun cursor =>
  let solid := cursor.skipBlanks
  .ok (solid.rest.head?, solid)

end Reader

end Dtdl.Json
