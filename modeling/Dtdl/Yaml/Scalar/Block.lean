import Dtdl.Yaml.Scalar.Fold

/-!
# Block scalars

A block scalar is the lines below its header that are indented deeper than the
collection around it.  A literal one keeps its line breaks, a folded one joins
neighbouring lines that do not begin with a blank.  The header may give the
indentation, and it may ask for the last line breaks to be dropped or all to be kept.
-/

namespace Dtdl.Yaml.Block

/-- What becomes of the line breaks at the end. -/
inductive Chomping where
  | clip
  | strip
  | keep
  deriving DecidableEq, Repr

/-- The chomping that a mark in the header asks for. -/
def Chomping.ofChar? : Char → Option Chomping
  | '+' => some .keep
  | '-' => some .strip
  | _ => none

/-- What the header of a block scalar says. -/
structure Header where
  chomping : Chomping
  /-- The indentation beyond that of the collection around; 0 if it is not given. -/
  increment : Nat
  deriving DecidableEq, Repr

/-- Read the chomping mark, if there is one. -/
def chomping (cursor : Cursor) : Option Chomping × Cursor :=
  match cursor.next?.bind Chomping.ofChar? with
  | some chomping => (some chomping, cursor.advance 1)
  | none => (none, cursor)

/-- Read the digit of the indentation, if there is one. -/
def increment (start : Position) : Scan Nat := fun cursor =>
  match cursor.next? with
  | some c =>
      if c = '0' then cursor.fail .blockScalar start .indentZero
      else if c.isDigit then .ok (c.toNat - '0'.toNat, cursor.advance 1)
      else .ok (0, cursor)
  | none => .ok (0, cursor)

/-- Read the header; the mark and the digit may stand in either order. -/
def header (start : Position) : Scan Header := fun cursor => do
  let (mark, behindMark) := chomping cursor
  let (increment, behindDigit) ← increment start behindMark
  let (mark, behind) :=
    if mark.isNone && increment ≠ 0 then chomping behindDigit else (mark, behindDigit)
  let behind := behind.skipBlanks.skipComment
  if behind.atLineEnd then return (⟨mark.getD .clip, increment⟩, behind.skipBreak)
  else behind.fail .blockScalar start .blockHeaderEnd

/-- Lines without content: the breaks that end them, the largest indentation met, and
the end of the last of them. -/
structure Breaks where
  kept : List Char
  deepest : Nat
  stop : Position

/-- Read lines without content.  Without a known indentation every blank counts as
part of it. -/
def breaks (start : Position) (indent : Option Nat) (fuel : Nat) (read : Breaks) :
    Scan Breaks := fun cursor =>
  match fuel with
  | 0 => .ok (read, cursor)
  | fuel + 1 =>
      let missing :=
        match indent with
        | none => cursor.rest.length
        | some indent => indent - cursor.position.column
      let blanks := ((cursor.rest.take missing).takeWhile (· = ' ')).length
      let cursor := cursor.advance blanks
      let column := cursor.position.column
      let deepest := max read.deepest column
      let isOpen := (indent.map (decide <| column < ·)).getD true
      if isOpen && cursor.startsWith '\t' then cursor.fail .blockScalar start .blockTab
      else if cursor.rest.isEmpty || !cursor.atLineEnd then
        .ok (⟨read.kept, deepest, read.stop⟩, cursor)
      else
        let (kept, behind) := cursor.takeBreak
        breaks start indent fuel ⟨read.kept ++ kept, deepest, behind.position⟩ behind

/-- A block scalar that has been read up to the start of a line. -/
structure Progress where
  text : List Char
  /-- The break behind the last line with content. -/
  lastBreak : List Char
  /-- The lines without content behind it. -/
  breaks : Breaks
  /-- Whether the last line with content begins with a blank. -/
  blankLine : Bool

/-- Read on line by line. -/
def readOn (literal : Bool) (start : Position) (indent fuel : Nat) (progress : Progress) :
    Scan Progress := fun cursor =>
  match fuel with
  | 0 => .ok (progress, cursor)
  | fuel + 1 =>
      if cursor.position.column ≠ indent || cursor.rest.isEmpty then .ok (progress, cursor)
      else do
        let blankLine := (cursor.next?.map isBlank).getD false
        let folds := !literal && progress.lastBreak = ['\n'] && !progress.blankLine && !blankLine
        let joint :=
          if folds then (if progress.breaks.kept.isEmpty then [' '] else [])
          else progress.lastBreak
        let (line, behind) := cursor.span fun c => !isBreak c
        let (lastBreak, behind) := behind.takeBreak
        let (breaks, behind) ←
          breaks start (some indent) (behind.rest.length + 1) ⟨[], 0, behind.position⟩ behind
        readOn literal start indent fuel
          ⟨progress.text ++ joint ++ progress.breaks.kept ++ line, lastBreak, breaks, blankLine⟩
          behind

/-- Read a block scalar inside a collection of the given indentation, which is -1
outside of any. -/
def scan (literal : Bool) (around : Int) : Scan Token := fun cursor => do
  let start := cursor.position
  let (header, cursor) ← header start (cursor.advance 1)
  let given :=
    if header.increment = 0 then none
    else some ((max around 0).toNat + header.increment)
  let (leading, cursor) ←
    breaks start given (cursor.rest.length + 1) ⟨[], 0, cursor.position⟩ cursor
  let indent := given.getD (max (max leading.deepest (around + 1).toNat) 1)
  let (progress, cursor) ←
    readOn literal start indent (cursor.rest.length + 1) ⟨[], [], leading, false⟩ cursor
  let lastBreak := if header.chomping = .strip then [] else progress.lastBreak
  let trailing := if header.chomping = .keep then progress.breaks.kept else []
  let style := if literal then Style.literal else .folded
  let text := String.ofList (progress.text ++ lastBreak ++ trailing)
  return (⟨.scalar text style, start, progress.breaks.stop⟩, cursor)

end Dtdl.Yaml.Block
