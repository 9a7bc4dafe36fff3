import Dtdl.Yaml.Directive
import Dtdl.Yaml.Scalar.Block
import Dtdl.Yaml.Scalar.Plain
import Dtdl.Yaml.Scalar.Quoted

/-!
# From text to tokens

Outside flow collections indentation tells where collections begin and end.  A key
needs no mark of its own: what has been read turns out to be a key when a colon
follows it on the same line, and only then are the tokens that open the mapping put in
front of it.  Tokens behind a possible key therefore wait in a queue until the matter is
settled.
-/

namespace Dtdl.Yaml

/-- A place where a key may have begun, and the number of its first token. -/
structure PossibleKey where
  /-- Whether what begins here has to be a key. -/
  isRequired : Bool
  number : Nat
  position : Position
  deriving DecidableEq, Repr

/-- The state of reading tokens. -/
structure Layout where
  cursor : Cursor
  /-- The column of the innermost block collection; -1 outside of any. -/
  indent : Int
  outerIndents : List Int
  /-- Whether a key may begin here. -/
  keyAllowed : Bool
  /-- The place where a key of the innermost collection may have begun. -/
  key : Option PossibleKey
  /-- The same for the collections around it; there is one for every open flow
  collection. -/
  outerKeys : List (Option PossibleKey)
  /-- The number of tokens that have left the queue. -/
  delivered : Nat
  queue : List Token

namespace Layout

def ofText (text : String) : Layout :=
  { cursor := .ofText text
    indent := -1
    outerIndents := []
    keyAllowed := true
    key := none
    outerKeys := []
    delivered := 0
    queue := [] }

def inFlow (layout : Layout) : Bool := !layout.outerKeys.isEmpty

def position (layout : Layout) : Position := layout.cursor.position

/-- Fail here, outside of any larger part. -/
def fail {Result : Type} (layout : Layout) (problem : Problem) : Except Fault Result :=
  .error (.syntactic problem layout.position none)

/-- Put a token at the end of the queue. -/
def emit (layout : Layout) (token : Token) : Layout :=
  { layout with queue := layout.queue ++ [token] }

/-- Put a token of some characters at the end of the queue and go past them. -/
def emitMark (layout : Layout) (kind : Token.Kind) (width : Nat) : Layout :=
  let behind := layout.cursor.advance width
  { layout with cursor := behind }.emit ⟨kind, layout.position, behind.position⟩

/-- Put a token in front of the one with a given number. -/
def insertBefore (layout : Layout) (number : Nat) (kind : Token.Kind) (position : Position) :
    Layout :=
  let index := number - layout.delivered
  let token : Token := ⟨kind, position, position⟩
  { layout with queue := layout.queue.take index ++ token :: layout.queue.drop index }

/-! ## Possible keys -/

/-- Give up a possible key that cannot be one any more. -/
def forget (layout : Layout) (key : Option PossibleKey) :
    Except Fault (Option PossibleKey) :=
  match key with
  | none => .ok none
  | some key =>
      if key.isRequired then layout.cursor.fail .simpleKey key.position .missingColon
      else .ok none

/-- Give up a possible key if it lies on an earlier line or too far back. -/
def refresh (layout : Layout) (key : Option PossibleKey) :
    Except Fault (Option PossibleKey) :=
  match key with
  | none => .ok none
  | some key =>
      if key.position.line < layout.position.line ||
          key.position.index + 1024 < layout.position.index then
        layout.forget (some key)
      else .ok (some key)

/-- Give up every possible key that cannot be one any more. -/
def refreshKeys (layout : Layout) : Except Fault Layout := do
  let outerKeys ← layout.outerKeys.reverse.mapM layout.refresh
  let key ← layout.refresh layout.key
  return { layout with key, outerKeys := outerKeys.reverse }

/-- Give up the possible key of the innermost collection. -/
def dropKey (layout : Layout) : Except Fault Layout := do
  return { layout with key := ← layout.forget layout.key }

/-- Note that a key may begin here. -/
def noteKey (layout : Layout) : Except Fault Layout :=
  if layout.keyAllowed then do
    let layout ← layout.dropKey
    let isRequired := !layout.inFlow && layout.indent = layout.position.column
    let number := layout.delivered + layout.queue.length
    return { layout with key := some ⟨isRequired, number, layout.position⟩ }
  else .ok layout

/-! ## Indentation -/

/-- Open a block collection if a column lies deeper than the innermost one.  `number`
tells in front of which token its start goes; at the end when it is absent. -/
def openBlock (layout : Layout) (column : Nat) (number : Option Nat) (kind : Token.Kind)
    (position : Position) : Layout :=
  if layout.inFlow || (column : Int) ≤ layout.indent then layout
  else
    let deeper :=
      { layout with indent := column, outerIndents := layout.indent :: layout.outerIndents }
    match number with
    | some number => deeper.insertBefore number kind position
    | none => deeper.emit ⟨kind, position, position⟩

/-- Close the block collections that lie deeper than a column. -/
def closeBlocks (layout : Layout) (column : Int) : Layout :=
  if layout.inFlow then layout else go layout.indent layout.outerIndents layout
where
  /-- Close collections from the innermost one on. -/
  go (indent : Int) (outer : List Int) (layout : Layout) : Layout :=
    let token : Token := ⟨.blockEnd, layout.position, layout.position⟩
    if indent ≤ column then { layout with indent, outerIndents := outer }
    else
      match outer with
      | [] => { layout.emit token with indent := -1, outerIndents := [] }
      | next :: outer => go next outer (layout.emit token)

/-! ## Tokens -/

/-- Go past blanks, comments and line breaks.  A tab is a blank only where no key may
begin. -/
def skipToToken (fuel : Nat) (layout : Layout) : Layout :=
  match fuel with
  | 0 => layout
  | fuel + 1 =>
      let cursor := layout.cursor
      let cursor :=
        if cursor.position.index = 0 && cursor.startsWith '\uFEFF' then cursor.advance 1
        else cursor
      let isSpace (c : Char) : Bool :=
        c = ' ' || c = '\t' && (layout.inFlow || !layout.keyAllowed)
      let cursor := (cursor.skipWhile isSpace).skipComment
      if cursor.rest.isEmpty || !cursor.atLineEnd then { layout with cursor }
      else
        skipToToken fuel
          { layout with
            cursor := cursor.skipBreak
            keyAllowed := !layout.inFlow || layout.keyAllowed }

/-- Take the end of the text, which lies at the start of a line. -/
def takeEnd (layout : Layout) : Except Fault Layout := do
  let here := layout.position
  let position : Position := if here.column = 0 then here else ⟨here.index, here.line + 1, 0⟩
  let layout ← ({ layout with cursor := ⟨[], position⟩ }.closeBlocks (-1)).dropKey
  return { layout with keyAllowed := false }.emit ⟨.streamEnd, position, position⟩

def takeDirective (layout : Layout) : Except Fault Layout := do
  let layout ← (layout.closeBlocks (-1)).dropKey
  let (token, cursor) ← Directive.scan layout.cursor
  return { layout with cursor, keyAllowed := false }.emit token

/-- Take a line that separates documents. -/
def takeDocumentMark (layout : Layout) (kind : Token.Kind) : Except Fault Layout := do
  let layout ← (layout.closeBlocks (-1)).dropKey
  return { layout with keyAllowed := false }.emitMark kind 3

def takeFlowStart (layout : Layout) (kind : Token.Kind) : Except Fault Layout := do
  let layout ← layout.noteKey
  return { layout with
    keyAllowed := true
    key := none
    outerKeys := layout.key :: layout.outerKeys }.emitMark kind 1

def takeFlowEnd (layout : Layout) (kind : Token.Kind) : Except Fault Layout := do
  let layout ← layout.dropKey
  let outside :=
    match layout.outerKeys with
    | [] => layout
    | key :: outerKeys => { layout with key, outerKeys }
  return { outside with keyAllowed := false }.emitMark kind 1

/-- Take the comma between two items of a flow collection. -/
def takeFlowEntry (layout : Layout) : Except Fault Layout := do
  let layout ← layout.dropKey
  return { layout with keyAllowed := true }.emitMark .flowEntry 1

/-- Take the dash in front of an item of a block sequence. -/
def takeBlockEntry (layout : Layout) : Except Fault Layout :=
  if !layout.inFlow && !layout.keyAllowed then layout.fail .blockEntryPlace
  else do
    let layout :=
      layout.openBlock layout.position.column none .blockSequenceStart layout.position
    let layout ← layout.dropKey
    return { layout with keyAllowed := true }.emitMark .blockEntry 1

/-- Take the question mark in front of a key. -/
def takeKey (layout : Layout) : Except Fault Layout :=
  if !layout.inFlow && !layout.keyAllowed then layout.fail .keyPlace
  else do
    let layout :=
      layout.openBlock layout.position.column none .blockMappingStart layout.position
    let layout ← layout.dropKey
    return { layout with keyAllowed := !layout.inFlow }.emitMark .key 1

/-- Take the colon in front of a value.  A possible key now is one. -/
def takeValue (layout : Layout) : Except Fault Layout :=
  match layout.key with
  | some key =>
      let marked := layout.insertBefore key.number .key key.position
      let opened :=
        marked.openBlock key.position.column (some key.number) .blockMappingStart key.position
      .ok ({ opened with key := none, keyAllowed := false }.emitMark .value 1)
  | none =>
      if !layout.inFlow && !layout.keyAllowed then layout.fail .valuePlace
      else
        let opened :=
          layout.openBlock layout.position.column none .blockMappingStart layout.position
        .ok ({ opened with keyAllowed := !layout.inFlow }.emitMark .value 1)

/-- Take a token at which a key may begin. -/
def takeContent (layout : Layout) (scan : Scan Token) : Except Fault Layout := do
  let layout ← layout.noteKey
  let (token, cursor) ← scan layout.cursor
  return { layout with cursor, keyAllowed := false }.emit token

def takeBlockScalar (layout : Layout) (literal : Bool) : Except Fault Layout := do
  let layout ← layout.dropKey
  let (token, cursor) ← Block.scan literal layout.indent layout.cursor
  return { layout with cursor, keyAllowed := true }.emit token

/-- Take a plain scalar.  Behind one that ends at the start of a line a key may begin. -/
def takePlain (layout : Layout) : Except Fault Layout := do
  let layout ← layout.noteKey
  let ((token, broken), cursor) ←
    Plain.scan ⟨layout.inFlow, layout.indent + 1⟩ layout.cursor
  return { layout with cursor, keyAllowed := broken }.emit token

/-- The characters that no plain scalar begins with. -/
def indicators : List Char := "-?:,[]\x7b\x7d#&*!|>'\"%@\x60".toList

/-- Whether a plain scalar begins with a character, given the one behind it. -/
def startsPlain (inFlow : Bool) (c : Char) (next : Option Char) : Bool :=
  !indicators.contains c && !isGap (some c) ||
    c = '-' && !(next.map isBlank).getD false ||
    !inFlow && (c = '?' || c = ':') && !isGap next

def takeToken (layout : Layout) : Except Fault Layout :=
  match layout.cursor.rest with
  | [] => layout.takeEnd
  | c :: rest =>
      let atLineStart : Bool := layout.position.column = 0
      let alone := layout.inFlow || isGap rest.head?
      if atLineStart && c = '%' then layout.takeDirective
      else if layout.cursor.atDocumentMark then
        layout.takeDocumentMark (if c = '-' then .documentStart else .documentEnd)
      else if c = '[' then layout.takeFlowStart .flowSequenceStart
      else if c = '\x7b' then layout.takeFlowStart .flowMappingStart
      else if c = ']' then layout.takeFlowEnd .flowSequenceEnd
      else if c = '\x7d' then layout.takeFlowEnd .flowMappingEnd
      else if c = ',' then layout.takeFlowEntry
      else if c = '-' && isGap rest.head? then layout.takeBlockEntry
      else if c = '?' && alone then layout.takeKey
      else if c = ':' && alone then layout.takeValue
      else if c = '*' then layout.takeContent (Property.name false)
      else if c = '&' then layout.takeContent (Property.name true)
      else if c = '!' then layout.takeContent (Property.tag layout.inFlow)
      else if c = '|' && !layout.inFlow then layout.takeBlockScalar true
      else if c = '>' && !layout.inFlow then layout.takeBlockScalar false
      else if c = '\'' then layout.takeContent (Quoted.scan true)
      else if c = '"' then layout.takeContent (Quoted.scan false)
      else if startsPlain layout.inFlow c rest.head? then layout.takePlain
      else layout.cursor.fail .nextToken layout.position .tokenStart

/-- Read up to the next token and take it. -/
def step (layout : Layout) : Except Fault Layout := do
  let layout ← (layout.skipToToken (layout.cursor.rest.length + 1)).refreshKeys
  (layout.closeBlocks layout.position.column).takeToken

/-- Whether the next token in the queue may turn out to be a key. -/
def isBlocked (layout : Layout) : Bool :=
  (layout.key :: layout.outerKeys).any fun key =>
    (key.map (decide <| ·.number = layout.delivered)).getD false

def tokens (fuel : Nat) (layout : Layout) : Tokens :=
  match fuel with
  | 0 => .finished ⟨.streamEnd, layout.position, layout.position⟩
  | fuel + 1 =>
      match if layout.queue.isEmpty then .ok layout else layout.refreshKeys with
      | .error fault => .failed fault
      | .ok layout =>
          match layout.queue, layout.isBlocked with
          | token :: queue, false =>
              if token.kind = .streamEnd then .finished token
              else
                .more token (tokens fuel { layout with queue, delivered := layout.delivered + 1 })
          | _, _ =>
              match layout.step with
              | .error fault => .failed fault
              | .ok layout => tokens fuel layout

end Layout

namespace Tokens

/-- Whether a character may stand in a YAML text. -/
def isAllowed (c : Char) : Bool :=
  c = '\t' || c = '\n' || c = '\r' || ' ' ≤ c && c ≤ '~' || c = '\u0085' ||
    '\u00a0' ≤ c && c ≤ '\uFFFD' || 0xFFFF < c.toNat

/-- The number of bytes in front of the first character that may not stand in a YAML
text, if there is one. -/
def forbidden? (offset : Nat) : List Char → Option Nat
  | [] => none
  | c :: rest => if isAllowed c then forbidden? (offset + c.utf8Size) rest else some offset

def ofText (text : String) : Tokens :=
  match forbidden? 0 text.toList with
  | some offset => .failed (.control offset)
  | none => (Layout.ofText text).tokens (8 * (text.length + 4))

end Tokens

end Dtdl.Yaml
