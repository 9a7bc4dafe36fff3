import Dtdl.Yaml.Token

/-!
# The nodes of a YAML text in order

A document is told as a list of events: a scalar or a reference is one event, and a
collection is a start event, the events of its items and an end event.  Keys and values
of a mapping alternate.
-/

namespace Dtdl.Yaml

/-- A part of a document. -/
inductive Event where
  | documentStart
  | documentEnd
  | reference (name : String)
  | scalar (anchor tag : Option String) (text : String) (style : Style)
  | sequenceStart (anchor : Option String)
  | sequenceEnd
  | mappingStart (anchor : Option String)
  | mappingEnd
  deriving DecidableEq, Repr

/-- The events of a text with the places where they begin; they end with the text, or
with a fault. -/
inductive Events where
  | finished (position : Position)
  | failed (fault : Fault)
  | more (event : Event) (position : Position) (rest : Events)
  deriving DecidableEq, Repr

/-- What is expected next. -/
inductive Expecting where
  | documentStart (implicit : Bool)
  | documentContent
  | documentEnd
  | blockNode
  | blockSequenceEntry (first : Bool)
  | bareSequenceEntry
  | blockMappingKey (first : Bool)
  | blockMappingValue
  | flowSequenceEntry (first : Bool)
  | pairKey
  | pairValue
  | pairEnd
  | flowMappingKey (first : Bool)
  | flowMappingValue
  | flowMappingNoValue
  deriving DecidableEq, Repr

/-- The state of reading events. -/
structure Outline where
  tokens : Tokens
  expecting : Expecting
  /-- What is expected behind the node that is being read, innermost first. -/
  pending : List Expecting
  /-- The starts of the open collections, innermost first. -/
  starts : List Position
  /-- The handles of tags and what they stand for. -/
  handles : List (String × String)

namespace Outline

/-- An event, the place where it begins, and the state behind it. -/
abbrev Step := Except Fault (Event × Position × Outline)

/-- Fail at a token, outside of any larger part. -/
def fail {Result : Type} (token : Token) (problem : Problem) : Except Fault Result :=
  .error (.syntactic problem token.start none)

/-- Fail at a token in the innermost open collection. -/
def failIn {Result : Type} (outline : Outline) (part : Part) (token : Token)
    (problem : Problem) : Except Fault Result :=
  .error (.within part (outline.starts.headD .start) problem token.start)

def skip (outline : Outline) : Outline := { outline with tokens := outline.tokens.skip }

/-- Go on with what is expected behind the node that has been read. -/
def resume (outline : Outline) : Outline :=
  match outline.pending with
  | [] => { outline with expecting := .documentEnd }
  | expecting :: pending => { outline with expecting, pending }

/-- Go on with what is expected behind the innermost open collection. -/
def leave (outline : Outline) : Outline := { outline.resume with starts := outline.starts.tail }

/-- Go into a collection: note its start and go past its opening token. -/
def enter (outline : Outline) (first : Bool) : Except Fault Outline := do
  if first then
    let token ← outline.tokens.peek
    return { outline.skip with starts := token.start :: outline.starts }
  else return outline

/-- The scalar that stands where nothing is written. -/
def emptyScalar (outline : Outline) (position : Position) (expecting : Expecting) : Step :=
  .ok (.scalar none none "" .plain, position, { outline with expecting })

/-- What is written in front of a node. -/
structure Properties where
  anchor : Option String
  tag : Option (String × String × Position)
  start : Position

/-- Read the anchor and the tag of a node, in either order. -/
def properties (outline : Outline) : Except Fault (Properties × Outline) := do
  let token ← outline.tokens.peek
  let bare : Properties := ⟨none, none, token.start⟩
  match token.kind with
  | .anchor name =>
      let next ← outline.skip.tokens.peek
      match next.kind with
      | .tag handle suffix =>
          return (⟨some name, some (handle, suffix, next.start), token.start⟩, outline.skip.skip)
      | _ => return (⟨some name, none, token.start⟩, outline.skip)
  | .tag handle suffix =>
      let tag := some (handle, suffix, token.start)
      let next ← outline.skip.tokens.peek
      match next.kind with
      | .anchor name => return (⟨some name, tag, token.start⟩, outline.skip.skip)
      | _ => return (⟨none, tag, token.start⟩, outline.skip)
  | _ => return (bare, outline)

def fullTag (outline : Outline) (properties : Properties) : Except Fault (Option String) :=
  match properties.tag with
  | none => .ok none
  | some (handle, suffix, position) =>
      if handle.isEmpty then .ok (some suffix)
      else
        match outline.handles.find? (·.1 = handle) with
        | some (_, lead) => .ok (some (lead ++ suffix))
        | none => .error (.within .node properties.start .handleUnknown position)

/-- Read a node.  `inBlock` says whether it may be a block collection, and `mayBeBare`
whether it may be a block sequence that is not indented. -/
def node (outline : Outline) (inBlock mayBeBare : Bool) : Step := do
  let token ← outline.tokens.peek
  match token.kind with
  | .reference name => return (.reference name, token.start, outline.skip.resume)
  | _ =>
      let (properties, outline) ← outline.properties
      let tag ← outline.fullTag properties
      let token ← outline.tokens.peek
      let start := properties.start
      let anchor := properties.anchor
      let collection (event : Event) (expecting : Expecting) : Step :=
        .ok (event, start, { outline with expecting })
      match token.kind, mayBeBare, inBlock with
      | .blockEntry, true, _ => collection (.sequenceStart anchor) .bareSequenceEntry
      | .scalar text style, _, _ =>
          let tag := if tag = some "!" then none else tag
          return (.scalar anchor tag text style, start, outline.skip.resume)
      | .flowSequenceStart, _, _ => collection (.sequenceStart anchor) (.flowSequenceEntry true)
      | .flowMappingStart, _, _ => collection (.mappingStart anchor) (.flowMappingKey true)
      | .blockSequenceStart, _, true =>
          collection (.sequenceStart anchor) (.blockSequenceEntry true)
      | .blockMappingStart, _, true => collection (.mappingStart anchor) (.blockMappingKey true)
      | _, _, _ =>
          if anchor.isSome || tag.isSome then
            return (.scalar anchor tag "" .plain, start, outline.resume)
          else
            .error (.within (if inBlock then .blockNode else .flowNode) start .nodeContent
              token.start)

/-- Read a node and go on with something behind it. -/
def nodeThen (outline : Outline) (inBlock mayBeBare : Bool) (behind : Expecting) : Step :=
  { outline with pending := behind :: outline.pending }.node inBlock mayBeBare

/-! ## Documents -/

def commonHandles : List (String × String) := [("!", "!"), ("!!", "tag:yaml.org,2002:")]

/-- Read the directives in front of a document.  `version` says whether one has given
the version, which may only be done once. -/
def directives (outline : Outline) (fuel : Nat) (version : Bool) : Except Fault Outline :=
  match fuel with
  | 0 => .ok outline
  | fuel + 1 => do
      let token ← outline.tokens.peek
      match token.kind with
      | .versionDirective major minor =>
          if version then fail token .versionTwice
          else if major = 1 && (minor = 1 || minor = 2) then
            outline.skip.directives fuel true
          else fail token .versionUnknown
      | .tagDirective handle lead =>
          if outline.handles.any (·.1 = handle) then fail token .handleTwice
          else
            let declared := outline.handles ++ [(handle, lead)]
            directives { outline.skip with handles := declared } fuel version
      | _ =>
          let missing := commonHandles.filter fun common =>
            !outline.handles.any (·.1 = common.1)
          return { outline with handles := outline.handles ++ missing }

/-- Go past marks that end a document. -/
def skipDocumentEnds (outline : Outline) (fuel : Nat) : Except Fault Outline :=
  match fuel with
  | 0 => .ok outline
  | fuel + 1 => do
      let token ← outline.tokens.peek
      if token.kind = .documentEnd then outline.skip.skipDocumentEnds fuel else return outline

/-- Read the start of a document.  Only the first document of a text may go without a
mark.  Nothing is given at the end of the text. -/
def documentStart (outline : Outline) (implicit : Bool) :
    Except Fault (Option (Event × Position × Outline)) := do
  let outline ← if implicit then pure outline else outline.skipDocumentEnds outline.tokens.size
  let token ← outline.tokens.peek
  let isMarked :=
    match token.kind with
    | .versionDirective .. | .tagDirective .. | .documentStart => true
    | _ => false
  if token.kind = .streamEnd then return none
  else if implicit && !isMarked then
    let outline ← outline.directives 1 false
    return some (.documentStart, token.start,
      { outline with expecting := .blockNode, pending := .documentEnd :: outline.pending })
  else
    let outline ← outline.directives outline.tokens.size false
    let mark ← outline.tokens.peek
    if mark.kind = .documentStart then
      return some (.documentStart, token.start,
        { outline.skip with
          expecting := .documentContent
          pending := .documentEnd :: outline.pending })
    else fail mark .documentStart

/-- Read the content of a document that begins with a mark. -/
def documentContent (outline : Outline) : Step := do
  let token ← outline.tokens.peek
  match token.kind with
  | .versionDirective .. | .tagDirective .. | .documentStart | .documentEnd | .streamEnd =>
      return (.scalar none none "" .plain, token.start, outline.resume)
  | _ => outline.node true false

def documentEnd (outline : Outline) : Step := do
  let token ← outline.tokens.peek
  let outline := if token.kind = .documentEnd then outline.skip else outline
  return (.documentEnd, token.start,
    { outline with expecting := .documentStart false, handles := [] })

/-! ## Block collections -/

/-- Read an item of a block sequence, or its end. -/
def blockSequenceEntry (outline : Outline) (first : Bool) : Step := do
  let outline ← outline.enter first
  let token ← outline.tokens.peek
  match token.kind with
  | .blockEntry =>
      let outline := outline.skip
      let next ← outline.tokens.peek
      match next.kind with
      | .blockEntry | .blockEnd => outline.emptyScalar token.stop (.blockSequenceEntry false)
      | _ => outline.nodeThen true false (.blockSequenceEntry false)
  | .blockEnd => return (.sequenceEnd, token.start, outline.skip.leave)
  | _ => outline.failIn .blockSequence token .blockEntry

/-- Read an item of a block sequence that is not indented, or its end. -/
def bareSequenceEntry (outline : Outline) : Step := do
  let token ← outline.tokens.peek
  match token.kind with
  | .blockEntry =>
      let outline := outline.skip
      let next ← outline.tokens.peek
      match next.kind with
      | .blockEntry | .key | .value | .blockEnd =>
          outline.emptyScalar token.stop .bareSequenceEntry
      | _ => outline.nodeThen true false .bareSequenceEntry
  | _ => return (.sequenceEnd, token.start, outline.resume)

/-- Read a key or a value of a block mapping, behind the token that announces it. -/
def blockMappingPart (outline : Outline) (token : Token) (behind : Expecting) : Step := do
  let outline := outline.skip
  let next ← outline.tokens.peek
  match next.kind with
  | .key | .value | .blockEnd => outline.emptyScalar token.stop behind
  | _ => outline.nodeThen true true behind

/-- Read a key of a block mapping, or its end. -/
def blockMappingKey (outline : Outline) (first : Bool) : Step := do
  let outline ← outline.enter first
  let token ← outline.tokens.peek
  match token.kind with
  | .key => outline.blockMappingPart token .blockMappingValue
  | .blockEnd => return (.mappingEnd, token.start, outline.skip.leave)
  | _ => outline.failIn .blockMapping token .blockKey

def blockMappingValue (outline : Outline) : Step := do
  let token ← outline.tokens.peek
  match token.kind with
  | .value => outline.blockMappingPart token (.blockMappingKey false)
  | _ => outline.emptyScalar token.start (.blockMappingKey false)

/-! ## Flow collections -/

/-- Go past the comma in front of an item of a flow collection. -/
def separator (outline : Outline) (first : Bool) (part : Part) (problem : Problem) :
    Except Fault Outline := do
  let token ← outline.tokens.peek
  if first then return outline
  else if token.kind = .flowEntry then return outline.skip
  else outline.failIn part token problem

/-- Read an item of a flow sequence, or its end.  An item with a key is a mapping of
its own. -/
def flowSequenceEntry (outline : Outline) (first : Bool) : Step := do
  let outline ← outline.enter first
  let token ← outline.tokens.peek
  let finish (token : Token) (outline : Outline) : Step :=
    .ok (.sequenceEnd, token.start, outline.skip.leave)
  if token.kind = .flowSequenceEnd then finish token outline
  else
    let outline ← outline.separator first .flowSequence .flowSequenceEnd
    let token ← outline.tokens.peek
    match token.kind with
    | .key => return (.mappingStart none, token.start, { outline.skip with expecting := .pairKey })
    | .flowSequenceEnd => finish token outline
    | _ => outline.nodeThen false false (.flowSequenceEntry false)

/-- Read the key of a mapping that is an item of a flow sequence. -/
def pairKey (outline : Outline) : Step := do
  let token ← outline.tokens.peek
  match token.kind with
  | .value | .flowEntry | .flowSequenceEnd => outline.skip.emptyScalar token.stop .pairValue
  | _ => outline.nodeThen false false .pairValue

/-- Read the value of a mapping that is an item of a flow sequence. -/
def pairValue (outline : Outline) : Step := do
  let token ← outline.tokens.peek
  match token.kind with
  | .value =>
      let outline := outline.skip
      let next ← outline.tokens.peek
      match next.kind with
      | .flowEntry | .flowSequenceEnd => outline.emptyScalar next.start .pairEnd
      | _ => outline.nodeThen false false .pairEnd
  | _ => outline.emptyScalar token.start .pairEnd

/-- End a mapping that is an item of a flow sequence. -/
def pairEnd (outline : Outline) : Step := do
  let token ← outline.tokens.peek
  return (.mappingEnd, token.start, { outline with expecting := .flowSequenceEntry false })

/-- Read a key of a flow mapping, or its end. -/
def flowMappingKey (outline : Outline) (first : Bool) : Step := do
  let outline ← outline.enter first
  let token ← outline.tokens.peek
  let finish (token : Token) (outline : Outline) : Step :=
    .ok (.mappingEnd, token.start, outline.skip.leave)
  if token.kind = .flowMappingEnd then finish token outline
  else
    let outline ← outline.separator first .flowMapping .flowMappingEnd
    let token ← outline.tokens.peek
    match token.kind with
    | .key =>
        let outline := outline.skip
        let next ← outline.tokens.peek
        match next.kind with
        | .value | .flowEntry | .flowMappingEnd =>
            outline.emptyScalar next.start .flowMappingValue
        | _ => outline.nodeThen false false .flowMappingValue
    | .flowMappingEnd => finish token outline
    | _ => outline.nodeThen false false .flowMappingNoValue

def flowMappingValue (outline : Outline) : Step := do
  let token ← outline.tokens.peek
  match token.kind with
  | .value =>
      let outline := outline.skip
      let next ← outline.tokens.peek
      match next.kind with
      | .flowEntry | .flowMappingEnd => outline.emptyScalar next.start (.flowMappingKey false)
      | _ => outline.nodeThen false false (.flowMappingKey false)
  | _ => outline.emptyScalar token.start (.flowMappingKey false)

/-- Read what is expected.  Nothing is given at the end of the text. -/
def step (outline : Outline) : Except Fault (Option (Event × Position × Outline)) :=
  match outline.expecting with
  | .documentStart implicit => outline.documentStart implicit
  | .documentContent => some <$> outline.documentContent
  | .documentEnd => some <$> outline.documentEnd
  | .blockNode => some <$> outline.node true false
  | .blockSequenceEntry first => some <$> outline.blockSequenceEntry first
  | .bareSequenceEntry => some <$> outline.bareSequenceEntry
  | .blockMappingKey first => some <$> outline.blockMappingKey first
  | .blockMappingValue => some <$> outline.blockMappingValue
  | .flowSequenceEntry first => some <$> outline.flowSequenceEntry first
  | .pairKey => some <$> outline.pairKey
  | .pairValue => some <$> outline.pairValue
  | .pairEnd => some <$> outline.pairEnd
  | .flowMappingKey first => some <$> outline.flowMappingKey first
  | .flowMappingValue => some <$> outline.flowMappingValue
  | .flowMappingNoValue => some <$> do
      let token ← outline.tokens.peek
      outline.emptyScalar token.start (.flowMappingKey false)

def events (fuel : Nat) (outline : Outline) : Events :=
  match fuel with
  | 0 => .finished .start
  | fuel + 1 =>
      match outline.step with
      | .error fault => .failed fault
      | .ok none =>
          match outline.tokens.peek with
          | .ok token => .finished token.start
          | .error fault => .failed fault
      | .ok (some (event, position, outline)) => .more event position (events fuel outline)

end Outline

/-- The events of a text that has been cut into tokens.  There are at most four of them
to a token. -/
def Events.ofTokens (tokens : Tokens) : Events :=
  Outline.events (4 * tokens.size + 8)
    { tokens, expecting := .documentStart true, pending := [], starts := [], handles := [] }

end Dtdl.Yaml
