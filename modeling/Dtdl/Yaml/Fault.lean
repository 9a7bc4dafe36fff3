/-!
# What is wrong with a YAML text

A fault names its cause, the place where it shows, and often the larger part of the
text that was being read, with the place where that part begins.
-/

namespace Dtdl.Yaml

/-- A place in a text; characters, lines and columns are counted from 0. -/
structure Position where
  index : Nat
  line : Nat
  column : Nat
  deriving DecidableEq, Repr

namespace Position

def start : Position := ⟨0, 0, 0⟩

/-- The clause that names a place.  The start of a text goes without one. -/
def clause (position : Position) : String :=
  if position.line = 0 && position.column = 0 then ""
  else s!" at line {position.line + 1} column {position.column + 1}"

end Position

/-- Why a text cannot be read on. -/
inductive Problem where
  | tokenStart
  | missingColon
  | blockEntryPlace
  | keyPlace
  | valuePlace
  | directiveName
  | directiveNameMissing
  | directiveNameEnd
  | directiveEnd
  | versionPoint
  | versionMissing
  | versionLength
  | handleBang
  | handleEnd
  | tagLeadEnd
  | anchorName
  | tagClose
  | tagEnd
  | tagMissing
  | tagEscape
  | tagLeadingOctet
  | tagTrailingOctet
  | indentZero
  | blockHeaderEnd
  | blockTab
  | documentMark
  | scalarEnd
  | escapeName
  | escapeDigits
  | escapeValue
  | strayColon
  | plainTab
  | documentStart
  | versionTwice
  | versionUnknown
  | handleTwice
  | handleUnknown
  | nodeContent
  | blockEntry
  | blockKey
  | flowSequenceEnd
  | flowMappingEnd
  deriving DecidableEq, Repr

def Problem.message : Problem → String
  | tokenStart => "found character that cannot start any token"
  | missingColon => "could not find expected ':'"
  | blockEntryPlace => "block sequence entries are not allowed in this context"
  | keyPlace => "mapping keys are not allowed in this context"
  | valuePlace => "mapping values are not allowed in this context"
  | directiveName => "found unknown directive name"
  | directiveNameMissing => "could not find expected directive name"
  | directiveNameEnd => "found unexpected non-alphabetical character"
  | directiveEnd | blockHeaderEnd => "did not find expected comment or line break"
  | versionPoint => "did not find expected digit or '.' character"
  | versionMissing => "did not find expected version number"
  | versionLength => "found extremely long version number"
  | handleBang => "did not find expected '!'"
  | handleEnd => "did not find expected whitespace"
  | tagLeadEnd | tagEnd => "did not find expected whitespace or line break"
  | anchorName => "did not find expected alphabetic or numeric character"
  | tagClose => "did not find the expected '>'"
  | tagMissing => "did not find expected tag URI"
  | tagEscape => "did not find URI escaped octet"
  | tagLeadingOctet => "found an incorrect leading UTF-8 octet"
  | tagTrailingOctet => "found an incorrect trailing UTF-8 octet"
  | indentZero => "found an indentation indicator equal to 0"
  | blockTab => "found a tab character where an indentation space is expected"
  | documentMark => "found unexpected document indicator"
  | scalarEnd => "found unexpected end of stream"
  | escapeName => "found unknown escape character"
  | escapeDigits => "did not find expected hexdecimal number"
  | escapeValue => "found invalid Unicode character escape code"
  | strayColon => "found unexpected ':'"
  | plainTab => "found a tab character that violates indentation"
  | documentStart => "did not find expected <document start>"
  | versionTwice => "found duplicate %YAML directive"
  | versionUnknown => "found incompatible YAML document"
  | handleTwice => "found duplicate %TAG directive"
  | handleUnknown => "found undefined tag handle"
  | nodeContent => "did not find expected node content"
  | blockEntry => "did not find expected '-' indicator"
  | blockKey => "did not find expected key"
  | flowSequenceEnd => "did not find expected ',' or ']'"
  | flowMappingEnd => "did not find expected ',' or '\x7d'"

/-- The larger part of a text that is being read. -/
inductive Part where
  | nextToken
  | simpleKey
  | directive
  | versionDirective
  | tagDirective
  | tagDirectiveHandle
  | tagDirectiveHandleEnd
  | tagDirectiveLead
  | anchor
  | reference
  | tag
  | tagSuffix
  | blockScalar
  | quotedScalar
  | quotedEscape
  | plainScalar
  | node
  | blockNode
  | flowNode
  | blockSequence
  | blockMapping
  | flowSequence
  | flowMapping
  deriving DecidableEq, Repr

def Part.text : Part → String
  | nextToken => "while scanning for the next token"
  | simpleKey => "while scanning a simple key"
  | directive => "while scanning a directive"
  | versionDirective => "while scanning a %YAML directive"
  | tagDirective => "while scanning a %TAG directive"
  | tagDirectiveHandle => "while scanning a tag directive"
  | tagDirectiveHandleEnd => "while parsing a tag directive"
  | tagDirectiveLead => "while parsing a %TAG directive"
  | anchor => "while scanning an anchor"
  | reference => "while scanning an alias"
  | tag => "while scanning a tag"
  | tagSuffix => "while parsing a tag"
  | blockScalar => "while scanning a block scalar"
  | quotedScalar => "while scanning a quoted scalar"
  | quotedEscape => "while parsing a quoted scalar"
  | plainScalar => "while scanning a plain scalar"
  | node => "while parsing a node"
  | blockNode => "while parsing a block node"
  | flowNode => "while parsing a flow node"
  | blockSequence => "while parsing a block collection"
  | blockMapping => "while parsing a block mapping"
  | flowSequence => "while parsing a flow sequence"
  | flowMapping => "while parsing a flow mapping"

/-- What is wrong with a YAML text. -/
inductive Fault where
  /-- A control character, which may stand nowhere, this many bytes into the text. -/
  | control (offset : Nat)
  | syntactic (problem : Problem) (position : Position) (part : Option (Part × Position))
  deriving DecidableEq, Repr

namespace Fault

/-- A fault met while a part is read. -/
def within (part : Part) (start : Position) (problem : Problem) (position : Position) : Fault :=
  .syntactic problem position (some (part, start))

/-- The wording of a fault.  The start of the part is named only where it is not the
place of the fault itself. -/
def message : Fault → String
  | control offset =>
      "control characters are not allowed" ++
        (if offset = 0 then "" else s!" at position {offset}")
  | syntactic problem position part =>
      let context :=
        match part with
        | none => ""
        | some (part, start) =>
            let sameLine := start.line = position.line && start.column = position.column
            ", " ++ part.text ++ (if sameLine then "" else start.clause)
      problem.message ++ position.clause ++ context

end Fault

end Dtdl.Yaml
