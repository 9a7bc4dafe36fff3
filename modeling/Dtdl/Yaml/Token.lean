import Dtdl.Yaml.Cursor

/-!
# Tokens of a YAML text

Indentation is told by tokens of its own: a block collection begins with a start token
and ends with `blockEnd`.
-/

namespace Dtdl.Yaml

inductive Style where
  | plain
  | singleQuoted
  | doubleQuoted
  | literal
  | folded
  deriving DecidableEq, Repr

inductive Token.Kind where
  | streamEnd
  | versionDirective (major minor : Nat)
  | tagDirective (handle lead : String)
  | documentStart
  | documentEnd
  | blockSequenceStart
  | blockMappingStart
  | blockEnd
  | flowSequenceStart
  | flowSequenceEnd
  | flowMappingStart
  | flowMappingEnd
  | blockEntry
  | flowEntry
  | key
  | value
  | reference (name : String)
  | anchor (name : String)
  | tag (handle suffix : String)
  | scalar (text : String) (style : Style)
  deriving DecidableEq, Repr

/-- A token and the places where it begins and ends. -/
structure Token where
  kind : Token.Kind
  start : Position
  stop : Position
  deriving DecidableEq, Repr

/-- The tokens of a text: they end with its end, or with a fault. -/
inductive Tokens where
  | finished (token : Token)
  | failed (fault : Fault)
  | more (token : Token) (rest : Tokens)
  deriving DecidableEq, Repr

namespace Tokens

def peek : Tokens → Except Fault Token
  | finished token => .ok token
  | failed fault => .error fault
  | more token _ => .ok token

/-- The tokens behind the next one; the last token is never left behind. -/
def skip : Tokens → Tokens
  | more _ rest => rest
  | tokens => tokens

def size : Tokens → Nat
  | finished _ | failed _ => 1
  | more _ rest => rest.size + 1

end Tokens

end Dtdl.Yaml
