import Dtdl.Text

/-!
# Patterns for paths

In a pattern a question mark stands for any character, a star for any run of them, and
brackets for one character of a class, or of none of it behind an exclamation mark.  Two
stars that make up a whole component stand for any number of directories.  All else
stands for itself; case counts.
-/

namespace Dtdl.Glob

inductive Token where
  | exactly (c : Char)
  | any
  | anyRun
  | anyDirectories
  | oneOf (ranges : List (Char × Char))
  | noneOf (ranges : List (Char × Char))
  deriving DecidableEq, Repr

/-- What is wrong with a pattern. -/
inductive Problem where
  | tooManyStars
  | starsInComponent
  | openClass
  deriving DecidableEq, Repr

/-- What is wrong with a pattern, and the number of characters in front of it. -/
structure Fault where
  problem : Problem
  position : Nat
  deriving DecidableEq, Repr

def Problem.message : Problem → String
  | tooManyStars => "wildcards are either regular `*` or recursive `**`"
  | starsInComponent => "recursive wildcards must form a single path component"
  | openClass => "invalid range pattern"

def Fault.message (fault : Fault) : String :=
  s!"Pattern syntax error near position {fault.position}: {fault.problem.message}"

/-- The ranges of a class; a single character is a range of its own. -/
def ranges : List Char → List (Char × Char)
  | first :: '-' :: last :: rest => (first, last) :: ranges rest
  | c :: rest => (c, c) :: ranges rest
  | [] => []

/-- The class that follows an opening bracket, and what follows its closing one.  A
closing bracket at the front belongs to the class. -/
def class? (text : List Char) : Option (Token × List Char) :=
  let (excludes, body) :=
    match text with
    | '!' :: rest => (true, rest)
    | rest => (false, rest)
  match body with
  | [] => none
  | first :: rest =>
      match Text.cut ']' rest with
      | (_, none) => none
      | (others, some behind) =>
          let ranges := ranges (first :: others)
          some (if excludes then .noneOf ranges else .oneOf ranges, behind)

/-- Read a pattern from a position on.  `before` is the character in front of it. -/
def tokensFrom (fuel position : Nat) (before : Option Char) (text : List Char) :
    Except Fault (List Token) :=
  match fuel, text with
  | 0, _ | _, [] => .ok []
  | fuel + 1, '?' :: rest => do
      return .any :: (← tokensFrom fuel (position + 1) (some '?') rest)
  | fuel + 1, '*' :: rest =>
      let count := (rest.takeWhile (· = '*')).length + 1
      let behind := rest.dropWhile (· = '*')
      if 2 < count then .error ⟨.tooManyStars, position + 2⟩
      else if count = 1 then do
        return .anyRun :: (← tokensFrom fuel (position + 1) (some '*') behind)
      else if before.isSome && before ≠ some '/' then
        .error ⟨.starsInComponent, position - 1⟩
      else
        match behind with
        | [] => .ok [.anyDirectories]
        | '/' :: behind => do
            return .anyDirectories :: (← tokensFrom fuel (position + 3) (some '/') behind)
        | _ => .error ⟨.starsInComponent, position + 2⟩
  | fuel + 1, '[' :: rest =>
      match class? rest with
      | some (token, behind) => do
          let width := rest.length - behind.length + 1
          return token :: (← tokensFrom fuel (position + width) (some ']') behind)
      | none => .error ⟨.openClass, position⟩
  | fuel + 1, c :: rest => do
      return .exactly c :: (← tokensFrom fuel (position + 1) (some c) rest)

def tokens (text : List Char) : Except Fault (List Token) :=
  tokensFrom (text.length + 1) 0 none text

/-- Whether a character lies in one of some ranges. -/
def isWithin (ranges : List (Char × Char)) (c : Char) : Bool :=
  ranges.any fun range => range.1 ≤ c && c ≤ range.2

def Token.accepts : Token → Char → Bool
  | exactly d, c => c = d
  | oneOf ranges, c => isWithin ranges c
  | noneOf ranges, c => !isWithin ranges c
  | any, _ | anyRun, _ | anyDirectories, _ => true

/-- The character that a token stands for, if it is only one. -/
def Token.character? : Token → Option Char
  | exactly c => some c
  | _ => none

/-- Whether some end of a text has a property. -/
def anyTail (holds : List Char → Bool) : List Char → Bool
  | [] => holds []
  | c :: rest => holds (c :: rest) || anyTail holds rest

def matchesName : List Token → List Char → Bool
  | [], name => name.isEmpty
  | .anyRun :: tokens, name | .anyDirectories :: tokens, name =>
      anyTail (matchesName tokens) name
  | token :: tokens, c :: name => token.accepts c && matchesName tokens name
  | _ :: _, [] => false

/-- A component of a pattern, which stands for one component of a path or, if it
consists of two stars, for any number of directories. -/
structure Component where
  tokens : List Token
  deriving DecidableEq, Repr

namespace Component

/-- Whether a component stands for any number of directories. -/
def isRecursive (component : Component) : Bool := component.tokens.contains .anyDirectories

/-- The text that a component stands for, if it is only one. -/
def literal? (component : Component) : Option String :=
  (component.tokens.mapM Token.character?).map String.ofList

def accepts (component : Component) (name : String) : Bool :=
  matchesName component.tokens name.toList

end Component

structure Pattern where
  isAbsolute : Bool
  components : List Component
  /-- Whether the pattern ends in a slash, so that only directories match it. -/
  onlyDirectories : Bool
  deriving DecidableEq, Repr

/-- Read a pattern.  It is checked as a whole first and then component by component,
because a class may hold a slash in the whole but not in a component. -/
def parse (text : String) : Except Fault Pattern := do
  let characters := text.toList
  let _ ← tokens characters
  let isAbsolute : Bool := characters.head? = some '/'
  let parts := Text.pieces '/' (if isAbsolute then characters.drop 1 else characters)
  let parts := if parts.getLast? = some [] then parts.dropLast else parts
  let components ← parts.mapM fun part => return Component.mk (← tokens part)
  let components := if text = "/" then [Component.mk []] else components
  return ⟨isAbsolute, components, characters.getLast? = some '/'⟩

end Dtdl.Glob
