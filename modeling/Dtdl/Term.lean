import Dtdl.Dtmi.Reference
import Dtdl.Outcome
import Dtdl.Problem
import Dtdl.Scope
import Dtdl.Url.Parse
import Dtdl.Vocabulary.History

/-!
# Declared terms

A declaration gives a name and a definition.  The name is checked against the grammar
of terms and against the names of the language.  The text of the definition decides
what the name stands for: a prefix if it ends in a colon or a slash, an identifier if
it is written as one, a URL otherwise, and nothing at all if there is no text.
-/

namespace Dtdl.Term

/-- Whether a character may stand in a term. -/
def isTermChar (c : Char) : Bool := c.isAlphanum || c = '_' || c = '.' || c = '-' || c = '@'

/-- Whether a name has the form of a term: it is not empty, and it does not begin with
an at sign. -/
def isWellFormed (name : String) : Bool :=
  name.toList.all isTermChar && name.toList.head?.any (· ≠ '@')

/-- Everything that is wrong with a name.  The empty name is not looked at further. -/
def nameProblems (name : String) (language : History) : List TermProblem :=
  if name = "" then [.emptyName]
  else
    (if name = Dtmi.scheme then [.schemeName name] else []) ++
      (if isWellFormed name then [] else [.malformedName name]) ++
      (if language.isTermReserved name then [.reservedName name] else [])

def checkName (name : String) (owner : Owner) (language : History) : Outcome Problem Unit :=
  Outcome.check ((nameProblems name language).map (.declaration owner))

/-- What a declared name stands for. -/
inductive Meaning where
  | identifier (identifier : Identifier)
  | expansion (text : String)
  | nothing
  deriving DecidableEq, Repr

/-- Whether a definition is that of a prefix. -/
def isExpansion (definition : String) : Bool :=
  definition.toList.getLast?.any fun c => c = ':' || c = '/'

/-- What a definition stands for in a version of the language. -/
def meaningUnder (validator : Dtmi.Validator) (name : String) (definition : Option String)
    (language : Nat) (owner : Owner) : Outcome Problem Meaning :=
  match definition with
  | none => .succeed .nothing
  | some definition =>
      if isExpansion definition then .succeed (.expansion definition)
      else if Text.startsWith definition Dtmi.lead then
        match validator.parse? definition with
        | some dtmi =>
            if validator.accepts language definition then
              .succeed (.identifier (.dtmi dtmi))
            else .refuse (.declaration owner (.illegalReference name definition language))
        | none => .refuse (.declaration owner (.illegalReference name definition language))
      else
        match Url.parse definition with
        | .ok url => .succeed (.identifier (.url url))
        | .error fault => .refuse (.declaration owner (.notAbsolute name definition fault))

/-- What a definition stands for under the rules of a resolver. -/
def meaning (name : String) (definition : Option String) (language : Nat) (owner : Owner)
    (rules : Dtmi.Rules) : Outcome Problem Meaning :=
  meaningUnder rules.validator name definition language owner

/-- Declare a name in a scope, in place of whatever the name was declared to be. -/
def declare (scope : Scope) (name : String) (meaning : Meaning) : Scope :=
  let others := scope.erase name
  match meaning with
  | .identifier identifier => { others with terms := others.terms.insert name identifier }
  | .expansion text => { others with prefixes := others.prefixes.insert name text }
  | .nothing => { others with undefined := others.undefined ++ [name] }

/-! ## Blocks -/

def resolveDeclaration (validator : Dtmi.Validator) (known : History) (language : Nat)
    (owner : Owner) (declaration : String × Option String) :
    Outcome Problem (String × Meaning) := do
  checkName declaration.1 owner known
  let meaning ← meaningUnder validator declaration.1 declaration.2 language owner
  return (declaration.1, meaning)

/-- Layer a block over a scope.  A declared name replaces whatever the scope knew under
that name. -/
def layer (validator : Dtmi.Validator) (known : History) (block : Table (Option String))
    (parent : Scope) (language : Nat) (owner : Owner) : Outcome Problem Scope := do
  let meanings ←
    Outcome.all (block.entries.map (resolveDeclaration validator known language owner))
  return meanings.foldl (fun scope named => declare scope named.1 named.2) parent

end Dtdl.Term
