import Dtdl.Scope
import Dtdl.Url.Parse
import Dtdl.Vocabulary

/-!
# Resolved contexts

A resolved context answers what a name means for an element.  The local scope is asked
first, then the affiliates from the last one to the first, then the language.
-/

namespace Dtdl.Context

/-- An extension context that an element refers to. -/
structure Affiliate where
  name : String
  vocabulary : Vocabulary
  deriving DecidableEq

/-- The specifier under which an affiliate is reported: its name and its version. -/
def Affiliate.specifier (affiliate : Affiliate) : String :=
  affiliate.name ++ ";" ++ affiliate.vocabulary.version.text

/-- Everything that the `@context` of an element stands for. -/
structure Resolved where
  language : Vocabulary
  affiliates : List Affiliate
  scope : Scope
  deriving DecidableEq

namespace Resolved

/-- The vocabularies that are asked when the scope does not know a name, in order. -/
def vocabularies (context : Resolved) : List Vocabulary :=
  context.affiliates.reverse.map (·.vocabulary) ++ [context.language]

/-- The expansion of a prefix.  A name that is declared to mean nothing has none. -/
def expansion? (context : Resolved) (name : String) : Option String :=
  if context.scope.undefined.contains name then none
  else
    match context.scope.prefixes.get? name with
    | some expansion => some expansion
    | none => context.vocabularies.findSome? (·.expansion? name)

/-- An identifier or a URL stands for itself. -/
def absolute? (name : String) : Option String :=
  if Text.startsWith name Dtmi.lead || (Url.parse name).isOk then some name else none

/-- The identifier that a term or compact identifier stands for.  A name with a colon
is a prefix and a suffix if the prefix is known; otherwise it has to be an identifier
or a URL, which stands for itself. -/
def expand? (context : Resolved) (name : String) : Option String :=
  if context.scope.undefined.contains name then none
  else
    match context.scope.terms.get? name with
    | some identifier => some identifier.text
    | none =>
        match Text.cut ':' name.toList with
        | (lead, some rest) =>
            match context.expansion? (String.ofList lead) with
            | some expansion => some (expansion ++ String.ofList rest)
            | none => absolute? name
        | (_, none) =>
            (context.vocabularies.findSome? (·.term? name)).map Identifier.text

end Resolved

end Dtdl.Context
