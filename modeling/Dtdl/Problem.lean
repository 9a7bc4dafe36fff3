import Dtdl.Diagnostic
import Dtdl.Json.Writer
import Dtdl.Version
import Dtdl.Url.Host

/-!
# Problems

A problem is the cause of a diagnostic: which rule a specifier, a declaration or an
element breaks, with the values that break it.  `Problem.diagnostic` gives the kind,
the sentence and the attributes under which it is reported.
-/

namespace Dtdl

/-- The block that declares a term: the local context of an element, or the context
that an extension consists of. -/
inductive Owner where
  | element
  | extension
  deriving DecidableEq, Repr

/-- What a declaring block is called. -/
def Owner.description : Owner → String
  | element => "local context"
  | extension => "extension context"

/-- What may be wrong with one declared term. -/
inductive TermProblem where
  /-- The name is empty. -/
  | emptyName
  /-- The name is the scheme word of identifiers. -/
  | schemeName (term : String)
  /-- The name holds a character that no term may hold. -/
  | malformedName (term : String)
  /-- The language defines the name. -/
  | reservedName (term : String)
  /-- The definition is written as an identifier but is no legal reference. -/
  | illegalReference (term definition : String) (language : Nat)
  /-- The definition is not an absolute URL. -/
  | notAbsolute (term definition : String) (fault : Url.Fault)
  deriving DecidableEq, Repr

/-- The cause of a diagnostic. -/
inductive Problem where
  /-- A context specifier has a fragment. -/
  | fragment (specifier : String)
  /-- A context specifier is not an identifier. -/
  | malformedSpecifier (specifier : String)
  /-- A context specifier is not legal in a version of the language. -/
  | illegalSpecifier (specifier : String) (language : Nat)
  /-- A language specifier has no version. -/
  | unversionedLanguage (specifier : String)
  /-- The specifier of an affiliate has no version. -/
  | unversionedAffiliate (specifier : String)
  /-- A declared extension has no version. -/
  | unversionedExtension (specifier : String)
  /-- There is no such version of the language. -/
  | unknownLanguage (specifier : String) (major : Nat) (available : List Version)
  /-- A version of the language lies above the permitted maximum. -/
  | languageTooNew (specifier : String) (major maximum : Nat)
  /-- A local block is followed by further entries. -/
  | blockNotLast (index : Nat)
  /-- The language is not the first entry. -/
  | languageNotFirst (specifier : String) (index : Nat)
  /-- A context specifier is not written as an identifier. -/
  | notIdentifier (specifier : String)
  /-- No context has the name. -/
  | unknownContext (specifier : String)
  /-- A context has no such version. -/
  | unknownContextVersion
      (specifier name : String) (version : Version) (available : List Version)
  /-- A declared extension has a name that documents must not define. -/
  | reservedExtension (specifier name : String)
  /-- The context of a declared extension does not begin with the language. -/
  | extensionWithoutLanguage (specifier : String)
  /-- A declared extension has been recorded before. -/
  | duplicateExtension (specifier name : String) (version : Version)
  /-- A context does not begin with the language; its first entry, if that is remote. -/
  | contextWithoutLanguage (first : Option String)
  /-- An element has no context. -/
  | elementWithoutContext (index : Nat)
  /-- An element bears an identifier that models must not define. -/
  | reservedIdentifier (identifier : String)
  /-- A context entry is neither a specifier nor a block. -/
  | malformedEntry (index : Nat) (value : Json.Value)
  /-- The definition of a term in a JSON block has none of the admitted forms. -/
  | malformedDefinition (term : String) (definition : Json.Value)
  /-- A declared term is wrong. -/
  | declaration (owner : Owner) (problem : TermProblem)
  deriving DecidableEq, Repr

namespace TermProblem

def kind (problem : TermProblem) (owner : Owner) : Diagnostic.Kind :=
  match owner, problem with
  | .element, emptyName => .localTermEmpty
  | .element, schemeName _ => .localTermSchemePrefix
  | .element, malformedName _ => .localTermInvalid
  | .element, reservedName _ => .localTermReserved
  | .element, illegalReference .. => .localTermDefinitionInvalidDtmi
  | .element, notAbsolute .. => .localTermDefinitionInvalidUri
  | .extension, emptyName => .extensionTermEmpty
  | .extension, schemeName _ => .extensionTermSchemePrefix
  | .extension, malformedName _ => .extensionTermInvalid
  | .extension, reservedName _ => .extensionTermReserved
  | .extension, illegalReference .. => .extensionTermDefinitionInvalidDtmi
  | .extension, notAbsolute .. => .extensionTermDefinitionInvalidUri

def cause (problem : TermProblem) (owner : Owner) : String :=
  let place := owner.description
  match problem with
  | emptyName => s!"A term defined in a {place} is an empty string."
  | schemeName term => s!"Term \"{term}\" defined in a {place} is the identifier scheme prefix."
  | malformedName term =>
      s!"Term \"{term}\" defined in a {place} contains characters not permitted in a term."
  | reservedName term =>
      s!"Term \"{term}\" defined in a {place} is reserved by the DTDL language context."
  | illegalReference term definition language =>
      s!"Term \"{term}\" is defined as \"{definition}\", which is not a valid DTMI " ++
        s!"for DTDL version {language}."
  | notAbsolute term definition fault =>
      s!"Term \"{term}\" is defined as \"{definition}\", which is not an absolute URI " ++
        s!"({fault.message})."

def attributes : TermProblem → List (String × String)
  | emptyName => []
  | schemeName term | malformedName term | reservedName term => [("term", term)]
  | illegalReference term definition language =>
      [("term", term), ("definition", definition), ("version", toString language)]
  | notAbsolute term definition _ => [("term", term), ("definition", definition)]

end TermProblem

namespace Problem

def kind : Problem → Diagnostic.Kind
  | fragment _ | malformedSpecifier _ => .invalidContextSpecifier
  | illegalSpecifier .. => .invalidContextSpecifierForVersion
  | unversionedLanguage _ | unversionedAffiliate _ | unversionedExtension _ =>
      .missingContextVersion
  | unknownLanguage .. => .unrecognizedContextVersion
  | languageTooNew .. => .disallowedContextVersion
  | blockNotLast _ => .localContextNotLast
  | languageNotFirst .. => .dtdlContextFollowsAffiliate
  | notIdentifier _ => .nonDtmiContextSpecifier
  | unknownContext _ => .unresolvableContextSpecifier
  | unknownContextVersion .. => .unresolvableContextVersion
  | reservedExtension .. => .extensionContextReserved
  | extensionWithoutLanguage _ | contextWithoutLanguage _ | elementWithoutContext _ =>
      .missingDtdlContext
  | duplicateExtension .. => .duplicateExtensionVersion
  | .reservedIdentifier _ => .reservedIdentifier
  | malformedEntry .. => .invalidContextEntry
  | malformedDefinition .. => .invalidTermDefinition
  | declaration owner problem => problem.kind owner

def cause : Problem → String
  | fragment specifier => s!"Context specifier \"{specifier}\" must not have a fragment."
  | malformedSpecifier specifier => s!"Context specifier \"{specifier}\" is not a valid DTMI."
  | illegalSpecifier specifier language =>
      s!"Context specifier \"{specifier}\" is not a valid DTMI for DTDL version {language}."
  | unversionedLanguage specifier =>
      s!"Context specifier \"{specifier}\" does not specify a DTDL version."
  | unversionedAffiliate specifier =>
      s!"Context specifier \"{specifier}\" does not specify a version."
  | unversionedExtension specifier =>
      s!"Extension context \"{specifier}\" does not specify a version."
  | unknownLanguage specifier major available =>
      s!"Context specifier \"{specifier}\" names DTDL version {major}, which is not " ++
        s!"recognized; available versions are {Version.listing available}."
  | languageTooNew _ major maximum =>
      s!"DTDL version {major} is not allowed; the maximum permitted version is {maximum}."
  | blockNotLast index =>
      s!"Local context definition at position {index} is not the last entry of the context."
  | languageNotFirst specifier _ =>
      s!"DTDL context \"{specifier}\" must be the first entry of the context, not follow " ++
        "another context."
  | notIdentifier specifier => s!"Context specifier \"{specifier}\" is not a DTMI."
  | unknownContext specifier =>
      s!"Context specifier \"{specifier}\" does not name a known context."
  | unknownContextVersion _ name version available =>
      s!"Context \"{name}\" has no version {version.fullText}; available versions are " ++
        s!"{Version.listing available}."
  | reservedExtension _ name =>
      s!"Extension context \"{name}\" is built in or lies under a reserved identifier and " ++
        "cannot be defined by a document."
  | extensionWithoutLanguage specifier =>
      s!"Extension context \"{specifier}\" does not begin its context with a DTDL context " ++
        "specifier."
  | duplicateExtension specifier name version =>
      s!"Extension context \"{specifier}\" cannot be recorded: version {version.text} of " ++
        s!"\"{name}\" is already recorded."
  | contextWithoutLanguage _ =>
      "The first entry of the context is not a DTDL context specifier."
  | elementWithoutContext index => s!"Element {index} has no @context declaration."
  | .reservedIdentifier identifier =>
      s!"Identifier \"{identifier}\" is reserved and cannot be used by a model element."
  | malformedEntry index _ =>
      s!"Context entry {index} must be a string specifier or an object of term definitions."
  | malformedDefinition term _ =>
      s!"Definition of term \"{term}\" must be a string, null, or an object with a string " ++
        "\"@id\"."
  | declaration owner problem => problem.cause owner

def attributes : Problem → List (String × String)
  | fragment specifier | malformedSpecifier specifier | unversionedLanguage specifier
  | unversionedAffiliate specifier | unversionedExtension specifier
  | notIdentifier specifier | unknownContext specifier | reservedExtension specifier _
  | extensionWithoutLanguage specifier => [("contextSpecifier", specifier)]
  | illegalSpecifier specifier language =>
      [("contextSpecifier", specifier), ("version", toString language)]
  | unknownLanguage specifier major available =>
      [("contextSpecifier", specifier), ("version", toString major),
        ("availableVersions", Version.listing available)]
  | languageTooNew specifier major maximum =>
      [("contextSpecifier", specifier), ("version", toString major),
        ("maxVersion", toString maximum)]
  | blockNotLast index | elementWithoutContext index => [("index", toString index)]
  | languageNotFirst specifier index =>
      [("contextSpecifier", specifier), ("index", toString index)]
  | unknownContextVersion specifier _ version available =>
      [("contextSpecifier", specifier), ("version", version.fullText),
        ("availableVersions", Version.listing available)]
  | duplicateExtension specifier _ version =>
      [("contextSpecifier", specifier), ("version", version.text)]
  | contextWithoutLanguage first =>
      first.toList.map fun specifier => ("contextSpecifier", specifier)
  | .reservedIdentifier identifier => [("id", identifier)]
  | malformedEntry index value => [("index", toString index), ("value", value.text)]
  | malformedDefinition term definition => [("term", term), ("definition", definition.text)]
  | declaration _ problem => problem.attributes

/-- The record of a problem, not yet placed in a document. -/
def diagnostic (problem : Problem) : Diagnostic where
  kind := problem.kind
  cause := problem.cause
  attributes := Attributes.ofList problem.attributes
  document := none

end Problem

end Dtdl
