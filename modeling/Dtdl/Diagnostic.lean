import Dtdl.Diagnostic.Attributes

/-!
# Diagnostics

A diagnostic is the record of one fault: its kind, a sentence that states the cause,
the texts that caused it, and the document in which it was found.
-/

namespace Dtdl

/-- The kinds of faults, grouped by what they concern. -/
inductive Diagnostic.Kind where
  | invalidContextSpecifier
  | invalidContextSpecifierForVersion
  | nonDtmiContextSpecifier
  | missingContextVersion
  | unrecognizedContextVersion
  | disallowedContextVersion
  | unresolvableContextVersion
  | localContextNotLast
  | dtdlContextFollowsAffiliate
  | missingDtdlContext
  | unresolvableContextSpecifier
  | localTermEmpty
  | localTermSchemePrefix
  | localTermInvalid
  | localTermReserved
  | localTermDefinitionInvalidDtmi
  | localTermDefinitionInvalidUri
  | extensionTermEmpty
  | extensionTermSchemePrefix
  | extensionTermInvalid
  | extensionTermReserved
  | extensionTermDefinitionInvalidDtmi
  | extensionTermDefinitionInvalidUri
  | extensionContextReserved
  | duplicateExtensionVersion
  | invalidContextEntry
  | invalidTermDefinition
  | reservedIdentifier
  deriving DecidableEq, Repr

namespace Diagnostic.Kind

def code : Kind → String
  | invalidContextSpecifier => "invalidContextSpecifier"
  | invalidContextSpecifierForVersion => "invalidContextSpecifierForVersion"
  | nonDtmiContextSpecifier => "nonDtmiContextSpecifier"
  | missingContextVersion => "missingContextVersion"
  | unrecognizedContextVersion => "unrecognizedContextVersion"
  | disallowedContextVersion => "disallowedContextVersion"
  | unresolvableContextVersion => "unresolvableContextVersion"
  | localContextNotLast => "localContextNotLast"
  | dtdlContextFollowsAffiliate => "dtdlContextFollowsAffiliate"
  | missingDtdlContext => "missingDtdlContext"
  | unresolvableContextSpecifier => "unresolvableContextSpecifier"
  | localTermEmpty => "localTermEmpty"
  | localTermSchemePrefix => "localTermSchemePrefix"
  | localTermInvalid => "localTermInvalid"
  | localTermReserved => "localTermReserved"
  | localTermDefinitionInvalidDtmi => "localTermDefinitionInvalidDtmi"
  | localTermDefinitionInvalidUri => "localTermDefinitionInvalidUri"
  | extensionTermEmpty => "extensionTermEmpty"
  | extensionTermSchemePrefix => "extensionTermSchemePrefix"
  | extensionTermInvalid => "extensionTermInvalid"
  | extensionTermReserved => "extensionTermReserved"
  | extensionTermDefinitionInvalidDtmi => "extensionTermDefinitionInvalidDtmi"
  | extensionTermDefinitionInvalidUri => "extensionTermDefinitionInvalidUri"
  | extensionContextReserved => "extensionContextReserved"
  | duplicateExtensionVersion => "duplicateExtensionVersion"
  | invalidContextEntry => "invalidContextEntry"
  | invalidTermDefinition => "invalidTermDefinition"
  | reservedIdentifier => "reservedIdentifier"

/-- All kinds, in the order in which they are listed to a reader. -/
def all : List Kind :=
  [invalidContextSpecifier, invalidContextSpecifierForVersion, nonDtmiContextSpecifier,
    missingContextVersion, unrecognizedContextVersion, disallowedContextVersion,
    unresolvableContextVersion, localContextNotLast, dtdlContextFollowsAffiliate,
    missingDtdlContext, unresolvableContextSpecifier, localTermEmpty, localTermSchemePrefix,
    localTermInvalid, localTermReserved, localTermDefinitionInvalidDtmi,
    localTermDefinitionInvalidUri, extensionTermEmpty, extensionTermSchemePrefix,
    extensionTermInvalid, extensionTermReserved, extensionTermDefinitionInvalidDtmi,
    extensionTermDefinitionInvalidUri, extensionContextReserved, duplicateExtensionVersion,
    invalidContextEntry, invalidTermDefinition, reservedIdentifier]

def ofCode? (code : String) : Option Kind := all.find? (·.code = code)

end Diagnostic.Kind

/-- The record of one fault. -/
structure Diagnostic where
  kind : Diagnostic.Kind
  cause : String
  attributes : Attributes
  document : Option String
  deriving DecidableEq

namespace Diagnostic

def line (diagnostic : Diagnostic) : String :=
  diagnostic.kind.code ++ ": " ++ diagnostic.cause

end Diagnostic

end Dtdl
