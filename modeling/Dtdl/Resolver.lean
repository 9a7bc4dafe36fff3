import Dtdl.Context.Resolved
import Dtdl.Context.Stack
import Dtdl.Extension
import Dtdl.Language
import Dtdl.Term

/-!
# The resolver

A resolver knows the histories of the language and of its own extensions, and the
extension contexts that documents have declared so far.  It resolves the contexts of
elements against them, and it records further extensions.

Extensions of the language are called endogenous, those of documents exogenous.  Only
the exogenous table ever changes, and it only grows.
-/

namespace Dtdl

/-- What a resolver is asked to be strict about. -/
structure Resolver.Options where
  /-- The highest major version of the language that is accepted. -/
  maxVersion : Option Nat
  /-- Whether entries that name an unknown context are passed over. -/
  allowUndefined : Bool
  deriving DecidableEq, Repr

/-- The histories that contexts are resolved against. -/
structure Resolver where
  language : History
  endogenous : Table History
  exogenous : Table History
  rules : Dtmi.Rules
  options : Resolver.Options
  deriving DecidableEq

/-- An extension context that has been recorded, and the version of the language that
it was declared in. -/
structure Resolver.Registration where
  name : String
  language : Nat
  vocabulary : Vocabulary
  deriving DecidableEq

namespace Resolver

/-- No maximum, and unknown contexts are refused. -/
def Options.default : Options := ⟨none, false⟩

def ofHistories (language : History) (endogenous : Table History) (rules : Dtmi.Rules)
    (options : Options) : Resolver :=
  ⟨language, endogenous, Table.empty, rules, options⟩

/-- A resolver over the released language and its extensions. -/
def released (options : Options) : Resolver :=
  ofHistories Language.history Extension.histories .released options

/-! ## Specifiers -/

/-- Read a context specifier; it must not have a fragment. -/
def readSpecifier (specifier : String) : Outcome Problem Dtmi :=
  match Dtmi.parse? specifier with
  | some dtmi =>
      if dtmi.fragment.isNone then .succeed dtmi else .refuse (.fragment specifier)
  | none => .refuse (.malformedSpecifier specifier)

/-- What the reference rules of a version of the language say about a specifier. -/
def legality (resolver : Resolver) (specifier : String) (language : Nat) : List Problem :=
  if resolver.rules.accepts language specifier then []
  else [.illegalSpecifier specifier language]

/-- What the maximum version says about a version of the language. -/
def ceiling (resolver : Resolver) (specifier : String) (major : Nat) : List Problem :=
  match resolver.options.maxVersion with
  | some maximum =>
      if maximum < major then [.languageTooNew specifier major maximum] else []
  | none => []

/-! ## The language and its affiliates -/

def resolveLanguage (resolver : Resolver) (specifier : String) : Outcome Problem Vocabulary := do
  let dtmi ← readSpecifier specifier
  let version := dtmi.version
  if !dtmi.isVersioned then .refuse (.unversionedLanguage specifier)
  else
    match resolver.language.find? version with
    | none =>
        .refuse (.unknownLanguage specifier version.major resolver.language.available)
    | some vocabulary => do
        Outcome.check
          (resolver.ceiling specifier version.major ++
            resolver.legality specifier version.major)
        return vocabulary

/-- The history of an extension; the extensions of the language come first. -/
def history? (resolver : Resolver) (name : String) : Option History :=
  (resolver.endogenous.get? name).or (resolver.exogenous.get? name)

/-- Pass over an unknown context where that is allowed, and refuse it otherwise. -/
def forgive (lenient : Bool) (problem : Problem) :
    Outcome Problem (Option Context.Affiliate) :=
  if lenient then .succeed none else .refuse problem

def resolveSpecifier (resolver : Resolver) (specifier : String) (index language : Nat)
    (lenient : Bool) : Outcome Problem (Option Context.Affiliate) :=
  if Language.isSpecifier specifier then .refuse (.languageNotFirst specifier index)
  else if !Text.startsWith specifier Dtmi.lead then forgive lenient (.notIdentifier specifier)
  else do
    let dtmi ← readSpecifier specifier
    Outcome.check
      ((if dtmi.isVersioned then [] else [.unversionedAffiliate specifier]) ++
        resolver.legality specifier language)
    match resolver.history? dtmi.name with
    | none => forgive lenient (.unknownContext specifier)
    | some history =>
        match history.find? dtmi.version with
        | none =>
            forgive lenient
              (.unknownContextVersion specifier dtmi.name dtmi.version history.available)
        | some vocabulary => return some ⟨dtmi.name, vocabulary⟩

/-- Resolve an entry that follows the language.  A final block has no affiliate. -/
def resolveAffiliate (resolver : Resolver) (component : Context.Component) (language : Nat)
    (lenient : Bool) : Outcome Problem (Option Context.Affiliate) :=
  match component.entry with
  | .block _ =>
      if component.isLast then .succeed none else .refuse (.blockNotLast component.index)
  | .remote specifier => resolver.resolveSpecifier specifier component.index language lenient

/-! ## Blocks -/

/-- Resolve one declaration under the rules of the resolver. -/
def resolveDeclaration (resolver : Resolver) (language : Nat) (owner : Owner)
    (declaration : String × Option String) : Outcome Problem (String × Term.Meaning) :=
  Term.resolveDeclaration resolver.rules.validator resolver.language language owner declaration

/-- Layer a block over a scope under the rules of the resolver. -/
def merge (resolver : Resolver) (block : Context.Block) (parent : Scope) (language : Nat)
    (owner : Owner) : Outcome Problem Scope :=
  Term.layer resolver.rules.validator resolver.language block parent language owner

/-! ## Whole stacks -/

/-- What one entry behind the language contributes to a context. -/
inductive Contribution where
  | affiliate (resolved : Context.Affiliate)
  | scope (merged : Scope)
  | nothing
  deriving DecidableEq

namespace Contribution

def affiliate? : Contribution → Option Context.Affiliate
  | .affiliate resolved => some resolved
  | _ => none

def scope? : Contribution → Option Scope
  | .scope merged => some merged
  | _ => none

end Contribution

/-- Resolve one entry behind the language: a final block to a scope, a remote entry to
an affiliate. -/
def resolveComponent (resolver : Resolver) (language : Nat) (owner : Owner) (parent : Scope)
    (component : Context.Component) : Outcome Problem Contribution :=
  match component.entry, component.isLast with
  | .block block, true => do
      let scope ← resolver.merge block parent language owner
      return .scope scope
  | _, _ => do
      let affiliate ←
        resolver.resolveAffiliate component language resolver.options.allowUndefined
      return affiliate.elim .nothing .affiliate

/-- Resolve a stack.  The first entry has to be the language, and nothing behind it is
looked at unless it is accepted; the other entries are then resolved independently of
each other.  `missing` is what is reported of a stack that does not begin with the
language. -/
def resolveStack (resolver : Resolver) (stack : Context.Stack) (parent : Scope)
    (owner : Owner) (missing : Problem) : Outcome Problem Context.Resolved :=
  match stack.components with
  | [] => .refuse missing
  | first :: rest =>
      match first.entry with
      | .block _ => .refuse missing
      | .remote specifier =>
          if Language.isSpecifier specifier then do
            let language ← resolver.resolveLanguage specifier
            let contributions ←
              Outcome.all
                (rest.map (resolver.resolveComponent language.version.major owner parent))
            return {
              language
              affiliates := contributions.filterMap Contribution.affiliate?
              scope := (contributions.findSome? Contribution.scope?).getD parent }
          else .refuse missing

/-- Resolve the context of an element within a parent scope. -/
def process (resolver : Resolver) (stack : Context.Stack) (parent : Option Scope) :
    Outcome Problem Context.Resolved :=
  resolver.resolveStack stack (parent.getD Scope.empty) .element
    (.contextWithoutLanguage (stack.entries.head?.bind Context.Entry.specifier?))

/-! ## Lookups -/

/-- The term of the language or of one of its extensions that stands for an identifier,
or else the identifier itself. -/
def shortName (resolver : Resolver) (identifier : String) : String :=
  ((resolver.language :: resolver.endogenous.values).findSome?
    (·.termFor? identifier)).getD identifier

def isIdentifierReserved (resolver : Resolver) (identifier : String) : Bool :=
  (resolver.language :: resolver.endogenous.values).any (·.isIdentifierReserved identifier)

/-! ## Registration -/

def isExtensionReserved (resolver : Resolver) (specifier name : String) : Bool :=
  name = Language.name || resolver.endogenous.contains name ||
    resolver.isIdentifierReserved specifier

/-- Record a version of an extension.  The history of a family that is new is entered
before the version is added to it. -/
def record (resolver : Resolver) (name : String) (vocabulary : Vocabulary) :
    Except Vocabulary.Fault Vocabulary × Resolver :=
  let (history, entered) := resolver.exogenous.enter name (History.empty name)
  let (recorded, history) := history.add vocabulary
  (recorded, { resolver with exogenous := entered.insert name history })

/-- The registration that a document asks for under a specifier.  Its terms are those of
the final block of its own context. -/
def draft (resolver : Resolver) (specifier : String) (stack : Context.Stack) :
    Outcome Problem Registration := do
  let dtmi ← readSpecifier specifier
  if !dtmi.isVersioned then .refuse (.unversionedExtension specifier)
  else if resolver.isExtensionReserved specifier dtmi.name then
    .refuse (.reservedExtension specifier dtmi.name)
  else do
    let context ←
      resolver.resolveStack stack Scope.empty .extension (.extensionWithoutLanguage specifier)
    return {
      name := dtmi.name
      language := context.language.version.major
      vocabulary := ⟨dtmi.version, context.scope.terms, context.scope.prefixes⟩ }

/-- Record the extension context that a document declares under a specifier. -/
def register (resolver : Resolver) (specifier : String) (stack : Context.Stack) :
    Outcome Problem Registration × Resolver :=
  (resolver.draft specifier stack).thread resolver fun draft =>
    match resolver.record draft.name draft.vocabulary with
    | (.ok vocabulary, extended) => (.succeed { draft with vocabulary }, extended)
    | (.error _, extended) =>
        (.refuse (.duplicateExtension specifier draft.name draft.vocabulary.version), extended)

end Resolver

end Dtdl
