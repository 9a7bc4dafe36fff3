import Dtdl.Log
import Dtdl.Resolver

/-!
# Batches of documents

A document is an element or an array of elements, and each element is a unit of work.
An element with an identifier and a context but without a type declares an extension
context; every later element can refer to it.  An element that fails is passed over
after its problems are reported.
-/

namespace Dtdl

/-- A document and the name under which it is reported. -/
structure Document where
  source : String
  content : Json.Value
  deriving DecidableEq

inductive Element.Kind where
  | extensionContext
  | model
  deriving DecidableEq, Repr

def Element.Kind.code : Element.Kind → String
  | extensionContext => "extensionContext"
  | model => "model"

/-- An element whose context has been resolved. -/
structure Element where
  document : String
  index : Nat
  id : Option String
  kind : Element.Kind
  language : Nat
  affiliates : List String
  scope : Scope
  types : List String
  deriving DecidableEq

namespace Batch

/-- The texts of the `@type` of an element. -/
def typeTexts (element : Json.Value) : List String :=
  match element.member? "@type" with
  | some (.string text) => [text]
  | some (.array items) => items.filterMap Json.Value.string?
  | _ => []

def resolveExtension (resolver : Resolver) (source : String) (index : Nat) (id : String)
    (stack : Context.Stack) : Outcome Problem Element × Resolver :=
  let (registered, extended) := resolver.register id stack
  (do
    let registration ← registered
    return {
      document := source
      index
      id := some id
      kind := .extensionContext
      language := registration.language
      affiliates := []
      scope := ⟨registration.vocabulary.terms, registration.vocabulary.prefixes, []⟩
      types := [] },
    extended)

def resolveModel (resolver : Resolver) (source : String) (index : Nat) (id : Option String)
    (stack : Context.Stack) (types : List String) : Outcome Problem Element := do
  let context ← resolver.process stack none
  Outcome.check
    ((id.toList.filter resolver.isIdentifierReserved).map Problem.reservedIdentifier)
  return {
    document := source
    index
    id
    kind := .model
    language := context.language.version.major
    affiliates := context.affiliates.map (·.specifier)
    scope := context.scope
    types := types.map fun text => (context.expand? text).getD text }

/-- Resolve an element whose context was read. -/
def resolveUnder (resolver : Resolver) (source : String) (index : Nat) (element : Json.Value)
    (stack : Context.Stack) : Outcome Problem Element × Resolver :=
  let id := (element.member? "@id").bind Json.Value.string?
  match id, element.member? "@type" with
  | some id, none => resolveExtension resolver source index id stack
  | _, _ => (resolveModel resolver source index id stack (typeTexts element), resolver)

def resolveElement (resolver : Resolver) (source : String) (index : Nat)
    (element : Json.Value) : Outcome Problem Element × Resolver :=
  match element.member? "@context" with
  | none => (.refuse (.elementWithoutContext index), resolver)
  | some context =>
      (Context.Stack.ofJson context).thread resolver
        (resolveUnder resolver source index element)

/-- How far a batch has come. -/
structure Progress where
  resolver : Resolver
  elements : List Element
  log : Log

/-- Resolve one element and take account of it. -/
def Progress.step (progress : Progress) (source : String) (index : Nat)
    (element : Json.Value) : Progress :=
  let (outcome, resolver) := resolveElement progress.resolver source index element
  { resolver
    elements := progress.elements ++ outcome.result.toList
    log := progress.log.reportAll outcome.reports }

theorem Progress.resolver_step (progress : Progress) (source : String) (index : Nat)
    (element : Json.Value) :
    (progress.step source index element).resolver =
      (resolveElement progress.resolver source index element).2 := rfl

theorem Progress.elements_step (progress : Progress) (source : String) (index : Nat)
    (element : Json.Value) :
    (progress.step source index element).elements =
      progress.elements ++
        (resolveElement progress.resolver source index element).1.result.toList := rfl

/-- Resolve the elements of a document from a position on. -/
def Progress.elementsFrom (progress : Progress) (source : String) (index : Nat) :
    List Json.Value → Progress
  | [] => progress
  | element :: rest =>
      (progress.step source index element).elementsFrom source (index + 1) rest

def Progress.document (progress : Progress) (document : Document) : Progress :=
  { progress with log := progress.log.within (some document.source) }.elementsFrom
    document.source 0 document.content.items

def process (resolver : Resolver) (documents : List Document) (log : Log) : Progress :=
  let progress := documents.foldl Progress.document ⟨resolver, [], log⟩
  { progress with log := progress.log.within none }

end Batch

end Dtdl
