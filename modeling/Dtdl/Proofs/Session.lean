import Dtdl.Batch
import Dtdl.Proofs.Naming
import Dtdl.Proofs.Registration

/-!
# Sessions

A session asks one resolver to perform operations, one after the other.  Some of them
give back a scope, and later ones may layer further blocks over it.  Registering is the
only operation that changes the resolver, on its own or inside a batch, so whatever a
registration preserves is preserved by every session.
-/

namespace Dtdl

/-- What a session may ask of its resolver. -/
inductive Operation where
  | register (specifier : String) (stack : Context.Stack)
  | process (stack : Context.Stack) (parent : Option Scope)
  | merge (block : Context.Block) (parent : Scope) (language : Nat)
  | batch (documents : List Document) (log : Log)

/-- The scope that an operation layers its declarations over, if it is given one. -/
def Operation.parent? : Operation → Option Scope
  | .process _ parent => parent
  | .merge _ parent _ => some parent
  | .register .. | .batch .. => none

namespace Resolver

def after (resolver : Resolver) : Operation → Resolver
  | .register specifier stack => (resolver.register specifier stack).2
  | .batch documents log => (Batch.process resolver documents log).resolver
  | .process .. | .merge .. => resolver

/-- The scopes that an operation gives back. -/
def scopes (resolver : Resolver) : Operation → List Scope
  | .register .. => []
  | .process stack parent => (resolver.process stack parent).result.toList.map (·.scope)
  | .merge block parent language => (resolver.merge block parent language .element).result.toList
  | .batch documents log => (Batch.process resolver documents log).elements.map (·.scope)

/-- The resolver after operations in order. -/
def run (resolver : Resolver) (operations : List Operation) : Resolver :=
  operations.foldl after resolver

/-- The resolvers that a session can begin with: those over histories that were built by
adding versions, before anything is registered. -/
inductive Fresh : Resolver → Prop
  | mk {language : History} {endogenous : Table History} (rules : Dtmi.Rules)
      (options : Options) (languageBuilt : language.Built)
      (endogenousBuilt : ∀ history ∈ endogenous.values, history.Built) :
      Fresh (ofHistories language endogenous rules options)

theorem fresh_released (options : Options) (rules : Dtmi.Rules) :
    Fresh { released options with rules } := by
  refine .mk rules options Language.built_history fun history member => ?_
  obtain ⟨entry, listed, rfl⟩ := List.mem_map.mp member
  obtain ⟨family, -, rfl⟩ := List.mem_map.mp (Table.mem_of_mem_entries_ofList listed)
  exact family.built_history

end Resolver

/-- How far a session has come from its first resolver: the resolver that it has now, and
the scopes that it can layer declarations over.  Those are the empty scope and the ones
that earlier operations gave back. -/
inductive Session (start : Resolver) : Resolver → List Scope → Prop
  | opened : Session start start [Scope.empty]
  | performed {resolver : Resolver} {known : List Scope}
      (session : Session start resolver known) (operation : Operation)
      (parent : ∀ scope ∈ operation.parent?, scope ∈ known) :
      Session start (resolver.after operation) (known ++ resolver.scopes operation)

/-! ## Batches -/

namespace Batch

/-- The identifier under which an element declares an extension context.  An element with a
type is a model. -/
def declared? (element : Json.Value) : Option String :=
  if (element.member? "@type").isNone then (element.member? "@id").bind Json.Value.string?
  else none

/-- An element either declares an extension context, and the resolver is then the one
after that registration, or it leaves the resolver alone. -/
theorem resolveElement_cases (resolver : Resolver) (source : String) (index : Nat)
    (element : Json.Value) :
    (∃ id ∈ declared? element, ∃ stack,
      (resolveElement resolver source index element).2 = (resolver.register id stack).2 ∧
      (resolveElement resolver source index element).1.result =
        (resolveExtension resolver source index id stack).1.result) ∨
    (resolveElement resolver source index element).2 = resolver ∧
      ∀ resolved, (resolveElement resolver source index element).1.result = some resolved →
        ∃ id stack types,
          (resolveModel resolver source index id stack types).result = some resolved := by
  rw [resolveElement]
  split
  · exact .inr ⟨rfl, by simp⟩
  · next context _ =>
      cases read : (Context.Stack.ofJson context).result with
      | none => exact .inr (by simp [Outcome.thread_of_none read])
      | some stack =>
          rw [Outcome.thread_of_some read, resolveUnder]
          split
          · next id named untyped =>
              exact .inl ⟨id, by simp [declared?, named, untyped], stack, rfl, rfl⟩
          · exact .inr ⟨rfl, fun resolved found => ⟨_, stack, _, found⟩⟩

/-- A resolved element bears its place.  It shows either what has been registered for it, or
the context that it was resolved to as a model. -/
theorem resolveElement_eq_some {resolver : Resolver} {source : String} {index : Nat}
    {value : Json.Value} {element : Element}
    (resolved : (resolveElement resolver source index value).1.result = some element) :
    (∃ id stack registration,
      (resolver.register id stack).1.result = some registration ∧
      (resolveElement resolver source index value).2 = (resolver.register id stack).2 ∧
      element = ⟨source, index, some id, .extensionContext, registration.language, [],
        ⟨registration.vocabulary.terms, registration.vocabulary.prefixes, []⟩, []⟩) ∨
    ∃ id stack types context,
      (resolver.process stack none).result = some context ∧
      (resolveElement resolver source index value).2 = resolver ∧
      element = ⟨source, index, id, .model, context.language.version.major,
        context.affiliates.map (·.specifier), context.scope, types⟩ := by
  rcases resolveElement_cases resolver source index value with
    ⟨id, -, stack, state, same⟩ | ⟨state, model⟩
  · rw [resolved, resolveExtension, eq_comm] at same
    simp only [Outcome.result_bind, Outcome.result_pure, Option.bind_eq_some_iff,
      Option.some.injEq] at same
    obtain ⟨registration, registered, rfl⟩ := same
    exact .inl ⟨id, stack, registration, registered, state, rfl⟩
  · obtain ⟨id, stack, texts, found⟩ := model element resolved
    simp only [resolveModel, Outcome.result_bind, Option.bind_eq_some_iff,
      Outcome.result_pure, Option.some.injEq] at found
    obtain ⟨context, processed, _, -, rfl⟩ := found
    exact .inr ⟨id, stack, _, context, processed, state, rfl⟩

section Preserved

variable (Invariant : Resolver → List Element → Prop)

theorem elementsFrom_preserves {source : String} {items : List Json.Value}
    (step : ∀ (progress : Progress) (index : Nat), ∀ element ∈ items,
      Invariant progress.resolver progress.elements →
        Invariant (progress.step source index element).resolver
          (progress.step source index element).elements)
    (progress : Progress) (index : Nat)
    (holds : Invariant progress.resolver progress.elements) :
    Invariant (progress.elementsFrom source index items).resolver
      (progress.elementsFrom source index items).elements := by
  induction items generalizing progress index with
  | nil => exact holds
  | cons item rest ih =>
      have stepped := step progress index item List.mem_cons_self holds
      exact ih
        (fun progress index element member =>
          step progress index element (List.mem_cons_of_mem _ member))
        (progress.step source index item) (index + 1) stepped

variable (documents : List Document)
variable (step : ∀ document ∈ documents, ∀ (progress : Progress) (index : Nat),
  ∀ element ∈ document.content.items, Invariant progress.resolver progress.elements →
    Invariant (progress.step document.source index element).resolver
      (progress.step document.source index element).elements)

include step

theorem foldl_document_preserves (progress : Progress)
    (holds : Invariant progress.resolver progress.elements) :
    Invariant (documents.foldl Progress.document progress).resolver
      (documents.foldl Progress.document progress).elements := by
  induction documents generalizing progress with
  | nil => exact holds
  | cons document rest ih =>
      have resolved := elementsFrom_preserves Invariant (step document List.mem_cons_self)
        { progress with log := progress.log.within (some document.source) } 0 holds
      exact ih (fun document member => step document (List.mem_cons_of_mem _ member))
        (progress.document document) resolved

/-- What every step of a batch preserves holds at its end. -/
theorem process_preserves {resolver : Resolver} (holds : Invariant resolver []) (log : Log) :
    Invariant (process resolver documents log).resolver
      (process resolver documents log).elements :=
  foldl_document_preserves Invariant documents step ⟨resolver, [], log⟩ holds

end Preserved

end Batch

/-! ## What registrations preserve -/

/-- The specifiers under which an operation may register extensions. -/
def Operation.specifiers : Operation → List String
  | .register specifier _ => [specifier]
  | .batch documents _ =>
      documents.flatMap fun document => document.content.items.filterMap Batch.declared?
  | .process .. | .merge .. => []

namespace Resolver

/-- The operations of a session register under the specifiers that they name, and change
nothing otherwise. -/
theorem after_preserves_of_specifiers (Invariant : Resolver → Prop) {operation : Operation}
    (register : ∀ (resolver : Resolver), ∀ specifier ∈ operation.specifiers,
      ∀ stack, Invariant resolver → Invariant (resolver.register specifier stack).2)
    {resolver : Resolver} (holds : Invariant resolver) : Invariant (resolver.after operation) := by
  cases operation with
  | register specifier stack =>
      exact register resolver specifier (by simp [Operation.specifiers]) stack holds
  | process stack parent => exact holds
  | merge block parent language => exact holds
  | batch documents log =>
      refine Batch.process_preserves (fun resolver _ => Invariant resolver) documents ?_ holds log
      intro document listed progress index element member holds
      rw [Batch.Progress.resolver_step]
      rcases Batch.resolveElement_cases progress.resolver document.source index element with
        ⟨id, named, stack, state, -⟩ | ⟨state, -⟩
      · have asked : id ∈ (Operation.batch documents log).specifiers :=
          List.mem_flatMap.mpr ⟨document, listed, List.mem_filterMap.mpr ⟨element, member, named⟩⟩
        rw [state]
        exact register progress.resolver id asked stack holds
      · rw [state]
        exact holds

theorem after_preserves (Invariant : Resolver → Prop)
    (register : ∀ (resolver : Resolver) (specifier : String) (stack : Context.Stack),
      Invariant resolver → Invariant (resolver.register specifier stack).2)
    {resolver : Resolver} (holds : Invariant resolver) (operation : Operation) :
    Invariant (resolver.after operation) :=
  after_preserves_of_specifiers Invariant
    (fun resolver specifier _ stack => register resolver specifier stack) holds

/-- What the registrations of a session preserve holds throughout it. -/
theorem run_preserves_of_specifiers (Invariant : Resolver → Prop) {operations : List Operation}
    (register : ∀ (resolver : Resolver),
      ∀ specifier ∈ operations.flatMap Operation.specifiers,
      ∀ stack, Invariant resolver → Invariant (resolver.register specifier stack).2)
    {resolver : Resolver} (holds : Invariant resolver) : Invariant (resolver.run operations) := by
  induction operations generalizing resolver with
  | nil => exact holds
  | cons operation rest ih =>
      rw [List.flatMap_cons] at register
      have stepped : Invariant (resolver.after operation) :=
        after_preserves_of_specifiers Invariant
          (fun resolver specifier member =>
            register resolver specifier (List.mem_append_left _ member)) holds
      exact ih
        (fun resolver specifier member =>
          register resolver specifier (List.mem_append_right _ member)) stepped

/-- What every registration preserves holds throughout a session. -/
theorem run_preserves (Invariant : Resolver → Prop)
    (register : ∀ (resolver : Resolver) (specifier : String) (stack : Context.Stack),
      Invariant resolver → Invariant (resolver.register specifier stack).2)
    {resolver : Resolver} (holds : Invariant resolver) (operations : List Operation) :
    Invariant (resolver.run operations) :=
  run_preserves_of_specifiers Invariant
    (fun resolver specifier _ stack => register resolver specifier stack) holds

theorem after_frame (resolver : Resolver) (operation : Operation) :
    ∃ exogenous, resolver.after operation = { resolver with exogenous } := by
  refine after_preserves (fun reached => ∃ exogenous, reached = { resolver with exogenous })
    ?_ ⟨resolver.exogenous, rfl⟩ operation
  rintro reached specifier stack ⟨exogenous, rfl⟩
  exact register_frame { resolver with exogenous } specifier stack

theorem run_frame (resolver : Resolver) (operations : List Operation) :
    ∃ exogenous, resolver.run operations = { resolver with exogenous } := by
  induction operations generalizing resolver with
  | nil => exact ⟨resolver.exogenous, rfl⟩
  | cons operation rest ih =>
      obtain ⟨first, moved⟩ := after_frame resolver operation
      obtain ⟨last, reached⟩ := ih (resolver.after operation)
      exact ⟨last, by rw [run, List.foldl_cons, ← run, reached, moved]⟩

end Resolver

end Dtdl
