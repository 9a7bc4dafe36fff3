import Dtdl.Proofs.Accounting
import Dtdl.Proofs.Protection

/-!
# Stages of a batch

What an element of a batch is resolved to is a matter of two things: what is written in its
document, and the resolver that the elements before it have left behind.  A stage is both of them
together.  A batch resolves what its stages resolve, and every resolver of a stage is one that the
session around the batch could have come to by registrations alone.
-/

namespace Dtdl.Batch

/-! ## Items -/

namespace Item

variable {item : Item} {resolver : Resolver}

def id? (item : Item) : Option String := (item.content.member? "@id").bind Json.Value.string?

/-- The context of an item as a resolver understands it. -/
def context? (item : Item) (resolver : Resolver) : Option Context.Resolved := do
  let written ← item.content.member? "@context"
  let stack ← (Context.Stack.ofJson written).result
  (resolver.process stack none).result

/-- What is shown of a model whose context was resolved. -/
def model (item : Item) (context : Context.Resolved) : Element where
  document := item.source
  index := item.index
  id := item.id?
  kind := .model
  language := context.language.version.major
  affiliates := context.affiliates.map (·.specifier)
  scope := context.scope
  types := (typeTexts item.content).map fun text => (context.expand? text).getD text

def resolve (item : Item) (resolver : Resolver) : Outcome Problem Element × Resolver :=
  resolveElement resolver item.source item.index item.content

theorem resolve_of_read {written : Json.Value} {stack : Context.Stack}
    (named : item.content.member? "@context" = some written)
    (read : (Context.Stack.ofJson written).result = some stack) :
    (item.resolve resolver).1.result =
      (resolveUnder resolver item.source item.index item.content stack).1.result := by
  rw [resolve, resolveElement]
  simp only [named, Outcome.thread_of_some read]

theorem context?_eq_some {context : Context.Resolved} :
    item.context? resolver = some context ↔
      ∃ written stack, item.content.member? "@context" = some written ∧
        (Context.Stack.ofJson written).result = some stack ∧
          (resolver.process stack none).result = some context := by
  simp only [context?, Option.bind_eq_bind, Option.bind_eq_some_iff]
  grind

theorem exists_stack_of_resolve {element : Element}
    (resolved : (item.resolve resolver).1.result = some element) :
    ∃ written stack, item.content.member? "@context" = some written ∧
      (Context.Stack.ofJson written).result = some stack := by
  rw [resolve, resolveElement] at resolved
  split at resolved
  · simp at resolved
  · next written named =>
      cases read : (Context.Stack.ofJson written).result with
      | none => simp [Outcome.thread_of_none read] at resolved
      | some stack => exact ⟨written, stack, named, read⟩

theorem resolveUnder_of_declared {id : String} (declared : declared? item.content = some id)
    (stack : Context.Stack) :
    resolveUnder resolver item.source item.index item.content stack =
      resolveExtension resolver item.source item.index id stack := by
  rw [declared?, Option.ite_none_right_eq_some] at declared
  obtain ⟨untyped, named⟩ := declared
  rw [Option.isNone_iff_eq_none] at untyped
  rw [resolveUnder, named, untyped]

theorem resolveUnder_of_undeclared (undeclared : declared? item.content = none)
    (stack : Context.Stack) :
    resolveUnder resolver item.source item.index item.content stack =
      (resolveModel resolver item.source item.index item.id? stack (typeTexts item.content),
        resolver) := by
  rw [resolveUnder]
  split
  · next id named untyped => simp [declared?, named, untyped] at undeclared
  · rfl

theorem undeclared_of_model {element : Element}
    (resolved : (item.resolve resolver).1.result = some element)
    (model : element.kind = .model) : declared? item.content = none := by
  obtain ⟨written, stack, named, read⟩ := exists_stack_of_resolve resolved
  rw [resolve_of_read named read] at resolved
  cases declared : declared? item.content with
  | none => rfl
  | some id =>
      rw [resolveUnder_of_declared declared, resolveExtension] at resolved
      simp only [Outcome.result_bind, Option.bind_eq_some_iff, Outcome.result_pure,
        Option.some.injEq] at resolved
      obtain ⟨registration, -, rfl⟩ := resolved
      contradiction

theorem resolveModel_eq_some {stack : Context.Stack} {element : Element} :
    (resolveModel resolver item.source item.index item.id? stack
        (typeTexts item.content)).result = some element ↔
      ∃ context, (resolver.process stack none).result = some context ∧
        item.model context = element ∧
          ∀ id ∈ item.id?, resolver.isIdentifierReserved id = false := by
  have free : (item.id?.toList.filter resolver.isIdentifierReserved).map
      Problem.reservedIdentifier = [] ↔
        ∀ id ∈ item.id?, resolver.isIdentifierReserved id = false := by
    simp [List.filter_eq_nil_iff]
  simp only [resolveModel, Outcome.result_bind, Option.bind_eq_some_iff, Outcome.result_check,
    Outcome.result_pure, Option.some.injEq, free, exists_const, model]
  grind

/-- A model is resolved if its context is, and its identifier is free as it is written.  What
the context makes of the identifier has no say. -/
theorem resolve_eq_some_of_undeclared (undeclared : declared? item.content = none)
    {element : Element} :
    (item.resolve resolver).1.result = some element ↔
      ∃ context, item.context? resolver = some context ∧ item.model context = element ∧
        ∀ id ∈ item.id?, resolver.isIdentifierReserved id = false := by
  constructor
  · intro resolved
    obtain ⟨written, stack, named, read⟩ := exists_stack_of_resolve resolved
    rw [resolve_of_read named read, resolveUnder_of_undeclared undeclared] at resolved
    obtain ⟨context, processed, shown, unreserved⟩ := resolveModel_eq_some.mp resolved
    exact ⟨context, context?_eq_some.mpr ⟨written, stack, named, read, processed⟩, shown,
      unreserved⟩
  · rintro ⟨context, processed, shown, unreserved⟩
    obtain ⟨written, stack, named, read, understood⟩ := context?_eq_some.mp processed
    rw [resolve_of_read named read, resolveUnder_of_undeclared undeclared]
    exact resolveModel_eq_some.mpr ⟨context, understood, shown, unreserved⟩

end Item

/-! ## Stages -/

/-- An item, and the resolver that the items before it have left behind. -/
structure Stage where
  item : Item
  resolver : Resolver

namespace Stage

def element? (stage : Stage) : Option Element := (stage.item.resolve stage.resolver).1.result

def context? (stage : Stage) : Option Context.Resolved := stage.item.context? stage.resolver

end Stage

/-- The stages of a batch, one for each item. -/
def stages (resolver : Resolver) : List Item → List Stage
  | [] => []
  | item :: rest => ⟨item, resolver⟩ :: stages (item.resolve resolver).2 rest

/-- The resolver that items leave behind. -/
def behind (resolver : Resolver) (items : List Item) : Resolver :=
  items.foldl (fun reached item => (item.resolve reached).2) resolver

theorem stages_append (resolver : Resolver) (front back : List Item) :
    stages resolver (front ++ back) =
      stages resolver front ++ stages (behind resolver front) back := by
  induction front generalizing resolver with
  | nil => rfl
  | cons item rest ih => simp [stages, behind, ih]

section Staged

variable (progress : Progress) (source : String) (index : Nat)

theorem elementsFrom_eq_stages (contents : List Json.Value) :
    let listed : List Item :=
      contents.mapIdx fun offset content => ⟨source, index + offset, content⟩
    (progress.elementsFrom source index contents).elements =
        progress.elements ++ (stages progress.resolver listed).filterMap Stage.element? ∧
      (progress.elementsFrom source index contents).resolver =
        behind progress.resolver listed := by
  induction contents generalizing progress index with
  | nil => simp [Progress.elementsFrom, stages, behind]
  | cons content rest ih =>
      intro listed
      have later : listed = ⟨source, index, content⟩ ::
          rest.mapIdx fun offset content => ⟨source, index + 1 + offset, content⟩ := by
        simp only [listed, List.mapIdx_cons, Nat.add_zero, Nat.add_assoc, Nat.add_comm 1]
      obtain ⟨elements, resolver⟩ := ih (progress.step source index content) (index + 1)
      rw [later, Progress.elementsFrom, elements, resolver]
      constructor
      · rw [Progress.elements_step, Progress.resolver_step, List.append_assoc, stages]
        cases found : (resolveElement progress.resolver source index content).1.result <;>
          simp [Stage.element?, Item.resolve, found]
      · rw [Progress.resolver_step, behind, behind, List.foldl_cons]
        rfl

theorem foldl_document_eq_stages (documents : List Document) :
    (documents.foldl Progress.document progress).elements =
        progress.elements ++
          (stages progress.resolver (items documents)).filterMap Stage.element? ∧
      (documents.foldl Progress.document progress).resolver =
        behind progress.resolver (items documents) := by
  induction documents generalizing progress with
  | nil => simp [items, stages, behind]
  | cons document rest ih =>
      have here := elementsFrom_eq_stages
        { progress with log := progress.log.within (some document.source) }
        document.source 0 document.content.items
      simp only [Nat.zero_add] at here
      obtain ⟨elements, resolver⟩ := ih (progress.document document)
      rw [List.foldl_cons, elements, resolver, Progress.document, here.1, here.2]
      simp [items, stages_append, behind]

end Staged

theorem elements_eq_stages (resolver : Resolver) (documents : List Document) (log : Log) :
    (process resolver documents log).elements =
      (stages resolver (items documents)).filterMap Stage.element? := by
  have staged := (foldl_document_eq_stages ⟨resolver, [], log⟩ documents).1
  rwa [List.nil_append] at staged

/-! ## Sessions -/

section Reached

variable {start resolver : Resolver} {known : List Scope}

/-- An item takes a session on by one registration, or not at all. -/
theorem session_resolve (session : Session start resolver known) (item : Item) :
    ∃ known, Session start (item.resolve resolver).2 known := by
  rcases resolveElement_cases resolver item.source item.index item.content with
    ⟨id, -, stack, state, -⟩ | ⟨state, -⟩
  · rw [Item.resolve, state]
    exact ⟨_, session.performed (.register id stack) (by simp [Operation.parent?])⟩
  · rw [Item.resolve, state]
    exact ⟨known, session⟩

/-- The resolver of a stage is one of the session that the batch is a part of. -/
theorem session_of_mem_stages (session : Session start resolver known) {items : List Item}
    {stage : Stage} (member : stage ∈ stages resolver items) :
    ∃ known, Session start stage.resolver known := by
  induction items generalizing resolver known with
  | nil => simp [stages] at member
  | cons item rest ih =>
      rcases List.mem_cons.mp member with rfl | member
      · exact ⟨known, session⟩
      · obtain ⟨further, next⟩ := session_resolve session item
        exact ih next member

theorem isIdentifierReserved_of_session (session : Session start resolver known)
    (identifier : String) :
    resolver.isIdentifierReserved identifier = start.isIdentifierReserved identifier := by
  obtain ⟨exogenous, rfl⟩ := session.frame
  rfl

end Reached

end Dtdl.Batch
