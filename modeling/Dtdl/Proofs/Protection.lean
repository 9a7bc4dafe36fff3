import Dtdl.Proofs.Catalog
import Dtdl.Proofs.Expansion
import Dtdl.Proofs.Registry

/-!
# Protection of the language

What documents declare reaches an expansion in two ways: through the scope of a context
and through the affiliates that documents registered.  At no point of a session does
either of them hold a name of the language, so a name of the language means what it would
mean if documents had declared nothing.
-/

namespace Dtdl

theorem Vocabulary.Admissible.scope {language : History} {vocabulary : Vocabulary}
    (admissible : vocabulary.Admissible language) :
    Scope.Admissible language ⟨vocabulary.terms, vocabulary.prefixes, []⟩ where
  names name declared := by
    apply admissible.names
    rw [Vocabulary.defines_iff]
    simpa [Scope.Declares] using declared
  unambiguous := by
    constructor
    · exact admissible.disjoint
    · intro name member
      exact List.not_mem_nil
    · intro name member
      exact List.not_mem_nil

/-! ## The scopes of a session -/

namespace Resolver

variable {resolver : Resolver}

/-- An extension context shows what was registered, which was checked like a scope; the
scope of a model is that of its context. -/
theorem Sound.admissible_of_resolveElement (sound : resolver.Sound) {source : String}
    {index : Nat} {value : Json.Value} {element : Element}
    (resolved : (Batch.resolveElement resolver source index value).1.result = some element) :
    element.scope.Admissible resolver.language := by
  rcases Batch.resolveElement_eq_some resolved with
    ⟨id, stack, registration, registered, -, rfl⟩ | ⟨id, stack, types, context, processed, -, rfl⟩
  · exact (admissible_of_draft sound.language (register_eq_some registered).1).scope
  · exact admissible_of_resolveStack sound.language (Scope.admissible_empty _) processed

/-- Batches only give back admissible scopes.  The language is part of the invariant since
every element is resolved by the resolver that the elements before it left behind. -/
theorem Sound.admissible_of_batch (sound : resolver.Sound) (documents : List Document)
    (log : Log) :
    ∀ element ∈ (Batch.process resolver documents log).elements,
      element.scope.Admissible resolver.language := by
  have held := Batch.process_preserves
    (fun reached elements => reached.Sound ∧ reached.language = resolver.language ∧
      ∀ element ∈ elements, element.scope.Admissible resolver.language)
    documents ?step ⟨sound, rfl, by simp⟩ log
  case step =>
    intro document _ progress index value _ ⟨sound, language, admissible⟩
    have added : ∀ element ∈ (progress.step document.source index value).elements,
        element.scope.Admissible resolver.language := by
      intro element member
      rw [Batch.Progress.elements_step, List.mem_append, Option.mem_toList] at member
      rcases member with member | resolved
      · exact admissible element member
      · exact language ▸ sound.admissible_of_resolveElement resolved
    rw [Batch.Progress.resolver_step]
    rcases Batch.resolveElement_cases progress.resolver document.source index value with
      ⟨id, -, stack, state, -⟩ | ⟨state, -⟩
    · obtain ⟨exogenous, frame⟩ := register_frame progress.resolver id stack
      rw [state]
      refine ⟨sound.register id stack, ?_, added⟩
      rw [frame]
      exact language
    · rw [state]
      exact ⟨sound, language, added⟩
  exact held.2.2

/-- An operation that layers over an admissible scope gives back admissible scopes. -/
theorem Sound.admissible_of_scopes (sound : resolver.Sound) {operation : Operation}
    (parent : ∀ scope ∈ operation.parent?, scope.Admissible resolver.language) :
    ∀ scope ∈ resolver.scopes operation, scope.Admissible resolver.language := by
  intro scope member
  cases operation with
  | register specifier stack => exact absurd member List.not_mem_nil
  | process stack surroundings =>
      obtain ⟨context, processed, rfl⟩ := List.mem_map.mp member
      rw [Option.mem_toList] at processed
      refine admissible_of_resolveStack sound.language ?_ processed
      cases surroundings with
      | none => exact Scope.admissible_empty resolver.language
      | some surroundings => exact parent surroundings rfl
  | merge block surroundings language =>
      rw [scopes, Option.mem_toList] at member
      exact admissible_of_merge sound.language (parent surroundings rfl) member
  | batch documents log =>
      obtain ⟨element, resolved, rfl⟩ := List.mem_map.mp member
      exact sound.admissible_of_batch documents log element resolved

end Resolver

namespace Session

variable {start resolver : Resolver} {known : List Scope}

theorem frame (session : Session start resolver known) :
    ∃ exogenous, resolver = { start with exogenous } := by
  induction session with
  | opened => exact ⟨start.exogenous, rfl⟩
  | performed session operation parent ih =>
      obtain ⟨earlier, rfl⟩ := ih
      exact Resolver.after_frame { start with exogenous := earlier } operation

theorem sound (session : Session start resolver known) (sound : start.Sound) :
    resolver.Sound := by
  induction session with
  | opened => exact sound
  | performed session operation parent ih => exact ih.after operation

theorem admissible (session : Session start resolver known) (sound : start.Sound) :
    ∀ scope ∈ known, scope.Admissible start.language := by
  induction session with
  | opened =>
      intro scope member
      rw [List.mem_singleton] at member
      exact member ▸ Scope.admissible_empty start.language
  | performed session operation parent ih =>
      intro scope member
      rcases List.mem_append.mp member with member | member
      · exact ih scope member
      · have reached := session.sound sound
        obtain ⟨exogenous, rfl⟩ := session.frame
        exact reached.admissible_of_scopes (fun scope named => ih scope (parent scope named))
          scope member

/-- The scope of a context is one that the session can go on to layer over. -/
theorem admissible_of_process {stack : Context.Stack} {parent : Option Scope}
    {context : Context.Resolved} (session : Session start resolver known) (sound : start.Sound)
    (layered : ∀ scope ∈ parent, scope ∈ known)
    (processed : (resolver.process stack parent).result = some context) :
    context.scope.Admissible start.language := by
  have member : context.scope ∈ resolver.scopes (.process stack parent) := by
    simp [Resolver.scopes, processed]
  exact (session.performed (.process stack parent) layered).admissible sound _
    (List.mem_append_right _ member)

end Session

/-! ## Names of the language -/

namespace Context.Affiliate

/-- Whether an affiliate is a recorded version of a released extension. -/
def isReleased (affiliate : Affiliate) : Bool :=
  (Extension.histories.get? affiliate.name).any (·.versions.contains affiliate.vocabulary)

theorem isReleased_iff {affiliate : Affiliate} :
    affiliate.isReleased = true ↔
      ∃ history, Extension.histories.get? affiliate.name = some history ∧
        affiliate.vocabulary ∈ history.versions := by
  simp [isReleased, Option.any_eq_true]

end Context.Affiliate

namespace Session

variable {options : Resolver.Options} {rules : Dtmi.Rules} {resolver : Resolver}
variable {known : List Scope} {stack : Context.Stack} {parent : Option Scope}
variable {context : Context.Resolved}

section Released

variable (session : Session { Resolver.released options with rules } resolver known)

include session

/-- A session over the released catalogs keeps to them. -/
theorem catalogs :
    resolver.language = Language.history ∧ resolver.endogenous = Extension.histories := by
  obtain ⟨exogenous, rfl⟩ := session.frame
  exact ⟨rfl, rfl⟩

variable (processed : (resolver.process stack parent).result = some context)

include processed

theorem recorded_language :
    context.language ∈ Language.history.versions := by
  have recorded := Resolver.language_mem_of_resolveStack processed
  rwa [session.catalogs.1] at recorded

theorem admissible_scope (layered : ∀ scope ∈ parent, scope ∈ known) :
    context.scope.Admissible Language.history :=
  session.admissible_of_process (Resolver.fresh_released options rules).sound layered processed

/-- An affiliate that was not released was registered by a document, so its names were
checked. -/
theorem admissible_affiliate {affiliate : Context.Affiliate}
    (member : affiliate ∈ context.affiliates)
    (foreign : affiliate.isReleased = false) :
    affiliate.vocabulary.Admissible Language.history := by
  have sound := session.sound (Resolver.fresh_released options rules).sound
  obtain ⟨language, endogenous⟩ := session.catalogs
  obtain ⟨history, found, recorded⟩ :=
    Resolver.affiliate_recorded_of_resolveStack processed member
  rw [Resolver.history?, endogenous] at found
  -- A released family hides one that was registered under its name, so the affiliate can
  -- only come from the exogenous table.
  cases released : Extension.histories.get? affiliate.name with
  | some family =>
      rw [released, Option.some_or, Option.some.injEq] at found
      rw [Context.Affiliate.isReleased_iff.mpr ⟨family, released, found ▸ recorded⟩] at foreign
      contradiction
  | none =>
      rw [released, Option.none_or] at found
      have declared := sound.registry _ (Table.mem_entries_of_get? found)
      exact language ▸ declared.admissible _ recorded

theorem not_defines_affiliate {version : Vocabulary}
    (recorded : version ∈ Language.history.versions) {name : String}
    (defined : version.defines name = true) :
    ∀ affiliate ∈ context.affiliates, affiliate.isReleased = false →
      affiliate.vocabulary.defines name = false := by
  intro affiliate member foreign
  have admissible := session.admissible_affiliate processed member foreign
  exact admissible.defines_eq_false recorded defined

/-- The vocabularies of a context agree on what the language stands for: no affiliate has
an expansion for its prefix, since a released one has no prefixes and another one does not
define the names of the language. -/
theorem findSome?_expansion?_dtdl :
    context.vocabularies.findSome? (·.expansion? "dtdl") = some "dtmi:dtdl:" := by
  have recorded := session.recorded_language processed
  have defined := Language.defines_of_mem recorded
  have silent : (context.affiliates.reverse.map (·.vocabulary)).findSome?
      (·.expansion? "dtdl") = none := by
    rw [List.findSome?_eq_none_iff]
    intro vocabulary listed
    obtain ⟨affiliate, member, rfl⟩ := List.mem_map.mp listed
    rw [List.mem_reverse] at member
    cases released : affiliate.isReleased with
    | true =>
        obtain ⟨history, found, stored⟩ := Context.Affiliate.isReleased_iff.mp released
        exact Extension.expansion?_of_mem found stored "dtdl"
    | false =>
        exact Vocabulary.expansion?_of_not_defines
          (session.not_defines_affiliate processed recorded defined affiliate member released)
  rw [Context.Resolved.vocabularies, List.findSome?_append, silent]
  simp [Language.expansion?_of_mem recorded]

end Released

/-- Documents cannot change what a name of the language means.  In every context of a
session over the released catalogs, a name that some version of the language defines
expands, alone and in front of a suffix, as it does without the scope of the context and
without the affiliates that documents registered.  The prefix of the language always
stands for the language. -/
theorem expand?_reserved
    (session : Session { Resolver.released options with rules } resolver known)
    (layered : ∀ scope ∈ parent, scope ∈ known)
    (processed : (resolver.process stack parent).result = some context) :
    (∀ version ∈ Language.history.versions, ∀ name, version.defines name = true →
      context.expand? name = (context.restrict (·.isReleased)).expand? name ∧
      ∀ suffix, context.expand? (name ++ ":" ++ suffix) =
        (context.restrict (·.isReleased)).expand? (name ++ ":" ++ suffix)) ∧
    ∀ suffix, context.expand? ("dtdl:" ++ suffix) = some ("dtmi:dtdl:" ++ suffix) := by
  have scope := session.admissible_scope processed layered
  constructor
  · intro version recorded name defined
    have silent := scope.not_declares_of_defines recorded defined
    have plain := Language.colon_not_mem_of_defines recorded defined
    have undefined := session.not_defines_affiliate processed recorded defined
    constructor
    · exact (Context.Resolved.expand?_restrict silent plain undefined).symm
    · intro suffix
      have silentWhole := scope.not_declares_compact name suffix
      exact (Context.Resolved.expand?_compact_restrict silentWhole silent plain undefined).symm
  · intro suffix
    have recorded := session.recorded_language processed
    have silent := scope.not_declares_of_defines recorded (Language.defines_of_mem recorded)
    have silentWhole := scope.not_declares_compact "dtdl" suffix
    have plain : ':' ∉ "dtdl".toList := by decide
    have written : "dtdl:" ++ suffix = "dtdl" ++ ":" ++ suffix := rfl
    rw [written, Context.Resolved.expand?_compact_of_not_declares silentWhole silent plain,
      session.findSome?_expansion?_dtdl processed]
    rfl

/-- An element inside another one inherits a term of its surroundings and reads the names
of the language all the same. -/
theorem expand?_inherited :
    ∃ outer inner : Context.Resolved,
      ((Resolver.released .default).process Resolver.plants none).result = some outer ∧
      ((Resolver.released .default).process
          ⟨[.remote "dtmi:dtdl:context;3", .remote "dtmi:dtdl:extension:mqtt;1"]⟩
          (some outer.scope)).result = some inner ∧
      inner.expand? "Plant" = some "dtmi:com:example:Plant;1" ∧
      (∀ version ∈ Language.history.versions, ∀ name, version.defines name = true →
        inner.expand? name = (inner.restrict (·.isReleased)).expand? name) ∧
      inner.expand? "dtdl:class:Interface;3" = some "dtmi:dtdl:class:Interface;3" := by
  let scope : Scope :=
    ⟨Table.ofList [("Plant", .dtmi ⟨["com", "example", "Plant"], some ⟨"1", none⟩, none⟩)],
      Table.empty, []⟩
  have surroundings :
      ((Resolver.released .default).process Resolver.plants none).result.map (·.scope) =
        some scope := by
    decide +kernel
  obtain ⟨outer, first, same⟩ := Option.map_eq_some_iff.mp surroundings
  have inherited :
      ((Resolver.released .default).process
          ⟨[.remote "dtmi:dtdl:context;3", .remote "dtmi:dtdl:extension:mqtt;1"]⟩
          (some scope)).result.bind (·.expand? "Plant") =
        some "dtmi:com:example:Plant;1" := by
    decide +kernel
  obtain ⟨inner, second, term⟩ := Option.bind_eq_some_iff.mp inherited
  have session : Session (Resolver.released .default) (Resolver.released .default)
      ([Scope.empty] ++ (Resolver.released .default).scopes (.process Resolver.plants none)) :=
    Session.opened.performed (.process Resolver.plants none) (by simp [Operation.parent?])
  have layered : ∀ parent ∈ some scope, parent ∈
      [Scope.empty] ++ (Resolver.released .default).scopes (.process Resolver.plants none) := by
    simp [Resolver.scopes, first, same]
  obtain ⟨alike, language⟩ := expand?_reserved session layered second
  refine ⟨outer, inner, first, same ▸ second, term, ?_, language "class:Interface;3"⟩
  exact fun version recorded name defined => (alike version recorded name defined).1

end Session

end Dtdl
