import Dtdl.Proofs.Absolute
import Dtdl.Proofs.Provenance
import Dtdl.Proofs.Stages

/-!
# Reserved identifiers of models

The identifier of a model is held against the reserved ones as it is written, and it is kept as
it is written; only the types of a model are expanded.  So a model may go by an abbreviation of a
reserved identifier, be it a term of its own context or a known prefix with a suffix.

The main statement is that there is no other way.  A model that is resolved bears no reserved
identifier as it is written, and none by its expansion unless it is abbreviated.  Over the released
catalogs what is written as an identifier is no abbreviation, so such a model bears no reserved
identifier at all.
-/

namespace Dtdl

/-! ## Abbreviations -/

namespace Context.Resolved

/-- A name that a context has another text for: a term of the scope, a known prefix with a
suffix, or a term of a vocabulary. -/
inductive Abbreviates (context : Resolved) : String → String → Prop
  | declared {name : String} {identifier : Identifier}
      (found : context.scope.terms.get? name = some identifier) :
      Abbreviates context name identifier.text
  | compact {lead suffix expansion : String} (plain : ':' ∉ lead.toList)
      (found : context.expansion? lead = some expansion) :
      Abbreviates context (lead ++ ":" ++ suffix) (expansion ++ suffix)
  | known {name : String} {identifier : Identifier} (plain : ':' ∉ name.toList)
      (found : context.vocabularies.findSome? (·.term? name) = some identifier) :
      Abbreviates context name identifier.text

theorem absolute?_eq_some {name text : String} (absolute : absolute? name = some text) :
    text = name := by
  rw [absolute?, Option.ite_none_right_eq_some] at absolute
  exact (Option.some.inj absolute.2).symm

/-- A name that expands to another text abbreviates it. -/
theorem expand?_cases {context : Resolved} {name text : String}
    (expanded : context.expand? name = some text) :
    text = name ∨ context.Abbreviates name text := by
  rw [expand?, Option.ite_none_left_eq_some] at expanded
  obtain ⟨-, expanded⟩ := expanded
  split at expanded
  · next identifier found =>
      cases expanded
      exact .inr (.declared found)
  · cases cut : Text.cut ':' name.toList with
    | mk lead rest =>
        rw [cut] at expanded
        cases rest with
        | none =>
            obtain ⟨identifier, found, rfl⟩ := Option.map_eq_some_iff.mp expanded
            have plain := Text.not_mem_cut ':' name.toList
            have whole := Text.cut_rebuild ':' name.toList
            simp only [cut, Option.elim_none, List.append_nil] at plain whole
            exact .inr (.known (whole ▸ plain) found)
        | some rest =>
            obtain ⟨written, plain⟩ := eq_of_cut cut
            cases known : context.expansion? (String.ofList lead) with
            | none =>
                simp only [known] at expanded
                exact .inl (absolute?_eq_some expanded)
            | some expansion =>
                simp only [known, Option.some.injEq] at expanded
                rw [written, ← expanded]
                exact .inr (.compact plain known)

end Context.Resolved

namespace Batch

/-! ## Identifiers of models -/

/-- Whether a model shows a context. -/
structure Shows (element : Element) (context : Context.Resolved) : Prop where
  language : element.language = context.language.version.major
  affiliates : element.affiliates = context.affiliates.map (·.specifier)
  scope : element.scope = context.scope

/-- No model that a batch resolves bears a reserved identifier as it is written, and none by what
its own context expands the identifier to, unless the identifier is an abbreviation: a term, or a
known prefix with a suffix.  In sessions over the released catalogs that cannot be said of what is
written as an identifier, so it is not reserved either way. -/
theorem process_unreserved (resolver : Resolver) (documents : List Document) (log : Log) :
    let final := process resolver documents log
    final.elements = (stages resolver (items documents)).filterMap Stage.element? ∧
    ∀ stage ∈ stages resolver (items documents), ∀ element, stage.element? = some element →
      element.kind = .model →
      ∃ context, stage.context? = some context ∧ Shows element context ∧ ∀ id ∈ element.id,
        final.resolver.isIdentifierReserved id = false ∧
        (∀ text, context.expand? id = some text →
          final.resolver.isIdentifierReserved text = true → context.Abbreviates id text) ∧
        ∀ (options : Resolver.Options) (rules : Dtmi.Rules) (known : List Scope),
          Session { Resolver.released options with rules } resolver known →
          Text.startsWith id Dtmi.lead = true → ∀ text, context.expand? id = some text →
            final.resolver.isIdentifierReserved text = false := by
  intro final
  refine ⟨elements_eq_stages resolver documents log, ?_⟩
  intro stage member element resolved model
  have undeclared := Item.undeclared_of_model resolved model
  obtain ⟨context, processed, rfl, free⟩ :=
    (Item.resolve_eq_some_of_undeclared undeclared).mp resolved
  refine ⟨context, processed, ⟨rfl, rfl, rfl⟩, ?_⟩
  intro id named
  have catalogs (identifier : String) : final.resolver.isIdentifierReserved identifier =
      stage.resolver.isIdentifierReserved identifier := by
    have session : Session resolver resolver [Scope.empty] := .opened
    obtain ⟨_, reached⟩ := session_of_mem_stages session member
    rw [isIdentifierReserved_of_session reached]
    exact Resolver.isIdentifierReserved_run resolver [.batch documents log] identifier
  have unreserved : final.resolver.isIdentifierReserved id = false := by
    rw [catalogs]
    exact free id named
  refine ⟨unreserved, ?abbreviated, ?identifier⟩
  case abbreviated =>
    intro text expanded reserved
    rcases Context.Resolved.expand?_cases expanded with rfl | abbreviates
    · simp [unreserved] at reserved
    · exact abbreviates
  case identifier =>
    intro options rules known session begins text expanded
    obtain ⟨_, reached⟩ := session_of_mem_stages session member
    obtain ⟨_, stack, -, -, understood⟩ := Item.context?_eq_some.mp processed
    have fixed := reached.expand?_of_lead understood (by simp) begins
    rw [fixed, Option.some.injEq] at expanded
    rw [← expanded, unreserved]

/-- A document with one interface, which is given an identifier. -/
def interface (id : String) : Document :=
  ⟨"interface.json", .object [("@id", .string id), ("@type", .string "Interface"),
    ("@context", .string "dtmi:dtdl:context;3")]⟩

/-- The interface is resolved if its identifier is free. -/
theorem exists_stage_of_interface {id : String} {context : Context.Resolved}
    (processed : ((Resolver.released .default).process
      ⟨[.remote "dtmi:dtdl:context;3"]⟩ none).result = some context)
    (free : (Resolver.released .default).isIdentifierReserved id = false) :
    ∃ stage ∈ stages (Resolver.released .default) (items [interface id]), ∃ element,
      stage.context? = some context ∧ stage.element? = some element ∧ element.kind = .model ∧
        element.id = some id := by
  let item : Item := ⟨"interface.json", 0, (interface id).content⟩
  have understood : item.context? (Resolver.released .default) = some context :=
    Item.context?_eq_some.mpr ⟨_, _, rfl, rfl, processed⟩
  have named : item.id? = some id := rfl
  have resolved : (item.resolve (Resolver.released .default)).1.result =
      some (item.model context) := by
    refine (Item.resolve_eq_some_of_undeclared rfl).mpr ⟨context, understood, rfl, ?_⟩
    rw [named]
    simpa using free
  exact ⟨⟨item, Resolver.released .default⟩, List.mem_cons_self, item.model context,
    understood, resolved, rfl, named⟩

/-- An interface with an identifier of its own bears no reserved one in any spelling. -/
theorem process_unreserved_rose :
    let final := process (Resolver.released .default) [interface "dtmi:com:example:rose;1"]
      Log.empty
    ∃ stage ∈ stages (Resolver.released .default) (items [interface "dtmi:com:example:rose;1"]),
      ∃ element context, stage.element? = some element ∧ stage.context? = some context ∧
        Shows element context ∧ element.id = some "dtmi:com:example:rose;1" ∧
        final.resolver.isIdentifierReserved "dtmi:com:example:rose;1" = false ∧
        ∀ text, context.expand? "dtmi:com:example:rose;1" = some text →
          final.resolver.isIdentifierReserved text = false := by
  intro final
  have resolves : ((Resolver.released .default).process
      ⟨[.remote "dtmi:dtdl:context;3"]⟩ none).result.isSome = true := by
    decide +kernel
  obtain ⟨language, processed⟩ := Option.isSome_iff_exists.mp resolves
  have free : (Resolver.released .default).isIdentifierReserved
      "dtmi:com:example:rose;1" = false := by
    rw [← Bool.not_eq_true]
    intro reserved
    rcases Resolver.reserved_cases_released reserved with own | ⟨standard, -⟩
    · exact absurd own (by decide +kernel)
    · exact absurd standard (by decide +kernel)
  obtain ⟨stage, member, element, -, resolved, model, named⟩ :=
    exists_stage_of_interface processed free
  obtain ⟨-, unreserved⟩ := process_unreserved (Resolver.released .default)
    [interface "dtmi:com:example:rose;1"] Log.empty
  obtain ⟨context, understood, shows, each⟩ := unreserved stage member element resolved model
  obtain ⟨written, -, expanded⟩ := each "dtmi:com:example:rose;1" named
  exact ⟨stage, member, element, context, resolved, understood, shows, named, written,
    expanded .default .released [Scope.empty] .opened (by decide)⟩

/-- An interface may go by an abbreviation of a reserved identifier: its own context expands what
is written as its identifier to the class of interfaces. -/
theorem reserved_of_process_interface :
    let final := process (Resolver.released .default) [interface "dtdl:class:Interface;3"]
      Log.empty
    ∃ stage ∈ stages (Resolver.released .default) (items [interface "dtdl:class:Interface;3"]),
      ∃ element context, stage.element? = some element ∧ element ∈ final.elements ∧
        element.kind = .model ∧ stage.context? = some context ∧
        element.id = some "dtdl:class:Interface;3" ∧
        context.expand? "dtdl:class:Interface;3" = some "dtmi:dtdl:class:Interface;3" ∧
        final.resolver.isIdentifierReserved "dtmi:dtdl:class:Interface;3" = true := by
  intro final
  have expands : ((Resolver.released .default).process
      ⟨[.remote "dtmi:dtdl:context;3"]⟩ none).result.bind
        (·.expand? "dtdl:class:Interface;3") = some "dtmi:dtdl:class:Interface;3" := by
    decide +kernel
  obtain ⟨context, processed, expanded⟩ := Option.bind_eq_some_iff.mp expands
  have free : (Resolver.released .default).isIdentifierReserved
      "dtdl:class:Interface;3" = false := by
    rw [← Bool.not_eq_true]
    intro reserved
    rcases Resolver.reserved_cases_released reserved with own | ⟨standard, -⟩
    · exact absurd own (by decide +kernel)
    · exact absurd standard (by decide +kernel)
  obtain ⟨stage, member, element, understood, resolved, model, named⟩ :=
    exists_stage_of_interface processed free
  refine ⟨stage, member, element, context, resolved, ?given, model, understood, named, expanded,
    ?reserved⟩
  case given =>
    rw [elements_eq_stages]
    exact List.mem_filterMap.mpr ⟨stage, member, resolved⟩
  case reserved =>
    have recorded : context.language ∈ Language.history.versions :=
      Resolver.language_mem_of_resolveStack processed
    have declared : "dtmi:dtdl:" ∈ context.language.prefixes.values :=
      List.mem_map.mpr ⟨("dtdl", "dtmi:dtdl:"),
        Table.mem_entries_of_get? (Language.expansion?_of_mem recorded), rfl⟩
    have language : Language.history.isIdentifierReserved "dtmi:dtdl:class:Interface;3" = true :=
      Language.built_history.faithful.isIdentifierReserved_of_expansion recorded declared
        (by decide +kernel)
    have same : final.resolver.isIdentifierReserved "dtmi:dtdl:class:Interface;3" =
        (Resolver.released .default).isIdentifierReserved "dtmi:dtdl:class:Interface;3" :=
      Resolver.isIdentifierReserved_run _ [.batch _ Log.empty] _
    rw [same, Resolver.isIdentifierReserved, List.any_cons, Bool.or_eq_true]
    exact .inl language

end Batch

end Dtdl
