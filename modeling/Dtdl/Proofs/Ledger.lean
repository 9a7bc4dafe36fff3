import Dtdl.Proofs.Omission
import Dtdl.Proofs.Provenance

/-!
# The ledger of a batch

A batch gives back the elements that it has resolved.  The table of declared extensions, which
decides what an element may refer to, stays inside.  But nothing in it is hidden: it is a ledger
that holds what the resolved extension contexts show, and nothing else, at every point of the
batch.

That is the invariant here.  It makes an order visible in the elements that are given back: what
a model refers to and is not one of the given extensions was declared by an element before it.
-/

namespace Dtdl

/-- The registration that a resolved element shows if it is an extension context.  Its name and
its version are those of the identifier. -/
def Element.registration? (element : Element) : Option Resolver.Registration :=
  match element.kind with
  | .model => none
  | .extensionContext =>
      (element.id.bind Dtmi.parse?).map fun dtmi =>
        ⟨dtmi.name, element.language,
          ⟨dtmi.version, element.scope.terms, element.scope.prefixes⟩⟩

namespace Resolver

/-! ## Registrations in a table -/

/-- The vocabularies of the registrations under a name, in order. -/
def vocabulariesUnder (registrations : List Registration) (name : String) : List Vocabulary :=
  (registrations.filter (·.name = name)).map (·.vocabulary)

/-- Registrations by name: the names in the order of their first registration, and under each
name its vocabularies in order. -/
def grouped (registrations : List Registration) : List (String × List Vocabulary) :=
  (registrations.map (·.name)).eraseDups.map fun name =>
    (name, vocabulariesUnder registrations name)

/-- Whether a resolver has recorded some registrations, in order, and nothing else. -/
structure Records (resolver : Resolver) (registrations : List Registration) : Prop where
  names : resolver.exogenous.names = (registrations.map (·.name)).eraseDups
  versions : ∀ name, (resolver.family name).versions = vocabulariesUnder registrations name

variable {resolver : Resolver} {registrations : List Registration}

theorem records_ofHistories (language : History) (endogenous : Table History)
    (rules : Dtmi.Rules) (options : Options) :
    (ofHistories language endogenous rules options).Records [] where
  names := rfl
  versions _ := rfl

/-- A name at the end counts only if it is new. -/
theorem eraseDups_concat (names : List String) (name : String) :
    (names ++ [name]).eraseDups =
      if name ∈ names then names.eraseDups else names.eraseDups ++ [name] := by
  rw [List.eraseDups_append]
  split
  · next present => simp [List.removeAll, present]
  · next absent => simp [List.removeAll, absent, List.eraseDups_cons]

theorem Records.extend (records : resolver.Records registrations) (registration : Registration) :
    (resolver.extend registration).Records (registrations ++ [registration]) where
  names := by
    rw [Resolver.extend, Table.names_insert, records.names, List.map_append, List.map_singleton,
      eraseDups_concat]
    simp only [List.mem_eraseDups]
  versions name := by
    rw [family_extend, vocabulariesUnder, List.filter_append, List.map_append,
      ← vocabulariesUnder, ← records.versions name]
    by_cases same : name = registration.name
    · simp [same]
    · simp [same, Ne.symm same]

/-- The table lists the registrations by name. -/
theorem Records.entries (records : resolver.Records registrations) :
    resolver.exogenous.entries.map (fun entry => (entry.1, entry.2.versions)) =
      grouped registrations := by
  have each : ∀ entry ∈ resolver.exogenous.entries,
      (entry.1, entry.2.versions) = (entry.1, vocabulariesUnder registrations entry.1) := by
    intro entry member
    rw [← records.versions, family, Table.get?_of_mem_entries member, Option.getD_some]
  calc
    _ = resolver.exogenous.entries.map fun entry =>
          (entry.1, vocabulariesUnder registrations entry.1) := List.map_congr_left each
    _ = resolver.exogenous.names.map fun name =>
          (name, vocabulariesUnder registrations name) := by
      rw [Table.names, Entries.names, List.map_map]
      rfl
    _ = grouped registrations := by rw [records.names, grouped]

/-- A version that is recorded under a name was registered under it. -/
theorem Records.exists_registration (records : resolver.Records registrations) {name : String}
    {history : History} (known : resolver.exogenous.get? name = some history)
    {vocabulary : Vocabulary} (recorded : vocabulary ∈ history.versions) :
    ∃ registration ∈ registrations, registration.name = name ∧
      registration.vocabulary = vocabulary := by
  have versions := records.versions name
  rw [family, known, Option.getD_some] at versions
  rw [versions, vocabulariesUnder, List.mem_map] at recorded
  obtain ⟨registration, member, same⟩ := recorded
  rw [List.mem_filter, decide_eq_true_eq] at member
  exact ⟨registration, member.1, member.2, same⟩

end Resolver

/-- An affiliate is reported under its canonical specifier. -/
theorem Context.Affiliate.specifier_eq_canonical (affiliate : Context.Affiliate) :
    affiliate.specifier = Resolver.canonical affiliate.name affiliate.vocabulary.version := by
  rw [specifier, Resolver.canonical, String.append_assoc]

namespace Batch

open Resolver (Registration canonical grouped)

/-! ## The invariant -/

/-- Whether a specifier is the canonical one of a version of a given extension, or of one that
some elements show. -/
def Introduced (endogenous : Table History) (elements : List Element) (specifier : String) :
    Prop :=
  (∃ entry ∈ endogenous.entries, ∃ version ∈ entry.2.available,
    specifier = canonical entry.1 version) ∨
  ∃ element ∈ elements, ∃ registration ∈ element.registration?,
    specifier = canonical registration.name registration.vocabulary.version

/-- Whether every affiliate of an element was introduced by the elements before it. -/
def DefinedBeforeUse (endogenous : Table History) (elements : List Element) : Prop :=
  ∀ before element, before ++ [element] <+: elements →
    ∀ specifier ∈ element.affiliates, Introduced endogenous before specifier

theorem DefinedBeforeUse.concat {endogenous : Table History} {elements : List Element}
    (defined : DefinedBeforeUse endogenous elements) {element : Element}
    (last : ∀ specifier ∈ element.affiliates, Introduced endogenous elements specifier) :
    DefinedBeforeUse endogenous (elements ++ [element]) := by
  intro before other leads
  -- What leads up to an element is all of the list, or it was there before.
  rcases List.prefix_concat_iff.mp leads with whole | earlier
  · obtain ⟨rfl, same⟩ := List.append_inj' whole rfl
    rw [List.cons.injEq] at same
    rw [same.1]
    exact last
  · exact defined before other earlier

/-- Whether the language of an element is a recorded version that is not too new. -/
def Permitted (start : Resolver) (element : Element) : Prop :=
  (∃ vocabulary ∈ start.language.versions, element.language = vocabulary.version.major) ∧
    ∀ maximum ∈ start.options.maxVersion, element.language ≤ maximum

/-- What holds when some elements of a batch have been resolved. -/
structure Ledger (start reached : Resolver) (elements : List Element) : Prop where
  frame : ∃ exogenous, reached = { start with exogenous }
  records : reached.Records (elements.filterMap Element.registration?)
  shown : ∀ element ∈ elements,
    element.registration?.isSome = true ↔ element.kind = .extensionContext
  permitted : ∀ element ∈ elements, Permitted start element
  defined : DefinedBeforeUse start.endogenous elements

theorem ledger_ofHistories (language : History) (endogenous : Table History)
    (rules : Dtmi.Rules) (options : Resolver.Options) :
    let start := Resolver.ofHistories language endogenous rules options
    Ledger start start [] where
  frame := ⟨_, rfl⟩
  records := Resolver.records_ofHistories language endogenous rules options
  shown _ member := absurd member List.not_mem_nil
  permitted _ member := absurd member List.not_mem_nil
  defined before element leads := by simp at leads

variable {start reached : Resolver} {elements : List Element}

theorem Ledger.concat (ledger : Ledger start reached elements) {next : Resolver}
    {element : Element} (frame : ∃ exogenous, next = { start with exogenous })
    (records : next.Records
      (elements.filterMap Element.registration? ++ element.registration?.toList))
    (shown : element.registration?.isSome = true ↔ element.kind = .extensionContext)
    (permitted : Permitted start element)
    (last : ∀ specifier ∈ element.affiliates, Introduced start.endogenous elements specifier) :
    Ledger start next (elements ++ [element]) where
  frame := frame
  records := by
    rw [List.filterMap_append]
    cases registration : element.registration? <;>
      simpa [List.filterMap_cons, registration] using records
  shown := List.forall_mem_append.mpr ⟨ledger.shown, List.forall_mem_singleton.mpr shown⟩
  permitted :=
    List.forall_mem_append.mpr ⟨ledger.permitted, List.forall_mem_singleton.mpr permitted⟩
  defined := ledger.defined.concat last

/-! ## Models -/

theorem permitted_of_resolveStack {stack : Context.Stack} {parent : Scope} {owner : Owner}
    {missing : Problem} {context : Context.Resolved}
    (frame : ∃ exogenous, reached = { start with exogenous })
    (resolved : (reached.resolveStack stack parent owner missing).result = some context)
    {element : Element} (language : element.language = context.language.version.major) :
    Permitted start element := by
  have recorded := Resolver.language_mem_of_resolveStack resolved
  have below := Resolver.language_le_of_resolveStack resolved
  -- Both facts speak of what registrations leave alone.
  obtain ⟨exogenous, same⟩ := frame
  rw [same] at recorded below
  rw [Permitted, language]
  exact ⟨⟨context.language, recorded, rfl⟩, below⟩

/-- What is recorded for a reference was introduced by the elements so far. -/
theorem Ledger.introduced (ledger : Ledger start reached elements)
    {affiliate : Context.Affiliate} {history : History}
    (known : reached.history? affiliate.name = some history)
    (recorded : affiliate.vocabulary ∈ history.versions) :
    Introduced start.endogenous elements affiliate.specifier := by
  obtain ⟨exogenous, frame⟩ := ledger.frame
  have endogenous : reached.endogenous = start.endogenous := by rw [frame]
  rw [Resolver.history?, Option.or_eq_some_iff, endogenous] at known
  rw [affiliate.specifier_eq_canonical]
  rcases known with given | ⟨-, declared⟩
  · left
    have listed : affiliate.vocabulary.version ∈ history.available :=
      List.mem_map.mpr ⟨affiliate.vocabulary, recorded, rfl⟩
    exact ⟨(affiliate.name, history), Table.mem_entries_of_get? given, _, listed, rfl⟩
  · right
    obtain ⟨registration, member, name, vocabulary⟩ :=
      ledger.records.exists_registration declared recorded
    obtain ⟨element, listed, shows⟩ := List.mem_filterMap.mp member
    exact ⟨element, listed, registration, shows, by rw [name, vocabulary]⟩

/-- A model is entered without a registration, and refers to what was introduced. -/
theorem Ledger.model (ledger : Ledger start reached elements) {stack : Context.Stack}
    {context : Context.Resolved} (processed : (reached.process stack none).result = some context)
    (source : String) (index : Nat) (id : Option String) (types : List String) :
    Ledger start reached (elements ++ [⟨source, index, id, .model,
      context.language.version.major, context.affiliates.map (·.specifier), context.scope,
      types⟩]) := by
  apply ledger.concat ledger.frame
  case records => simpa [Element.registration?] using ledger.records
  case shown => simp [Element.registration?]
  case permitted => exact permitted_of_resolveStack ledger.frame processed rfl
  case last =>
    intro specifier member
    obtain ⟨affiliate, referred, rfl⟩ := List.mem_map.mp member
    obtain ⟨history, known, recorded⟩ :=
      Resolver.affiliate_recorded_of_resolveStack processed referred
    exact ledger.introduced known recorded

/-- An extension context is entered with its registration, and refers to nothing. -/
theorem Ledger.extension (ledger : Ledger start reached elements) {id : String}
    {stack : Context.Stack} {registration : Registration}
    (registered : (reached.register id stack).1.result = some registration)
    (source : String) (index : Nat) :
    Ledger start (reached.register id stack).2 (elements ++ [⟨source, index, some id,
      .extensionContext, registration.language, [],
      ⟨registration.vocabulary.terms, registration.vocabulary.prefixes, []⟩, []⟩]) := by
  obtain ⟨drafted, -, state⟩ := Resolver.register_eq_some registered
  obtain ⟨dtmi, context, parsed, -, -, -, resolved, rfl⟩ := Resolver.draft_eq_some drafted
  rw [state]
  apply ledger.concat
  case frame =>
    obtain ⟨exogenous, frame⟩ := ledger.frame
    rw [frame]
    exact ⟨_, rfl⟩
  case records =>
    simpa [Element.registration?, parsed] using ledger.records.extend _
  case shown => simp [Element.registration?, parsed]
  case permitted => exact permitted_of_resolveStack ledger.frame resolved rfl
  case last => simp

/-! ## Steps and batches -/

theorem Ledger.step {progress : Progress}
    (ledger : Ledger start progress.resolver progress.elements) (source : String) (index : Nat)
    (value : Json.Value) :
    Ledger start (progress.step source index value).resolver
      (progress.step source index value).elements := by
  rw [Progress.resolver_step, Progress.elements_step]
  cases found : (resolveElement progress.resolver source index value).1.result with
  | none =>
      rw [resolveElement_of_failed found, Option.toList_none, List.append_nil]
      exact ledger
  | some element =>
      rw [Option.toList_some]
      rcases resolveElement_eq_some found with
        ⟨id, stack, registration, registered, state, rfl⟩ |
        ⟨id, stack, types, context, processed, state, rfl⟩
      · rw [state]
        exact ledger.extension registered source index
      · rw [state]
        exact ledger.model processed source index id types

theorem ledger_process (language : History) (endogenous : Table History) (rules : Dtmi.Rules)
    (options : Resolver.Options) (documents : List Document) (log : Log) :
    let start := Resolver.ofHistories language endogenous rules options
    let final := process start documents log
    Ledger start final.resolver final.elements := by
  intro start final
  apply process_preserves (Ledger start) documents _ (ledger_ofHistories _ _ _ _) log
  intro document _ progress index value _ ledger
  exact ledger.step document.source index value

/-- Nothing is used before it is defined in a batch that a resolver begins with, and nothing is
lost.  Every affiliate of a resolved element is a version of a given extension or one that an
element before it has shown.  Every resolved element is written for a recorded version of the
language which is not above the maximum.  And the extensions that are recorded in the end are
those that the resolved extension contexts show, one version for each of them, by name in the
order of the elements. -/
theorem process_ledger (language : History) (endogenous : Table History) (rules : Dtmi.Rules)
    (options : Resolver.Options) (documents : List Document) (log : Log) :
    let start := Resolver.ofHistories language endogenous rules options
    let final := process start documents log
    DefinedBeforeUse endogenous final.elements ∧
    (∀ element ∈ final.elements, Permitted start element) ∧
    (∀ element ∈ final.elements,
      element.registration?.isSome = true ↔ element.kind = .extensionContext) ∧
    final.resolver.exogenous.entries.map (fun entry => (entry.1, entry.2.versions)) =
      grouped (final.elements.filterMap Element.registration?) := by
  intro start final
  have ledger := ledger_process language endogenous rules options documents log
  exact ⟨ledger.defined, ledger.permitted, ledger.shown, ledger.records.entries⟩

/-- A table with one given extension, which defines nothing. -/
def soil : Table History :=
  Table.ofList [("dtmi:dtdl:extension:soil",
    ((History.empty "dtmi:dtdl:extension:soil").add ⟨⟨2, 0⟩, Table.empty, Table.empty⟩).2)]

/-- Two versions of one extension with another extension in between, and a model that refers to
the later version and to a given extension. -/
def nursery : List Document :=
  let declared (id term : String) : Json.Value := .object
    [("@id", .string id),
      ("@context", .array [.string "dtmi:dtdl:context;3",
        .object [(term, .string "dtmi:com:example:Plant;1")]])]
  [⟨"plants.json", .array [declared "dtmi:com:example:plants;1" "Plant",
      declared "dtmi:com:example:trees;1" "Tree", declared "dtmi:com:example:plants;02" "Plant"]⟩,
    ⟨"rose.json", .object
      [("@id", .string "dtmi:com:example:rose;1"), ("@type", .string "Plant"),
        ("@context", .array [.string "dtmi:dtdl:context;3",
          .string "dtmi:dtdl:extension:soil;2", .string "dtmi:com:example:plants;2"])]⟩]

/-- The model is the fourth element.  It refers to the given extension and to the third element,
which is written with a leading zero. -/
theorem process_ledger_nursery :
    let start := Resolver.ofHistories Resolver.minimal.language soil .released ⟨some 3, false⟩
    let final := process start nursery Log.empty
    final.elements.map (·.affiliates) =
      [[], [], [], ["dtmi:dtdl:extension:soil;2", "dtmi:com:example:plants;2"]] ∧
    Introduced soil (final.elements.take 3) "dtmi:dtdl:extension:soil;2" ∧
    Introduced soil (final.elements.take 3) "dtmi:com:example:plants;2" ∧
    (∀ element ∈ final.elements, element.language ≤ 3) ∧
    final.resolver.exogenous.entries.map (fun entry => (entry.1, entry.2.versions)) =
      grouped (final.elements.filterMap Element.registration?) ∧
    final.resolver.exogenous.entries.map (fun entry => (entry.1, entry.2.available)) =
      [("dtmi:com:example:plants", [⟨1, 0⟩, ⟨2, 0⟩]), ("dtmi:com:example:trees", [⟨1, 0⟩])] := by
  intro start final
  obtain ⟨defined, permitted, -, entries⟩ :=
    process_ledger Resolver.minimal.language soil .released ⟨some 3, false⟩ nursery Log.empty
  have affiliates : final.elements.map (·.affiliates) =
      [[], [], [], ["dtmi:dtdl:extension:soil;2", "dtmi:com:example:plants;2"]] := by
    decide +kernel
  have dropped := congrArg (List.drop 3) affiliates
  rw [← List.map_drop] at dropped
  obtain ⟨model, last, refers⟩ := List.map_eq_singleton_iff.mp dropped
  have whole : final.elements.take 3 ++ [model] = final.elements := by
    rw [← last, List.take_append_drop]
  have leads : final.elements.take 3 ++ [model] <+: final.elements :=
    ⟨[], by rw [List.append_nil, whole]⟩
  have introduced := defined (final.elements.take 3) model leads
  rw [refers] at introduced
  refine ⟨affiliates, introduced _ (by simp), introduced _ (by simp), ?permitted, ?entries,
    ?table⟩
  case permitted =>
    intro element member
    exact (permitted element member).2 3 rfl
  case entries => simpa only [final, start] using entries
  case table => decide +kernel

end Batch

end Dtdl
