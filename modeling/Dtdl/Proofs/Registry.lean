import Dtdl.Proofs.Session

/-!
# The table of declared extensions

Four mechanisms keep the exogenous table in order and none of them looks at what the
others did: the test of reserved specifiers, the entering of a new family, the refusal of
a version that is already there, and the check of every declared name.  Here the facts
that each of them contributes are put together into what holds of every family in the
table, and that is shown to hold throughout every session.
-/

namespace Dtdl

/-- What holds of the vocabulary of a declared extension. -/
structure Vocabulary.Admissible (language : History) (vocabulary : Vocabulary) : Prop where
  names : ∀ name, vocabulary.defines name = true → Term.Admissible language name
  disjoint : ∀ name ∈ vocabulary.terms.names, name ∉ vocabulary.prefixes.names

theorem Vocabulary.Admissible.defines_eq_false {language : History} {vocabulary : Vocabulary}
    (admissible : vocabulary.Admissible language) {version : Vocabulary}
    (recorded : version ∈ language.versions) {name : String}
    (defined : version.defines name = true) : vocabulary.defines name = false := by
  rw [← Bool.not_eq_true]
  intro clash
  have unreserved := (admissible.names name clash).unreserved version recorded
  rw [defined] at unreserved
  contradiction

/-- The names under which documents may declare extensions. -/
structure History.Declarable (language : History) (endogenous : Table History) (name : String) :
    Prop where
  notLanguage : name ≠ Language.name
  notEndogenous : name ∉ endogenous.names
  unreserved : ∀ known ∈ language :: endogenous.values, ∀ vocabulary ∈ known.versions,
    ∀ expansion ∈ vocabulary.prefixes.values, Text.startsWith name expansion = false

/-- What holds of the versions that documents have declared under a name. -/
structure History.Orderly (history language : History) (name : String) : Prop where
  named : history.name = name
  distinct : history.available.Nodup
  versioned : ∀ version ∈ history.available, 1 ≤ version.major
  admissible : ∀ vocabulary ∈ history.versions, vocabulary.Admissible language

/-- What holds of the history that is recorded under a name in the exogenous table. -/
structure History.Declared (history language : History) (endogenous : Table History)
    (name : String) : Prop extends
    History.Declarable language endogenous name, History.Orderly history language name where
  nonempty : history.versions ≠ []

/-- What holds of an exogenous table: every entry is as it has to be. -/
def Registry (language : History) (endogenous table : Table History) : Prop :=
  ∀ entry ∈ table.entries, entry.2.Declared language endogenous entry.1

namespace History

theorem orderly_empty (language : History) (name : String) :
    (empty name).Orderly language name := by
  constructor <;> simp [empty, available]

theorem Orderly.append {language : History} {name : String} {history : History}
    (orderly : history.Orderly language name) {vocabulary : Vocabulary}
    (new : vocabulary.version ∉ history.available) (major : 1 ≤ vocabulary.version.major)
    (admissible : vocabulary.Admissible language) :
    (history.append vocabulary).Orderly language name where
  named := orderly.named
  distinct := nodup_available_append orderly.distinct new
  versioned version member := by
    rw [available_append, List.mem_append, List.mem_singleton] at member
    rcases member with member | same
    · exact orderly.versioned version member
    · exact same ▸ major
  admissible recorded member := by
    rw [versions_append, List.mem_append, List.mem_singleton] at member
    rcases member with member | same
    · exact orderly.admissible recorded member
    · exact same ▸ admissible

end History

namespace Resolver

variable {resolver : Resolver} {specifier : String} {stack : Context.Stack}

/-- The invariant of a session: the caches of the given histories can be trusted, and the
exogenous table is in order. -/
structure Sound (resolver : Resolver) : Prop where
  language : resolver.language.Faithful
  endogenous : ∀ history ∈ resolver.endogenous.values, history.Faithful
  registry : Registry resolver.language resolver.endogenous resolver.exogenous

theorem Fresh.sound (fresh : Fresh resolver) : resolver.Sound := by
  cases fresh with
  | mk rules options languageBuilt endogenousBuilt =>
      refine ⟨languageBuilt.faithful, fun history member => ?_, fun entry member => ?_⟩
      · exact (endogenousBuilt history member).faithful
      · simp [ofHistories] at member

/-- A name that is not reserved begins with no expansion that is given to a prefix. -/
theorem Sound.startsWith_eq_false (sound : resolver.Sound) {name : String}
    (leads : name.toList <+: specifier.toList)
    (unreserved : resolver.isIdentifierReserved specifier = false) :
    ∀ known ∈ resolver.language :: resolver.endogenous.values,
      ∀ vocabulary ∈ known.versions, ∀ expansion ∈ vocabulary.prefixes.values,
        Text.startsWith name expansion = false := by
  intro known member vocabulary recorded expansion declared
  have faithful : known.Faithful := by
    rcases List.mem_cons.mp member with same | member
    · exact same ▸ sound.language
    · exact sound.endogenous known member
  rw [← Bool.not_eq_true]
  intro begins
  have lies : Text.startsWith specifier expansion = true :=
    Text.startsWith_iff.mpr ((Text.startsWith_iff.mp begins).trans leads)
  have reserved := faithful.isIdentifierReserved_of_expansion recorded declared lies
  rw [isIdentifierReserved, List.any_eq_false] at unreserved
  exact unreserved known member reserved

/-- The names of a drafted vocabulary were checked when its block was layered over the
empty scope, so they are admissible and no term is a prefix as well. -/
theorem admissible_of_draft (faithful : resolver.language.Faithful) {registration : Registration}
    (drafted : (resolver.draft specifier stack).result = some registration) :
    registration.vocabulary.Admissible resolver.language := by
  obtain ⟨dtmi, context, -, -, -, -, resolved, rfl⟩ := draft_eq_some drafted
  have admissible :=
    admissible_of_resolveStack faithful (Scope.admissible_empty _) resolved
  constructor
  · intro name defined
    rcases Vocabulary.defines_iff.mp defined with term | expansion
    · exact admissible.names name (.inl term)
    · exact admissible.names name (.inr (.inl expansion))
  · exact admissible.unambiguous.terms_prefixes

/-- What documents have declared under a name so far is in order, if it is nothing too. -/
theorem Sound.orderly_family (sound : resolver.Sound) (name : String) :
    (resolver.family name).Orderly resolver.language name := by
  cases known : resolver.exogenous.get? name with
  | none =>
      rw [family, known]
      exact History.orderly_empty resolver.language name
  | some history =>
      rw [family, known]
      exact (sound.registry _ (Table.mem_entries_of_get? known)).toOrderly

/-- A registration that can be recorded keeps its family as it has to be. -/
theorem Sound.declared_append (sound : resolver.Sound) {registration : Registration}
    (drafted : (resolver.draft specifier stack).result = some registration)
    (new : registration.vocabulary.version ∉ (resolver.family registration.name).available) :
    ((resolver.family registration.name).append registration.vocabulary).Declared
      resolver.language resolver.endogenous registration.name := by
  have admissible := admissible_of_draft sound.language drafted
  obtain ⟨dtmi, context, parsed, -, versioned, unreserved, -, same⟩ := draft_eq_some drafted
  have name : registration.name = dtmi.name := by rw [same]
  have version : registration.vocabulary.version = dtmi.version := by rw [same]
  obtain ⟨notLanguage, notEndogenous, free⟩ := isExtensionReserved_eq_false.mp unreserved
  have major : 1 ≤ registration.vocabulary.version.major := by
    rw [version]
    simpa [Dtmi.isVersioned, Nat.one_le_iff_ne_zero] using versioned
  exact { (sound.orderly_family registration.name).append new major admissible with
    notLanguage := name ▸ notLanguage
    notEndogenous := name ▸ notEndogenous
    unreserved := sound.startsWith_eq_false (name ▸ Dtmi.name_prefix_of_parse? parsed) free
    nonempty := by simp [History.append] }

theorem Sound.register (sound : resolver.Sound) (specifier : String) (stack : Context.Stack) :
    (resolver.register specifier stack).2.Sound := by
  rcases register_cases resolver specifier stack with
    ⟨-, state⟩ | ⟨registration, drafted, new, -, state⟩
  · rw [state]
    exact sound
  · rw [state]
    refine ⟨sound.language, sound.endogenous, fun entry member => ?_⟩
    rcases Table.mem_entries_insert member with same | member
    · rw [same]
      exact sound.declared_append drafted new
    · exact sound.registry entry member

theorem Sound.after (sound : resolver.Sound) (operation : Operation) :
    (resolver.after operation).Sound :=
  after_preserves Sound (fun _ specifier stack sound => sound.register specifier stack) sound
    operation

theorem Sound.run (sound : resolver.Sound) (operations : List Operation) :
    (resolver.run operations).Sound :=
  run_preserves Sound (fun _ specifier stack sound => sound.register specifier stack) sound
    operations

/-- The exogenous table is in order after every session. -/
theorem registry_of_run (fresh : Fresh resolver) (operations : List Operation) :
    Registry resolver.language resolver.endogenous (resolver.run operations).exogenous := by
  have sound : (resolver.run operations).Sound :=
    run_preserves Sound (fun _ specifier stack sound => sound.register specifier stack)
      fresh.sound operations
  obtain ⟨exogenous, reached⟩ := run_frame resolver operations
  have registry := sound.registry
  rwa [reached] at registry ⊢

/-- Two versions of a family are recorded, and a third registration is refused. -/
theorem registry_of_run_plants :
    let operations : List Operation :=
      [.register "dtmi:com:example:plants;1" plants, .register "dtmi:com:example:plants;2" plants,
        .register "dtmi:com:example:plants;1" plants]
    (minimal.run operations).exogenous.entries.map
        (fun entry => (entry.1, entry.2.available)) =
      [("dtmi:com:example:plants", [⟨1, 0⟩, ⟨2, 0⟩])] ∧
    Registry minimal.language minimal.endogenous (minimal.run operations).exogenous := by
  intro operations
  have fresh : Fresh minimal :=
    .mk .released .default ((History.Built.empty Language.name).add _)
      fun history member => absurd member List.not_mem_nil
  exact ⟨by decide +kernel, registry_of_run fresh operations⟩

end Resolver

end Dtdl
