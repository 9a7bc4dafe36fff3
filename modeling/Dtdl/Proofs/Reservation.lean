import Dtdl.Extension
import Dtdl.Language

/-!
# What a history reserves

A history gathers the names, identifiers and expansions that it reserves while versions
are added to it.  For a history that was built by adding versions, what is gathered is
what the recorded versions define, so a question about a reservation is a question about
the versions.
-/

namespace Dtdl.History

/-- The histories that come about by adding versions to an empty one, whether they are
accepted or refused. -/
inductive Built : History → Prop
  | empty (name : String) : Built (empty name)
  | add {history : History} (built : Built history) (vocabulary : Vocabulary) :
      Built (history.add vocabulary).2

/-- What is gathered agrees with the recorded versions. -/
structure Faithful (history : History) : Prop where
  distinct : history.available.Nodup
  terms : ∀ name, name ∈ history.reservedTerms ↔
    ∃ vocabulary ∈ history.versions, vocabulary.defines name = true
  identifiers : ∀ text, text ∈ history.reservedIdentifiers ↔
    ∃ vocabulary ∈ history.versions, ∃ identifier ∈ vocabulary.terms.values,
      identifier.text = text
  prefixes : ∀ expansion, expansion ∈ history.reservedPrefixes ↔
    ∃ vocabulary ∈ history.versions, expansion ∈ vocabulary.prefixes.values

theorem Faithful.append {history : History} (faithful : history.Faithful)
    {vocabulary : Vocabulary} (absent : vocabulary.version ∉ history.available) :
    (history.append vocabulary).Faithful where
  distinct := nodup_available_append faithful.distinct absent
  terms name := by
    simp [History.append, faithful.terms, or_and_right, exists_or]
  identifiers text := by
    simp [History.append, faithful.identifiers, or_and_right, exists_or]
  prefixes expansion := by
    simp [History.append, faithful.prefixes, or_and_right, exists_or]

/-- By induction on the versions that were added; a refused one changes nothing. -/
theorem Built.faithful {history : History} (built : history.Built) : history.Faithful := by
  induction built with
  | empty name => constructor <;> simp [History.empty, available]
  | @add history built vocabulary ih =>
      by_cases present : vocabulary.version ∈ history.available
      · rw [add_of_mem present]
        exact ih
      · rw [add_of_not_mem present]
        exact ih.append present

theorem Faithful.isTermReserved_iff {history : History} (faithful : history.Faithful)
    {name : String} :
    history.isTermReserved name = true ↔
      ∃ vocabulary ∈ history.versions, vocabulary.defines name = true := by
  rw [isTermReserved, List.contains_iff_mem, faithful.terms]

/-- An identifier is reserved if and only if some recorded version has a term for it or a
prefix that it lies under. -/
theorem Faithful.isIdentifierReserved_iff {history : History} (faithful : history.Faithful)
    {text : String} :
    history.isIdentifierReserved text = true ↔
      (∃ vocabulary ∈ history.versions, ∃ identifier ∈ vocabulary.terms.values,
        identifier.text = text) ∨
      ∃ vocabulary ∈ history.versions, ∃ expansion ∈ vocabulary.prefixes.values,
        Text.startsWith text expansion = true := by
  rw [isIdentifierReserved, Bool.or_eq_true, List.contains_iff_mem, faithful.identifiers,
    List.any_eq_true]
  refine or_congr_right ⟨?_, ?_⟩
  · rintro ⟨expansion, gathered, lies⟩
    obtain ⟨vocabulary, recorded, declared⟩ := (faithful.prefixes expansion).mp gathered
    exact ⟨vocabulary, recorded, expansion, declared, lies⟩
  · rintro ⟨vocabulary, recorded, expansion, declared, lies⟩
    exact ⟨expansion, (faithful.prefixes expansion).mpr ⟨vocabulary, recorded, declared⟩, lies⟩

theorem Faithful.isIdentifierReserved_of_expansion {history : History}
    (faithful : history.Faithful) {vocabulary : Vocabulary}
    (recorded : vocabulary ∈ history.versions) {expansion identifier : String}
    (declared : expansion ∈ vocabulary.prefixes.values)
    (lies : Text.startsWith identifier expansion = true) :
    history.isIdentifierReserved identifier = true :=
  faithful.isIdentifierReserved_iff.mpr (.inr ⟨vocabulary, recorded, expansion, declared, lies⟩)

theorem Built.foldl {Source : Type} (vocabulary : Source → Vocabulary) {history : History}
    (built : history.Built) (sources : List Source) :
    (sources.foldl (fun history source => (history.add (vocabulary source)).2) history).Built := by
  induction sources generalizing history with
  | nil => exact built
  | cons source rest ih => exact ih (built.add (vocabulary source))

end Dtdl.History

namespace Dtdl

theorem Language.built_history : Language.history.Built :=
  (History.Built.empty Language.name).foldl id Language.versions

theorem Extension.Family.built_history (family : Extension.Family) : family.history.Built :=
  (History.Built.empty family.name).foldl family.vocabulary family.releases

end Dtdl
