import Dtdl.Proofs.Provenance
import Dtdl.Proofs.Recording

/-!
# Short names

An identifier is shown by a term that stands for it, if the language or one of its extensions has
one.  Several versions may have one, under several terms, and a version may have several terms for
it; what models must not define is gathered apart from all of them.

The main statement says which term is taken: the language comes before its extensions and these
come in the order of their table, an earlier version comes before a later one, and in a version the
earlier term.  An identifier that has a short name is reserved, and one that no version has a term
for is shown as it is.  What documents register makes no difference to either.
-/

namespace Dtdl

namespace History

/-- Whether some version of a history has a term for an identifier. -/
def Knows (history : History) (text : String) : Prop :=
  ∃ vocabulary ∈ history.versions, ∃ entry ∈ vocabulary.terms.entries, entry.2.text = text

theorem termFor?_eq_none_iff {history : History} {text : String} :
    history.termFor? text = none ↔ ¬history.Knows text := by
  simp only [termFor?_eq_none, Knows, not_exists, not_and, ne_eq]

/-- The first term that stands for an identifier: in the first history that has one, there in the
earliest version that has one, and there in the first entry. -/
inductive FirstTerm (histories : List History) (text term : String) : Prop
  | mk {passed rest : List History} {history : History}
      {earlier later : List Vocabulary} {vocabulary : Vocabulary}
      {before behind : List (String × Identifier)} {identifier : Identifier}
      (family : histories = passed ++ history :: rest)
      (unknown : ∀ other ∈ passed, ¬other.Knows text)
      (version : history.versions = earlier ++ vocabulary :: later)
      (unmapped : ∀ other ∈ earlier, ∀ entry ∈ other.terms.entries, entry.2.text ≠ text)
      (entry : vocabulary.terms.entries = before ++ (term, identifier) :: behind)
      (unlike : ∀ entry ∈ before, entry.2.text ≠ text)
      (stands : identifier.text = text)

theorem firstTerm_iff {histories : List History} {text term : String} :
    FirstTerm histories text term ↔ histories.findSome? (·.termFor? text) = some term := by
  simp only [List.findSome?_eq_some_iff, termFor?_eq_some, termFor?_eq_none_iff]
  constructor
  · rintro ⟨family, unknown, version, unmapped, entry, unlike, stands⟩
    exact ⟨_, _, _, family, ⟨_, _, _, _, _, _, version, unmapped, entry, unlike, stands⟩, unknown⟩
  · rintro ⟨_, _, _, family, ⟨_, _, _, _, _, _, version, unmapped, entry, unlike, stands⟩, unknown⟩
    exact .mk family unknown version unmapped entry unlike stands

theorem isSome_termFor?_iff {history : History} {text : String} :
    (history.termFor? text).isSome = true ↔ history.Knows text := by
  rw [← Option.ne_none_iff_isSome, ne_eq, termFor?_eq_none_iff, Classical.not_not]

/-- There is a first term as soon as there is one. -/
theorem exists_firstTerm_iff {histories : List History} {text : String} :
    (∃ term, FirstTerm histories text term) ↔ ∃ history ∈ histories, history.Knows text := by
  simp only [firstTerm_iff, ← Option.isSome_iff_exists, List.findSome?_isSome_iff,
    isSome_termFor?_iff]

end History

namespace Resolver

open History (FirstTerm Knows)

variable {resolver : Resolver} {text : String}

/-- The histories that a resolver was given, the language first. -/
def given (resolver : Resolver) : List History :=
  resolver.language :: resolver.endogenous.values

theorem shortName_of_firstTerm {term : String}
    (first : FirstTerm resolver.given text term) : resolver.shortName text = term := by
  have found : (resolver.language :: resolver.endogenous.values).findSome?
      (·.termFor? text) = some term := History.firstTerm_iff.mp first
  rw [shortName, found, Option.getD_some]

theorem shortName_of_unknown (unknown : ∀ history ∈ resolver.given, ¬history.Knows text) :
    resolver.shortName text = text := by
  have nothing : (resolver.language :: resolver.endogenous.values).findSome?
      (·.termFor? text) = none := by
    rw [List.findSome?_eq_none_iff]
    exact fun history listed => History.termFor?_eq_none_iff.mpr (unknown history listed)
  rw [shortName, nothing, Option.getD_none]

/-- A history that was built by adding versions reserves all that it has a term for. -/
theorem Fresh.isIdentifierReserved (fresh : Fresh resolver)
    (known : ∃ history ∈ resolver.given, history.Knows text) :
    resolver.isIdentifierReserved text = true := by
  obtain ⟨history, listed, vocabulary, recorded, entry, term, stands⟩ := known
  have built : history.Built := by
    cases fresh with
    | mk rules options languageBuilt endogenousBuilt =>
        rcases List.mem_cons.mp listed with rfl | endogenous
        · exact languageBuilt
        · exact endogenousBuilt history endogenous
  have reserved : history.isIdentifierReserved text = true :=
    built.faithful.isIdentifierReserved_iff_entries.mpr
      ⟨vocabulary, recorded, .inl ⟨entry, term, stands⟩⟩
  exact List.any_eq_true.mpr ⟨history, listed, reserved⟩

theorem given_run (resolver : Resolver) (operations : List Operation) :
    (resolver.run operations).given = resolver.given := by
  obtain ⟨exogenous, reached⟩ := run_frame resolver operations
  rw [reached]
  rfl

theorem shortName_run (resolver : Resolver) (operations : List Operation) (text : String) :
    (resolver.run operations).shortName text = resolver.shortName text := by
  obtain ⟨exogenous, reached⟩ := run_frame resolver operations
  rw [reached]
  rfl

/-- After any operations, an identifier that some version of the language or of one of its
extensions has a term for is shown by the first such term, and it is reserved; any other identifier
is shown as it is.  No operation changes what an identifier is shown by or whether it is
reserved. -/
theorem shortName_first (fresh : Fresh resolver) (operations : List Operation) (text : String) :
    let reached := resolver.run operations
    ((∃ history ∈ resolver.given, history.Knows text) →
      ∃ term, FirstTerm resolver.given text term ∧ reached.shortName text = term ∧
        reached.isIdentifierReserved text = true) ∧
    ((∀ history ∈ resolver.given, ¬history.Knows text) → reached.shortName text = text) ∧
    reached.given = resolver.given ∧ reached.shortName text = resolver.shortName text ∧
    reached.isIdentifierReserved text = resolver.isIdentifierReserved text := by
  intro reached
  have shown := shortName_run resolver operations text
  have reserves := isIdentifierReserved_run resolver operations text
  refine ⟨?known, ?unknown, given_run resolver operations, shown, reserves⟩
  case known =>
    intro known
    obtain ⟨term, first⟩ := History.exists_firstTerm_iff.mpr known
    exact ⟨term, first, shown.trans (shortName_of_firstTerm first),
      reserves.trans (fresh.isIdentifierReserved known)⟩
  case unknown => exact fun unknown => shown.trans (shortName_of_unknown unknown)

/-- An extension in which two versions have a term for the same identifier. -/
def seasons : History :=
  .offered "dtmi:com:example:seasons" [History.spring, History.summer]

/-- A resolver over a small language and that extension. -/
def seasonal : Resolver :=
  { minimal with endogenous := Table.ofList [("dtmi:com:example:seasons", seasons)] }

/-- The earlier of two terms is taken, and a term that a document has registered is not. -/
theorem shortName_first_seasonal :
    let reached := seasonal.run [.register "dtmi:com:example:plants;1" plants]
    reached.exogenous.names = ["dtmi:com:example:plants"] ∧
      FirstTerm seasonal.given "dtmi:com:example:Plant" "Plant" ∧
      reached.shortName "dtmi:com:example:Plant" = "Plant" ∧
      reached.isIdentifierReserved "dtmi:com:example:Plant" = true ∧
      reached.shortName "dtmi:com:example:Plant;1" = "dtmi:com:example:Plant;1" := by
  intro reached
  have fresh : Fresh seasonal := by
    refine .mk .released .default ((History.Built.empty Language.name).add _) ?_
    intro history listed
    obtain ⟨entry, member, rfl⟩ := List.mem_map.mp listed
    have only := List.mem_singleton.mp (Table.mem_of_mem_entries_ofList member)
    rw [only]
    exact History.built_offered _ _
  have first : FirstTerm seasonal.given "dtmi:com:example:Plant" "Plant" :=
    History.firstTerm_iff.mpr (by decide +kernel)
  have nowhere : ∀ history ∈ seasonal.given,
      history.termFor? "dtmi:com:example:Plant;1" = none := by
    decide +kernel
  have known := History.exists_firstTerm_iff.mp ⟨"Plant", first⟩
  have unknown : ∀ history ∈ seasonal.given, ¬history.Knows "dtmi:com:example:Plant;1" :=
    fun history listed => History.termFor?_eq_none_iff.mp (nowhere history listed)
  let operations : List Operation := [.register "dtmi:com:example:plants;1" plants]
  obtain ⟨shown, -⟩ := shortName_first fresh operations "dtmi:com:example:Plant"
  obtain ⟨-, itself, -⟩ := shortName_first fresh operations "dtmi:com:example:Plant;1"
  obtain ⟨term, found, named, reserved⟩ := shown known
  have same : term = "Plant" := by
    rw [← shortName_of_firstTerm found, shortName_of_firstTerm first]
  exact ⟨by decide +kernel, first, same ▸ named, reserved, itself unknown⟩

end Resolver

end Dtdl
