import Dtdl.Proofs.Reservation
import Mathlib.Data.List.Nodup

/-!
# What a history answers

A history is asked about names, identifiers and version numbers.  Some of the answers are looked
up among the recorded versions and some in what was gathered while they were recorded, and
versions may be offered that are refused.

The main statement gives every answer by the recorded versions alone, whatever was offered and
in whichever order.  It follows that what is reserved stays so, and that the order in which
versions are recorded makes no difference to what is reserved.
-/

namespace Dtdl

/-! ## Looking up terms -/

namespace Vocabulary

variable {vocabulary : Vocabulary} {text term : String}

theorem termFor?_eq_none :
    vocabulary.termFor? text = none ↔
      ∀ entry ∈ vocabulary.terms.entries, entry.2.text ≠ text := by
  simp [termFor?]

theorem termFor?_eq_some :
    vocabulary.termFor? text = some term ↔
      ∃ before identifier behind,
        vocabulary.terms.entries = before ++ (term, identifier) :: behind ∧
        (∀ entry ∈ before, entry.2.text ≠ text) ∧ identifier.text = text := by
  rw [termFor?, Option.map_eq_some_iff]
  simp only [List.find?_eq_some_iff_append, decide_eq_true_eq, Bool.not_eq_true',
    decide_eq_false_iff_not]
  constructor
  · rintro ⟨⟨name, identifier⟩, ⟨stands, before, behind, split, unlike⟩, rfl⟩
    exact ⟨before, identifier, behind, split, unlike, stands⟩
  · rintro ⟨before, identifier, behind, split, unlike, stands⟩
    exact ⟨(term, identifier), ⟨stands, before, behind, split, unlike⟩, rfl⟩

end Vocabulary

namespace History

/-- The history of versions that are offered one after the other, whether they are accepted or
refused. -/
def offered (name : String) (offers : List Vocabulary) : History :=
  offers.foldl (fun history vocabulary => (history.add vocabulary).2) (empty name)

theorem built_offered (name : String) (offers : List Vocabulary) : (offered name offers).Built :=
  (Built.empty name).foldl id offers

/-- What a history has to answer, told by the recorded versions. -/
structure Answers (history : History) : Prop where
  terms : ∀ name, history.isTermReserved name = true ↔
    ∃ vocabulary ∈ history.versions,
      name ∈ vocabulary.terms.names ∨ name ∈ vocabulary.prefixes.names
  identifiers : ∀ text, history.isIdentifierReserved text = true ↔
    ∃ vocabulary ∈ history.versions,
      (∃ entry ∈ vocabulary.terms.entries, entry.2.text = text) ∨
        ∃ entry ∈ vocabulary.prefixes.entries, entry.2.toList <+: text.toList
  /-- A number is that of one recorded version at most. -/
  versions : ∀ number vocabulary, history.find? number = some vocabulary ↔
    vocabulary ∈ history.versions ∧ vocabulary.version = number
  /-- The first term for an identifier in the earliest version that has one. -/
  lookups : ∀ text term, history.termFor? text = some term ↔
    ∃ earlier vocabulary later before identifier behind,
      history.versions = earlier ++ vocabulary :: later ∧
      (∀ other ∈ earlier, ∀ entry ∈ other.terms.entries, entry.2.text ≠ text) ∧
      vocabulary.terms.entries = before ++ (term, identifier) :: behind ∧
      (∀ entry ∈ before, entry.2.text ≠ text) ∧ identifier.text = text
  /-- What is found is reserved, and so is what it is found for. -/
  reserved : ∀ text term, history.termFor? text = some term →
    history.isIdentifierReserved text = true ∧ history.isTermReserved term = true

/-- Whether two histories reserve the same names and identifiers. -/
structure ReservesAlike (left right : History) : Prop where
  terms : ∀ name, left.isTermReserved name = right.isTermReserved name
  identifiers : ∀ text, left.isIdentifierReserved text = right.isIdentifierReserved text

/-! ## Looking up versions -/

theorem find?_add (history : History) (vocabulary : Vocabulary) (number : Version) :
    (history.add vocabulary).2.find? number =
      (history.find? number).or
        (if vocabulary.version = number then some vocabulary else none) := by
  by_cases present : vocabulary.version ∈ history.available
  · rw [add_of_mem present]
    by_cases same : vocabulary.version = number
    · have found : (history.find? number).isSome = true := by
        obtain ⟨recorded, member, version⟩ := List.mem_map.mp (same ▸ present)
        exact List.find?_isSome.mpr ⟨recorded, member, decide_eq_true version⟩
      obtain ⟨recorded, found⟩ := Option.isSome_iff_exists.mp found
      rw [found, Option.some_or]
    · rw [if_neg same, Option.or_none]
  · rw [add_of_not_mem present, find?, versions_append, List.find?_append, ← find?]
    by_cases same : vocabulary.version = number <;> simp [same]

/-- By induction on the offers.  A version that was there before is found first. -/
theorem find?_foldl_add (history : History) (offers : List Vocabulary) (number : Version) :
    (offers.foldl (fun history vocabulary => (history.add vocabulary).2) history).find? number =
      (history.find? number).or (offers.find? (·.version = number)) := by
  induction offers generalizing history with
  | nil => exact (Option.or_none).symm
  | cons vocabulary rest ih =>
      rw [List.foldl_cons, ih, find?_add, Option.or_assoc]
      by_cases same : vocabulary.version = number <;> simp [same]

/-- Under every number the first version that was offered is recorded. -/
theorem find?_offered (name : String) (offers : List Vocabulary) (number : Version) :
    (offered name offers).find? number = offers.find? (·.version = number) := by
  rw [offered, find?_foldl_add]
  rfl

theorem Faithful.find?_eq_some {history : History} (faithful : history.Faithful)
    {number : Version} {vocabulary : Vocabulary} :
    history.find? number = some vocabulary ↔
      vocabulary ∈ history.versions ∧ vocabulary.version = number := by
  refine ⟨mem_of_find?, ?_⟩
  rintro ⟨recorded, rfl⟩
  have found : (history.find? vocabulary.version).isSome = true :=
    List.find?_isSome.mpr ⟨vocabulary, recorded, decide_eq_true rfl⟩
  obtain ⟨other, found⟩ := Option.isSome_iff_exists.mp found
  obtain ⟨listed, version⟩ := mem_of_find? found
  rw [found, List.inj_on_of_nodup_map faithful.distinct listed recorded version]

/-! ## Answers -/

theorem termFor?_eq_none {history : History} {text : String} :
    history.termFor? text = none ↔
      ∀ vocabulary ∈ history.versions, ∀ entry ∈ vocabulary.terms.entries, entry.2.text ≠ text := by
  simp only [termFor?, List.findSome?_eq_none_iff, Vocabulary.termFor?_eq_none]

theorem termFor?_eq_some {history : History} {text term : String} :
    history.termFor? text = some term ↔
      ∃ earlier vocabulary later before identifier behind,
        history.versions = earlier ++ vocabulary :: later ∧
        (∀ other ∈ earlier, ∀ entry ∈ other.terms.entries, entry.2.text ≠ text) ∧
        vocabulary.terms.entries = before ++ (term, identifier) :: behind ∧
        (∀ entry ∈ before, entry.2.text ≠ text) ∧ identifier.text = text := by
  rw [termFor?, List.findSome?_eq_some_iff]
  simp only [Vocabulary.termFor?_eq_none, Vocabulary.termFor?_eq_some]
  constructor
  · rintro ⟨earlier, vocabulary, later, split, ⟨before, identifier, behind, found⟩, unlike⟩
    exact ⟨earlier, vocabulary, later, before, identifier, behind, split, unlike, found⟩
  · rintro ⟨earlier, vocabulary, later, before, identifier, behind, split, unlike, found⟩
    exact ⟨earlier, vocabulary, later, split, ⟨before, identifier, behind, found⟩, unlike⟩

section Reserved

variable {history : History} (faithful : history.Faithful)

include faithful

theorem Faithful.isTermReserved_iff_names {name : String} :
    history.isTermReserved name = true ↔
      ∃ vocabulary ∈ history.versions,
        name ∈ vocabulary.terms.names ∨ name ∈ vocabulary.prefixes.names := by
  rw [faithful.isTermReserved_iff]
  simp only [Vocabulary.defines_iff]

theorem Faithful.isIdentifierReserved_iff_entries {text : String} :
    history.isIdentifierReserved text = true ↔
      ∃ vocabulary ∈ history.versions,
        (∃ entry ∈ vocabulary.terms.entries, entry.2.text = text) ∨
          ∃ entry ∈ vocabulary.prefixes.entries, entry.2.toList <+: text.toList := by
  rw [faithful.isIdentifierReserved_iff]
  simp only [Table.values, List.mem_map, exists_exists_and_eq_and, Text.startsWith_iff,
    and_or_left, exists_or]

theorem Faithful.answers : history.Answers where
  terms _ := faithful.isTermReserved_iff_names
  identifiers _ := faithful.isIdentifierReserved_iff_entries
  versions _ _ := faithful.find?_eq_some
  lookups _ _ := termFor?_eq_some
  reserved text term found := by
    obtain ⟨vocabulary, recorded, found⟩ := List.exists_of_findSome?_eq_some found
    obtain ⟨before, identifier, behind, split, -, stands⟩ := Vocabulary.termFor?_eq_some.mp found
    have listed : (term, identifier) ∈ vocabulary.terms.entries := by simp [split]
    constructor
    · exact faithful.isIdentifierReserved_iff_entries.mpr
        ⟨vocabulary, recorded, .inl ⟨_, listed, stands⟩⟩
    · exact faithful.isTermReserved_iff_names.mpr
        ⟨vocabulary, recorded, .inl (List.mem_map_of_mem listed)⟩

end Reserved

/-- What is reserved is a matter of which versions are recorded. -/
theorem Faithful.reservesAlike {left right : History} (first : left.Faithful)
    (second : right.Faithful)
    (same : ∀ vocabulary, vocabulary ∈ left.versions ↔ vocabulary ∈ right.versions) :
    left.ReservesAlike right where
  terms name := by
    rw [Bool.eq_iff_iff, first.isTermReserved_iff_names, second.isTermReserved_iff_names]
    simp only [same]
  identifiers text := by
    rw [Bool.eq_iff_iff, first.isIdentifierReserved_iff_entries,
      second.isIdentifierReserved_iff_entries]
    simp only [same]

/-! ## Histories of offers -/

theorem mem_versions_offered {name : String} {offers : List Vocabulary}
    {vocabulary : Vocabulary} :
    vocabulary ∈ (offered name offers).versions ↔
      offers.find? (·.version = vocabulary.version) = some vocabulary := by
  rw [← find?_offered name, (built_offered name offers).faithful.find?_eq_some]
  exact (and_iff_left rfl).symm

theorem mem_versions_offered_of_consistent {name : String} {offers : List Vocabulary}
    (consistent : ∀ first ∈ offers, ∀ second ∈ offers,
      first.version = second.version → first = second)
    {vocabulary : Vocabulary} :
    vocabulary ∈ (offered name offers).versions ↔ vocabulary ∈ offers := by
  rw [mem_versions_offered]
  constructor
  · exact List.mem_of_find?_eq_some
  · intro listed
    have found : (offers.find? (·.version = vocabulary.version)).isSome = true :=
      List.find?_isSome.mpr ⟨vocabulary, listed, decide_eq_true rfl⟩
    obtain ⟨other, found⟩ := Option.isSome_iff_exists.mp found
    have version : other.version = vocabulary.version := by simpa using List.find?_some found
    rw [found, consistent other (List.mem_of_find?_eq_some found) vocabulary listed version]

theorem mem_versions_offered_append {name : String} {offers : List Vocabulary}
    {vocabulary : Vocabulary} (recorded : vocabulary ∈ (offered name offers).versions)
    (more : List Vocabulary) : vocabulary ∈ (offered name (offers ++ more)).versions := by
  rw [mem_versions_offered] at recorded ⊢
  rw [List.find?_append, recorded, Option.some_or]

/-- Whatever versions are offered to a history, and whether they are accepted or refused, it
answers as its recorded versions say, and an offer that is refused changes nothing.  So what is
reserved stays reserved however many versions are offered later, and it does not depend on the
order of the recordings: histories that record the same versions reserve the same, and so do
histories that were offered the same versions in another order, provided that no two of them
compete for a number. -/
theorem answers_offered (name : String) (offers : List Vocabulary) :
    let history := offered name offers
    history.Answers ∧
    (∀ vocabulary fault, (history.add vocabulary).1 = .error fault →
      (history.add vocabulary).2 = history) ∧
    (∀ more,
      (∀ term, history.isTermReserved term = true →
        (offered name (offers ++ more)).isTermReserved term = true) ∧
      ∀ text, history.isIdentifierReserved text = true →
        (offered name (offers ++ more)).isIdentifierReserved text = true) ∧
    (∀ others, (∀ vocabulary, vocabulary ∈ (offered name others).versions ↔
        vocabulary ∈ history.versions) →
      (offered name others).ReservesAlike history) ∧
    ∀ others : List Vocabulary, others.Perm offers →
      (∀ first ∈ offers, ∀ second ∈ offers, first.version = second.version → first = second) →
      (offered name others).ReservesAlike history := by
  intro history
  have faithful (offers : List Vocabulary) : (offered name offers).Faithful :=
    (built_offered name offers).faithful
  refine ⟨(faithful offers).answers, ?refused, ?grows, ?recorded, ?permuted⟩
  case refused =>
    intro vocabulary fault refused
    by_cases present : vocabulary.version ∈ history.available
    · rw [add_of_mem present]
    · rw [add_of_not_mem present] at refused
      contradiction
  case grows =>
    intro more
    have later := faithful (offers ++ more)
    constructor
    · intro term reserved
      obtain ⟨vocabulary, recorded, defines⟩ :=
        (faithful offers).isTermReserved_iff_names.mp reserved
      exact later.isTermReserved_iff_names.mpr
        ⟨vocabulary, mem_versions_offered_append recorded more, defines⟩
    · intro text reserved
      obtain ⟨vocabulary, recorded, lies⟩ :=
        (faithful offers).isIdentifierReserved_iff_entries.mp reserved
      exact later.isIdentifierReserved_iff_entries.mpr
        ⟨vocabulary, mem_versions_offered_append recorded more, lies⟩
  case recorded =>
    intro others same
    exact (faithful others).reservesAlike (faithful offers) same
  case permuted =>
    intro others permuted consistent
    apply (faithful others).reservesAlike (faithful offers)
    intro vocabulary
    have members (vocabulary : Vocabulary) : vocabulary ∈ others ↔ vocabulary ∈ offers :=
      permuted.mem_iff
    rw [mem_versions_offered_of_consistent consistent,
      mem_versions_offered_of_consistent (by simpa only [members] using consistent), members]

/-- A version with one term and one prefix. -/
def spring : Vocabulary where
  version := ⟨1, 0⟩
  terms := Table.ofList [("Plant", .dtmi ⟨["com", "example", "Plant"], none, none⟩)]
  prefixes := Table.ofList [("ex", "https://example.com/")]

/-- A version that gives the identifier of the same term another name. -/
def summer : Vocabulary where
  version := ⟨2, 0⟩
  terms := Table.ofList [("Flower", .dtmi ⟨["com", "example", "Plant"], none, none⟩)]
  prefixes := Table.ofList [("ex", "https://example.com/")]

/-- A version that is offered too late: its number is taken. -/
def frost : Vocabulary where
  version := ⟨1, 0⟩
  terms := Table.ofList [("Weed", .dtmi ⟨["com", "example", "Weed"], none, none⟩)]
  prefixes := Table.empty

/-- One of three offers is refused, and the other two are made in the other order as well. -/
theorem answers_offered_plants :
    let name := "dtmi:com:example:plants"
    let history := offered name [spring, frost, summer]
    history.available = [⟨1, 0⟩, ⟨2, 0⟩] ∧
      history.termFor? "dtmi:com:example:Plant" = some "Plant" ∧
      history.isTermReserved "Weed" = false ∧ history.Answers ∧
      (history.add frost).2 = history ∧
      (offered name ([spring, frost, summer] ++ [frost])).isTermReserved "Plant" = true ∧
      (offered name [summer, spring]).ReservesAlike history ∧
      (offered name [summer, spring]).ReservesAlike (offered name [spring, summer]) := by
  intro name history
  have recorded : history.versions = [spring, summer] := by decide +kernel
  have turned : (offered name [summer, spring]).versions = [summer, spring] := by decide +kernel
  obtain ⟨answers, refused, grows, same, -⟩ := answers_offered name [spring, frost, summer]
  obtain ⟨-, -, -, -, permuted⟩ := answers_offered name [spring, summer]
  refine ⟨by decide +kernel, by decide +kernel, by decide +kernel, answers, ?_, ?_, ?_, ?_⟩
  · exact refused frost (.duplicateVersion name ⟨1, 0⟩) (by decide +kernel)
  · exact (grows [frost]).1 "Plant" (by decide +kernel)
  · apply same
    intro vocabulary
    rw [turned, recorded]
    simp [or_comm]
  · apply permuted _ (List.Perm.swap spring summer [])
    decide +kernel

end History

end Dtdl
