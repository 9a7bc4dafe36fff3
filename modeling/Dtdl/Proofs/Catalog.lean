import Dtdl.Proofs.Reservation

/-!
# The released catalogs

The statements here are what the rest of the theory uses of the released language and its
extensions.  Everything that a history records was added to it, so a statement about all
recorded versions is one about the lists of groups that the versions are written down as.
-/

namespace Dtdl

/-- What a history records after several versions were added to it was there before or is
one of those versions. -/
theorem History.mem_versions_foldl_add {Source : Type} (vocabulary : Source → Vocabulary)
    {history : History} {sources : List Source} {recorded : Vocabulary}
    (member : recorded ∈ (sources.foldl
      (fun history source => (history.add (vocabulary source)).2) history).versions) :
    recorded ∈ history.versions ∨ ∃ source ∈ sources, vocabulary source = recorded := by
  induction sources generalizing history with
  | nil => exact .inl member
  | cons source rest ih =>
      rw [List.foldl_cons] at member
      rcases ih member with earlier | ⟨later, listed, same⟩
      · by_cases present : (vocabulary source).version ∈ history.available
        · rw [History.add_of_mem present] at earlier
          exact .inl earlier
        · rw [History.add_of_not_mem present, History.versions_append, List.mem_append,
            List.mem_singleton] at earlier
          rcases earlier with earlier | same
          · exact .inl earlier
          · exact .inr ⟨source, List.mem_cons_self, same.symm⟩
      · exact .inr ⟨later, List.mem_cons_of_mem _ listed, same⟩

namespace Language

/-- Every recorded version is written down as groups.  No term in them has a colon, and only
version 2 has paths outside of the language's own. -/
theorem exists_groups {recorded : Vocabulary} (member : recorded ∈ history.versions) :
    ∃ major groups, recorded = vocabulary major groups ∧
      (∀ group ∈ groups, ∀ term ∈ group.terms, ':' ∉ term.toList) ∧
      ∀ group ∈ groups, Text.startsWith group.path "dtmi:dtdl:" = true ∨
        major = 2 ∧ Text.startsWith group.path "dtmi:standard:" = true := by
  rcases History.mem_versions_foldl_add id member with member | ⟨_, listed, rfl⟩
  · simp [History.empty] at member
  · simp only [versions, List.mem_cons, List.not_mem_nil, or_false] at listed
    rcases listed with rfl | rfl | rfl
    · exact ⟨2, _, rfl, by decide +kernel, by decide +kernel⟩
    · exact ⟨3, _, rfl, by decide +kernel, by decide +kernel⟩
    · exact ⟨4, _, rfl, by decide +kernel, by decide +kernel⟩

/-- Every term of a version stands in one of its groups. -/
theorem exists_group_of_term {major : Nat} {groups : List Group} {entry : String × Identifier}
    (listed : entry ∈ (vocabulary major groups).terms.entries) :
    ∃ group ∈ groups, ∃ term ∈ group.terms, entry = (term, identifier group.path term major) := by
  have origin := Table.mem_of_mem_entries_ofList listed
  rw [List.mem_flatMap] at origin
  obtain ⟨group, belongs, origin⟩ := origin
  obtain ⟨term, written, rfl⟩ := List.mem_map.mp origin
  exact ⟨group, belongs, term, written, rfl⟩

/-- Every version has one prefix. -/
theorem eq_of_mem_prefixes {major : Nat} {groups : List Group} {entry : String × String}
    (listed : entry ∈ (vocabulary major groups).prefixes.entries) :
    entry = ("dtdl", "dtmi:dtdl:") :=
  List.mem_singleton.mp (Table.mem_of_mem_entries_ofList listed)

theorem expansion?_of_mem {recorded : Vocabulary} (member : recorded ∈ history.versions) :
    recorded.expansion? "dtdl" = some "dtmi:dtdl:" := by
  obtain ⟨major, groups, rfl, -, -⟩ := exists_groups member
  rfl

theorem defines_of_mem {recorded : Vocabulary} (member : recorded ∈ history.versions) :
    recorded.defines "dtdl" = true := by
  rw [← Bool.not_eq_false]
  intro undefined
  have expansion := expansion?_of_mem member
  rw [Vocabulary.expansion?_of_not_defines undefined] at expansion
  contradiction

theorem colon_not_mem_of_defines {recorded : Vocabulary} (member : recorded ∈ history.versions)
    {name : String} (defined : recorded.defines name = true) : ':' ∉ name.toList := by
  obtain ⟨major, groups, rfl, plain, -⟩ := exists_groups member
  rcases Vocabulary.defines_iff.mp defined with term | expansion
  · obtain ⟨entry, listed, rfl⟩ := List.mem_map.mp term
    obtain ⟨group, belongs, word, written, rfl⟩ := exists_group_of_term listed
    exact plain group belongs word written
  · obtain ⟨entry, listed, rfl⟩ := List.mem_map.mp expansion
    rw [eq_of_mem_prefixes listed]
    decide

/-- What the language reserves lies under its own prefix, or else it is written with
version 2. -/
theorem reserved_cases {text : String} (reserved : history.isIdentifierReserved text = true) :
    Text.startsWith text "dtmi:dtdl:" = true ∨
      Text.startsWith text "dtmi:standard:" = true ∧ ";2".toList <:+ text.toList := by
  rcases built_history.faithful.isIdentifierReserved_iff.mp reserved with
    ⟨recorded, member, found, valued, rfl⟩ | ⟨recorded, member, expansion, declared, lies⟩
  · obtain ⟨major, groups, rfl, -, paths⟩ := exists_groups member
    obtain ⟨entry, listed, rfl⟩ := List.mem_map.mp valued
    obtain ⟨group, belongs, term, -, rfl⟩ := exists_group_of_term listed
    have path := paths group belongs
    have leads : Text.startsWith group.path Dtmi.lead = true := by
      rcases path with own | ⟨-, standard⟩
      · exact Text.startsWith_trans own (by decide)
      · exact Text.startsWith_trans standard (by decide)
    rw [text_identifier leads]
    rcases path with own | ⟨rfl, standard⟩
    · exact .inl (Text.startsWith_append (Text.startsWith_append own term) _)
    · have version : ";" ++ toString 2 = ";2" := by decide
      rw [version]
      refine .inr ⟨Text.startsWith_append (Text.startsWith_append standard term) _, ?_⟩
      rw [String.toList_append]
      exact List.suffix_append _ _
  · obtain ⟨major, groups, rfl, -, -⟩ := exists_groups member
    obtain ⟨entry, listed, rfl⟩ := List.mem_map.mp declared
    rw [eq_of_mem_prefixes listed] at lies
    exact .inl lies

end Language

namespace Extension

theorem exists_family {history : History} (member : history ∈ histories.values) :
    ∃ family, history = Family.history family := by
  obtain ⟨entry, listed, rfl⟩ := List.mem_map.mp member
  obtain ⟨family, -, same⟩ := List.mem_map.mp (Table.mem_of_mem_entries_ofList listed)
  exact ⟨family, (congrArg Prod.snd same).symm⟩

theorem Family.exists_release {family : Family} {recorded : Vocabulary}
    (member : recorded ∈ family.history.versions) :
    ∃ release, recorded = family.vocabulary release := by
  rcases History.mem_versions_foldl_add family.vocabulary member with
    member | ⟨release, -, same⟩
  · simp [History.empty] at member
  · exact ⟨release, same.symm⟩

theorem expansion?_of_mem {name : String} {history : History}
    (known : histories.get? name = some history) {recorded : Vocabulary}
    (member : recorded ∈ history.versions) (other : String) :
    recorded.expansion? other = none := by
  obtain ⟨family, rfl⟩ := exists_family
    (List.mem_map.mpr ⟨(name, history), Table.mem_entries_of_get? known, rfl⟩)
  obtain ⟨release, rfl⟩ := Family.exists_release member
  exact Table.get?_empty other

theorem startsWith_identifier (family kind term : String) (major : Nat) :
    Text.startsWith (identifier family kind term major).text "dtmi:dtdl:" = true := by
  rw [identifier, Identifier.text, Dtmi.text]
  refine Text.startsWith_append (Text.startsWith_iff.mpr ?_) _
  simp [Dtmi.name, Dtmi.lead, Text.joined]

/-- What an extension reserves lies under the prefix of the language. -/
theorem startsWith_of_reserved {history : History} (member : history ∈ histories.values)
    {text : String} (reserved : history.isIdentifierReserved text = true) :
    Text.startsWith text "dtmi:dtdl:" = true := by
  obtain ⟨family, rfl⟩ := exists_family member
  rcases family.built_history.faithful.isIdentifierReserved_iff.mp reserved with
    ⟨recorded, member, found, valued, rfl⟩ | ⟨recorded, member, expansion, declared, -⟩
  · obtain ⟨release, rfl⟩ := Family.exists_release member
    obtain ⟨entry, listed, rfl⟩ := List.mem_map.mp valued
    have origin := Table.mem_of_mem_entries_ofList listed
    rw [List.mem_flatMap] at origin
    obtain ⟨group, -, origin⟩ := origin
    obtain ⟨term, -, rfl⟩ := List.mem_map.mp origin
    exact startsWith_identifier family.label group.kind term release.major
  · obtain ⟨release, rfl⟩ := Family.exists_release member
    simp [Family.vocabulary, Table.values] at declared

end Extension

end Dtdl
