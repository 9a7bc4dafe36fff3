import Dtdl.Proofs.Naming
import Dtdl.Proofs.Registration

/-!
# Identifiers that definitions come to

Whether a definition is an identifier is decided on its text as it is written, but a URL is
kept in its normal form.  A definition can therefore be read as a URL and be kept as a text
that begins like an identifier: blanks in front of it are dropped, line breaks within it as
well, and its scheme is put into lower case.  Nobody has asked the rules of references about
such a text.

The main statement is that the rules accept every other identifier that a block declares.
-/

namespace Dtdl

namespace Term

variable {name : String} {language : Nat} {owner : Owner} {rules : Dtmi.Rules}

/-- Whether a definition is not written as an identifier, but has the scheme of one in its
normal form. -/
def Disguised (definition : String) : Prop :=
  Text.startsWith definition Dtmi.lead = false ∧
    Dtmi.lead.toList <+: (Url.cleaned definition.toList).map Char.toLower

/-- A URL begins like an identifier if and only if the text that it was read from does so
apart from blanks and letter case. -/
theorem startsWith_text_iff_of_parse {definition : String} {url : Url}
    (parsed : Url.parse definition = .ok url) :
    Text.startsWith url.text Dtmi.lead = true ↔
      Dtmi.lead.toList <+: (Url.cleaned definition.toList).map Char.toLower := by
  obtain ⟨rest, scheme⟩ := Url.scheme_of_parse parsed
  obtain ⟨other, written⟩ := Text.startsWith_iff.mp url.startsWith_text
  have text : url.text.toList = url.scheme.toList ++ ':' :: other := by
    rw [← written]
    simp
  have plain : ':' ∉ Dtmi.scheme.toList := by decide
  have lead : Dtmi.lead.toList = Dtmi.scheme.toList ++ [':'] := rfl
  rw [Text.startsWith_iff, text, Url.lower_of_scheme? scheme, lead]
  exact ⟨Text.marked_prefix plain _ _, Text.marked_prefix plain _ _⟩

/-- All that a definition can come to when it comes to an identifier: one that is written as
such and accepted by the rules, or else a URL. -/
theorem meaning_cases {definition : Option String} {identifier : Identifier}
    (found : (meaning name definition language owner rules).result =
      some (.identifier identifier)) :
    ∃ text, definition = some text ∧
      ((identifier.text = text ∧ rules.accepts language text = true) ∨
        ∃ url, Text.startsWith text Dtmi.lead = false ∧ Url.parse text = .ok url ∧
          identifier = .url url) := by
  cases definition with
  | none => simp [meaning, meaningUnder] at found
  | some text =>
      refine ⟨text, rfl, ?_⟩
      simp only [meaning, meaningUnder] at found
      split at found
      · simp at found
      split at found
      · split at found
        · next dtmi parsed =>
            split at found
            · next accepted =>
                simp only [Outcome.result_succeed, Option.some.injEq,
                  Meaning.identifier.injEq] at found
                subst found
                exact .inl ⟨Dtmi.text_of_parse? parsed, accepted⟩
            · simp at found
        · simp at found
      · next unlike =>
          split at found
          · next url parsed =>
              simp only [Outcome.result_succeed, Option.some.injEq,
                Meaning.identifier.injEq] at found
              exact .inr ⟨url, Bool.not_eq_true _ ▸ unlike, parsed, found.symm⟩
          · simp at found

/-- An identifier that a plain definition comes to is one that the rules accept. -/
theorem accepts_of_meaning {definition : Option String} {identifier : Identifier}
    (found : (meaning name definition language owner rules).result =
      some (.identifier identifier))
    (begins : Text.startsWith identifier.text Dtmi.lead = true)
    (plain : ∀ text ∈ definition, ¬Disguised text) :
    rules.accepts language identifier.text = true := by
  obtain ⟨text, rfl, ⟨same, accepted⟩ | ⟨url, unlike, parsed, rfl⟩⟩ := meaning_cases found
  · rw [same]
    exact accepted
  · have lowered := (startsWith_text_iff_of_parse parsed).mp begins
    exact absurd ⟨unlike, lowered⟩ (plain text rfl)

theorem mem_terms_declare {scope : Scope} {meaning : Meaning} {entry : String × Identifier}
    (member : entry ∈ (declare scope name meaning).terms.entries) :
    entry ∈ scope.terms.entries ∨ name = entry.1 ∧ meaning = .identifier entry.2 := by
  cases meaning with
  | identifier identifier =>
      rcases Table.mem_entries_insert member with rfl | member
      · exact .inr ⟨rfl, rfl⟩
      · exact .inl (Table.mem_entries_of_erase member)
  | expansion text => exact .inl (Table.mem_entries_of_erase member)
  | nothing => exact .inl (Table.mem_entries_of_erase member)

theorem mem_terms_foldl_declare {scope : Scope} {meanings : List (String × Meaning)}
    {entry : String × Identifier}
    (member : entry ∈ (meanings.foldl (fun scope named => declare scope named.1 named.2)
      scope).terms.entries) :
    entry ∈ scope.terms.entries ∨ (entry.1, .identifier entry.2) ∈ meanings := by
  induction meanings generalizing scope with
  | nil => exact .inl member
  | cons named rest ih =>
      rcases ih member with earlier | later
      · rcases mem_terms_declare earlier with before | ⟨name, meaning⟩
        · exact .inl before
        · exact .inr (List.mem_cons.mpr (.inl (Prod.ext name.symm meaning.symm)))
      · exact .inr (List.mem_cons_of_mem _ later)

end Term

namespace Resolver

variable {resolver : Resolver} {block : Context.Block} {language : Nat} {owner : Owner}
variable {merged : Scope}

/-- Every identifier that a block declares is one that the rules of the language version
accept, provided that its definition is written as an identifier if it is to be one. -/
theorem accepts_of_merge
    (layered : (resolver.merge block Scope.empty language owner).result = some merged)
    {entry : String × Identifier} (declared : entry ∈ merged.terms.entries)
    (begins : Text.startsWith entry.2.text Dtmi.lead = true)
    (plain : ∀ definition, (entry.1, some definition) ∈ block.entries →
      ¬Term.Disguised definition) :
    resolver.rules.accepts language entry.2.text = true := by
  obtain ⟨meanings, each, rfl⟩ := merge_eq_some layered
  rcases Term.mem_terms_foldl_declare declared with before | member
  · simp [Scope.empty] at before
  · obtain ⟨declaration, listed, found⟩ := Outcome.exists_part each member
    obtain ⟨-, meaning, name⟩ := resolveDeclaration_eq_some found
    refine Term.accepts_of_meaning meaning begins fun text written => plain text ?_
    rw [name, ← Option.mem_def.mp written]
    exact listed

/-- One name is defined by a legal reference, the other one by a plain URL. -/
theorem accepts_of_merge_thing :
    ∃ merged, (minimal.merge (Table.ofList [("thing", some "dtmi:com:example:Thing;1"),
        ("page", some "urn:example:page")]) Scope.empty 3 .element).result =
          some merged ∧
      ∃ entry ∈ merged.terms.entries,
        entry.1 = "thing" ∧ Text.startsWith entry.2.text Dtmi.lead = true ∧
          Dtmi.isReference 3 entry.2.text = true := by
  have terms : (minimal.merge (Table.ofList [("thing", some "dtmi:com:example:Thing;1"),
      ("page", some "urn:example:page")]) Scope.empty 3 .element).result.map
        (fun merged => merged.terms.entries.map fun entry => (entry.1, entry.2.text)) =
      some [("thing", "dtmi:com:example:Thing;1"), ("page", "urn:example:page")] := by
    decide +kernel
  obtain ⟨merged, layered, same⟩ := Option.map_eq_some_iff.mp terms
  have listed : ("thing", "dtmi:com:example:Thing;1") ∈
      merged.terms.entries.map fun entry => (entry.1, entry.2.text) := by
    rw [same]
    exact List.mem_cons_self
  obtain ⟨entry, declared, pair⟩ := List.mem_map.mp listed
  obtain ⟨name, text⟩ := Prod.mk.inj pair
  have begins : Text.startsWith entry.2.text Dtmi.lead = true := by
    rw [text]
    decide +kernel
  refine ⟨merged, layered, entry, declared, name, begins, ?_⟩
  refine accepts_of_merge layered declared begins fun definition defined disguised => ?_
  have written : definition = "dtmi:com:example:Thing;1" := by
    rw [name] at defined
    simpa [Table.ofList, Table.insert, Entries.put] using defined
  rw [written] at disguised
  exact absurd disguised.1 (by decide +kernel)

/-- A definition in capital letters is kept as an identifier that is no legal reference. -/
theorem not_accepts_of_merge_thing :
    ∃ merged, (minimal.merge (Table.ofList [("thing", some "DTMI:com:example_;1")])
        Scope.empty 3 .element).result = some merged ∧
      ∃ entry ∈ merged.terms.entries,
        Text.startsWith entry.2.text Dtmi.lead = true ∧
          Dtmi.isReference 3 entry.2.text = false := by
  have terms : (minimal.merge (Table.ofList [("thing", some "DTMI:com:example_;1")])
      Scope.empty 3 .element).result.map
        (fun merged => merged.terms.entries.map fun entry => entry.2.text) =
      some ["dtmi:com:example_;1"] := by
    decide +kernel
  obtain ⟨merged, layered, same⟩ := Option.map_eq_some_iff.mp terms
  have listed : "dtmi:com:example_;1" ∈
      merged.terms.entries.map fun entry => entry.2.text := by
    rw [same]
    exact List.mem_cons_self
  obtain ⟨entry, declared, text⟩ := List.mem_map.mp listed
  refine ⟨merged, layered, entry, declared, ?_⟩
  rw [text]
  decide +kernel

end Resolver

end Dtdl
