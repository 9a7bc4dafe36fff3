import Dtdl.Proofs.Naming

/-!
# Expansion behind the scope

A name that the scope says nothing about is looked up in the vocabularies: as a term if
it is written alone, and as a prefix if a colon follows it.  Vocabularies that do not
define the name can be left out without changing the answer.
-/

namespace Dtdl.Context.Resolved

variable {context : Resolved} {name : String}

theorem expansion?_of_not_mem (noPrefix : name ∉ context.scope.prefixes.names)
    (defined : name ∉ context.scope.undefined) :
    context.expansion? name = context.vocabularies.findSome? (·.expansion? name) := by
  have absent := Table.get?_eq_none_iff.mpr noPrefix
  simp [expansion?, defined, absent]

theorem expansion?_of_not_declares (silent : ¬context.scope.Declares name) :
    context.expansion? name = context.vocabularies.findSome? (·.expansion? name) := by
  simp only [Scope.Declares, not_or] at silent
  exact expansion?_of_not_mem silent.2.1 silent.2.2

/-- A name without a colon is a term. -/
theorem expand?_of_not_mem (noTerm : name ∉ context.scope.terms.names)
    (defined : name ∉ context.scope.undefined) (plain : ':' ∉ name.toList) :
    context.expand? name =
      (context.vocabularies.findSome? (·.term? name)).map Identifier.text := by
  have absent := Table.get?_eq_none_iff.mpr noTerm
  simp [expand?, defined, absent, Text.cut_of_not_mem plain]

theorem expand?_of_not_declares (silent : ¬context.scope.Declares name)
    (plain : ':' ∉ name.toList) :
    context.expand? name =
      (context.vocabularies.findSome? (·.term? name)).map Identifier.text := by
  simp only [Scope.Declares, not_or] at silent
  exact expand?_of_not_mem silent.1 silent.2.2 plain

/-- Where a name is cut at a colon, it is put together from the two parts, and the first one holds
no colon. -/
theorem eq_of_cut {lead rest : List Char} (cut : Text.cut ':' name.toList = (lead, some rest)) :
    name = String.ofList lead ++ ":" ++ String.ofList rest ∧
      ':' ∉ (String.ofList lead).toList := by
  have whole := Text.cut_rebuild ':' name.toList
  have plain := Text.not_mem_cut ':' name.toList
  rw [cut] at whole plain
  refine ⟨String.toList_injective ?_, by simpa using plain⟩
  simpa using whole

/-- A name in front of a colon is a prefix; if it is not known, the whole has to stand for
itself. -/
theorem expand?_compact {suffix : String}
    (silentWhole : ¬context.scope.Declares (name ++ ":" ++ suffix))
    (plain : ':' ∉ name.toList) :
    context.expand? (name ++ ":" ++ suffix) =
      ((context.expansion? name).map (· ++ suffix)).or
        (absolute? (name ++ ":" ++ suffix)) := by
  simp only [Scope.Declares, not_or] at silentWhole
  obtain ⟨noTerm, -, defined⟩ := silentWhole
  have absent := Table.get?_eq_none_iff.mpr noTerm
  have parts : Text.cut ':' (name ++ ":" ++ suffix).toList =
      (name.toList, some suffix.toList) := by
    have written : (name ++ ":" ++ suffix).toList = name.toList ++ ':' :: suffix.toList := by
      simp
    rw [written, Text.cut_append plain]
  rw [expand?, parts]
  cases found : context.expansion? name <;> simp [defined, absent, found]

theorem expand?_compact_of_not_declares {suffix : String}
    (silentWhole : ¬context.scope.Declares (name ++ ":" ++ suffix))
    (silent : ¬context.scope.Declares name) (plain : ':' ∉ name.toList) :
    context.expand? (name ++ ":" ++ suffix) =
      ((context.vocabularies.findSome? (·.expansion? name)).map (· ++ suffix)).or
        (absolute? (name ++ ":" ++ suffix)) := by
  rw [expand?_compact silentWhole plain, expansion?_of_not_declares silent]

/-! ## Leaving things out -/

/-- What is left of a context without its scope and with some of its affiliates only. -/
def restrict (context : Resolved) (keep : Affiliate → Bool) : Resolved :=
  ⟨context.language, context.affiliates.filter keep, Scope.empty⟩

/-- Affiliates that a search finds nothing in can be left out. -/
theorem findSome?_vocabularies_restrict {Value : Type} (find : Vocabulary → Option Value)
    (keep : Affiliate → Bool)
    (nothing : ∀ affiliate ∈ context.affiliates, keep affiliate = false →
      find affiliate.vocabulary = none) :
    (context.restrict keep).vocabularies.findSome? find =
      context.vocabularies.findSome? find := by
  simp only [restrict, vocabularies, List.findSome?_append, ← List.filter_reverse]
  congr 1
  have reversed : ∀ affiliate ∈ context.affiliates.reverse, keep affiliate = false →
      find affiliate.vocabulary = none :=
    fun affiliate member => nothing affiliate (List.mem_reverse.mp member)
  -- The search runs from the last affiliate to the first, so the induction is on the
  -- reversed list.
  generalize context.affiliates.reverse = affiliates at reversed
  induction affiliates with
  | nil => rfl
  | cons affiliate rest ih =>
      have others := ih fun other member => reversed other (List.mem_cons_of_mem _ member)
      cases kept : keep affiliate with
      | true => simp [kept, others, List.findSome?_cons]
      | false =>
          simp [kept, others, reversed affiliate List.mem_cons_self kept]

section Restricted

variable {keep : Affiliate → Bool}

theorem expand?_restrict (silent : ¬context.scope.Declares name) (plain : ':' ∉ name.toList)
    (undefined : ∀ affiliate ∈ context.affiliates, keep affiliate = false →
      affiliate.vocabulary.defines name = false) :
    (context.restrict keep).expand? name = context.expand? name := by
  have found := findSome?_vocabularies_restrict (·.term? name) keep
    fun affiliate member dropped =>
      Vocabulary.term?_of_not_defines (undefined affiliate member dropped)
  rw [expand?_of_not_declares (Scope.not_declares_empty name) plain, found,
    expand?_of_not_declares silent plain]

theorem expand?_compact_restrict {suffix : String}
    (silentWhole : ¬context.scope.Declares (name ++ ":" ++ suffix))
    (silent : ¬context.scope.Declares name) (plain : ':' ∉ name.toList)
    (undefined : ∀ affiliate ∈ context.affiliates, keep affiliate = false →
      affiliate.vocabulary.defines name = false) :
    (context.restrict keep).expand? (name ++ ":" ++ suffix) =
      context.expand? (name ++ ":" ++ suffix) := by
  have found := findSome?_vocabularies_restrict (·.expansion? name) keep
    fun affiliate member dropped =>
      Vocabulary.expansion?_of_not_defines (undefined affiliate member dropped)
  rw [expand?_compact_of_not_declares (Scope.not_declares_empty _)
      (Scope.not_declares_empty name) plain, found,
    expand?_compact_of_not_declares silentWhole silent plain]

end Restricted

end Dtdl.Context.Resolved
