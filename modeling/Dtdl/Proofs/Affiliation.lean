import Dtdl.Proofs.Shadowing

/-!
# The order of affiliates

Behind its scope a context asks its affiliates one by one, from the last one to the first, and then
the language.  Terms and prefixes are looked up apart, and a name with a colon is looked up by what
stands before the colon.

The main statement is about two changes of the list that make no difference.  An affiliate that has
neither a term for a name nor a prefix for what stands before its first colon may be there or not,
wherever it stands; and if no name is a term of two affiliates or a prefix of two, the affiliates
may stand in any order.
-/

namespace Dtdl.Context

/-! ## Affiliates that are asked -/

/-- Whether an affiliate has something to say about a name: it has a term for the name, or a prefix
for what stands before its first colon. -/
def Affiliate.Concerns (affiliate : Affiliate) (name : String) : Prop :=
  name ∈ affiliate.vocabulary.terms.names ∨
    ∃ lead rest, ':' ∉ lead.toList ∧ name = lead ++ ":" ++ rest ∧
      lead ∈ affiliate.vocabulary.prefixes.names

/-- No name is a term of two affiliates, and none is a prefix of two. -/
structure Affiliate.Apart (affiliates : List Affiliate) : Prop where
  terms : ∀ left ∈ affiliates, ∀ right ∈ affiliates,
    ∀ name ∈ left.vocabulary.terms.names, name ∈ right.vocabulary.terms.names → left = right
  prefixes : ∀ left ∈ affiliates, ∀ right ∈ affiliates,
    ∀ name ∈ left.vocabulary.prefixes.names,
      name ∈ right.vocabulary.prefixes.names → left = right

/-- A search of a list in which there is one thing to find at most does not depend on the order of
the list. -/
theorem findSome?_of_perm {Source Value : Type} {find : Source → Option Value}
    {left right : List Source} (permuted : left.Perm right)
    (single : ∀ first ∈ right, ∀ second ∈ right, (find first).isSome = true →
      (find second).isSome = true → first = second) :
    left.findSome? find = right.findSome? find := by
  cases found : left.findSome? find with
  | none =>
      symm
      rw [List.findSome?_eq_none_iff] at found ⊢
      exact fun source listed => found source (permuted.mem_iff.mpr listed)
  | some value =>
      obtain ⟨source, listed, finds⟩ := List.exists_of_findSome?_eq_some found
      -- The other order finds something as well, and there is one thing to find.
      have listed := permuted.mem_iff.mp listed
      have some : (right.findSome? find).isSome = true := by
        rw [List.findSome?_isSome_iff]
        exact ⟨source, listed, by rw [finds, Option.isSome_some]⟩
      obtain ⟨other, also⟩ := Option.isSome_iff_exists.mp some
      obtain ⟨origin, member, gives⟩ := List.exists_of_findSome?_eq_some also
      have same : origin = source :=
        single origin member source listed (by simp [gives]) (by simp [finds])
      rw [also, ← gives, same, finds]

namespace Resolved

variable {context : Resolved}

/-- The vocabularies that a context asks have a say in two answers only: what a name without a
colon is a term for, and what a name in front of a colon is a prefix for. -/
theorem expand?_congr {name : String} {other : Resolved} (scope : other.scope = context.scope)
    (terms : other.vocabularies.findSome? (·.term? name) =
      context.vocabularies.findSome? (·.term? name))
    (prefixes : ∀ lead rest, ':' ∉ lead.toList → name = lead ++ ":" ++ rest →
      other.vocabularies.findSome? (·.expansion? lead) =
        context.vocabularies.findSome? (·.expansion? lead)) :
    other.expand? name = context.expand? name := by
  rw [expand?, expand?, scope]
  cases cut : Text.cut ':' name.toList with
  | mk lead rest =>
      cases rest with
      | none => simp only [terms]
      | some rest =>
          obtain ⟨written, plain⟩ := eq_of_cut cut
          have expansion : other.expansion? (String.ofList lead) =
              context.expansion? (String.ofList lead) := by
            rw [expansion?, expansion?, scope, prefixes _ _ plain written]
          simp only [expansion]

theorem findSome?_vocabularies {Value : Type} (find : Vocabulary → Option Value) :
    context.vocabularies.findSome? find =
      (context.affiliates.reverse.findSome? fun affiliate => find affiliate.vocabulary).or
        (find context.language) := by
  rw [vocabularies, List.findSome?_append, List.findSome?_map]
  cases found : find context.language <;> simp [found, Function.comp_def]

/-! ## Changes that make no difference -/

/-- A search goes past an affiliate that it finds nothing in. -/
theorem findSome?_insert {Value : Type} {find : Vocabulary → Option Value} {affiliate : Affiliate}
    (nothing : find affiliate.vocabulary = none) (front behind : List Affiliate) :
    { context with affiliates := front ++ affiliate :: behind }.vocabularies.findSome? find =
      { context with affiliates := front ++ behind }.vocabularies.findSome? find := by
  rw [findSome?_vocabularies, findSome?_vocabularies]
  simp [List.findSome?_append, nothing]

theorem expand?_insert {affiliate : Affiliate} {name : String}
    (irrelevant : ¬affiliate.Concerns name) (front behind : List Affiliate) :
    { context with affiliates := front ++ affiliate :: behind }.expand? name =
      { context with affiliates := front ++ behind }.expand? name := by
  rw [Affiliate.Concerns, not_or] at irrelevant
  obtain ⟨noTerm, noPrefix⟩ := irrelevant
  refine expand?_congr rfl ?terms ?prefixes
  case terms => exact findSome?_insert (Table.get?_eq_none_iff.mpr noTerm) front behind
  case prefixes =>
    intro lead rest plain written
    have absent : lead ∉ affiliate.vocabulary.prefixes.names :=
      fun listed => noPrefix ⟨lead, rest, plain, written, listed⟩
    exact findSome?_insert (Table.get?_eq_none_iff.mpr absent) front behind

theorem findSome?_permute {Value : Type} {find : Vocabulary → Option Value}
    {affiliates : List Affiliate} (permuted : affiliates.Perm context.affiliates)
    (single : ∀ first ∈ context.affiliates, ∀ second ∈ context.affiliates,
      (find first.vocabulary).isSome = true → (find second.vocabulary).isSome = true →
        first = second) :
    { context with affiliates }.vocabularies.findSome? find =
      context.vocabularies.findSome? find := by
  have reversed : affiliates.reverse.Perm context.affiliates.reverse :=
    (List.reverse_perm affiliates).trans (permuted.trans (List.reverse_perm _).symm)
  rw [findSome?_vocabularies, findSome?_vocabularies, findSome?_of_perm reversed]
  intro first member second also
  exact single first (List.mem_reverse.mp member) second (List.mem_reverse.mp also)

theorem expand?_permute {affiliates : List Affiliate}
    (permuted : affiliates.Perm context.affiliates) (apart : Affiliate.Apart context.affiliates)
    (name : String) :
    { context with affiliates }.expand? name = context.expand? name := by
  refine expand?_congr rfl ?terms ?prefixes
  case terms =>
    refine findSome?_permute permuted fun first member second also defines too => ?_
    exact apart.terms first member second also name (Table.contains_iff.mp defines)
      (Table.contains_iff.mp too)
  case prefixes =>
    intro lead rest _ _
    refine findSome?_permute permuted fun first member second also defines too => ?_
    exact apart.prefixes first member second also lead (Table.contains_iff.mp defines)
      (Table.contains_iff.mp too)

/-- What a name means does not depend on affiliates that do not concern it: one that has neither a
term for the name nor a prefix for what stands before its first colon can be inserted or left out
anywhere.  Where no two affiliates have a term or a prefix of one name, it does not depend on the
order of the affiliates either. -/
theorem expand?_affiliates (context : Resolved) :
    (∀ name affiliate, ¬affiliate.Concerns name → ∀ front behind,
      context.affiliates = front ++ behind →
        { context with affiliates := front ++ affiliate :: behind }.expand? name =
          context.expand? name) ∧
    (∀ name affiliate, ¬affiliate.Concerns name → ∀ front behind,
      context.affiliates = front ++ affiliate :: behind →
        { context with affiliates := front ++ behind }.expand? name = context.expand? name) ∧
    ∀ affiliates, affiliates.Perm context.affiliates → Affiliate.Apart context.affiliates →
      ∀ name, { context with affiliates }.expand? name = context.expand? name := by
  refine ⟨?inserted, ?removed, ?permuted⟩
  case inserted =>
    intro name affiliate irrelevant front behind split
    rw [expand?_insert irrelevant, ← split]
  case removed =>
    intro name affiliate irrelevant front behind split
    rw [← expand?_insert irrelevant, ← split]
  case permuted =>
    intro affiliates permuted apart name
    exact expand?_permute permuted apart name

/-- The context of an element that refers to two extensions. -/
def referring : Stack :=
  ⟨[.remote "dtmi:dtdl:context;3", .remote "dtmi:dtdl:extension:mqtt;2",
    .remote "dtmi:dtdl:extension:historization;1"]⟩

/-- One of two extensions without a name in common defines the name that is asked for. -/
theorem expand?_affiliates_ttl :
    ∃ context mqtt historization,
      ((Resolver.released .default).process referring none).result = some context ∧
      context.affiliates = [mqtt, historization] ∧
      context.expand? "ttl" = some "dtmi:dtdl:extension:mqtt:v2:property:ttl" ∧
      ¬historization.Concerns "ttl" ∧
      { context with affiliates := [mqtt, historization, historization] }.expand? "ttl" =
        context.expand? "ttl" ∧
      { context with affiliates := [mqtt] }.expand? "ttl" = context.expand? "ttl" ∧
      Affiliate.Apart context.affiliates ∧
      ∀ name, { context with affiliates := [historization, mqtt] }.expand? name =
        context.expand? name := by
  -- The released resolver is run once, and all that is closed is read off this run.
  have accepted : ((Resolver.released .default).process referring none).result.map
      (fun context => (context.affiliates.map (·.specifier), context.expand? "ttl",
        context.affiliates.map fun affiliate => affiliate.vocabulary.terms.contains "ttl",
        decide (∀ left ∈ context.affiliates, ∀ right ∈ context.affiliates,
          ∀ name ∈ left.vocabulary.terms.names,
            name ∈ right.vocabulary.terms.names → left = right),
        decide (∀ left ∈ context.affiliates, ∀ right ∈ context.affiliates,
          ∀ name ∈ left.vocabulary.prefixes.names,
            name ∈ right.vocabulary.prefixes.names → left = right))) =
      some (["dtmi:dtdl:extension:mqtt;2", "dtmi:dtdl:extension:historization;1"],
        some "dtmi:dtdl:extension:mqtt:v2:property:ttl", [true, false], true, true) := by
    decide +kernel
  obtain ⟨context, processed, same⟩ := Option.map_eq_some_iff.mp accepted
  simp only [Prod.mk.injEq, decide_eq_true_eq] at same
  obtain ⟨specifiers, expanded, defines, terms, prefixes⟩ := same
  have apart : Affiliate.Apart context.affiliates := ⟨terms, prefixes⟩
  obtain ⟨mqtt, behind, split, -, more⟩ := List.map_eq_cons_iff.mp specifiers
  obtain ⟨historization, none, rfl, -, nil⟩ := List.map_eq_cons_iff.mp more
  rw [List.map_eq_nil_iff.mp nil] at split
  have unknown : "ttl" ∉ historization.vocabulary.terms.names := by
    rw [split] at defines
    simp only [List.map_cons, List.map_nil, List.cons.injEq] at defines
    simpa [← Table.contains_iff] using defines.2.1
  have irrelevant : ¬historization.Concerns "ttl" := by
    rintro (term | ⟨lead, rest, -, written, -⟩)
    · exact unknown term
    · have colon : ':' ∈ "ttl".toList := by
        rw [written]
        simp
      contradiction
  obtain ⟨inserted, removed, permuted⟩ := expand?_affiliates context
  refine ⟨context, mqtt, historization, processed, split, expanded, irrelevant, ?_, ?_, apart, ?_⟩
  · exact inserted "ttl" historization irrelevant [mqtt, historization] [] split
  · exact removed "ttl" historization irrelevant [mqtt] [] split
  · refine permuted _ ?_ apart
    rw [split]
    exact List.Perm.swap mqtt historization []

end Resolved

end Dtdl.Context
