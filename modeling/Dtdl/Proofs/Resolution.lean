import Dtdl.Resolver

/-!
# What an accepted context is made of

Each function of the resolver that gives a result has had every one of its checks pass.
The statements here say what that comes to, one for each function, so that nothing that
builds on them has to look into the function again.
-/

namespace Dtdl.Resolver

variable {resolver : Resolver} {specifier : String}

theorem readSpecifier_eq_some {dtmi : Dtmi} :
    (readSpecifier specifier).result = some dtmi ↔
      Dtmi.parse? specifier = some dtmi ∧ dtmi.fragment = none := by
  rw [readSpecifier]
  cases parsed : Dtmi.parse? specifier with
  | none => simp
  | some found =>
      cases fragment : found.fragment <;> grind [Outcome.result_succeed, Outcome.result_refuse]

theorem readSpecifier_of_parse? {dtmi : Dtmi} (parsed : Dtmi.parse? specifier = some dtmi)
    (whole : dtmi.fragment = none) : readSpecifier specifier = .succeed dtmi := by
  simp [readSpecifier, parsed, whole]

theorem legality_eq_nil {language : Nat} :
    resolver.legality specifier language = [] ↔
      resolver.rules.accepts language specifier = true := by
  simp [legality]

theorem ceiling_eq_nil {major : Nat} :
    resolver.ceiling specifier major = [] ↔
      ∀ maximum ∈ resolver.options.maxVersion, major ≤ maximum := by
  rw [ceiling]
  cases resolver.options.maxVersion <;> simp

theorem resolveLanguage_eq_some {vocabulary : Vocabulary}
    (resolved : (resolver.resolveLanguage specifier).result = some vocabulary) :
    ∃ dtmi, Dtmi.parse? specifier = some dtmi ∧ dtmi.fragment = none ∧
      dtmi.isVersioned = true ∧ resolver.language.find? dtmi.version = some vocabulary ∧
      resolver.ceiling specifier dtmi.version.major = [] ∧
      resolver.legality specifier dtmi.version.major = [] := by
  rw [resolveLanguage, Outcome.result_bind, Option.bind_eq_some_iff] at resolved
  obtain ⟨dtmi, read, resolved⟩ := resolved
  obtain ⟨parsed, whole⟩ := readSpecifier_eq_some.mp read
  cases versioned : dtmi.isVersioned with
  | false => simp [versioned] at resolved
  | true =>
      cases found : resolver.language.find? dtmi.version with
      | none => simp [versioned, found] at resolved
      | some recorded =>
          simp only [versioned, found, Bool.not_true, Bool.false_eq_true, if_false,
            Outcome.result_bind, Option.bind_eq_some_iff, Outcome.result_check,
            List.append_eq_nil_iff, Outcome.result_pure, Option.some.injEq] at resolved
          obtain ⟨-, ⟨below, legal⟩, rfl⟩ := resolved
          exact ⟨dtmi, parsed, whole, versioned, found, below, legal⟩

/-- What an extension of a document must not be. -/
theorem isExtensionReserved_eq_false {name : String} :
    resolver.isExtensionReserved specifier name = false ↔
      name ≠ Language.name ∧ name ∉ resolver.endogenous.names ∧
        resolver.isIdentifierReserved specifier = false := by
  rw [← Table.contains_iff, Bool.not_eq_true]
  simp [isExtensionReserved, and_assoc]

/-- The vocabulary that a reference to a version of an extension stands for. -/
def recorded? (resolver : Resolver) (name : String) (version : Version) : Option Vocabulary :=
  (resolver.history? name).bind (·.find? version)

theorem forgive_eq_some {lenient : Bool} {problem : Problem}
    {found : Option Context.Affiliate} :
    (forgive lenient problem).result = some found ↔ lenient = true ∧ found = none := by
  cases lenient <;> simp [forgive, eq_comm]

/-- What a specifier behind the language is resolved to.  It depends on the vocabulary that is
recorded for it, and without one only a lenient resolver goes on.  Whether the family or its
version alone is unknown makes a difference to the report, but not to the result. -/
theorem resolveSpecifier_eq_some {index language : Nat} {lenient : Bool}
    {found : Option Context.Affiliate} :
    (resolver.resolveSpecifier specifier index language lenient).result = some found ↔
      Language.isSpecifier specifier = false ∧ (found = none → lenient = true) ∧
        (Text.startsWith specifier Dtmi.lead = false ∧ found = none ∨
          Text.startsWith specifier Dtmi.lead = true ∧
            ∃ dtmi, Dtmi.parse? specifier = some dtmi ∧ dtmi.fragment = none ∧
              dtmi.isVersioned = true ∧ resolver.legality specifier language = [] ∧
              found = (resolver.recorded? dtmi.name dtmi.version).map (⟨dtmi.name, ·⟩)) := by
  rw [resolveSpecifier]
  split
  · next names => simp [names]
  · next behind =>
      rw [Bool.not_eq_true] at behind
      cases lead : Text.startsWith specifier Dtmi.lead with
      | false => grind [forgive_eq_some]
      | true =>
          have passed (dtmi : Dtmi) :
              ((if dtmi.isVersioned then [] else [.unversionedAffiliate specifier]) ++
                  resolver.legality specifier language = []) ↔
                dtmi.isVersioned = true ∧ resolver.legality specifier language = [] := by
            simp
          simp only [behind, Bool.not_true, Bool.false_eq_true, if_false, Outcome.result_bind,
            Option.bind_eq_some_iff, readSpecifier_eq_some, Outcome.result_check, passed,
            Bool.true_eq_false, false_and, false_or, true_and]
          rw [← exists_and_left]
          apply exists_congr
          intro dtmi
          cases known : resolver.history? dtmi.name with
          | none => grind [recorded?, forgive_eq_some]
          | some history =>
              cases recorded : history.find? dtmi.version <;>
                grind [recorded?, forgive_eq_some, Outcome.result_pure]

theorem recorded_of_resolveSpecifier {index language : Nat} {lenient : Bool}
    {affiliate : Context.Affiliate}
    (resolved :
      (resolver.resolveSpecifier specifier index language lenient).result =
        some (some affiliate)) :
    ∃ history, resolver.history? affiliate.name = some history ∧
      affiliate.vocabulary ∈ history.versions := by
  obtain ⟨-, -, ⟨-, absent⟩ | ⟨-, dtmi, -, -, -, -, found⟩⟩ := resolveSpecifier_eq_some.mp resolved
  · contradiction
  · rw [eq_comm, Option.map_eq_some_iff] at found
    obtain ⟨vocabulary, recorded, rfl⟩ := found
    rw [recorded?, Option.bind_eq_some_iff] at recorded
    obtain ⟨history, known, found⟩ := recorded
    exact ⟨history, known, (History.mem_of_find? found).1⟩

/-- A specifier of a recorded version is resolved to it unless the rules of the language
version forbid the reference. -/
theorem resolveSpecifier_of_recorded {dtmi : Dtmi} {history : History}
    {vocabulary : Vocabulary} (parsed : Dtmi.parse? specifier = some dtmi)
    (whole : dtmi.fragment = none) (versioned : dtmi.isVersioned = true)
    (foreign : dtmi.name ≠ Language.name) (known : resolver.history? dtmi.name = some history)
    (found : history.find? dtmi.version = some vocabulary) (index language : Nat)
    (lenient : Bool) :
    resolver.resolveSpecifier specifier index language lenient =
      if resolver.rules.accepts language specifier then
        .succeed (some ⟨dtmi.name, vocabulary⟩)
      else .refuse (.illegalSpecifier specifier language) := by
  have behind : Language.isSpecifier specifier = false := by
    rw [← Bool.not_eq_true, Language.isSpecifier_iff_of_parse? parsed]
    exact foreign
  have lead : Text.startsWith specifier Dtmi.lead = true :=
    Text.startsWith_iff.mpr (Dtmi.lead_prefix_of_parse? parsed)
  simp only [resolveSpecifier, behind, lead, readSpecifier_of_parse? parsed whole, versioned,
    legality, known, found, Bool.not_true, Bool.false_eq_true, if_false, if_true,
    List.nil_append, Outcome.succeed_bind]
  split
  · rw [Outcome.check_nil_bind]
    rfl
  · rw [Outcome.check_singleton_bind]

/-- The checks behind a stack that was resolved: the language it begins with was
resolved, and so was every entry behind it. -/
theorem resolveStack_eq_some {stack : Context.Stack} {parent : Scope} {owner : Owner}
    {missing : Problem} {context : Context.Resolved}
    (resolved : (resolver.resolveStack stack parent owner missing).result = some context) :
    ∃ (first : Context.Component) (rest : List Context.Component) (specifier : String)
        (contributions : List Contribution),
      stack.components = first :: rest ∧ first.entry = .remote specifier ∧
      Language.isSpecifier specifier = true ∧
      (resolver.resolveLanguage specifier).result = some context.language ∧
      rest.map (fun component =>
          (resolver.resolveComponent context.language.version.major owner parent
            component).result) =
        contributions.map some ∧
      context.affiliates = contributions.filterMap Contribution.affiliate? ∧
      context.scope = (contributions.findSome? Contribution.scope?).getD parent := by
  rw [resolveStack] at resolved
  cases components : stack.components with
  | nil => simp [components] at resolved
  | cons first rest =>
      cases entry : first.entry with
      | block declarations => simp [components, entry] at resolved
      | remote specifier =>
          cases names : Language.isSpecifier specifier with
          | false => simp [components, entry, names] at resolved
          | true =>
              simp only [components, entry, names, if_true, Outcome.result_bind,
                Option.bind_eq_some_iff, Outcome.result_all, Outcome.result_pure,
                Option.some.injEq] at resolved
              obtain ⟨language, begins, contributions, each, rfl⟩ := resolved
              rw [List.map_map] at each
              exact ⟨first, rest, specifier, contributions, rfl, entry, names, begins, each,
                rfl, rfl⟩

theorem resolveStack_of_parts {stack : Context.Stack} {parent : Scope} {owner : Owner}
    {missing : Problem} {first : Context.Component} {rest : List Context.Component}
    {language : Vocabulary} {contributions : List Contribution}
    (components : stack.components = first :: rest) (entry : first.entry = .remote specifier)
    (names : Language.isSpecifier specifier = true)
    (begins : (resolver.resolveLanguage specifier).result = some language)
    (each : rest.map (fun component =>
        (resolver.resolveComponent language.version.major owner parent component).result) =
      contributions.map some) :
    (resolver.resolveStack stack parent owner missing).result =
      some ⟨language, contributions.filterMap Contribution.affiliate?,
        (contributions.findSome? Contribution.scope?).getD parent⟩ := by
  rw [resolveStack]
  simp only [components, entry, names, if_true, Outcome.result_bind, begins, Option.bind_some,
    Outcome.result_pure]
  rw [Outcome.result_all.mpr (by rw [List.map_map]; exact each), Option.bind_some]

theorem resolveComponent_eq_affiliate {language : Nat} {owner : Owner} {parent : Scope}
    {component : Context.Component} {affiliate : Context.Affiliate}
    (resolved :
      (resolver.resolveComponent language owner parent component).result =
        some (.affiliate affiliate)) :
    ∃ specifier, component.entry = .remote specifier ∧
      (resolver.resolveSpecifier specifier component.index language
        resolver.options.allowUndefined).result = some (some affiliate) := by
  rw [resolveComponent] at resolved
  cases entry : component.entry with
  | block declarations =>
      cases last : component.isLast <;>
        simp [entry, last, resolveAffiliate, Option.bind_eq_some_iff] at resolved
  | remote specifier =>
      simp only [entry, resolveAffiliate, Outcome.result_bind, Option.bind_eq_some_iff,
        Outcome.result_pure, Option.some.injEq] at resolved
      obtain ⟨found, read, same⟩ := resolved
      cases found with
      | none => simp at same
      | some found =>
          simp only [Option.elim_some, Contribution.affiliate.injEq] at same
          exact ⟨specifier, rfl, same ▸ read⟩

theorem resolveComponent_eq_scope {language : Nat} {owner : Owner} {parent : Scope}
    {component : Context.Component} {scope : Scope}
    (resolved :
      (resolver.resolveComponent language owner parent component).result =
        some (.scope scope)) :
    ∃ block, component.entry = .block block ∧ component.isLast = true ∧
      (resolver.merge block parent language owner).result = some scope := by
  rw [resolveComponent] at resolved
  split at resolved
  · next block entry last =>
      simp only [Outcome.result_bind, Option.bind_eq_some_iff, Outcome.result_pure,
        Option.some.injEq, Contribution.scope.injEq, exists_eq_right] at resolved
      exact ⟨block, entry, last, resolved⟩
  · simp only [Outcome.result_bind, Option.bind_eq_some_iff, Outcome.result_pure,
      Option.some.injEq] at resolved
    obtain ⟨found, -, same⟩ := resolved
    cases found <;> simp at same

section Accepted

variable {stack : Context.Stack} {parent : Scope} {owner : Owner} {missing : Problem}
variable {context : Context.Resolved}

theorem language_mem_of_resolveStack
    (resolved : (resolver.resolveStack stack parent owner missing).result = some context) :
    context.language ∈ resolver.language.versions := by
  obtain ⟨_, _, _, _, -, -, -, begins, -⟩ := resolveStack_eq_some resolved
  obtain ⟨dtmi, -, -, -, found, -, -⟩ := resolveLanguage_eq_some begins
  exact (History.mem_of_find? found).1

theorem language_le_of_resolveStack
    (resolved : (resolver.resolveStack stack parent owner missing).result = some context) :
    ∀ maximum ∈ resolver.options.maxVersion, context.language.version.major ≤ maximum := by
  obtain ⟨_, _, _, _, -, -, -, begins, -⟩ := resolveStack_eq_some resolved
  obtain ⟨dtmi, -, -, -, found, below, -⟩ := resolveLanguage_eq_some begins
  rw [(History.mem_of_find? found).2]
  exact ceiling_eq_nil.mp below

theorem affiliate_recorded_of_resolveStack
    (resolved : (resolver.resolveStack stack parent owner missing).result = some context)
    {affiliate : Context.Affiliate} (member : affiliate ∈ context.affiliates) :
    ∃ history, resolver.history? affiliate.name = some history ∧
      affiliate.vocabulary ∈ history.versions := by
  obtain ⟨_, rest, _, contributions, -, -, -, -, each, affiliates, -⟩ :=
    resolveStack_eq_some resolved
  rw [affiliates, List.mem_filterMap] at member
  obtain ⟨contribution, contributed, same⟩ := member
  cases contribution <;>
    simp only [Contribution.affiliate?, Option.some.injEq, reduceCtorEq] at same
  subst same
  obtain ⟨component, -, found⟩ := Outcome.exists_part each contributed
  obtain ⟨specifier, -, read⟩ := resolveComponent_eq_affiliate found
  exact recorded_of_resolveSpecifier read

/-- The scope of an accepted context is that of its surroundings, or its final block
layered over it. -/
theorem scope_of_resolveStack
    (resolved : (resolver.resolveStack stack parent owner missing).result = some context) :
    context.scope = parent ∨
      ∃ block, (resolver.merge block parent context.language.version.major owner).result =
        some context.scope := by
  obtain ⟨_, rest, _, contributions, -, -, -, -, each, -, scope⟩ := resolveStack_eq_some resolved
  cases merged : contributions.findSome? Contribution.scope? with
  | none => exact .inl (by rw [scope, merged, Option.getD_none])
  | some found =>
      obtain ⟨contribution, contributed, same⟩ := List.exists_of_findSome?_eq_some merged
      cases contribution <;>
        simp only [Contribution.scope?, Option.some.injEq, reduceCtorEq] at same
      subst same
      obtain ⟨component, -, found⟩ := Outcome.exists_part each contributed
      obtain ⟨block, -, -, layered⟩ := resolveComponent_eq_scope found
      exact .inr ⟨block, by rw [scope, merged, Option.getD_some]; exact layered⟩

end Accepted

end Dtdl.Resolver
