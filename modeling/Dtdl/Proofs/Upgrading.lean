import Dtdl.Proofs.Naming
import Dtdl.Proofs.Reporting

/-!
# Newer versions of the language

A context states the version of the language that it is written for.  Apart from the vocabulary
that it gives to the context, the version has a say in one matter: which identifiers are legal
references, as the specifiers of affiliates and as the definitions of terms.  From version to
version these rules were only ever relaxed.

The main statement is that a context which was resolved is resolved again when it states a newer
version, to the same affiliates and the same scope.
-/

namespace Dtdl

/-! ## Legal references -/

namespace Dtmi

variable {older newer : Nat}

theorem isLabel_mono (le : older ≤ newer) {label : List Char}
    (legal : isLabel older label = true) : isLabel newer label = true := by
  simp only [isLabel, Bool.and_eq_true] at legal ⊢
  obtain ⟨⟨characters, first⟩, last⟩ := legal
  refine ⟨⟨characters, ?_⟩, last⟩
  cases head : label.head? with
  | none => simp [head] at first
  | some c =>
      simp only [head, Option.any_some, Bool.or_eq_true, Bool.and_eq_true,
        decide_eq_true_eq] at first ⊢
      exact first.imp_right fun ⟨late, underscore⟩ => ⟨Nat.lt_of_lt_of_le late le, underscore⟩

theorem isReferenceVersion_mono (le : older ≤ newer) {text : List Char}
    (legal : isReferenceVersion older text = true) : isReferenceVersion newer text = true := by
  rw [isReferenceVersion] at legal ⊢
  split
  · next major plain => rwa [plain] at legal
  · next major minor both =>
      simp only [both, Bool.and_eq_true, decide_eq_true_eq] at legal ⊢
      obtain ⟨⟨late, major⟩, minor⟩ := legal
      exact ⟨⟨Nat.lt_of_lt_of_le late le, major⟩, minor⟩

theorem referenceLimit_mono (le : older ≤ newer) :
    referenceLimit older ≤ referenceLimit newer := by
  rw [referenceLimit, referenceLimit]
  split <;> split <;> omega

theorem isReference_mono (le : older ≤ newer) {text : String}
    (legal : isReference older text = true) : isReference newer text = true := by
  rw [isReference, Bool.and_eq_true, decide_eq_true_eq] at legal ⊢
  obtain ⟨short, legal⟩ := legal
  refine ⟨Nat.le_trans short (referenceLimit_mono le), ?_⟩
  cases found : Text.after? lead.toList text.toList with
  | none => simp [found] at legal
  | some body =>
      simp only [found, Bool.and_eq_true, List.all_eq_true, Option.all_eq_true,
        decide_eq_true_eq] at legal ⊢
      obtain ⟨⟨labels, version⟩, fragment⟩ := legal
      refine ⟨⟨?labels, ?version⟩, ?fragment⟩
      case labels => exact fun label member => isLabel_mono le (labels label member)
      case version => exact fun text written => isReferenceVersion_mono le (version text written)
      case fragment =>
        intro label written
        obtain ⟨late, label⟩ := fragment label written
        exact ⟨Nat.lt_of_lt_of_le late le, isLabel_mono le label⟩

theorem Rules.accepts_mono (rules : Rules) (le : older ≤ newer) {text : String}
    (accepted : rules.accepts older text = true) : rules.accepts newer text = true := by
  cases rules with
  | released => exact isReference_mono le accepted
  | structural => exact accepted

end Dtmi

namespace Resolver

variable {resolver : Resolver}

section Newer

variable {older newer : Nat} (le : older ≤ newer)

include le

theorem legality_upgrade {specifier : String} (legal : resolver.legality specifier older = []) :
    resolver.legality specifier newer = [] :=
  legality_eq_nil.mpr (resolver.rules.accepts_mono le (legality_eq_nil.mp legal))

/-! ## Blocks -/

/-- A definition keeps its meaning.  Only one that is written as an identifier is measured by
the version at all. -/
theorem meaning_upgrade {name : String} {definition : Option String} {owner : Owner}
    {rules : Dtmi.Rules} {meaning : Term.Meaning}
    (found : (Term.meaning name definition older owner rules).result = some meaning) :
    (Term.meaning name definition newer owner rules).result = some meaning := by
  cases definition with
  | none => exact found
  | some text =>
      simp only [Term.meaning, Term.meaningUnder, Dtmi.Rules.parse?_validator,
        Dtmi.Rules.accepts_validator] at found ⊢
      by_cases expansion : Term.isExpansion text = true
      · rwa [if_pos expansion] at found ⊢
      rw [if_neg expansion] at found ⊢
      by_cases identifier : Text.startsWith text Dtmi.lead = true
      · rw [if_pos identifier] at found ⊢
        cases parsed : Dtmi.parse? text with
        | none => simp [parsed] at found
        | some dtmi =>
            by_cases accepted : rules.accepts older text = true
            · simp only [parsed, accepted, if_true] at found
              simp only [rules.accepts_mono le accepted, if_true]
              exact found
            · simp [parsed, accepted] at found
      · rwa [if_neg identifier] at found ⊢

/-- The names of a block are checked against all versions of the language at once, so they
stay admissible. -/
theorem resolveDeclaration_upgrade {owner : Owner} {declaration : String × Option String}
    {named : String × Term.Meaning}
    (resolved : (resolver.resolveDeclaration older owner declaration).result = some named) :
    (resolver.resolveDeclaration newer owner declaration).result = some named := by
  simp only [resolveDeclaration, Term.resolveDeclaration, Outcome.result_bind,
    Option.bind_eq_some_iff] at resolved ⊢
  obtain ⟨passed, checked, meaning, found, same⟩ := resolved
  exact ⟨passed, checked, meaning, meaning_upgrade le found, same⟩

theorem merge_upgrade {block : Context.Block} {parent : Scope} {owner : Owner} {merged : Scope}
    (layered : (resolver.merge block parent older owner).result = some merged) :
    (resolver.merge block parent newer owner).result = some merged := by
  obtain ⟨meanings, each, rfl⟩ := merge_eq_some layered
  have again := Outcome.each_of_alike each fun declaration _ named resolved =>
    resolveDeclaration_upgrade le resolved
  exact Term.layer_eq_some.mpr ⟨meanings, again, rfl⟩

/-! ## Stacks -/

theorem resolveSpecifier_upgrade {specifier : String} {index : Nat} {lenient : Bool}
    {found : Option Context.Affiliate}
    (resolved :
      (resolver.resolveSpecifier specifier index older lenient).result = some found) :
    (resolver.resolveSpecifier specifier index newer lenient).result = some found := by
  obtain ⟨behind, allowed, foreign | ⟨lead, dtmi, parsed, whole, versioned, legal, stood⟩⟩ :=
    resolveSpecifier_eq_some.mp resolved
  · exact resolveSpecifier_eq_some.mpr ⟨behind, allowed, .inl foreign⟩
  · have legal := legality_upgrade le legal
    exact resolveSpecifier_eq_some.mpr
      ⟨behind, allowed, .inr ⟨lead, dtmi, parsed, whole, versioned, legal, stood⟩⟩

theorem resolveAffiliate_upgrade {component : Context.Component} {lenient : Bool}
    {found : Option Context.Affiliate}
    (resolved : (resolver.resolveAffiliate component older lenient).result = some found) :
    (resolver.resolveAffiliate component newer lenient).result = some found := by
  rw [resolveAffiliate] at resolved ⊢
  cases entry : component.entry with
  | block declarations => rwa [entry] at resolved
  | remote specifier =>
      rw [entry] at resolved
      exact resolveSpecifier_upgrade le resolved

theorem resolveComponent_upgrade {owner : Owner} {parent : Scope}
    {component : Context.Component} {contribution : Contribution}
    (resolved :
      (resolver.resolveComponent older owner parent component).result = some contribution) :
    (resolver.resolveComponent newer owner parent component).result = some contribution := by
  rw [resolveComponent] at resolved ⊢
  split at resolved
  · rw [Outcome.result_bind, Option.bind_eq_some_iff] at resolved ⊢
    obtain ⟨merged, layered, same⟩ := resolved
    exact ⟨merged, merge_upgrade le layered, same⟩
  · rw [Outcome.result_bind, Option.bind_eq_some_iff] at resolved ⊢
    obtain ⟨found, read, same⟩ := resolved
    exact ⟨found, resolveAffiliate_upgrade le read, same⟩

end Newer

/-- A context does not break when its language is upgraded.  If the first entry of a stack that
was resolved is replaced by a specifier of the same or a newer version of the language, the
stack is resolved without a report, to the same affiliates and the same scope. -/
theorem process_upgrade {stack : Context.Stack} {parent : Option Scope}
    {context : Context.Resolved} {specifier : String} {language : Vocabulary}
    (processed : (resolver.process stack parent).result = some context)
    (names : Language.isSpecifier specifier = true)
    (accepted : (resolver.resolveLanguage specifier).result = some language)
    (upgrade : context.language.version.major ≤ language.version.major) :
    resolver.process ⟨.remote specifier :: stack.entries.tail⟩ parent =
      .succeed { context with language } := by
  obtain ⟨first, rest, _, contributions, components, -, -, -, each, affiliates, scope⟩ :=
    resolveStack_eq_some processed
  have behind : rest = Context.Stack.place 1 stack.entries.tail := by
    rw [Context.Stack.components] at components
    cases entries : stack.entries with
    | nil => simp [entries, Context.Stack.place] at components
    | cons entry others =>
        rw [entries, Context.Stack.place, List.cons.injEq] at components
        exact components.2.symm
  have again := Outcome.each_of_alike each fun component _ contribution resolved =>
    resolveComponent_upgrade upgrade resolved
  rw [behind] at again
  apply (resolver.honest_process _ parent).eq_succeed
  rw [process, resolveStack_of_parts rfl rfl names accepted again, ← affiliates, ← scope]

/-- A context of version 2 with an affiliate and a block, read as one of version 4. -/
theorem process_upgrade_mqtt :
    let stack : Context.Stack :=
      ⟨[.remote "dtmi:dtdl:context;2", .remote "dtmi:dtdl:extension:mqtt;2",
        .block (Table.ofList [("Plant", some "dtmi:com:example:Plant;1")])]⟩
    ∃ context language,
      ((released .default).process stack none).result = some context ∧
      ((released .default).resolveLanguage "dtmi:dtdl:context;4").result = some language ∧
      context.language.version.major = 2 ∧ language.version.major = 4 ∧
      context.affiliates.map (·.specifier) = ["dtmi:dtdl:extension:mqtt;2"] ∧
      (released .default).process
          ⟨.remote "dtmi:dtdl:context;4" :: stack.entries.tail⟩ none =
        .succeed { context with language } := by
  intro stack
  have before : ((released .default).process stack none).result.map (fun context =>
      (context.language.version.major, context.affiliates.map (·.specifier))) =
        some (2, ["dtmi:dtdl:extension:mqtt;2"]) := by
    decide +kernel
  have newest : ((released .default).resolveLanguage "dtmi:dtdl:context;4").result.map
      (·.version.major) = some 4 := by
    decide +kernel
  obtain ⟨context, processed, known⟩ := Option.map_eq_some_iff.mp before
  obtain ⟨language, accepted, major⟩ := Option.map_eq_some_iff.mp newest
  obtain ⟨old, affiliates⟩ := Prod.mk.inj known
  refine ⟨context, language, processed, accepted, old, major, affiliates, ?_⟩
  apply process_upgrade processed _ accepted
  · rw [old, major]
    decide
  · decide +kernel

end Resolver

end Dtdl
