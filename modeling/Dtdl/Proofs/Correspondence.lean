import Dtdl.Proofs.Registration
import Dtdl.Proofs.Reporting
import Mathlib.Data.List.Forall2

/-!
# Contexts of extensions and of elements

An extension is declared by a context of its own, and that context obeys the rules for the
context of an element.  It is resolved over the empty scope, its final block becomes the
vocabulary of the extension, and what is wrong with a declared term is reported under a kind
that says where the term was declared.

One outcome mirrors another one if they have the same result and their reports correspond
one by one.  The relation is followed through every function that a context passes through;
the main statement is that registering an extension mirrors resolving its context for an
element.
-/

namespace Dtdl

/-- The kind under which a fault in the context of an element is reported if it occurs in the
context of an extension. -/
def Diagnostic.Kind.inExtension : Diagnostic.Kind → Diagnostic.Kind
  | .localTermEmpty => .extensionTermEmpty
  | .localTermSchemePrefix => .extensionTermSchemePrefix
  | .localTermInvalid => .extensionTermInvalid
  | .localTermReserved => .extensionTermReserved
  | .localTermDefinitionInvalidDtmi => .extensionTermDefinitionInvalidDtmi
  | .localTermDefinitionInvalidUri => .extensionTermDefinitionInvalidUri
  | kind => kind

/-- A problem with an extension mirrors one with an element if its kind is the counterpart. -/
def Problem.Mirrors (mirror original : Problem) : Prop :=
  mirror.kind = original.kind.inExtension

theorem Problem.mirrors_declaration (problem : TermProblem) :
    (declaration .extension problem).Mirrors (declaration .element problem) := by
  cases problem <;> rfl

namespace Outcome

variable {Result Next : Type}

/-- An outcome mirrors another one if it has the same result, and its reports mirror those of
the other one in order. -/
structure Mirrors (mirror original : Outcome Problem Result) : Prop where
  result : mirror.result = original.result
  reports : List.Forall₂ Problem.Mirrors mirror.reports original.reports

theorem mirrors_succeed (result : Result) : (succeed result).Mirrors (succeed result) :=
  ⟨rfl, .nil⟩

theorem mirrors_pure (result : Result) :
    (pure result : Outcome Problem Result).Mirrors (pure result) :=
  mirrors_succeed result

theorem mirrors_refuse {mirror original : Problem} (same : mirror.Mirrors original) :
    (refuse mirror : Outcome Problem Result).Mirrors (refuse original) :=
  ⟨rfl, .cons same .nil⟩

theorem mirrors_check {mirrors originals : List Problem}
    (each : List.Forall₂ Problem.Mirrors mirrors originals) :
    (check mirrors).Mirrors (check originals) := by
  cases each with
  | nil => exact ⟨rfl, .nil⟩
  | cons same rest => exact ⟨rfl, .cons same rest⟩

theorem Mirrors.bind {mirror original : Outcome Problem Result}
    (mirrored : mirror.Mirrors original) {next other : Result → Outcome Problem Next}
    (each : ∀ result, (next result).Mirrors (other result)) :
    (mirror >>= next).Mirrors (original >>= other) := by
  cases mirror with
  | mk reports given =>
      cases original with
      | mk originals found =>
          obtain ⟨same, matched⟩ := mirrored
          simp only at same matched
          subst same
          cases given with
          | none => exact ⟨rfl, matched⟩
          | some result =>
              exact ⟨(each result).result, List.rel_append matched (each result).reports⟩

theorem mirrors_all {Source : Type} {part other : Source → Outcome Problem Result}
    (each : ∀ source, (part source).Mirrors (other source)) (sources : List Source) :
    (all (sources.map part)).Mirrors (all (sources.map other)) where
  result := result_all_congr fun source _ => (each source).result
  reports := by
    induction sources with
    | nil => exact .nil
    | cons source rest ih => exact List.rel_append (each source).reports ih

end Outcome

namespace Term

theorem mirrors_checkName (name : String) (language : History) :
    (checkName name .extension language).Mirrors (checkName name .element language) := by
  apply Outcome.mirrors_check
  rw [List.forall₂_map_left_iff, List.forall₂_map_right_iff, List.forall₂_same]
  intro problem _
  exact Problem.mirrors_declaration problem

theorem mirrors_meaning (name : String) (definition : Option String) (language : Nat)
    (rules : Dtmi.Rules) :
    (meaning name definition language .extension rules).Mirrors
      (meaning name definition language .element rules) := by
  cases definition with
  | none => exact Outcome.mirrors_succeed _
  | some definition =>
      rw [meaning, meaning, meaningUnder, meaningUnder]
      split
      · exact Outcome.mirrors_succeed _
      split
      · split
        · split
          · exact Outcome.mirrors_succeed _
          · exact Outcome.mirrors_refuse rfl
        · exact Outcome.mirrors_refuse rfl
      · split
        · exact Outcome.mirrors_succeed _
        · exact Outcome.mirrors_refuse rfl

end Term

namespace Resolver

variable (resolver : Resolver)

/-! ## Entries

Specifiers are resolved without a look at whose context they stand in, and none of their
problems is one with a declared term. -/

theorem mirrors_readSpecifier (specifier : String) :
    (readSpecifier specifier).Mirrors (readSpecifier specifier) := by
  rw [readSpecifier]
  split
  · split
    · exact Outcome.mirrors_succeed _
    · exact Outcome.mirrors_refuse rfl
  · exact Outcome.mirrors_refuse rfl

theorem mirrors_legality (specifier : String) (language : Nat) :
    ∀ problem ∈ resolver.legality specifier language, problem.Mirrors problem := by
  rw [legality]
  split
  · simp
  · simp [Problem.Mirrors, Problem.kind, Diagnostic.Kind.inExtension]

theorem mirrors_ceiling (specifier : String) (major : Nat) :
    ∀ problem ∈ resolver.ceiling specifier major, problem.Mirrors problem := by
  rw [ceiling]
  split
  · split
    · simp [Problem.Mirrors, Problem.kind, Diagnostic.Kind.inExtension]
    · simp
  · simp

theorem mirrors_resolveLanguage (specifier : String) :
    (resolver.resolveLanguage specifier).Mirrors (resolver.resolveLanguage specifier) := by
  refine (mirrors_readSpecifier specifier).bind fun dtmi => ?_
  simp only
  split
  · exact Outcome.mirrors_refuse rfl
  · split
    · exact Outcome.mirrors_refuse rfl
    · refine (Outcome.mirrors_check (List.forall₂_same.mpr ?_)).bind fun _ =>
        Outcome.mirrors_pure _
      intro problem member
      rcases List.mem_append.mp member with above | illegal
      · exact resolver.mirrors_ceiling _ _ problem above
      · exact resolver.mirrors_legality _ _ problem illegal

theorem mirrors_forgive (lenient : Bool) {problem : Problem} (same : problem.Mirrors problem) :
    (forgive lenient problem).Mirrors (forgive lenient problem) := by
  rw [forgive]
  split
  · exact Outcome.mirrors_succeed _
  · exact Outcome.mirrors_refuse same

theorem mirrors_resolveSpecifier (specifier : String) (index language : Nat) (lenient : Bool) :
    (resolver.resolveSpecifier specifier index language lenient).Mirrors
      (resolver.resolveSpecifier specifier index language lenient) := by
  rw [resolveSpecifier]
  split
  · exact Outcome.mirrors_refuse rfl
  split
  · exact mirrors_forgive lenient rfl
  refine (mirrors_readSpecifier specifier).bind fun dtmi => ?_
  refine (Outcome.mirrors_check (List.forall₂_same.mpr ?_)).bind fun _ => ?_
  · intro problem member
    rcases List.mem_append.mp member with unversioned | illegal
    · split at unversioned
      · simp at unversioned
      · rw [List.mem_singleton.mp unversioned]
        rfl
    · exact resolver.mirrors_legality _ _ problem illegal
  · split
    · exact mirrors_forgive lenient rfl
    · split
      · exact mirrors_forgive lenient rfl
      · exact Outcome.mirrors_pure _

theorem mirrors_resolveAffiliate (component : Context.Component) (language : Nat)
    (lenient : Bool) :
    (resolver.resolveAffiliate component language lenient).Mirrors
      (resolver.resolveAffiliate component language lenient) := by
  rw [resolveAffiliate]
  split
  · split
    · exact Outcome.mirrors_succeed _
    · exact Outcome.mirrors_refuse rfl
  · exact resolver.mirrors_resolveSpecifier _ _ _ _

/-! ## Blocks and stacks -/

theorem mirrors_merge (block : Context.Block) (parent : Scope) (language : Nat) :
    (resolver.merge block parent language .extension).Mirrors
      (resolver.merge block parent language .element) := by
  refine (Outcome.mirrors_all (fun declaration => ?_) block.entries).bind fun _ =>
    Outcome.mirrors_pure _
  refine (Term.mirrors_checkName declaration.1 resolver.language).bind fun _ => ?_
  exact (Term.mirrors_meaning _ _ _ _).bind fun _ => Outcome.mirrors_pure _

theorem mirrors_resolveComponent (language : Nat) (parent : Scope)
    (component : Context.Component) :
    (resolver.resolveComponent language .extension parent component).Mirrors
      (resolver.resolveComponent language .element parent component) := by
  rw [resolveComponent, resolveComponent]
  split
  · exact (resolver.mirrors_merge _ _ _).bind fun _ => Outcome.mirrors_pure _
  · exact (resolver.mirrors_resolveAffiliate _ _ _).bind fun _ => Outcome.mirrors_pure _

theorem mirrors_resolveStack (stack : Context.Stack) (parent : Scope)
    {missing otherMissing : Problem} (same : missing.Mirrors otherMissing) :
    (resolver.resolveStack stack parent .extension missing).Mirrors
      (resolver.resolveStack stack parent .element otherMissing) := by
  rw [resolveStack, resolveStack]
  split
  · exact Outcome.mirrors_refuse same
  split
  · exact Outcome.mirrors_refuse same
  split
  · refine (resolver.mirrors_resolveLanguage _).bind fun language => ?_
    exact (Outcome.mirrors_all (resolver.mirrors_resolveComponent _ parent) _).bind fun _ =>
      Outcome.mirrors_pure _
  · exact Outcome.mirrors_refuse same

/-! ## Registrations -/

section Admitted

variable {resolver} {specifier : String} {dtmi : Dtmi}
variable (parsed : Dtmi.parse? specifier = some dtmi) (whole : dtmi.fragment = none)
variable (versioned : dtmi.isVersioned = true)
variable (unreserved : resolver.isExtensionReserved specifier dtmi.name = false)

include parsed whole versioned unreserved

/-- Behind the checks of its specifier, a draft is the resolution of its context. -/
theorem draft_of_admitted (stack : Context.Stack) :
    resolver.draft specifier stack =
      resolver.resolveStack stack Scope.empty .extension
          (.extensionWithoutLanguage specifier) >>= fun context =>
        .succeed ⟨dtmi.name, context.language.version.major,
          ⟨dtmi.version, context.scope.terms, context.scope.prefixes⟩⟩ := by
  rw [draft, readSpecifier_of_parse? parsed whole, Outcome.succeed_bind, versioned, unreserved]
  rfl

variable (new : dtmi.version ∉ (resolver.family dtmi.name).available)

include new

/-- A version that is new is recorded as soon as its context is resolved, so that nothing is
reported but what is wrong with the context. -/
theorem register_of_admitted (stack : Context.Stack) :
    (resolver.register specifier stack).1 =
      resolver.resolveStack stack Scope.empty .extension
          (.extensionWithoutLanguage specifier) >>= fun context =>
        .succeed ⟨dtmi.name, context.language.version.major,
          ⟨dtmi.version, context.scope.terms, context.scope.prefixes⟩⟩ := by
  rw [register, Outcome.fst_thread, draft_of_admitted parsed whole versioned unreserved]
  cases resolver.resolveStack stack Scope.empty .extension
      (.extensionWithoutLanguage specifier) with
  | mk reports given =>
      cases given with
      | none => rfl
      | some context =>
          have recorded : resolver.record dtmi.name
              ⟨dtmi.version, context.scope.terms, context.scope.prefixes⟩ = (.ok _, _) :=
            record_of_not_mem new
          simp only [bind, Outcome.andThen, Outcome.succeed, recorded, List.append_nil]

/-- Registering an extension and resolving its context for an element agree.  They succeed
together, and then the extension is recorded in the version of the language that the context
begins with, and its vocabulary holds the terms and the prefixes of the scope of the context.
What they report corresponds one by one, and only the kinds of problems with declared terms
say for whom the context was resolved. -/
theorem register_mirrors_process (stack : Context.Stack) :
    let registered := resolver.register specifier stack
    let processed := resolver.process stack none
    registered.1.result = processed.result.map (fun context =>
        ⟨dtmi.name, context.language.version.major,
          ⟨dtmi.version, context.scope.terms, context.scope.prefixes⟩⟩) ∧
      (∀ context, processed.result = some context →
        (registered.2.family dtmi.name).versions = (resolver.family dtmi.name).versions ++
          [⟨dtmi.version, context.scope.terms, context.scope.prefixes⟩]) ∧
      List.Forall₂ Problem.Mirrors registered.1.reports processed.reports := by
  have mirrored : ((resolver.register specifier stack).1).Mirrors
      (resolver.process stack none >>= fun context =>
        .succeed ⟨dtmi.name, context.language.version.major,
          ⟨dtmi.version, context.scope.terms, context.scope.prefixes⟩⟩) := by
    rw [register_of_admitted parsed whole versioned unreserved new]
    have same : (Problem.extensionWithoutLanguage specifier).Mirrors
        (.contextWithoutLanguage (stack.entries.head?.bind Context.Entry.specifier?)) := rfl
    exact (resolver.mirrors_resolveStack stack Scope.empty same).bind fun context =>
      Outcome.mirrors_succeed _
  intro registered processed
  have result := mirrored.result
  rw [Outcome.result_bind_succeed] at result
  refine ⟨result, fun context resolved => ?_, ?_⟩
  · rw [resolved, Option.map_some] at result
    obtain ⟨-, -, state⟩ := register_eq_some result
    rw [state, family_extend, if_pos rfl, History.versions_append]
  · have reports := mirrored.reports
    rwa [Outcome.reports_bind_succeed] at reports

end Admitted

/-- A context that refers to an unknown one and declares the scheme of identifiers has two
faults for an extension as for an element; a good one is recorded as it is resolved. -/
theorem register_mirrors_process_plants :
    let faulty : Context.Stack :=
      ⟨[.remote "dtmi:dtdl:context;3", .remote "dtmi:com:example:soil;1",
        .block (Table.ofList [("dtmi", some "dtmi:com:example:Plant;1")])]⟩
    let refused := (minimal.register "dtmi:com:example:plants;1" faulty).1
    (refused.reports.map Problem.kind =
        [.unresolvableContextSpecifier, .extensionTermSchemePrefix] ∧
      (minimal.process faulty none).reports.map Problem.kind =
        [.unresolvableContextSpecifier, .localTermSchemePrefix] ∧
      List.Forall₂ Problem.Mirrors refused.reports (minimal.process faulty none).reports) ∧
    ∃ dtmi context, Dtmi.parse? "dtmi:com:example:plants;1" = some dtmi ∧
      (minimal.process plants none).result = some context ∧
      (minimal.register "dtmi:com:example:plants;1" plants).1.result =
        some ⟨dtmi.name, context.language.version.major,
          ⟨dtmi.version, context.scope.terms, context.scope.prefixes⟩⟩ := by
  intro faulty refused
  let dtmi : Dtmi := ⟨["com", "example", "plants"], some ⟨"1", none⟩, none⟩
  have parsed : Dtmi.parse? "dtmi:com:example:plants;1" = some dtmi := by decide +kernel
  have unreserved :
      minimal.isExtensionReserved "dtmi:com:example:plants;1" dtmi.name = false := by
    decide +kernel
  have new : dtmi.version ∉ (minimal.family dtmi.name).available := by decide +kernel
  have agrees (stack : Context.Stack) :=
    register_mirrors_process parsed rfl (by decide +kernel) unreserved new stack
  obtain ⟨-, -, mirrored⟩ := agrees faulty
  obtain ⟨same, -, -⟩ := agrees plants
  have resolved : (minimal.process plants none).result.isSome = true := by decide +kernel
  obtain ⟨context, found⟩ := Option.isSome_iff_exists.mp resolved
  rw [found, Option.map_some] at same
  exact ⟨⟨by decide +kernel, by decide +kernel, mirrored⟩, dtmi, context, parsed, found, same⟩

end Resolver

end Dtdl
