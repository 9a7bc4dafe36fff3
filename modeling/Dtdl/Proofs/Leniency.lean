import Dtdl.Proofs.Entries

/-!
# Lenient resolvers

A resolver may be told to pass over the entries of a context that name an unknown context.  What
is unknown shows in three places, and between them and behind them stand the checks that an entry
has to pass all the same.  So a lenient resolver could hide a fault that has nothing to do with an
unknown context, or find one that a strict resolver never comes to.

It does neither.  The main statement is that a lenient resolver reports what a strict one does,
without the three kinds of faults that it forgives, and that it makes no difference to a context
that the strict one has resolved.
-/

namespace Dtdl

/-- Whether a fault says no more than that a context is unknown. -/
def Diagnostic.Kind.isForgivable : Kind → Bool
  | nonDtmiContextSpecifier | unresolvableContextSpecifier | unresolvableContextVersion => true
  | _ => false

/-- The problems that no resolver passes over. -/
def Problem.unforgiven (problems : List Problem) : List Problem :=
  problems.filter fun problem => !problem.kind.isForgivable

namespace Outcome

variable {Result Next : Type}

/-- An outcome forgives what another one reports of unknown contexts: everything else is reported
as it is there, in order, and a result that the other one has is its own. -/
structure Forgives (lenient strict : Outcome Problem Result) : Prop where
  reports : lenient.reports = Problem.unforgiven strict.reports
  result : ∀ result, strict.result = some result → lenient.result = some result

theorem forgives_succeed (result : Result) : (succeed result).Forgives (succeed result) :=
  ⟨rfl, fun _ found => found⟩

theorem forgives_pure (result : Result) :
    (pure result : Outcome Problem Result).Forgives (pure result) :=
  forgives_succeed result

theorem forgives_refuse {problem : Problem} (grave : problem.kind.isForgivable = false) :
    (refuse problem : Outcome Problem Result).Forgives (refuse problem) :=
  ⟨by simp [refuse, Problem.unforgiven, grave], fun _ found => found⟩

theorem forgives_check {problems : List Problem}
    (grave : ∀ problem ∈ problems, problem.kind.isForgivable = false) :
    (check problems).Forgives (check problems) := by
  refine ⟨?_, fun _ found => found⟩
  rw [check, Problem.unforgiven, eq_comm, List.filter_eq_self]
  intro problem member
  rw [grave problem member]
  rfl

/-- Behind a unit in which there is nothing to forgive, what follows decides. -/
theorem Forgives.bind {first : Outcome Problem Result} (grave : first.Forgives first)
    {next other : Result → Outcome Problem Next}
    (each : ∀ result, (next result).Forgives (other result)) :
    (first >>= next).Forgives (first >>= other) := by
  cases first with
  | mk reports given =>
      have same : reports = Problem.unforgiven reports := grave.reports
      cases given with
      | none => exact ⟨same, fun _ found => found⟩
      | some result =>
          refine ⟨?_, (each result).result⟩
          change reports ++ (next result).reports =
            Problem.unforgiven (reports ++ (other result).reports)
          rw [Problem.unforgiven, List.filter_append, ← Problem.unforgiven,
            ← Problem.unforgiven, ← same, (each result).reports]

/-- What is made of a result has no say in what is forgiven. -/
theorem Forgives.map {lenient strict : Outcome Problem Result}
    (forgiven : lenient.Forgives strict) (image : Result → Next) :
    (lenient >>= fun result => succeed (image result)).Forgives
      (strict >>= fun result => succeed (image result)) where
  reports := by rw [reports_bind_succeed, reports_bind_succeed, forgiven.reports]
  result next found := by
    rw [result_bind_succeed, Option.map_eq_some_iff] at found ⊢
    obtain ⟨result, given, same⟩ := found
    exact ⟨result, forgiven.result result given, same⟩

theorem forgives_all {Source : Type} {part other : Source → Outcome Problem Result}
    (each : ∀ source, (part source).Forgives (other source)) (sources : List Source) :
    (all (sources.map part)).Forgives (all (sources.map other)) where
  reports := by
    rw [reports_all, reports_all, List.flatMap_map, List.flatMap_map, Problem.unforgiven,
      List.filter_flatMap]
    congr 1
    funext source
    exact (each source).reports
  result results found := by
    rw [result_all, List.map_map] at found ⊢
    exact each_of_alike found fun source _ => (each source).result

/-- A lenient unit succeeds exactly if nothing is left to report. -/
theorem Forgives.isSome_result {lenient strict : Outcome Problem Result}
    (forgiven : lenient.Forgives strict) (honest : lenient.Honest) :
    lenient.result.isSome = true ↔ Problem.unforgiven strict.reports = [] := by
  rw [← forgiven.reports]
  exact honest

end Outcome

/-! ## What there is nothing to forgive in -/

namespace Term

/-- A problem with a declared term is no unknown context. -/
theorem isForgivable_declaration (owner : Owner) (problem : TermProblem) :
    (Problem.declaration owner problem).kind.isForgivable = false := by
  cases owner <;> cases problem <;> rfl

theorem forgives_checkName (name : String) (owner : Owner) (language : History) :
    (checkName name owner language).Forgives (checkName name owner language) := by
  apply Outcome.forgives_check
  intro problem member
  obtain ⟨fault, -, rfl⟩ := List.mem_map.mp member
  exact isForgivable_declaration owner fault

theorem forgives_meaning (name : String) (definition : Option String) (language : Nat)
    (owner : Owner) (rules : Dtmi.Rules) :
    (meaning name definition language owner rules).Forgives
      (meaning name definition language owner rules) := by
  cases definition with
  | none => exact Outcome.forgives_succeed _
  | some definition =>
      rw [meaning, meaningUnder]
      split
      · exact Outcome.forgives_succeed _
      split
      · split
        · split
          · exact Outcome.forgives_succeed _
          · exact Outcome.forgives_refuse (isForgivable_declaration _ _)
        · exact Outcome.forgives_refuse (isForgivable_declaration _ _)
      · split
        · exact Outcome.forgives_succeed _
        · exact Outcome.forgives_refuse (isForgivable_declaration _ _)

end Term

namespace Resolver

variable (resolver : Resolver)

theorem forgives_readSpecifier (specifier : String) :
    (readSpecifier specifier).Forgives (readSpecifier specifier) := by
  rw [readSpecifier]
  split
  · split
    · exact Outcome.forgives_succeed _
    · exact Outcome.forgives_refuse rfl
  · exact Outcome.forgives_refuse rfl

theorem isForgivable_of_mem_legality {specifier : String} {language : Nat} {problem : Problem}
    (member : problem ∈ resolver.legality specifier language) :
    problem.kind.isForgivable = false := by
  rw [legality] at member
  split at member
  · simp at member
  · rw [List.mem_singleton.mp member]
    rfl

theorem isForgivable_of_mem_ceiling {specifier : String} {major : Nat} {problem : Problem}
    (member : problem ∈ resolver.ceiling specifier major) :
    problem.kind.isForgivable = false := by
  rw [ceiling] at member
  split at member
  · split at member
    · rw [List.mem_singleton.mp member]
      rfl
    · simp at member
  · simp at member

theorem forgives_resolveLanguage (specifier : String) :
    (resolver.resolveLanguage specifier).Forgives (resolver.resolveLanguage specifier) := by
  refine (forgives_readSpecifier specifier).bind fun dtmi => ?_
  simp only
  split
  · exact Outcome.forgives_refuse rfl
  · split
    · exact Outcome.forgives_refuse rfl
    · refine (Outcome.forgives_check ?_).bind fun _ => Outcome.forgives_pure _
      intro problem member
      rcases List.mem_append.mp member with above | illegal
      · exact resolver.isForgivable_of_mem_ceiling above
      · exact resolver.isForgivable_of_mem_legality illegal

theorem forgives_merge (block : Context.Block) (parent : Scope) (language : Nat)
    (owner : Owner) :
    (resolver.merge block parent language owner).Forgives
      (resolver.merge block parent language owner) := by
  refine (Outcome.forgives_all (fun declaration => ?_) block.entries).map _
  refine (Term.forgives_checkName declaration.1 owner resolver.language).bind fun _ => ?_
  exact (Term.forgives_meaning _ _ _ _ _).map _

/-! ## What is forgiven -/

/-- The resolver that is as strict as another one but for unknown contexts. -/
def allowing (allowed : Bool) : Resolver :=
  { resolver with options := { resolver.options with allowUndefined := allowed } }

/-- An unknown context is what is passed over, and no other fault is. -/
theorem forgives_forgive {problem : Problem} (slight : problem.kind.isForgivable = true) :
    (forgive true problem).Forgives (forgive false problem) where
  reports := by simp [forgive, Outcome.succeed, Outcome.refuse, Problem.unforgiven, slight]
  result found given := by simp [forgive] at given

/-- The three places where a context may turn out to be unknown all come last: what is checked
before them is checked for both. -/
theorem forgives_resolveSpecifier (specifier : String) (index language : Nat) :
    (resolver.resolveSpecifier specifier index language true).Forgives
      (resolver.resolveSpecifier specifier index language false) := by
  rw [resolveSpecifier, resolveSpecifier]
  split
  · exact Outcome.forgives_refuse rfl
  split
  · exact forgives_forgive rfl
  refine (forgives_readSpecifier specifier).bind fun dtmi => ?_
  refine (Outcome.forgives_check ?_).bind fun _ => ?_
  · intro problem member
    rcases List.mem_append.mp member with unversioned | illegal
    · split at unversioned
      · simp at unversioned
      · rw [List.mem_singleton.mp unversioned]
        rfl
    · exact resolver.isForgivable_of_mem_legality illegal
  · split
    · exact forgives_forgive rfl
    · split
      · exact forgives_forgive rfl
      · exact Outcome.forgives_pure _

theorem forgives_resolveAffiliate (component : Context.Component) (language : Nat) :
    (resolver.resolveAffiliate component language true).Forgives
      (resolver.resolveAffiliate component language false) := by
  rw [resolveAffiliate, resolveAffiliate]
  split
  · split
    · exact Outcome.forgives_succeed _
    · exact Outcome.forgives_refuse rfl
  · exact resolver.forgives_resolveSpecifier _ _ _

theorem forgives_resolveComponent (language : Nat) (owner : Owner) (parent : Scope)
    (component : Context.Component) :
    ((resolver.allowing true).resolveComponent language owner parent component).Forgives
      ((resolver.allowing false).resolveComponent language owner parent component) := by
  rw [resolveComponent, resolveComponent]
  split
  · exact (resolver.forgives_merge _ parent language owner).map _
  · exact (resolver.forgives_resolveAffiliate component language).map _

/-- The language comes first and is resolved alike; the entries behind it have no say in each
other. -/
theorem forgives_resolveStack (stack : Context.Stack) (parent : Scope) (owner : Owner)
    {missing : Problem} (grave : missing.kind.isForgivable = false) :
    ((resolver.allowing true).resolveStack stack parent owner missing).Forgives
      ((resolver.allowing false).resolveStack stack parent owner missing) := by
  rw [resolveStack, resolveStack]
  split
  · exact Outcome.forgives_refuse grave
  split
  · exact Outcome.forgives_refuse grave
  split
  · refine (resolver.forgives_resolveLanguage _).bind fun language => ?_
    exact (Outcome.forgives_all
      (resolver.forgives_resolveComponent language.version.major owner parent) _).map _
  · exact Outcome.forgives_refuse grave

/-- A lenient resolver forgives unknown contexts and nothing else.  It reports what a strict one
does, in order, without the faults of the three kinds that it forgives; it resolves a context
exactly if nothing is left of them; and a context that the strict one has resolved it resolves
to the same. -/
theorem process_lenient (stack : Context.Stack) (parent : Option Scope) :
    let strict := (resolver.allowing false).process stack parent
    let lenient := (resolver.allowing true).process stack parent
    lenient.reports = Problem.unforgiven strict.reports ∧
      (lenient.result.isSome = true ↔ Problem.unforgiven strict.reports = []) ∧
      ∀ context, strict.result = some context → lenient.result = some context := by
  intro strict lenient
  have forgiven : lenient.Forgives strict :=
    resolver.forgives_resolveStack stack (parent.getD Scope.empty) .element rfl
  have honest : lenient.Honest := (resolver.allowing true).honest_process stack parent
  exact ⟨forgiven.reports, forgiven.isSome_result honest, forgiven.result⟩

/-- Of the six faults of the thicket two are forgiven.  A stack of unknown contexts alone is
resolved, and so is one that a strict resolver resolves, to the same context. -/
theorem process_lenient_thicket :
    let known := (minimal.register "dtmi:com:example:plants;1" plants).2
    let unknown : Context.Stack :=
      ⟨[.remote "dtmi:dtdl:context;3", .remote "https://example.com/garden",
        .remote "dtmi:com:example:soil;1", .remote "dtmi:com:example:plants;7"]⟩
    let planted : Context.Stack :=
      ⟨[.remote "dtmi:dtdl:context;3", .remote "dtmi:com:example:plants;1"]⟩
    ((minimal.allowing true).process thicket none).reports =
      [.blockNotLast 2, .languageNotFirst "dtmi:dtdl:context;3" 3,
        .declaration .element (.notAbsolute "Plant" "Plant" .relative),
        .declaration .element (.schemeName "dtmi")] ∧
    ((known.allowing false).process unknown none).reports.map Problem.kind =
      [.nonDtmiContextSpecifier, .unresolvableContextSpecifier, .unresolvableContextVersion] ∧
    ((known.allowing true).process unknown none).result.isSome = true ∧
    ∃ context, ((known.allowing false).process planted none).result = some context ∧
      ((known.allowing true).process planted none).result = some context := by
  intro known unknown planted
  obtain ⟨faulty, -, -⟩ := process_lenient minimal thicket none
  obtain ⟨-, passed, -⟩ := process_lenient known unknown none
  obtain ⟨-, -, same⟩ := process_lenient known planted none
  have strict : ((known.allowing false).process unknown none).reports.map Problem.kind =
      [.nonDtmiContextSpecifier, .unresolvableContextSpecifier, .unresolvableContextVersion] := by
    decide +kernel
  have resolved : ((known.allowing false).process planted none).result.isSome = true := by
    decide +kernel
  obtain ⟨context, found⟩ := Option.isSome_iff_exists.mp resolved
  refine ⟨?thicket, strict, passed.mpr ?unknown, context, found, same context found⟩
  case thicket =>
    rw [faulty]
    decide +kernel
  case unknown => decide +kernel

end Resolver

end Dtdl
