import Dtdl.Proofs.Reporting
import Dtdl.Proofs.Session
import Mathlib.Data.List.Forall2

/-!
# Growth of the registry

A resolver that has performed operations knows all that it knew before and answers a
question about a recorded version the same way.  The only answers that may change are those
about versions that it did not know: a strict resolver refused them, and a lenient one
passed them over.

The main statement is that a context which was resolved once is resolved ever after, to the
same language and the same scope, and that its affiliates stay in their order; a lenient
resolver may find further ones between them.
-/

namespace Dtdl

namespace Resolver

/-- A resolver extends another one if it differs in the exogenous table only and still has
every history there, with further versions at the end at most. -/
structure Extends (later earlier : Resolver) : Prop where
  frame : ∃ exogenous, later = { earlier with exogenous }
  kept : ∀ {name history}, earlier.exogenous.get? name = some history →
    ∃ longer, later.exogenous.get? name = some longer ∧ history.versions <+: longer.versions

theorem Extends.refl (resolver : Resolver) : resolver.Extends resolver where
  frame := ⟨resolver.exogenous, rfl⟩
  kept known := ⟨_, known, List.prefix_rfl⟩

theorem Extends.trans {first second third : Resolver} (later : third.Extends second)
    (earlier : second.Extends first) : third.Extends first where
  frame := by
    obtain ⟨_, rfl⟩ := earlier.frame
    obtain ⟨exogenous, rfl⟩ := later.frame
    exact ⟨exogenous, rfl⟩
  kept known := by
    obtain ⟨longer, found, grown⟩ := earlier.kept known
    obtain ⟨longest, found, more⟩ := later.kept found
    exact ⟨longest, found, grown.trans more⟩

theorem extends_extend (resolver : Resolver) (registration : Registration) :
    (resolver.extend registration).Extends resolver where
  frame := ⟨_, rfl⟩
  kept {name history} known := by
    by_cases same : name = registration.name
    · subst same
      refine ⟨_, Table.get?_insert_self _ _ _, ?_⟩
      rw [family, known, Option.getD_some, History.versions_append]
      exact List.prefix_append _ _
    · exact ⟨history, by rwa [extend, Table.get?_insert_of_ne _ same], List.prefix_rfl⟩

theorem extends_register (resolver : Resolver) (specifier : String) (stack : Context.Stack) :
    (resolver.register specifier stack).2.Extends resolver := by
  rcases register_cases resolver specifier stack with
    ⟨-, state⟩ | ⟨registration, -, -, -, state⟩
  · rw [state]
    exact .refl resolver
  · rw [state]
    exact extends_extend resolver registration

theorem extends_run (resolver : Resolver) (operations : List Operation) :
    (resolver.run operations).Extends resolver :=
  run_preserves (·.Extends resolver)
    (fun reached specifier stack earlier =>
      (extends_register reached specifier stack).trans earlier)
    (.refl resolver) operations

/-! ## Recorded versions -/

section Extended

variable {later earlier : Resolver} (extended : later.Extends earlier)

include extended

/-- A version that was found is still found, and it has the same vocabulary: the first
version that fits stands in front of everything that was added. -/
theorem Extends.recorded? {name : String} {version : Version} {vocabulary : Vocabulary}
    (recorded : earlier.recorded? name version = some vocabulary) :
    later.recorded? name version = some vocabulary := by
  obtain ⟨exogenous, rfl⟩ := extended.frame
  rw [Resolver.recorded?, Option.bind_eq_some_iff] at recorded ⊢
  obtain ⟨history, known, found⟩ := recorded
  rw [history?] at known ⊢
  cases endogenous : earlier.endogenous.get? name with
  | some family =>
      rw [endogenous, Option.some_or] at known
      exact ⟨history, known, found⟩
  | none =>
      rw [endogenous, Option.none_or] at known
      obtain ⟨longer, present, grown⟩ := extended.kept known
      exact ⟨longer, present, grown.find?_eq_some found⟩

/-! ## Entries -/

/-- An affiliate that was found is found again, and a specifier that was passed over does not
become an error. -/
theorem Extends.resolveSpecifier {specifier : String} {index language : Nat} {lenient : Bool}
    {found : Option Context.Affiliate}
    (resolved :
      (earlier.resolveSpecifier specifier index language lenient).result = some found) :
    ∃ again, (later.resolveSpecifier specifier index language lenient).result = some again ∧
      (again = found ∨ found = none ∧ lenient = true) := by
  obtain ⟨behind, allowed, foreign | ⟨lead, dtmi, parsed, whole, versioned, legal, stood⟩⟩ :=
    resolveSpecifier_eq_some.mp resolved
  · refine ⟨found, ?_, .inl rfl⟩
    exact resolveSpecifier_eq_some.mpr ⟨behind, allowed, .inl foreign⟩
  · have legal : later.legality specifier language = [] := by
      obtain ⟨exogenous, rfl⟩ := extended.frame
      exact legal
    have grown : (later.recorded? dtmi.name dtmi.version).map (⟨dtmi.name, ·⟩) = found ∨
        found = none := by
      cases recorded : earlier.recorded? dtmi.name dtmi.version with
      | none =>
          right
          rw [stood, recorded, Option.map_none]
      | some vocabulary =>
          left
          rw [stood, recorded, extended.recorded? recorded]
    refine ⟨_, resolveSpecifier_eq_some.mpr ⟨behind, ?_,
      .inr ⟨lead, dtmi, parsed, whole, versioned, legal, rfl⟩⟩, ?_⟩
    · intro absent
      rcases grown with same | unknown
      · exact allowed (same ▸ absent)
      · exact allowed unknown
    · exact grown.imp_right fun unknown => ⟨unknown, allowed unknown⟩

theorem Extends.result_resolveAffiliate {component : Context.Component} {language : Nat}
    {lenient : Bool} {found : Option Context.Affiliate}
    (resolved : (earlier.resolveAffiliate component language lenient).result = some found) :
    ∃ again, (later.resolveAffiliate component language lenient).result = some again ∧
      (again = found ∨ found = none ∧ lenient = true) := by
  rw [Resolver.resolveAffiliate] at resolved ⊢
  split at resolved
  · exact ⟨found, resolved, .inl rfl⟩
  · exact extended.resolveSpecifier resolved

theorem Extends.resolveAffiliate {component : Context.Component} {language : Nat}
    {lenient : Bool} {affiliate : Context.Affiliate}
    (resolved :
      (earlier.resolveAffiliate component language lenient).result = some (some affiliate)) :
    later.resolveAffiliate component language lenient = .succeed (some affiliate) := by
  obtain ⟨again, found, same | ⟨absent, -⟩⟩ := extended.result_resolveAffiliate resolved
  · rw [same] at found
    exact (later.honest_resolveAffiliate _ _ _).eq_succeed found
  · contradiction

end Extended

/-! ## Stacks -/

/-- What may become of a contribution: it stays, or an affiliate takes the place of an entry
that a lenient resolver passed over. -/
inductive Contribution.Becomes (lenient : Bool) : Contribution → Contribution → Prop
  | stays (contribution : Contribution) : Becomes lenient contribution contribution
  | appears (allowed : lenient = true) (affiliate : Context.Affiliate) :
      Becomes lenient .nothing (.affiliate affiliate)

namespace Contribution

variable {earlier later : List Contribution}

theorem affiliates_sublist {lenient : Bool}
    (related : List.Forall₂ (Becomes lenient) earlier later) :
    (earlier.filterMap affiliate?).Sublist (later.filterMap affiliate?) := by
  induction related with
  | nil => exact List.Sublist.refl _
  | cons becomes _ ih =>
      cases becomes with
      | stays =>
          rw [List.filterMap_cons, List.filterMap_cons]
          split
          · exact ih
          · exact ih.cons_cons _
      | appears allowed affiliate => exact ih.cons affiliate

theorem scope_eq {lenient : Bool} (related : List.Forall₂ (Becomes lenient) earlier later) :
    later.findSome? scope? = earlier.findSome? scope? := by
  induction related with
  | nil => rfl
  | cons becomes _ ih =>
      cases becomes with
      | stays => rw [List.findSome?_cons, List.findSome?_cons, ih]
      | appears allowed affiliate => simpa [List.findSome?_cons, scope?] using ih

/-- Nothing appears where nothing was passed over. -/
theorem eq_of_strict (related : List.Forall₂ (Becomes false) earlier later) :
    later = earlier := by
  induction related with
  | nil => rfl
  | cons becomes _ ih =>
      cases becomes with
      | stays => rw [ih]
      | appears allowed affiliate => contradiction

end Contribution

section Extended

variable {later earlier : Resolver} (extended : later.Extends earlier)

include extended

theorem Extends.resolveComponent {language : Nat} {owner : Owner} {parent : Scope}
    {component : Context.Component} {contribution : Contribution}
    (resolved :
      (earlier.resolveComponent language owner parent component).result = some contribution) :
    ∃ other, (later.resolveComponent language owner parent component).result = some other ∧
      contribution.Becomes earlier.options.allowUndefined other := by
  obtain ⟨exogenous, same⟩ := extended.frame
  rw [Resolver.resolveComponent] at resolved ⊢
  split at resolved
  · subst same
    exact ⟨contribution, resolved, .stays contribution⟩
  · have options : later.options = earlier.options := by rw [same]
    simp only [Outcome.result_bind, Option.bind_eq_some_iff, Outcome.result_pure,
      Option.some.injEq] at resolved ⊢
    obtain ⟨found, read, rfl⟩ := resolved
    rw [options]
    obtain ⟨again, found, same | ⟨absent, allowed⟩⟩ := extended.result_resolveAffiliate read
    · rw [← same]
      exact ⟨_, ⟨again, found, rfl⟩, .stays _⟩
    · refine ⟨again.elim .nothing .affiliate, ⟨again, found, rfl⟩, ?_⟩
      rw [absent]
      cases again with
      | none => exact .stays .nothing
      | some affiliate => exact .appears allowed affiliate

theorem Extends.resolveComponents {language : Nat} {owner : Owner} {parent : Scope}
    {components : List Context.Component} {contributions : List Contribution}
    (each : components.map (fun component =>
        (earlier.resolveComponent language owner parent component).result) =
      contributions.map some) :
    ∃ others, components.map (fun component =>
          (later.resolveComponent language owner parent component).result) = others.map some ∧
      List.Forall₂ (Contribution.Becomes earlier.options.allowUndefined) contributions others := by
  induction components generalizing contributions with
  | nil =>
      cases contributions with
      | nil => exact ⟨[], rfl, .nil⟩
      | cons => simp at each
  | cons component rest ih =>
      cases contributions with
      | nil => simp at each
      | cons contribution contributed =>
          simp only [List.map_cons, List.cons.injEq] at each
          obtain ⟨other, first, becomes⟩ := extended.resolveComponent each.1
          obtain ⟨others, behind, related⟩ := ih each.2
          exact ⟨other :: others, by simp [first, behind], .cons becomes related⟩

/-- A stack that was resolved is resolved again: to the same language and the same scope,
and its affiliates are joined by further ones at most. -/
theorem Extends.resolveStack {stack : Context.Stack} {parent : Scope} {owner : Owner}
    {missing : Problem} {context : Context.Resolved}
    (resolved : (earlier.resolveStack stack parent owner missing).result = some context) :
    ∃ affiliates, (later.resolveStack stack parent owner missing) =
        .succeed { context with affiliates } ∧
      context.affiliates.Sublist affiliates ∧
      (earlier.options.allowUndefined = false → affiliates = context.affiliates) := by
  obtain ⟨first, rest, specifier, contributions, components, entry, names, begins, each,
    affiliates, scope⟩ := resolveStack_eq_some resolved
  obtain ⟨others, again, related⟩ := extended.resolveComponents each
  have language : (later.resolveLanguage specifier).result = some context.language := by
    obtain ⟨exogenous, rfl⟩ := extended.frame
    exact begins
  refine ⟨others.filterMap Contribution.affiliate?, ?_, ?_, fun strict => ?_⟩
  · apply (later.honest_resolveStack stack parent owner missing).eq_succeed
    rw [resolveStack_of_parts components entry names language again,
      Contribution.scope_eq related, ← scope]
  · rw [affiliates]
    exact Contribution.affiliates_sublist related
  · rw [strict] at related
    rw [affiliates, Contribution.eq_of_strict related]

end Extended

/-- Resolved stays resolved.  Whatever a session goes on to do, a context that was resolved
is resolved again without a report, to the same language and the same scope; its affiliates
are the same if the resolver is strict, and otherwise they keep their order among those that
could not be resolved before.  An entry that was resolved to an affiliate stands for it from
then on. -/
theorem resolved_of_run (resolver : Resolver) (operations : List Operation) :
    (∀ stack parent context, (resolver.process stack parent).result = some context →
      ∃ affiliates, (resolver.run operations).process stack parent =
          .succeed { context with affiliates } ∧
        context.affiliates.Sublist affiliates ∧
        (resolver.options.allowUndefined = false → affiliates = context.affiliates)) ∧
    ∀ component language lenient affiliate,
      (resolver.resolveAffiliate component language lenient).result = some (some affiliate) →
        (resolver.run operations).resolveAffiliate component language lenient =
          .succeed (some affiliate) := by
  have extended := extends_run resolver operations
  constructor
  · intro stack parent context processed
    exact extended.resolveStack processed
  · intro component language lenient affiliate found
    exact extended.resolveAffiliate found

/-- A lenient resolver passes over a version that nobody has declared yet.  Once it is
declared it takes its place in front of the affiliate that was there. -/
theorem resolved_of_run_plants :
    let lenient : Resolver :=
      ({ minimal with options := ⟨none, true⟩ } : Resolver).run
        [.register "dtmi:com:example:plants;1" plants]
    let operations : List Operation := [.register "dtmi:com:example:plants;2" plants]
    let stack : Context.Stack :=
      ⟨[.remote "dtmi:dtdl:context;3", .remote "dtmi:com:example:plants;2",
        .remote "dtmi:com:example:plants;1"]⟩
    (∃ context affiliates, (lenient.process stack none).result = some context ∧
      (lenient.run operations).process stack none = .succeed { context with affiliates } ∧
      context.affiliates.map (·.specifier) = ["dtmi:com:example:plants;1"] ∧
      affiliates.map (·.specifier) =
        ["dtmi:com:example:plants;2", "dtmi:com:example:plants;1"] ∧
      context.affiliates.Sublist affiliates) ∧
    ∃ affiliate,
      (lenient.resolveAffiliate ⟨1, true, .remote "dtmi:com:example:plants;1"⟩ 3 false).result =
        some (some affiliate) ∧
      (lenient.run operations).resolveAffiliate
          ⟨1, true, .remote "dtmi:com:example:plants;1"⟩ 3 false =
        .succeed (some affiliate) := by
  intro lenient operations stack
  obtain ⟨contexts, entries⟩ := resolved_of_run lenient operations
  constructor
  · have before : (lenient.process stack none).result.map
        (fun context => context.affiliates.map (·.specifier)) =
          some ["dtmi:com:example:plants;1"] := by
      decide +kernel
    have behind : ((lenient.run operations).process stack none).result.map
        (fun context => context.affiliates.map (·.specifier)) =
          some ["dtmi:com:example:plants;2", "dtmi:com:example:plants;1"] := by
      decide +kernel
    obtain ⟨context, processed, known⟩ := Option.map_eq_some_iff.mp before
    obtain ⟨affiliates, again, sublist, -⟩ := contexts stack none context processed
    rw [again, Outcome.result_succeed, Option.map_some, Option.some.injEq] at behind
    exact ⟨context, affiliates, processed, again, known, behind, sublist⟩
  · have found :
        (lenient.resolveAffiliate ⟨1, true, .remote "dtmi:com:example:plants;1"⟩ 3
          false).result.join.isSome = true := by
      decide +kernel
    obtain ⟨affiliate, same⟩ := Option.isSome_iff_exists.mp found
    rw [Option.join_eq_some_iff] at same
    exact ⟨affiliate, same, entries _ 3 false affiliate same⟩

end Resolver

end Dtdl
