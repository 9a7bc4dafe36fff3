import Dtdl.Proofs.Growth

/-!
# The order of declarations

Two documents that declare different versions of extensions can come in either order.  The
tables that they leave behind are not the same, since a table keeps the order in which its
families and their versions arrived.  No look-up can tell them apart, however: a reference
names a family and a version, and it finds the vocabulary that was recorded for these two.

So the comparison is made in two steps.  Resolvers that find the same vocabularies resolve
the same entries and the same stacks to the same results, and two registrations lead to such
resolvers in either order.  What may differ is the wording of a refusal, which lists the
recorded versions of a family.
-/

namespace Dtdl

theorem History.find?_append_append (history : History) {first second : Vocabulary}
    (apart : first.version ≠ second.version) (version : Version) :
    ((history.append first).append second).find? version =
      ((history.append second).append first).find? version := by
  simp only [find?, versions_append, List.find?_append, Option.or_assoc]
  congr 1
  by_cases fits : first.version = version
  · have misses : second.version ≠ version := fun same => apart (fits.trans same.symm)
    simp [fits, misses]
  · simp [fits]

namespace Resolver

/-! ## Resolvers that agree -/

/-- Two resolvers agree if they differ in the order of what documents have declared at most:
they know the same families, each with the same versions, and find the same vocabularies. -/
structure Agrees (left right : Resolver) : Prop where
  frame : ∃ exogenous, left = { right with exogenous }
  names : ∀ name, name ∈ left.exogenous.names ↔ name ∈ right.exogenous.names
  versions : ∀ name, (left.family name).versions.Perm (right.family name).versions
  found : ∀ name version, (left.family name).find? version = (right.family name).find? version

/-- A family that is not one of the language is looked up among the declared ones, where an
unknown family is one without versions. -/
theorem recorded?_of_get?_eq_none {resolver : Resolver} {name : String}
    (elsewhere : resolver.endogenous.get? name = none) (version : Version) :
    resolver.recorded? name version = (resolver.family name).find? version := by
  rw [recorded?, history?, elsewhere, Option.none_or, family]
  cases resolver.exogenous.get? name with
  | none => rfl
  | some history => rfl

section Agreement

variable {left right : Resolver} (agreement : left.Agrees right)

include agreement

theorem Agrees.recorded? (name : String) (version : Version) :
    left.recorded? name version = right.recorded? name version := by
  obtain ⟨exogenous, frame⟩ := agreement.frame
  have endogenous : left.endogenous = right.endogenous := by rw [frame]
  cases released : right.endogenous.get? name with
  | none =>
      rw [recorded?_of_get?_eq_none (endogenous ▸ released), recorded?_of_get?_eq_none released]
      exact agreement.found name version
  | some history =>
      rw [Resolver.recorded?, Resolver.recorded?, history?, history?, endogenous, released,
        Option.some_or, Option.some_or]

theorem Agrees.resolveSpecifier (specifier : String) (index language : Nat) (lenient : Bool) :
    (left.resolveSpecifier specifier index language lenient).result =
      (right.resolveSpecifier specifier index language lenient).result := by
  obtain ⟨exogenous, frame⟩ := agreement.frame
  have legality : left.legality specifier language = right.legality specifier language := by
    rw [frame]
    rfl
  ext found
  rw [resolveSpecifier_eq_some, resolveSpecifier_eq_some]
  simp only [legality, agreement.recorded?]

theorem Agrees.resolveAffiliate (component : Context.Component) (language : Nat)
    (lenient : Bool) :
    (left.resolveAffiliate component language lenient).result =
      (right.resolveAffiliate component language lenient).result := by
  rw [Resolver.resolveAffiliate, Resolver.resolveAffiliate]
  cases component.entry with
  | block declarations => rfl
  | remote specifier => exact agreement.resolveSpecifier specifier component.index language lenient

theorem Agrees.resolveComponent (language : Nat) (owner : Owner) (parent : Scope)
    (component : Context.Component) :
    (left.resolveComponent language owner parent component).result =
      (right.resolveComponent language owner parent component).result := by
  obtain ⟨exogenous, frame⟩ := agreement.frame
  have options : left.options = right.options := by rw [frame]
  rw [Resolver.resolveComponent, Resolver.resolveComponent]
  split
  · rw [frame]
    rfl
  · rw [Outcome.result_bind, Outcome.result_bind, options, agreement.resolveAffiliate]

theorem Agrees.resolveStack (stack : Context.Stack) (parent : Scope) (owner : Owner)
    (missing : Problem) :
    (left.resolveStack stack parent owner missing).result =
      (right.resolveStack stack parent owner missing).result := by
  obtain ⟨exogenous, frame⟩ := agreement.frame
  have begins (specifier : String) :
      left.resolveLanguage specifier = right.resolveLanguage specifier := by
    rw [frame]
    rfl
  rw [Resolver.resolveStack, Resolver.resolveStack]
  split
  · rfl
  split
  · rfl
  split
  · rw [begins, Outcome.result_bind, Outcome.result_bind]
    congr 1
    funext language
    rw [Outcome.result_bind, Outcome.result_bind]
    congr 1
    exact Outcome.result_all_congr fun component _ =>
      agreement.resolveComponent language.version.major owner parent component
  · rfl

end Agreement

/-! ## Two registrations -/

section Extended

variable {later earlier : Resolver} (extended : later.Extends earlier)
variable {specifier : String} {stack : Context.Stack} {registration : Registration}

include extended

/-- What a document may declare does not depend on what others have declared: its names are
kept from the language and its extensions only, and its own context stays resolved. -/
theorem Extends.draft
    (drafted : (earlier.draft specifier stack).result = some registration) :
    (later.draft specifier stack).result = some registration := by
  obtain ⟨dtmi, context, parsed, whole, versioned, unreserved, resolved, rfl⟩ :=
    draft_eq_some drafted
  obtain ⟨affiliates, again, -, -⟩ := extended.resolveStack resolved
  have free : later.isExtensionReserved specifier dtmi.name = false := by
    obtain ⟨exogenous, rfl⟩ := extended.frame
    exact unreserved
  have found : (later.resolveStack stack Scope.empty .extension
      (.extensionWithoutLanguage specifier)).result = some { context with affiliates } := by
    rw [again, Outcome.result_succeed]
  have drafted := draft_of_parts parsed whole versioned free found
  exact drafted

end Extended

variable {resolver : Resolver} {first second : Registration}

theorem agrees_extend_extend
    (independent : (first.name, first.vocabulary.version) ≠
      (second.name, second.vocabulary.version)) :
    ((resolver.extend first).extend second).Agrees ((resolver.extend second).extend first) where
  frame := ⟨_, rfl⟩
  names name := by
    simp only [extend, Table.mem_names_insert]
    exact or_left_comm
  versions name := by
    simp only [family_extend]
    split
    · split
      · simp only [History.versions_append, List.append_assoc]
        exact (List.Perm.swap _ _ []).append_left _
      · exact .refl _
    · exact .refl _
  found name version := by
    simp only [family_extend]
    split
    · next same =>
        split
        · next again =>
            have apart : first.vocabulary.version ≠ second.vocabulary.version := by
              intro equal
              exact independent (by rw [← again, ← same, equal])
            exact (resolver.family name).find?_append_append apart version
        · rfl
    · rfl

/-- A registration that could be made alone can be made after an independent one, and records
the same. -/
theorem register_extend {specifier : String} {stack : Context.Stack}
    (registered : (resolver.register specifier stack).1.result = some second)
    (independent : (first.name, first.vocabulary.version) ≠
      (second.name, second.vocabulary.version)) :
    ((resolver.extend first).register specifier stack).1 = .succeed second ∧
      ((resolver.extend first).register specifier stack).2 =
        (resolver.extend first).extend second := by
  obtain ⟨drafted, new, -⟩ := register_eq_some registered
  have again := (extends_extend resolver first).draft drafted
  have absent :
      second.vocabulary.version ∉ ((resolver.extend first).family second.name).available := by
    rw [family_extend]
    split
    · next same =>
        rw [History.available_append, List.mem_append, List.mem_singleton, not_or]
        refine ⟨new, fun equal => independent ?_⟩
        rw [same, equal]
    · exact new
  obtain ⟨recorded, state⟩ := register_of_draft again absent
  exact ⟨((resolver.extend first).honest_register specifier stack).eq_succeed recorded, state⟩

/-- Independent declarations commute.  Two registrations that can be made alone, of different
versions, can be made in either order; both orders record the same two vocabularies, leave the
same versions in every family, and lead to resolvers that no entry and no stack tells apart. -/
theorem registrations_commute {specifier other : String} {stack otherStack : Context.Stack}
    {dtmi otherDtmi : Dtmi} (parsed : Dtmi.parse? specifier = some dtmi)
    (otherParsed : Dtmi.parse? other = some otherDtmi)
    (independent : (dtmi.name, dtmi.version) ≠ (otherDtmi.name, otherDtmi.version))
    (registered : (resolver.register specifier stack).1.result = some first)
    (otherRegistered : (resolver.register other otherStack).1.result = some second) :
    let forth := (resolver.register specifier stack).2.register other otherStack
    let back := (resolver.register other otherStack).2.register specifier stack
    forth.1 = .succeed second ∧ back.1 = .succeed first ∧
      (∃ exogenous, forth.2 = { back.2 with exogenous }) ∧
      (∀ name, (name ∈ forth.2.exogenous.names ↔ name ∈ back.2.exogenous.names) ∧
        (forth.2.family name).versions.Perm (back.2.family name).versions) ∧
      (∀ component language lenient,
        (forth.2.resolveAffiliate component language lenient).result =
          (back.2.resolveAffiliate component language lenient).result) ∧
      ∀ stack parent, (forth.2.process stack parent).result =
        (back.2.process stack parent).result := by
  obtain ⟨drafted, -, state⟩ := register_eq_some registered
  obtain ⟨otherDrafted, -, otherState⟩ := register_eq_some otherRegistered
  have apart : (first.name, first.vocabulary.version) ≠
      (second.name, second.vocabulary.version) := by
    obtain ⟨_, _, read, -, -, -, -, rfl⟩ := draft_eq_some drafted
    obtain ⟨_, _, otherRead, -, -, -, -, rfl⟩ := draft_eq_some otherDrafted
    rw [parsed, Option.some.injEq] at read
    rw [otherParsed, Option.some.injEq] at otherRead
    rwa [← read, ← otherRead]
  obtain ⟨forthRecorded, forthState⟩ := register_extend otherRegistered apart
  obtain ⟨backRecorded, backState⟩ := register_extend registered apart.symm
  have agreement : ((resolver.extend first).extend second).Agrees
      ((resolver.extend second).extend first) :=
    agrees_extend_extend apart
  intro forth back
  rw [show forth = (resolver.extend first).register other otherStack by rw [← state],
    show back = (resolver.extend second).register specifier stack by rw [← otherState],
    forthState, backState]
  refine ⟨forthRecorded, backRecorded, agreement.frame, fun name => ?_, ?_, ?_⟩
  · exact ⟨agreement.names name, agreement.versions name⟩
  · exact agreement.resolveAffiliate
  · exact fun stack parent => agreement.resolveStack stack _ _ _

/-- The second declaration refers to the first one, and a lenient resolver accepts it in front
of that too.  The versions end up in the opposite order. -/
theorem registrations_commute_plants :
    let lenient : Resolver := { minimal with options := ⟨none, true⟩ }
    let grasses : Context.Stack :=
      ⟨[.remote "dtmi:dtdl:context;3", .remote "dtmi:com:example:plants;1",
        .block (Table.ofList [("Grass", some "dtmi:com:example:Grass;1")])]⟩
    let forth := (lenient.register "dtmi:com:example:plants;1" plants).2.register
      "dtmi:com:example:plants;2" grasses
    let back := (lenient.register "dtmi:com:example:plants;2" grasses).2.register
      "dtmi:com:example:plants;1" plants
    (∃ first second,
      (lenient.register "dtmi:com:example:plants;1" plants).1.result = some first ∧
      (lenient.register "dtmi:com:example:plants;2" grasses).1.result = some second ∧
      forth.1 = .succeed second ∧ back.1 = .succeed first ∧
      ∀ stack parent,
        (forth.2.process stack parent).result = (back.2.process stack parent).result) ∧
    (forth.2.family "dtmi:com:example:plants").available = [⟨1, 0⟩, ⟨2, 0⟩] ∧
    (back.2.family "dtmi:com:example:plants").available = [⟨2, 0⟩, ⟨1, 0⟩] := by
  intro lenient grasses forth back
  refine ⟨?_, by decide +kernel, by decide +kernel⟩
  have made : (lenient.register "dtmi:com:example:plants;1" plants).1.result.isSome = true := by
    decide +kernel
  have otherMade :
      (lenient.register "dtmi:com:example:plants;2" grasses).1.result.isSome = true := by
    decide +kernel
  obtain ⟨first, registered⟩ := Option.isSome_iff_exists.mp made
  obtain ⟨second, otherRegistered⟩ := Option.isSome_iff_exists.mp otherMade
  have parsed : Dtmi.parse? "dtmi:com:example:plants;1" =
      some ⟨["com", "example", "plants"], some ⟨"1", none⟩, none⟩ := by
    decide +kernel
  have otherParsed : Dtmi.parse? "dtmi:com:example:plants;2" =
      some ⟨["com", "example", "plants"], some ⟨"2", none⟩, none⟩ := by
    decide +kernel
  obtain ⟨forthRecorded, backRecorded, -, -, -, contexts⟩ :=
    registrations_commute parsed otherParsed (by decide +kernel) registered otherRegistered
  exact ⟨first, second, registered, otherRegistered, forthRecorded, backRecorded, contexts⟩

end Resolver

end Dtdl
