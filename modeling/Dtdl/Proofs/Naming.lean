import Dtdl.Proofs.Reservation
import Dtdl.Proofs.Resolution

/-!
# Names that documents declare

Every name that enters a scope has been checked against the grammar of terms and against
all versions of the language.  Scopes begin empty and grow by `Term.declare` only, so what
the check establishes holds of every name in every scope that is made from checked
scopes, and a name has at most one meaning in it.
-/

namespace Dtdl

/-- The names that a document may declare. -/
structure Term.Admissible (language : History) (name : String) : Prop where
  nonempty : name ≠ ""
  wellFormed : Term.isWellFormed name = true
  notScheme : name ≠ Dtmi.scheme
  unreserved : ∀ vocabulary ∈ language.versions, vocabulary.defines name = false

namespace Term

variable {language : History} {name : String}

theorem checkName_eq_some (faithful : language.Faithful) {owner : Owner} :
    (checkName name owner language).result = some () ↔ Admissible language name := by
  have reserved : language.isTermReserved name = true ↔ _ := faithful.isTermReserved_iff
  rw [checkName, Outcome.result_check, List.map_eq_nil_iff, nameProblems]
  constructor
  · intro passed
    split at passed
    · simp at passed
    · next nonempty =>
        simp only [List.append_eq_nil_iff, ite_eq_left_iff, ite_eq_right_iff,
          List.cons_ne_nil, imp_false, Decidable.not_not] at passed
        obtain ⟨⟨notScheme, wellFormed⟩, unreserved⟩ := passed
        refine ⟨nonempty, wellFormed, notScheme, fun vocabulary recorded => ?_⟩
        rw [← Bool.not_eq_true]
        exact fun defined => unreserved (reserved.mpr ⟨vocabulary, recorded, defined⟩)
  · intro admissible
    have unreserved : language.isTermReserved name = false := by
      rw [← Bool.not_eq_true, reserved]
      rintro ⟨vocabulary, recorded, defined⟩
      simp [admissible.unreserved vocabulary recorded] at defined
    simp [admissible.nonempty, admissible.notScheme, admissible.wellFormed, unreserved]

/-- The colon, which separates a prefix from what follows it, is no part of a name. -/
theorem Admissible.colon_not_mem (admissible : Admissible language name) :
    ':' ∉ name.toList := by
  intro member
  have wellFormed := admissible.wellFormed
  rw [isWellFormed, Bool.and_eq_true, List.all_eq_true] at wellFormed
  exact absurd (wellFormed.1 ':' member) (by decide)

/-! ## Blocks -/

section Blocks

variable {validator : Dtmi.Validator} {known : History} {version : Nat} {owner : Owner}

/-- A declaration is resolved if nothing is wrong with its name and its definition has a
meaning. -/
theorem resolveDeclaration_eq_some {declaration : String × Option String}
    {named : String × Meaning} :
    (resolveDeclaration validator known version owner declaration).result = some named ↔
      nameProblems declaration.1 known = [] ∧
        (meaningUnder validator declaration.1 declaration.2 version owner).result =
          some named.2 ∧ named.1 = declaration.1 := by
  simp only [resolveDeclaration, checkName, Outcome.result_bind, Option.bind_eq_some_iff,
    Outcome.result_check, List.map_eq_nil_iff, Outcome.result_pure, Option.some.injEq]
  constructor
  · rintro ⟨_, passed, meaning, found, rfl⟩
    exact ⟨passed, found, rfl⟩
  · rintro ⟨passed, found, name⟩
    exact ⟨(), passed, named.2, found, by rw [← name]⟩

theorem layer_eq_some {block : Context.Block} {parent merged : Scope} :
    (layer validator known block parent version owner).result = some merged ↔
      ∃ meanings : List (String × Meaning),
        block.entries.map (fun declaration =>
            (resolveDeclaration validator known version owner declaration).result) =
          meanings.map some ∧
        merged = meanings.foldl (fun scope named => declare scope named.1 named.2) parent := by
  simp only [layer, Outcome.result_bind, Option.bind_eq_some_iff, Outcome.result_all,
    Outcome.result_pure, Option.some.injEq, List.map_map, Function.comp_def,
    eq_comm (a := merged)]

end Blocks

end Term

namespace Scope

/-- Whether a scope says what a name means, be it that it means nothing. -/
def Declares (scope : Scope) (name : String) : Prop :=
  name ∈ scope.terms.names ∨ name ∈ scope.prefixes.names ∨ name ∈ scope.undefined

/-- A name has at most one meaning in a scope. -/
structure Unambiguous (scope : Scope) : Prop where
  terms_prefixes : ∀ name ∈ scope.terms.names, name ∉ scope.prefixes.names
  terms_undefined : ∀ name ∈ scope.terms.names, name ∉ scope.undefined
  prefixes_undefined : ∀ name ∈ scope.prefixes.names, name ∉ scope.undefined

theorem declares_declare {scope : Scope} {name other : String} {meaning : Term.Meaning} :
    (Term.declare scope name meaning).Declares other ↔
      other = name ∨ scope.Declares other := by
  by_cases same : other = name
  · cases meaning <;> simp [Declares, Term.declare, erase, same]
  · cases meaning <;> simp [Declares, Term.declare, erase, same]

/-- The name that is declared is taken out of every table before it goes into one. -/
theorem Unambiguous.declare {scope : Scope} (unambiguous : scope.Unambiguous) (name : String)
    (meaning : Term.Meaning) : (Term.declare scope name meaning).Unambiguous := by
  have apart := unambiguous.terms_prefixes
  have termsDefined := unambiguous.terms_undefined
  have prefixesDefined := unambiguous.prefixes_undefined
  cases meaning <;> constructor <;> intro other <;>
    simp only [Term.declare, erase, Table.mem_names_insert, Table.mem_names_erase,
      List.mem_append, List.mem_filter, List.mem_singleton] <;>
    grind

/-- What holds of every scope that a session makes. -/
structure Admissible (language : History) (scope : Scope) : Prop where
  names : ∀ name, scope.Declares name → Term.Admissible language name
  unambiguous : scope.Unambiguous

theorem not_declares_empty (name : String) : ¬empty.Declares name := by
  simp [Declares, empty, Table.names, Entries.names]

theorem admissible_empty (language : History) : empty.Admissible language where
  names name declared := absurd declared (not_declares_empty name)
  unambiguous := by constructor <;> simp [empty, Table.names, Entries.names]

theorem Admissible.not_declares_of_defines {language : History} {scope : Scope}
    (admissible : scope.Admissible language) {vocabulary : Vocabulary}
    (recorded : vocabulary ∈ language.versions) {name : String}
    (defined : vocabulary.defines name = true) : ¬scope.Declares name := by
  intro declared
  have undefined := (admissible.names name declared).unreserved vocabulary recorded
  simp [defined] at undefined

theorem Admissible.not_declares_compact {language : History} {scope : Scope}
    (admissible : scope.Admissible language) (name suffix : String) :
    ¬scope.Declares (name ++ ":" ++ suffix) := by
  intro declared
  exact (admissible.names _ declared).colon_not_mem (by simp)

theorem Admissible.declare {language : History} {scope : Scope}
    (admissible : scope.Admissible language) {name : String}
    (checked : Term.Admissible language name) (meaning : Term.Meaning) :
    (Term.declare scope name meaning).Admissible language where
  names other declared := by
    rcases declares_declare.mp declared with same | declared
    · exact same ▸ checked
    · exact admissible.names other declared
  unambiguous := admissible.unambiguous.declare name meaning

theorem Admissible.foldl_declare {language : History} {scope : Scope}
    (admissible : scope.Admissible language) {meanings : List (String × Term.Meaning)}
    (checked : ∀ named ∈ meanings, Term.Admissible language named.1) :
    (meanings.foldl (fun scope named => Term.declare scope named.1 named.2)
      scope).Admissible language := by
  induction meanings generalizing scope with
  | nil => exact admissible
  | cons named rest ih =>
      rw [List.foldl_cons]
      apply ih
      · exact admissible.declare (checked named List.mem_cons_self) named.2
      · exact fun other member => checked other (List.mem_cons_of_mem _ member)

end Scope

namespace Resolver

variable {resolver : Resolver} {parent : Scope} {owner : Owner}

theorem resolveDeclaration_eq_some {language : Nat} {declaration : String × Option String}
    {named : String × Term.Meaning}
    (resolved : (resolver.resolveDeclaration language owner declaration).result = some named) :
    (Term.checkName named.1 owner resolver.language).result = some () ∧
      (Term.meaning named.1 declaration.2 language owner resolver.rules).result =
        some named.2 ∧ named.1 = declaration.1 := by
  obtain ⟨passed, found, name⟩ := Term.resolveDeclaration_eq_some.mp resolved
  rw [name, Term.checkName, Outcome.result_check, passed]
  exact ⟨rfl, found, rfl⟩

theorem merge_eq_some {block : Context.Block} {language : Nat} {merged : Scope}
    (resolved : (resolver.merge block parent language owner).result = some merged) :
    ∃ meanings : List (String × Term.Meaning),
      block.entries.map (fun declaration =>
          (resolver.resolveDeclaration language owner declaration).result) =
        meanings.map some ∧
      merged = meanings.foldl (fun scope named => Term.declare scope named.1 named.2) parent :=
  Term.layer_eq_some.mp resolved

theorem admissible_of_merge (faithful : resolver.language.Faithful)
    (admissible : parent.Admissible resolver.language) {block : Context.Block} {language : Nat}
    {merged : Scope}
    (resolved : (resolver.merge block parent language owner).result = some merged) :
    merged.Admissible resolver.language := by
  obtain ⟨meanings, each, rfl⟩ := merge_eq_some resolved
  apply admissible.foldl_declare
  intro named member
  obtain ⟨declaration, -, found⟩ := Outcome.exists_part each member
  exact (Term.checkName_eq_some faithful).mp (resolveDeclaration_eq_some found).1

theorem admissible_of_resolveStack (faithful : resolver.language.Faithful)
    (admissible : parent.Admissible resolver.language) {stack : Context.Stack}
    {missing : Problem} {context : Context.Resolved}
    (resolved : (resolver.resolveStack stack parent owner missing).result = some context) :
    context.scope.Admissible resolver.language := by
  rcases scope_of_resolveStack resolved with same | ⟨block, merged⟩
  · exact same ▸ admissible
  · exact admissible_of_merge faithful admissible merged

end Resolver

end Dtdl
