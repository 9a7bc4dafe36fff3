import Dtdl.Proofs.Protection

/-!
# Names that a scope declares

A scope stands in front of the vocabularies of its context, but it holds terms and prefixes
apart, and so do the vocabularies.  A name is looked up as a term where it stands alone and
as a prefix where a suffix follows it, and a declaration only answers the look-up of its own
form.  Only a name that is declared to mean nothing is hidden in both forms.

The main statement says which of the two look-ups a declaration decides.
-/

namespace Dtdl

/-- A vocabulary that defines one name, as a term. -/
def Vocabulary.ofTerm (name : String) (identifier : Identifier) : Vocabulary :=
  ⟨⟨1, 0⟩, Table.empty.insert name identifier, Table.empty⟩

/-- A vocabulary that defines one name, as a prefix. -/
def Vocabulary.ofPrefix (name expansion : String) : Vocabulary :=
  ⟨⟨1, 0⟩, Table.empty, Table.empty.insert name expansion⟩

namespace Context.Resolved

variable {context : Resolved} {name : String}

/-- The scope of a context amid other vocabularies. -/
def amid (context : Resolved) (language : Vocabulary) (affiliates : List Affiliate) : Resolved :=
  ⟨language, affiliates, context.scope⟩

@[simp] theorem scope_amid (context : Resolved) (language : Vocabulary)
    (affiliates : List Affiliate) : (context.amid language affiliates).scope = context.scope :=
  rfl

@[simp] theorem vocabularies_amid_nil (context : Resolved) (language : Vocabulary) :
    (context.amid language []).vocabularies = [language] := rfl

/-! ## What a declaration decides -/

/-- A term of the scope, or a name that means nothing there, is answered before any
vocabulary is asked. -/
theorem expand?_amid
    (declared : name ∈ context.scope.terms.names ∨ name ∈ context.scope.undefined)
    (language : Vocabulary) (affiliates : List Affiliate) :
    (context.amid language affiliates).expand? name = context.expand? name := by
  by_cases nothing : name ∈ context.scope.undefined
  · simp [expand?, nothing]
  · have term := declared.resolve_right nothing
    cases found : context.scope.terms.get? name with
    | none => exact absurd term (Table.get?_eq_none_iff.mp found)
    | some identifier => simp [expand?, nothing, found]

theorem expansion?_amid
    (declared : name ∈ context.scope.prefixes.names ∨ name ∈ context.scope.undefined)
    (language : Vocabulary) (affiliates : List Affiliate) :
    (context.amid language affiliates).expansion? name = context.expansion? name := by
  by_cases nothing : name ∈ context.scope.undefined
  · simp [expansion?, nothing]
  · have leads := declared.resolve_right nothing
    cases found : context.scope.prefixes.get? name with
    | none => exact absurd leads (Table.get?_eq_none_iff.mp found)
    | some expansion => simp [expansion?, nothing, found]

/-! ## What shows through -/

section Declared

variable (unambiguous : context.scope.Unambiguous) (plain : ':' ∉ name.toList)

include unambiguous plain

/-- A prefix of the scope hides no term. -/
theorem expand?_amid_of_prefix (declared : name ∈ context.scope.prefixes.names)
    (language : Vocabulary) :
    (context.amid language []).expand? name = (language.term? name).map Identifier.text := by
  have noTerm : name ∉ context.scope.terms.names :=
    fun term => unambiguous.terms_prefixes name term declared
  have defined := unambiguous.prefixes_undefined name declared
  rw [expand?_of_not_mem (by simpa using noTerm) (by simpa using defined) plain]
  simp

/-- A term of the scope hides no prefix. -/
theorem expand?_compact_amid_of_term (declared : name ∈ context.scope.terms.names)
    {suffix : String} (silentWhole : ¬context.scope.Declares (name ++ ":" ++ suffix))
    (language : Vocabulary) :
    (context.amid language []).expand? (name ++ ":" ++ suffix) =
      ((language.expansion? name).map (· ++ suffix)).or
        (absolute? (name ++ ":" ++ suffix)) := by
  have noPrefix := unambiguous.terms_prefixes name declared
  have defined := unambiguous.terms_undefined name declared
  rw [expand?_compact (by simpa using silentWhole) plain,
    expansion?_of_not_mem (by simpa using noPrefix) (by simpa using defined)]
  simp

/-- The vocabularies have no say in what a declared name means alone exactly if it is a term
or means nothing. -/
theorem expand?_amid_iff (declared : context.scope.Declares name) :
    (∀ language affiliates,
      (context.amid language affiliates).expand? name = context.expand? name) ↔
      name ∈ context.scope.terms.names ∨ name ∈ context.scope.undefined := by
  refine ⟨fun decided => ?_, expand?_amid⟩
  rcases declared with term | leads | nothing
  · exact .inl term
  · exfalso
    have through := expand?_amid_of_prefix unambiguous plain leads
    -- A language that has a term for the name and one that has none would have to agree.
    have known := decided (.ofTerm name (.dtmi ⟨["a"], none, none⟩)) []
    have unknown := decided (.ofPrefix name "") []
    rw [through, ← unknown, through] at known
    simp [Vocabulary.term?, Vocabulary.ofTerm, Vocabulary.ofPrefix] at known
  · exact .inr nothing

/-- The vocabularies have no say in what a declared name means in front of a suffix exactly
if it is a prefix or means nothing. -/
theorem expand?_compact_amid_iff (declared : context.scope.Declares name)
    (silentWhole : ∀ suffix, ¬context.scope.Declares (name ++ ":" ++ suffix)) :
    (∀ suffix language affiliates,
      (context.amid language affiliates).expand? (name ++ ":" ++ suffix) =
        context.expand? (name ++ ":" ++ suffix)) ↔
      name ∈ context.scope.prefixes.names ∨ name ∈ context.scope.undefined := by
  constructor
  · intro decided
    rcases declared with term | leads | nothing
    · exfalso
      have through := expand?_compact_amid_of_term unambiguous plain term (silentWhole "")
      have left := decided "" (.ofPrefix name "a") []
      have right := decided "" (.ofPrefix name "b") []
      rw [through, ← right, through] at left
      simp [Vocabulary.expansion?, Vocabulary.ofPrefix] at left
    · exact .inl leads
    · exact .inr nothing
  · intro answered suffix language affiliates
    have silent := silentWhole suffix
    rw [expand?_compact (by simpa using silent) plain, expand?_compact silent plain,
      expansion?_amid answered]

end Declared

end Context.Resolved

namespace Session

variable {start resolver : Resolver} {known : List Scope} {stack : Context.Stack}
variable {parent : Option Scope} {context : Context.Resolved} {name : String}

/-- A declared name is hidden in the form that it is declared in.  In every context of a
session, what a name of the scope means alone does not depend on the vocabularies exactly if
it is declared as a term or to mean nothing, and what it means in front of a suffix exactly
if it is declared as a prefix or to mean nothing. -/
theorem hides_declared_form (fresh : Resolver.Fresh start)
    (session : Session start resolver known) (layered : ∀ scope ∈ parent, scope ∈ known)
    (processed : (resolver.process stack parent).result = some context)
    (declared : context.scope.Declares name) :
    ((∀ language affiliates,
        (context.amid language affiliates).expand? name = context.expand? name) ↔
      name ∈ context.scope.terms.names ∨ name ∈ context.scope.undefined) ∧
    ((∀ suffix language affiliates,
        (context.amid language affiliates).expand? (name ++ ":" ++ suffix) =
          context.expand? (name ++ ":" ++ suffix)) ↔
      name ∈ context.scope.prefixes.names ∨ name ∈ context.scope.undefined) := by
  have scope := session.admissible_of_process fresh.sound layered processed
  have plain := (scope.names name declared).colon_not_mem
  constructor
  · exact Context.Resolved.expand?_amid_iff scope.unambiguous plain declared
  · exact Context.Resolved.expand?_compact_amid_iff scope.unambiguous plain declared
      (scope.not_declares_compact name)

/-- The context of an element that refers to an extension and declares a name which the
extension has a term for. -/
def declaringTtl (definition : Option String) : Context.Stack :=
  ⟨[.remote "dtmi:dtdl:context;3", .remote "dtmi:dtdl:extension:mqtt;2",
    .block (Table.ofList [("ttl", definition)])]⟩

/-- A name that is declared to mean nothing is hidden in both forms. -/
theorem hides_declared_form_ttl :
    ∃ context,
      ((Resolver.released .default).process (declaringTtl none) none).result = some context ∧
      context.scope.Declares "ttl" ∧
      (∀ language affiliates,
        (context.amid language affiliates).expand? "ttl" = context.expand? "ttl") ∧
      ∀ suffix language affiliates,
        (context.amid language affiliates).expand? ("ttl" ++ ":" ++ suffix) =
          context.expand? ("ttl" ++ ":" ++ suffix) := by
  have accepted : ((Resolver.released .default).process (declaringTtl none) none).result.map
      (·.scope.undefined) = some ["ttl"] := by
    decide +kernel
  obtain ⟨context, processed, undefined⟩ := Option.map_eq_some_iff.mp accepted
  have nothing : "ttl" ∈ context.scope.undefined := by simp [undefined]
  have session : Session (Resolver.released .default) (Resolver.released .default)
      [Scope.empty] := .opened
  obtain ⟨alone, compact⟩ := hides_declared_form (Resolver.fresh_released .default .released)
    session (by simp) processed (.inr (.inr nothing))
  exact ⟨context, processed, .inr (.inr nothing), alone.mpr (.inr nothing),
    compact.mpr (.inr nothing)⟩

/-- A name that is declared as a prefix means alone what an extension says that it means. -/
theorem not_hides_declared_form_ttl :
    ∃ context, ((Resolver.released .default).process (declaringTtl (some "https://example.com/"))
        none).result = some context ∧
      context.scope.Declares "ttl" ∧
      context.expand? "ttl" = some "dtmi:dtdl:extension:mqtt:v2:property:ttl" ∧
      (context.amid context.language []).expand? "ttl" = none := by
  have accepted : ((Resolver.released .default).process
      (declaringTtl (some "https://example.com/")) none).result.map
        (fun context => (context.scope.prefixes.names, context.expand? "ttl",
          (context.amid context.language []).expand? "ttl")) =
      some (["ttl"], some "dtmi:dtdl:extension:mqtt:v2:property:ttl", none) := by
    decide +kernel
  obtain ⟨context, processed, same⟩ := Option.map_eq_some_iff.mp accepted
  simp only [Prod.mk.injEq] at same
  obtain ⟨prefixes, known, unknown⟩ := same
  exact ⟨context, processed, .inr (.inl (by simp [prefixes])), known, unknown⟩

end Session

end Dtdl
