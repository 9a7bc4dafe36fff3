import Dtdl.Proofs.Protection

/-!
# Identifiers as names

A name is looked up in the scope and in the tables of prefixes before anybody asks whether it
is an identifier.  An identifier is written like a prefix and a suffix, so it stands for itself
only as long as nothing in a session goes by the name of the scheme, and no name is written with
a colon.

The main statement is that this is the case at every point of a session: an identifier stands for
itself in every context, and so expansion never leads from one identifier to another.
-/

namespace Dtdl

/-! ## The name of the scheme -/

/-- No document declares the scheme, in whichever role. -/
theorem Scope.Admissible.not_declares_scheme {language : History} {scope : Scope}
    (admissible : scope.Admissible language) : ¬scope.Declares Dtmi.scheme := by
  intro declared
  exact (admissible.names Dtmi.scheme declared).notScheme rfl

theorem Vocabulary.Admissible.expansion?_scheme {language : History} {vocabulary : Vocabulary}
    (admissible : vocabulary.Admissible language) :
    vocabulary.expansion? Dtmi.scheme = none := by
  apply expansion?_of_not_defines
  rw [← Bool.not_eq_true]
  intro defined
  exact (admissible.names Dtmi.scheme defined).notScheme rfl

theorem Language.expansion?_scheme {recorded : Vocabulary}
    (member : recorded ∈ history.versions) : recorded.expansion? Dtmi.scheme = none := by
  obtain ⟨major, groups, rfl, -, -⟩ := exists_groups member
  rfl

namespace Context.Resolved

variable {context : Resolved} {text : String}

theorem absolute?_of_lead (begins : Text.startsWith text Dtmi.lead = true) :
    absolute? text = some text := by
  simp [absolute?, begins]

theorem exists_suffix_of_lead (begins : Text.startsWith text Dtmi.lead = true) :
    ∃ suffix, text = Dtmi.scheme ++ ":" ++ suffix := by
  obtain ⟨rest, written⟩ := Text.startsWith_iff.mp begins
  refine ⟨String.ofList rest, String.toList_injective ?_⟩
  rw [← written, String.toList_append, String.toList_ofList]
  rfl

/-- A context in which nothing goes by the name of the scheme leaves an identifier as it is. -/
theorem expand?_of_lead (silentWhole : ¬context.scope.Declares text)
    (silent : ¬context.scope.Declares Dtmi.scheme)
    (unbound : ∀ vocabulary ∈ context.vocabularies,
      vocabulary.expansion? Dtmi.scheme = none)
    (begins : Text.startsWith text Dtmi.lead = true) : context.expand? text = some text := by
  have unknown : context.vocabularies.findSome? (·.expansion? Dtmi.scheme) = none :=
    List.findSome?_eq_none_iff.mpr unbound
  have absolute := absolute?_of_lead begins
  have plain : ':' ∉ Dtmi.scheme.toList := by decide
  obtain ⟨suffix, rfl⟩ := exists_suffix_of_lead begins
  rw [expand?_compact_of_not_declares silentWhole silent plain, unknown, absolute]
  rfl

end Context.Resolved

/-! ## Sessions -/

namespace Session

variable {options : Resolver.Options} {rules : Dtmi.Rules} {resolver : Resolver}
variable {known : List Scope} {stack : Context.Stack} {parent : Option Scope}
variable {context : Context.Resolved}

section Released

variable (session : Session { Resolver.released options with rules } resolver known)
variable (processed : (resolver.process stack parent).result = some context)

include session processed

/-- No vocabulary of a context has an expansion for the scheme: released extensions have no
prefixes, and the names of registered ones were checked. -/
theorem expansion?_scheme :
    ∀ vocabulary ∈ context.vocabularies, vocabulary.expansion? Dtmi.scheme = none := by
  intro vocabulary member
  rw [Context.Resolved.vocabularies, List.mem_append, List.mem_singleton] at member
  rcases member with listed | rfl
  · obtain ⟨affiliate, member, rfl⟩ := List.mem_map.mp listed
    rw [List.mem_reverse] at member
    cases released : affiliate.isReleased with
    | true =>
        obtain ⟨history, found, stored⟩ := Context.Affiliate.isReleased_iff.mp released
        exact Extension.expansion?_of_mem found stored Dtmi.scheme
    | false => exact (session.admissible_affiliate processed member released).expansion?_scheme
  · exact Language.expansion?_scheme (session.recorded_language processed)

/-- An identifier stands for itself, whatever documents have declared. -/
theorem expand?_of_lead (layered : ∀ scope ∈ parent, scope ∈ known) {text : String}
    (begins : Text.startsWith text Dtmi.lead = true) : context.expand? text = some text := by
  have scope := session.admissible_scope processed layered
  have silentWhole : ¬context.scope.Declares text := by
    obtain ⟨suffix, rfl⟩ := Context.Resolved.exists_suffix_of_lead begins
    exact scope.not_declares_compact Dtmi.scheme suffix
  exact Context.Resolved.expand?_of_lead silentWhole scope.not_declares_scheme
    (session.expansion?_scheme processed) begins

end Released

/-- Every identifier stands for itself in every context of a session over the released catalogs,
whatever documents have declared.  So what has been expanded to an identifier is expanded in
full. -/
theorem expand?_identifier
    (session : Session { Resolver.released options with rules } resolver known)
    (layered : ∀ scope ∈ parent, scope ∈ known)
    (processed : (resolver.process stack parent).result = some context) :
    (∀ text, Text.startsWith text Dtmi.lead = true → context.expand? text = some text) ∧
      ∀ name text, context.expand? name = some text →
        Text.startsWith text Dtmi.lead = true → context.expand? text = some text := by
  constructor
  · intro text begins
    exact session.expand?_of_lead processed layered begins
  · intro name text _ begins
    exact session.expand?_of_lead processed layered begins

/-- A context that declares a prefix. -/
def garden : Context.Stack :=
  ⟨[.remote "dtmi:dtdl:context;3",
    .block (Table.ofList [("plot", some "dtmi:com:example:plot:")])]⟩

/-- An element inside another one inherits a prefix of its surroundings.  What a name is expanded
to by it is expanded no further. -/
theorem expand?_identifier_garden :
    ∃ outer inner : Context.Resolved,
      ((Resolver.released .default).process garden none).result = some outer ∧
      ((Resolver.released .default).process
          ⟨[.remote "dtmi:dtdl:context;3", .remote "dtmi:dtdl:extension:mqtt;1"]⟩
          (some outer.scope)).result = some inner ∧
      inner.expand? "plot:Rose;1" = some "dtmi:com:example:plot:Rose;1" ∧
      inner.expand? "dtmi:com:example:plot:Rose;1" = some "dtmi:com:example:plot:Rose;1" := by
  let scope : Scope := ⟨Table.empty, Table.ofList [("plot", "dtmi:com:example:plot:")], []⟩
  have surroundings :
      ((Resolver.released .default).process garden none).result.map (·.scope) = some scope := by
    decide +kernel
  obtain ⟨outer, first, same⟩ := Option.map_eq_some_iff.mp surroundings
  have inherited :
      ((Resolver.released .default).process
          ⟨[.remote "dtmi:dtdl:context;3", .remote "dtmi:dtdl:extension:mqtt;1"]⟩
          (some scope)).result.bind (·.expand? "plot:Rose;1") =
        some "dtmi:com:example:plot:Rose;1" := by
    decide +kernel
  obtain ⟨inner, second, compact⟩ := Option.bind_eq_some_iff.mp inherited
  have session : Session (Resolver.released .default) (Resolver.released .default)
      ([Scope.empty] ++ (Resolver.released .default).scopes (.process garden none)) :=
    Session.opened.performed (.process garden none) (by simp [Operation.parent?])
  have layered : ∀ parent ∈ some scope, parent ∈
      [Scope.empty] ++ (Resolver.released .default).scopes (.process garden none) := by
    simp [Resolver.scopes, first, same]
  obtain ⟨-, again⟩ := expand?_identifier session layered second
  exact ⟨outer, inner, first, same ▸ second, compact, again _ _ compact (by decide)⟩

end Session

end Dtdl
