import Dtdl.Proofs.Registration
import Dtdl.Proofs.Reporting

/-!
# The entries of a stack

A context is resolved in a pass over its entries.  The pass carries along what it has come to:
the reports, whether an entry has failed, the affiliates, and the scope that a final block is
layered over.  So an entry could have a say in what becomes of the entries behind it.  It has
none: each of them fares as it would on its own, whatever stands in front of it and whether or
not that has failed.

The main statement gives the reports and the result of a context by what each entry behind the
language comes to on its own.
-/

namespace Dtdl.Resolver

variable (resolver : Resolver) (language : Nat)

/-! ## Entries on their own -/

/-- What is reported of an entry behind the language, on its own. -/
def faults (parent : Scope) (component : Context.Component) : List Problem :=
  match component.entry with
  | .block block =>
      if component.isLast then (resolver.merge block parent language .element).reports
      else [.blockNotLast component.index]
  | .remote _ =>
      (resolver.resolveAffiliate component language resolver.options.allowUndefined).reports

/-- The affiliate that an entry behind the language stands for, if there is one. -/
def affiliate? (component : Context.Component) : Option Context.Affiliate :=
  (resolver.resolveAffiliate component language resolver.options.allowUndefined).result.join

/-- The scope that is in force behind some entries: that of the surroundings, with the final
entry layered over it if it is a block. -/
def layered (parent : Scope) (entries : List Context.Entry) : Scope :=
  match entries.getLast? with
  | some (.block block) => (resolver.merge block parent language .element).result.getD parent
  | _ => parent

theorem layered_cons_cons (parent : Scope) (entry next : Context.Entry)
    (rest : List Context.Entry) :
    resolver.layered language parent (entry :: next :: rest) =
      resolver.layered language parent (next :: rest) := by
  rw [layered, layered, List.getLast?_cons_cons]

theorem reports_resolveComponent (parent : Scope) (component : Context.Component) :
    (resolver.resolveComponent language .element parent component).reports =
      resolver.faults language parent component := by
  rw [resolveComponent, faults]
  cases entry : component.entry with
  | remote specifier => exact Outcome.reports_bind_succeed _ _
  | block block =>
      cases last : component.isLast with
      | true => exact Outcome.reports_bind_succeed _ _
      | false => simp [resolveAffiliate, entry, last, Outcome.refuse, bind, Outcome.andThen]

theorem affiliate?_resolveComponent (parent : Scope) (component : Context.Component) :
    (resolver.resolveComponent language .element parent component).result.bind
        Contribution.affiliate? =
      resolver.affiliate? language component := by
  rw [resolveComponent, affiliate?]
  split
  · next block entry last =>
      simp [resolveAffiliate, entry, last, Option.bind_assoc, Contribution.affiliate?]
  · rw [Outcome.result_bind, Option.bind_assoc]
    cases (resolver.resolveAffiliate component language resolver.options.allowUndefined).result with
    | none => rfl
    | some found => cases found <;> rfl

theorem scope?_resolveComponent (parent : Scope) (component : Context.Component)
    (other : component.entry.isBlock = true → component.isLast = false) :
    (resolver.resolveComponent language .element parent component).result.bind
      Contribution.scope? = none := by
  rw [Option.bind_eq_none_iff]
  intro contribution resolved
  cases contribution with
  | affiliate resolved => rfl
  | nothing => rfl
  | scope merged =>
      obtain ⟨block, entry, last, -⟩ := resolveComponent_eq_scope resolved
      rw [other (by rw [entry]; rfl)] at last
      contradiction

/-- By induction on the entries; the final one is the only one that can be found. -/
theorem findSome?_scope? (parent : Scope) (index : Nat) (entries : List Context.Entry) :
    ((Context.Stack.place index entries).findSome? fun component =>
        (resolver.resolveComponent language .element parent component).result.bind
          Contribution.scope?).getD parent =
      resolver.layered language parent entries := by
  induction entries generalizing index with
  | nil => rfl
  | cons entry rest ih =>
      cases rest with
      | nil =>
          cases entry with
          | remote specifier =>
              have silent := resolver.scope?_resolveComponent language parent
                ⟨index, true, .remote specifier⟩ (by simp [Context.Entry.isBlock])
              simp [Context.Stack.place, layered, silent]
          | block block =>
              simp [Context.Stack.place, resolveComponent, layered, Option.bind_assoc,
                Contribution.scope?]
      | cons next others =>
          have silent :=
            resolver.scope?_resolveComponent language parent ⟨index, false, entry⟩ fun _ => rfl
          rw [layered_cons_cons, ← ih (index + 1), Context.Stack.place, List.findSome?_cons,
            List.isEmpty_cons, silent]

/-! ## The pass -/

/-- How far a pass over the entries behind the language has come. -/
structure Pass where
  reports : List Problem
  failed : Bool
  affiliates : List Context.Affiliate
  scope : Scope

/-- The pass before the first of the entries. -/
def Pass.start (parent : Scope) : Pass := ⟨[], false, [], parent⟩

/-- Take one more entry.  A final block is layered over the scope that the pass has come to, any
other entry is resolved to an affiliate; what fails leaves its reports and a mark behind. -/
def advance (pass : Pass) (component : Context.Component) : Pass :=
  match component.entry, component.isLast with
  | .block block, true =>
      let merged := resolver.merge block pass.scope language .element
      { pass with
        reports := pass.reports ++ merged.reports
        failed := pass.failed || merged.result.isNone
        scope := merged.result.getD pass.scope }
  | _, _ =>
      let resolved :=
        resolver.resolveAffiliate component language resolver.options.allowUndefined
      { pass with
        reports := pass.reports ++ resolved.reports
        failed := pass.failed || resolved.result.isNone
        affiliates := pass.affiliates ++ resolved.result.join.toList }

/-- What a pass amounts to when no entry is left. -/
def Pass.outcome (pass : Pass) (vocabulary : Vocabulary) : Outcome Problem Context.Resolved :=
  ⟨pass.reports, if pass.failed then none else some ⟨vocabulary, pass.affiliates, pass.scope⟩⟩

/-- One step of the pass adds what the entry comes to on its own. -/
theorem advance_eq (pass : Pass) (component : Context.Component) :
    resolver.advance language pass component = {
      reports := pass.reports ++ resolver.faults language pass.scope component
      failed := pass.failed || !(resolver.faults language pass.scope component).isEmpty
      affiliates := pass.affiliates ++ (resolver.affiliate? language component).toList
      scope :=
        if component.isLast then resolver.layered language pass.scope [component.entry]
        else pass.scope } := by
  obtain ⟨index, isLast, entry⟩ := component
  cases entry with
  | remote specifier =>
      have honest := resolver.honest_resolveAffiliate ⟨index, isLast, .remote specifier⟩ language
        resolver.options.allowUndefined
      simp [advance, faults, affiliate?, layered, honest.isNone_result]
  | block block =>
      cases isLast with
      | true =>
          have honest := resolver.honest_merge block pass.scope language .element
          simp [advance, faults, affiliate?, layered, resolveAffiliate, honest.isNone_result]
      | false => simp [advance, faults, affiliate?, resolveAffiliate, Outcome.refuse]

/-- By induction on the entries.  The scope stays the one that the pass began with until the
final entry is reached. -/
theorem foldl_advance (pass : Pass) (index : Nat) (entries : List Context.Entry) :
    (Context.Stack.place index entries).foldl (resolver.advance language) pass = {
      reports := pass.reports ++
        (Context.Stack.place index entries).flatMap (resolver.faults language pass.scope)
      failed := pass.failed ||
        !((Context.Stack.place index entries).flatMap
          (resolver.faults language pass.scope)).isEmpty
      affiliates := pass.affiliates ++
        (Context.Stack.place index entries).filterMap (resolver.affiliate? language)
      scope := resolver.layered language pass.scope entries } := by
  induction entries generalizing pass index with
  | nil => simp [Context.Stack.place, layered]
  | cons entry rest ih =>
      rw [Context.Stack.place, List.foldl_cons, ih, List.flatMap_cons, List.filterMap_cons]
      -- The scope that the step leaves behind is another one for the final entry only.
      cases rest with
      | nil =>
          cases found : resolver.affiliate? language ⟨index, true, entry⟩ <;>
            simp [advance_eq, found, Context.Stack.place, layered]
      | cons next others =>
          rw [layered_cons_cons]
          cases found : resolver.affiliate? language ⟨index, false, entry⟩ <;>
            cases reported : resolver.faults language pass.scope ⟨index, false, entry⟩ <;>
              simp [advance_eq, found, reported]

theorem outcome_pass (vocabulary : Vocabulary) (parent : Scope) (index : Nat)
    (entries : List Context.Entry) :
    let language := vocabulary.version.major
    let behind := Context.Stack.place index entries
    let reports := behind.flatMap (resolver.faults language parent)
    (behind.foldl (resolver.advance language) (Pass.start parent)).outcome vocabulary =
      ⟨reports, if reports.isEmpty then some {
          language := vocabulary
          affiliates := behind.filterMap (resolver.affiliate? language)
          scope := resolver.layered language parent entries }
        else none⟩ := by
  intro language behind reports
  rw [foldl_advance, Pass.outcome, Pass.start]
  cases empty : reports.isEmpty <;> simp [behind, reports]

/-! ## Contexts -/

section Accepted

variable {resolver} {stack : Context.Stack} {specifier : String} {rest : List Context.Entry}
variable {vocabulary : Vocabulary}
variable (entries : stack.entries = .remote specifier :: rest)
variable (begins : (resolver.resolveLanguage specifier).result = some vocabulary)

include entries begins

theorem reports_process (names : Language.isSpecifier specifier = true)
    (parent : Option Scope) :
    (resolver.process stack parent).reports =
      (Context.Stack.place 1 rest).flatMap
        (resolver.faults vocabulary.version.major (parent.getD Scope.empty)) := by
  have components : stack.components =
      ⟨0, rest.isEmpty, .remote specifier⟩ :: Context.Stack.place 1 rest := by
    rw [Context.Stack.components, entries, Context.Stack.place]
  have language := (resolver.honest_resolveLanguage specifier).eq_succeed begins
  rw [process, resolveStack, components]
  simp only [names, if_true, language, Outcome.succeed_bind]
  calc
    _ = (Outcome.all ((Context.Stack.place 1 rest).map
          (resolver.resolveComponent vocabulary.version.major .element
            (parent.getD Scope.empty)))).reports := Outcome.reports_bind_succeed _ _
    _ = (Context.Stack.place 1 rest).flatMap
          (resolver.faults vocabulary.version.major (parent.getD Scope.empty)) := by
      rw [Outcome.reports_all, List.flatMap_map]
      simp only [reports_resolveComponent]

/-- The context that is resolved if nothing is reported. -/
theorem eq_of_process {parent : Option Scope} {context : Context.Resolved}
    (processed : (resolver.process stack parent).result = some context) :
    context = {
      language := vocabulary
      affiliates := (Context.Stack.place 1 rest).filterMap
        (resolver.affiliate? vocabulary.version.major)
      scope := resolver.layered vocabulary.version.major (parent.getD Scope.empty) rest } := by
  obtain ⟨first, behind, written, contributions, components, entry, -, language, each,
    affiliates, scope⟩ := resolveStack_eq_some processed
  rw [Context.Stack.components, entries, Context.Stack.place, List.cons.injEq] at components
  obtain ⟨rfl, rfl⟩ := components
  cases entry
  rw [begins, Option.some.injEq] at language
  subst language
  rw [Outcome.filterMap_of_each each] at affiliates
  rw [Outcome.findSome?_of_each each, findSome?_scope?] at scope
  simp only [affiliate?_resolveComponent] at affiliates
  cases context
  simp only at affiliates scope
  rw [affiliates, scope]

/-- Behind an accepted language a context is what its entries come to on their own, and it is
resolved if nothing was reported of any of them. -/
theorem process_of_language (names : Language.isSpecifier specifier = true)
    (parent : Option Scope) :
    let behind := Context.Stack.place 1 rest
    let reports := behind.flatMap
      (resolver.faults vocabulary.version.major (parent.getD Scope.empty))
    resolver.process stack parent = ⟨reports, if reports.isEmpty then some {
        language := vocabulary
        affiliates := behind.filterMap (resolver.affiliate? vocabulary.version.major)
        scope := resolver.layered vocabulary.version.major (parent.getD Scope.empty) rest }
      else none⟩ := by
  intro behind reports
  have reported : (resolver.process stack parent).reports = reports :=
    reports_process entries begins names parent
  have honest := resolver.honest_process stack parent
  rw [Outcome.Honest, reported, ← List.isEmpty_iff] at honest
  cases outcome : resolver.process stack parent with
  | mk given result =>
      rw [outcome] at reported honest
      cases result with
      | none =>
          have reject : reports.isEmpty = false := by simpa using honest
          rw [reject, ← reported]
          rfl
      | some context =>
          have accept : reports.isEmpty = true := honest.mp rfl
          rw [accept, if_pos rfl, ← reported, ← eq_of_process entries begins (by rw [outcome])]

end Accepted

/-- What becomes of a stack.  One that does not begin with a specifier of the language is refused
for that alone.  If the specifier is not accepted, what is wrong with it is all that is reported.
Otherwise the reports are those of the entries behind it, each on its own and in order, and if
there are none, the context has the affiliates of the remote entries, in order, and the scope of
the surroundings with the final entry layered over it if it is a block.  A pass that carries
along what it has come to from entry to entry makes the same of the stack. -/
theorem process_verdict (resolver : Resolver) (stack : Context.Stack) (parent : Option Scope) :
    ((∀ specifier, stack.entries.head? = some (.remote specifier) →
        Language.isSpecifier specifier = false) →
      ∃ problem, resolver.process stack parent = .refuse problem ∧
        problem.kind = .missingDtdlContext) ∧
    ∀ specifier rest, stack.entries = .remote specifier :: rest →
      Language.isSpecifier specifier = true →
      ((resolver.resolveLanguage specifier).result = none →
        resolver.process stack parent =
          ⟨(resolver.resolveLanguage specifier).reports, none⟩) ∧
      ∀ vocabulary, (resolver.resolveLanguage specifier).result = some vocabulary →
        let language := vocabulary.version.major
        let surroundings := parent.getD Scope.empty
        let behind := Context.Stack.place 1 rest
        let reports := behind.flatMap (resolver.faults language surroundings)
        resolver.process stack parent = ⟨reports, if reports.isEmpty then some {
            language := vocabulary
            affiliates := behind.filterMap (resolver.affiliate? language)
            scope := resolver.layered language surroundings rest }
          else none⟩ ∧
        resolver.process stack parent =
          (behind.foldl (resolver.advance language) (Pass.start surroundings)).outcome
            vocabulary := by
  refine ⟨?missing, fun specifier rest entries names => ⟨?rejected, ?accepted⟩⟩
  case missing =>
    intro foreign
    refine ⟨.contextWithoutLanguage (stack.entries.head?.bind Context.Entry.specifier?), ?_, rfl⟩
    rw [process, resolveStack, Context.Stack.components]
    cases entries : stack.entries with
    | nil => rfl
    | cons entry rest =>
        cases entry with
        | block block => rfl
        | remote specifier =>
            have other := foreign specifier (by rw [entries]; rfl)
            simp [Context.Stack.place, other]
  case rejected =>
    intro failed
    rw [process, resolveStack, Context.Stack.components, entries]
    simp only [Context.Stack.place, names, if_true]
    cases outcome : resolver.resolveLanguage specifier with
    | mk reports result =>
        rw [outcome] at failed
        subst failed
        rfl
  case accepted =>
    intro vocabulary begins language surroundings behind reports
    have verdict := process_of_language entries begins names parent
    exact ⟨verdict, verdict.trans (resolver.outcome_pass vocabulary surroundings 1 rest).symm⟩

/-- A stack with an entry of every sort that fails, and a final block with two declarations that
do. -/
def thicket : Context.Stack :=
  ⟨[.remote "dtmi:dtdl:context;3", .remote "https://example.com/garden", .block Table.empty,
    .remote "dtmi:dtdl:context;3", .remote "dtmi:com:example:plants;1",
    .block (Table.ofList [("Plant", some "Plant"), ("dtmi", none)])]⟩

/-- A stack that begins with a block, one whose language does not exist, and one in which every
entry behind the language is reported. -/
theorem process_verdict_thicket :
    (∃ problem, minimal.process ⟨[.block Table.empty]⟩ none = .refuse problem ∧
      problem.kind = .missingDtdlContext) ∧
    minimal.process ⟨[.remote "dtmi:dtdl:context;9", .block Table.empty, .remote ""]⟩ none =
      .refuse (.unknownLanguage "dtmi:dtdl:context;9" 9 [⟨3, 0⟩]) ∧
    let language : Vocabulary := ⟨⟨3, 0⟩, Table.empty, Table.empty⟩
    let behind := Context.Stack.place 1 thicket.entries.tail
    minimal.resolveLanguage "dtmi:dtdl:context;3" = .succeed language ∧
    minimal.process thicket none =
      (behind.foldl (minimal.advance 3) (Pass.start Scope.empty)).outcome language ∧
    minimal.process thicket none =
      ⟨[.notIdentifier "https://example.com/garden", .blockNotLast 2,
        .languageNotFirst "dtmi:dtdl:context;3" 3, .unknownContext "dtmi:com:example:plants;1",
        .declaration .element (.notAbsolute "Plant" "Plant" .relative),
        .declaration .element (.schemeName "dtmi")], none⟩ := by
  refine ⟨?block, ?absent, ?thicket⟩
  case block =>
    apply (process_verdict minimal ⟨[.block Table.empty]⟩ none).1
    intro specifier begins
    simp at begins
  case absent =>
    have unknown : minimal.resolveLanguage "dtmi:dtdl:context;9" =
        .refuse (.unknownLanguage "dtmi:dtdl:context;9" 9 [⟨3, 0⟩]) := by
      decide +kernel
    have names : Language.isSpecifier "dtmi:dtdl:context;9" = true := by decide +kernel
    obtain ⟨rejected, -⟩ := (process_verdict minimal
      ⟨[.remote "dtmi:dtdl:context;9", .block Table.empty, .remote ""]⟩ none).2 _ _ rfl names
    rw [rejected (by rw [unknown]; rfl), unknown]
    rfl
  case thicket =>
    intro language behind
    have known : minimal.resolveLanguage "dtmi:dtdl:context;3" = .succeed language := by
      decide +kernel
    have names : Language.isSpecifier "dtmi:dtdl:context;3" = true := by decide +kernel
    obtain ⟨-, accepted⟩ := (process_verdict minimal thicket none).2 _ _ rfl names
    obtain ⟨verdict, passed⟩ := accepted language (by rw [known]; rfl)
    refine ⟨known, passed, verdict.trans ?_⟩
    decide +kernel

end Dtdl.Resolver
