import Dtdl.Exchange
import Dtdl.Proofs.Resolution

/-!
# Reports and results

A unit of work gives up if and only if it has reported something.  No function of the
resolver says so by itself: each of them is put together from units that succeed silently,
units that refuse, and checks, and every way of putting units together keeps the property.
It makes a success that was observed as a result a success without a report.

The main statement is what this means for whoever keeps the log: from an operation that
succeeds nothing is added to it, and from one that gives up something is.
-/

namespace Dtdl

namespace Outcome

variable {Report Result Next : Type}

/-- An outcome is honest if it has a result exactly when nothing was reported. -/
def Honest (outcome : Outcome Report Result) : Prop :=
  outcome.result.isSome = true ↔ outcome.reports = []

theorem Honest.eq_succeed {outcome : Outcome Report Result} (honest : outcome.Honest)
    {result : Result} (found : outcome.result = some result) : outcome = succeed result := by
  have silent : outcome.reports = [] := honest.mp (by rw [found, Option.isSome_some])
  cases outcome with
  | mk reports given =>
      simp only at found silent
      rw [found, silent, succeed]

theorem Honest.isNone_result {outcome : Outcome Report Result} (honest : outcome.Honest) :
    outcome.result.isNone = !outcome.reports.isEmpty := by
  rw [← Option.not_isSome, Bool.eq_iff_iff]
  simp only [Bool.not_eq_true', ← Bool.not_eq_true, List.isEmpty_iff]
  exact not_congr honest

theorem honest_succeed (result : Result) : (succeed result : Outcome Report Result).Honest := by
  simp [Honest, succeed]

theorem honest_pure (result : Result) : (pure result : Outcome Report Result).Honest :=
  honest_succeed result

theorem honest_refuse (report : Report) : (refuse report : Outcome Report Result).Honest := by
  simp [Honest, refuse]

theorem honest_check (reports : List Report) : (check reports).Honest := by
  cases reports <;> simp [Honest, check]

/-- What depends on an earlier unit is only tried behind a result, and then the earlier
unit has reported nothing. -/
theorem Honest.bind {first : Outcome Report Result} (honest : first.Honest)
    {next : Result → Outcome Report Next} (each : ∀ result, (next result).Honest) :
    (first >>= next).Honest := by
  cases found : first.result with
  | none =>
      have reported : first.reports ≠ [] := by
        intro silent
        have given := honest.mpr silent
        simp [found] at given
      cases first with
      | mk reports given =>
          simp only at found reported
          subst found
          change (none : Option Next).isSome = true ↔ reports = []
          simp [reported]
  | some result =>
      rw [honest.eq_succeed found, succeed_bind]
      exact each result

theorem honest_all {parts : List (Outcome Report Result)}
    (each : ∀ part ∈ parts, part.Honest) : (all parts).Honest := by
  induction parts with
  | nil => exact honest_succeed []
  | cons part rest ih =>
      have first := each part List.mem_cons_self
      have others := ih fun other member => each other (List.mem_cons_of_mem _ member)
      rw [Honest] at first others ⊢
      rw [all, List.append_eq_nil_iff, ← first, ← others]
      cases part.result <;> cases (all rest).result <;> simp

/-- A unit that moves a state on is the same unit to whoever reads the reports. -/
theorem Honest.thread {State : Type} {first : Outcome Report Result} (honest : first.Honest)
    (state : State) {next : Result → Outcome Report Next × State}
    (each : ∀ result, (next result).1.Honest) : (first.thread state next).1.Honest := by
  rw [fst_thread]
  exact honest.bind each

/-- What the keeper of a log sees of a unit of work: all that was logged before stays where
it is, and something comes behind it exactly if the unit gave up. -/
def Settles (outcome : Outcome Problem Result) : Prop :=
  ∀ log : Log, log.diagnostics <+: (log.reportAll outcome.reports).diagnostics ∧
    (outcome.result.isSome = true ↔
      (log.reportAll outcome.reports).diagnostics = log.diagnostics)

theorem Honest.settles {outcome : Outcome Problem Result} (honest : outcome.Honest) :
    outcome.Settles := by
  intro log
  rw [log.diagnostics_reportAll, List.append_right_eq_self, List.map_eq_nil_iff]
  exact ⟨List.prefix_append _ _, honest⟩

end Outcome

namespace Context.Stack

theorem honest_readDeclaration (member : String × Json.Value) :
    (readDeclaration member).Honest := by
  rw [readDeclaration]
  split
  · exact Outcome.honest_succeed _
  · exact Outcome.honest_refuse _

theorem honest_readEntry (index : Nat) (value : Json.Value) :
    (readEntry index value).Honest := by
  rw [readEntry.eq_def]
  split
  · exact Outcome.honest_succeed _
  · refine (Outcome.honest_all fun part member => ?_).bind fun _ => Outcome.honest_pure _
    obtain ⟨declared, -, rfl⟩ := List.mem_map.mp member
    exact honest_readDeclaration declared
  · exact Outcome.honest_refuse _

theorem honest_readEntries (index : Nat) (values : List Json.Value) :
    ∀ part ∈ readEntries index values, part.Honest := by
  induction values generalizing index with
  | nil => simp [readEntries]
  | cons value rest ih =>
      intro part member
      rcases List.mem_cons.mp member with same | member
      · exact same ▸ honest_readEntry index value
      · exact ih (index + 1) part member

theorem honest_ofJson (value : Json.Value) : (ofJson value).Honest :=
  (Outcome.honest_all (honest_readEntries 0 value.items)).bind fun _ => Outcome.honest_pure _

end Context.Stack

namespace Term

theorem honest_checkName (name : String) (owner : Owner) (language : History) :
    (checkName name owner language).Honest :=
  Outcome.honest_check _

theorem honest_meaningUnder (validator : Dtmi.Validator) (name : String)
    (definition : Option String) (language : Nat) (owner : Owner) :
    (meaningUnder validator name definition language owner).Honest := by
  cases definition with
  | none => exact Outcome.honest_succeed _
  | some definition =>
      rw [meaningUnder]
      split
      · exact Outcome.honest_succeed _
      split
      · split
        · split
          · exact Outcome.honest_succeed _
          · exact Outcome.honest_refuse _
        · exact Outcome.honest_refuse _
      · split
        · exact Outcome.honest_succeed _
        · exact Outcome.honest_refuse _

theorem honest_meaning (name : String) (definition : Option String) (language : Nat)
    (owner : Owner) (rules : Dtmi.Rules) :
    (meaning name definition language owner rules).Honest :=
  honest_meaningUnder rules.validator name definition language owner

theorem honest_resolveDeclaration (validator : Dtmi.Validator) (known : History) (language : Nat)
    (owner : Owner) (declaration : String × Option String) :
    (resolveDeclaration validator known language owner declaration).Honest := by
  refine (honest_checkName _ _ _).bind fun _ => ?_
  exact (honest_meaningUnder _ _ _ _ _).bind fun _ => Outcome.honest_pure _

theorem honest_layer (validator : Dtmi.Validator) (known : History) (block : Context.Block)
    (parent : Scope) (language : Nat) (owner : Owner) :
    (layer validator known block parent language owner).Honest := by
  refine (Outcome.honest_all fun part member => ?_).bind fun _ => Outcome.honest_pure _
  obtain ⟨declaration, -, rfl⟩ := List.mem_map.mp member
  exact honest_resolveDeclaration validator known language owner declaration

end Term

namespace Resolver

variable (resolver : Resolver)

theorem honest_readSpecifier (specifier : String) : (readSpecifier specifier).Honest := by
  rw [readSpecifier]
  split
  · split
    · exact Outcome.honest_succeed _
    · exact Outcome.honest_refuse _
  · exact Outcome.honest_refuse _

theorem honest_resolveLanguage (specifier : String) :
    (resolver.resolveLanguage specifier).Honest := by
  refine (honest_readSpecifier specifier).bind fun dtmi => ?_
  simp only
  split
  · exact Outcome.honest_refuse _
  · split
    · exact Outcome.honest_refuse _
    · exact (Outcome.honest_check _).bind fun _ => Outcome.honest_pure _

theorem honest_forgive (lenient : Bool) (problem : Problem) :
    (forgive lenient problem).Honest := by
  rw [forgive]
  split
  · exact Outcome.honest_succeed _
  · exact Outcome.honest_refuse _

theorem honest_resolveSpecifier (specifier : String) (index language : Nat) (lenient : Bool) :
    (resolver.resolveSpecifier specifier index language lenient).Honest := by
  rw [resolveSpecifier]
  split
  · exact Outcome.honest_refuse _
  split
  · exact honest_forgive _ _
  refine (honest_readSpecifier specifier).bind fun dtmi => ?_
  refine (Outcome.honest_check _).bind fun _ => ?_
  split
  · exact honest_forgive _ _
  · split
    · exact honest_forgive _ _
    · exact Outcome.honest_pure _

theorem honest_resolveAffiliate (component : Context.Component) (language : Nat)
    (lenient : Bool) : (resolver.resolveAffiliate component language lenient).Honest := by
  rw [resolveAffiliate]
  split
  · split
    · exact Outcome.honest_succeed _
    · exact Outcome.honest_refuse _
  · exact resolver.honest_resolveSpecifier _ _ _ _

theorem honest_merge (block : Context.Block) (parent : Scope) (language : Nat) (owner : Owner) :
    (resolver.merge block parent language owner).Honest :=
  Term.honest_layer _ _ block parent language owner

theorem honest_resolveComponent (language : Nat) (owner : Owner) (parent : Scope)
    (component : Context.Component) :
    (resolver.resolveComponent language owner parent component).Honest := by
  rw [resolveComponent]
  split
  · exact (resolver.honest_merge _ _ _ _).bind fun _ => Outcome.honest_pure _
  · exact (resolver.honest_resolveAffiliate _ _ _).bind fun _ => Outcome.honest_pure _

theorem honest_resolveStack (stack : Context.Stack) (parent : Scope) (owner : Owner)
    (missing : Problem) : (resolver.resolveStack stack parent owner missing).Honest := by
  rw [resolveStack]
  split
  · exact Outcome.honest_refuse _
  split
  · exact Outcome.honest_refuse _
  split
  · refine (resolver.honest_resolveLanguage _).bind fun language => ?_
    refine (Outcome.honest_all fun part member => ?_).bind fun _ => Outcome.honest_pure _
    obtain ⟨component, -, rfl⟩ := List.mem_map.mp member
    exact resolver.honest_resolveComponent _ _ _ component
  · exact Outcome.honest_refuse _

theorem honest_process (stack : Context.Stack) (parent : Option Scope) :
    (resolver.process stack parent).Honest :=
  resolver.honest_resolveStack stack _ _ _

theorem honest_draft (specifier : String) (stack : Context.Stack) :
    (resolver.draft specifier stack).Honest := by
  refine (honest_readSpecifier specifier).bind fun dtmi => ?_
  split
  · exact Outcome.honest_refuse _
  split
  · exact Outcome.honest_refuse _
  · exact (resolver.honest_resolveStack _ _ _ _).bind fun _ => Outcome.honest_pure _

theorem honest_register (specifier : String) (stack : Context.Stack) :
    (resolver.register specifier stack).1.Honest := by
  refine (resolver.honest_draft specifier stack).thread resolver fun draft => ?_
  split
  · exact Outcome.honest_succeed _
  · exact Outcome.honest_refuse _

end Resolver

namespace Batch

variable (resolver : Resolver) (source : String) (index : Nat)

theorem honest_resolveExtension (id : String) (stack : Context.Stack) :
    (resolveExtension resolver source index id stack).1.Honest :=
  (resolver.honest_register id stack).bind fun _ => Outcome.honest_pure _

theorem honest_resolveModel (id : Option String) (stack : Context.Stack)
    (types : List String) : (resolveModel resolver source index id stack types).Honest := by
  refine (resolver.honest_process stack none).bind fun context => ?_
  exact (Outcome.honest_check _).bind fun _ => Outcome.honest_pure _

theorem honest_resolveUnder (element : Json.Value) (stack : Context.Stack) :
    (resolveUnder resolver source index element stack).1.Honest := by
  rw [resolveUnder]
  split
  · exact honest_resolveExtension resolver source index _ stack
  · exact honest_resolveModel resolver source index _ stack _

theorem honest_resolveElement (element : Json.Value) :
    (resolveElement resolver source index element).1.Honest := by
  rw [resolveElement]
  split
  · exact Outcome.honest_refuse _
  · exact (Context.Stack.honest_ofJson _).thread resolver
      (honest_resolveUnder resolver source index element)

end Batch

namespace Exchange

@[simp] theorem member?_resolved_contextData (outcome : Outcome Problem Context.Resolved) :
    (contextData outcome).member? "resolved" = some (.bool outcome.result.isSome) := by
  simp [contextData, Json.Value.member?, Entries.find?]

@[simp] theorem member?_errors_contextData (outcome : Outcome Problem Context.Resolved) :
    (contextData outcome).member? "errors" =
      some (.array (outcome.reports.map fun problem => problem.diagnostic.toJson)) := by
  cases found : outcome.result <;>
    simp [contextData, Json.Value.member?, Entries.find?, found]

/-- The answer to a request that could be read says that the context was resolved exactly if
it lists no error. -/
theorem resolveContext_of_parse {context options : String} {settings : Resolver.Options}
    {value : Json.Value} (permitted : Resolver.Options.parse options = .ok settings)
    (read : Json.parse context = .ok value) :
    ∃ data resolved errors, resolveContext context options = success data ∧
      data.member? "resolved" = some (.bool resolved) ∧
      data.member? "errors" = some (.array errors) ∧ (resolved = true ↔ errors = []) := by
  let outcome := Context.Stack.ofJson value >>= fun stack =>
    (Resolver.released settings).process stack none
  have honest : outcome.Honest :=
    (Context.Stack.honest_ofJson value).bind fun stack =>
      (Resolver.released settings).honest_process stack none
  refine ⟨contextData outcome, _, _, ?_, member?_resolved_contextData outcome,
    member?_errors_contextData outcome, ?_⟩
  · simp only [resolveContext, permitted, read, outcome]
  · rw [List.map_eq_nil_iff]
    exact honest

end Exchange

namespace Resolver

/-- Reports and results correspond in every operation.  An operation leaves the log that it is
given as it is, apart from what it adds at the end, and it gives up exactly if it has added
something.  An answer in JSON that says that its context was resolved is one without errors. -/
theorem operations_settle (resolver : Resolver) :
    (∀ value, (Context.Stack.ofJson value).Settles) ∧
    (∀ name owner language, (Term.checkName name owner language).Settles) ∧
    (∀ name definition language owner rules,
      (Term.meaning name definition language owner rules).Settles) ∧
    (∀ specifier, (resolver.resolveLanguage specifier).Settles) ∧
    (∀ component language lenient,
      (resolver.resolveAffiliate component language lenient).Settles) ∧
    (∀ block parent language owner, (resolver.merge block parent language owner).Settles) ∧
    (∀ specifier stack, (resolver.register specifier stack).1.Settles) ∧
    (∀ stack parent, (resolver.process stack parent).Settles) ∧
    (∀ source index element,
      (Batch.resolveElement resolver source index element).1.Settles) ∧
    ∀ context options settings value,
      Options.parse options = .ok settings → Json.parse context = .ok value →
        ∃ data resolved errors, Exchange.resolveContext context options = Exchange.success data ∧
          data.member? "resolved" = some (.bool resolved) ∧
          data.member? "errors" = some (.array errors) ∧ (resolved = true ↔ errors = []) := by
  refine ⟨?fromJson, ?name, ?definition, ?language, ?affiliate, ?merge, ?register, ?process,
    ?element, ?answer⟩
  case fromJson => exact fun value => (Context.Stack.honest_ofJson value).settles
  case name =>
    exact fun name owner language => (Term.honest_checkName name owner language).settles
  case definition =>
    exact fun name definition language owner rules =>
      (Term.honest_meaning name definition language owner rules).settles
  case language => exact fun specifier => (resolver.honest_resolveLanguage specifier).settles
  case affiliate =>
    exact fun component language lenient =>
      (resolver.honest_resolveAffiliate component language lenient).settles
  case merge =>
    exact fun block parent language owner =>
      (resolver.honest_merge block parent language owner).settles
  case register =>
    exact fun specifier stack => (resolver.honest_register specifier stack).settles
  case process => exact fun stack parent => (resolver.honest_process stack parent).settles
  case element =>
    exact fun source index element =>
      (Batch.honest_resolveElement resolver source index element).settles
  case answer =>
    intro context options settings value permitted read
    exact Exchange.resolveContext_of_parse permitted read

/-- A context with an entry that is neither a specifier nor a block can be read, and is
answered. -/
theorem operations_settle_malformed :
    ∃ settings value, Options.parse "\x7b\x7d" = .ok settings ∧
      Json.parse "[\"dtmi:dtdl:context;3\", 17]" = .ok value ∧
      ∃ data resolved errors,
        Exchange.resolveContext "[\"dtmi:dtdl:context;3\", 17]" "\x7b\x7d" =
          Exchange.success data ∧
        data.member? "resolved" = some (.bool resolved) ∧
        data.member? "errors" = some (.array errors) ∧ (resolved = true ↔ errors = []) := by
  have permitted : (Options.parse "\x7b\x7d").toOption.isSome = true := by decide +kernel
  have readable : (Json.parse "[\"dtmi:dtdl:context;3\", 17]").toOption.isSome = true := by
    decide +kernel
  cases options : Options.parse "\x7b\x7d" with
  | error fault => simp [options, Except.toOption] at permitted
  | ok settings =>
      cases context : Json.parse "[\"dtmi:dtdl:context;3\", 17]" with
      | error fault => simp [context, Except.toOption] at readable
      | ok value =>
          obtain ⟨-, -, -, -, -, -, -, -, -, answer⟩ :=
            operations_settle (released Options.default)
          exact ⟨settings, value, rfl, rfl, answer _ _ settings value options context⟩

end Resolver

end Dtdl
