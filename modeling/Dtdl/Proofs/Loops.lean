import Dtdl.Proofs.Correspondence
import Dtdl.Proofs.Entries
import Dtdl.Proofs.Routing

/-!
# Loops that go on behind a failure

What consists of many parts is resolved in a loop.  The loop reports as it goes, and a part that
fails leaves a mark behind, so that the loop gives up when it is through and not before.  Meanwhile
it puts something together, and a part that has failed may have left anything there.

`Outcome.check` and `Outcome.all` have no mark, and nothing is put together before every part is
known to have succeeded.  Here the loops are written down with their marks: the one that checks a
name, the one that layers a block over a scope, and the one that an extension is collected in.  Each
is shown to come to the same as what is put together from outcomes.

The context of an extension is collected in a loop of its own, which is another one than the pass
over the context of an element.  The last statement is that the two run alongside each other.
-/

namespace Dtdl

/-- What goes on from a result alike comes to the same. -/
theorem Outcome.bind_congr {Report Result Next : Type} {first : Outcome Report Result}
    {next other : Result → Outcome Report Next}
    (same : ∀ result, first.result = some result → next result = other result) :
    first >>= next = first >>= other := by
  cases first with
  | mk reports given =>
      cases given with
      | none => rfl
      | some result => simp only [bind, andThen, same result rfl]

/-- How far a loop has come: what it has reported, whether anything has failed, and what it has put
together. -/
structure Course (State : Type) where
  reports : List Problem
  failed : Bool
  state : State

namespace Course

variable {State Source Result : Type}

def start (state : State) : Course State := ⟨[], false, state⟩

/-- Where something is at fault, report it, leave a mark, and go on. -/
def note (course : Course State) (faulty : Bool) (problem : Problem) : Course State :=
  if faulty then { course with reports := course.reports ++ [problem], failed := true }
  else course

/-- A loop that is through gives up if there is a mark. -/
def outcome (course : Course State) : Outcome Problem State :=
  ⟨course.reports, if course.failed then none else some course.state⟩

theorem foldl_note (faults : List (Bool × Problem)) (course : Course State) :
    let reported := (faults.filter Prod.fst).map Prod.snd
    faults.foldl (fun course fault => course.note fault.1 fault.2) course =
      { course with
        reports := course.reports ++ reported
        failed := course.failed || !reported.isEmpty } := by
  induction faults generalizing course with
  | nil => simp
  | cons fault rest ih =>
      obtain ⟨faulty, problem⟩ := fault
      rw [List.foldl_cons, ih]
      cases faulty <;> simp [note]

/-- Faults that are noted one after the other are those of a check. -/
theorem outcome_notes (faults : List (Bool × Problem)) :
    (faults.foldl (fun course fault => course.note fault.1 fault.2) (start ())).outcome =
      Outcome.check ((faults.filter Prod.fst).map Prod.snd) := by
  rw [foldl_note, outcome, Outcome.check, start]
  cases (faults.filter Prod.fst).map Prod.snd <;> rfl

/-- A step of a loop that tries a part.  It adds the reports of the part, it leaves a mark if the
part has failed, and if not it moves on what has been put together.  Nothing is said of what has
been put together behind a part that has failed. -/
structure Tries (step : Course State → Source → Course State)
    (part : Source → Outcome Problem Result) (move : State → Result → State) : Prop where
  reports : ∀ course source,
    (step course source).reports = course.reports ++ (part source).reports
  failed : ∀ course source,
    (step course source).failed = (course.failed || (part source).result.isNone)
  state : ∀ course source, ∀ result ∈ (part source).result,
    (step course source).state = move course.state result

section Tries

variable {step : Course State → Source → Course State}
variable {part : Source → Outcome Problem Result} {move : State → Result → State}

theorem Tries.reports_foldl (tries : Tries step part move) (sources : List Source)
    (course : Course State) :
    (sources.foldl step course).reports =
      course.reports ++ (Outcome.all (sources.map part)).reports := by
  rw [Outcome.reports_all]
  induction sources generalizing course with
  | nil => simp
  | cons source rest ih => simp [ih, tries.reports]

theorem Tries.failed_foldl (tries : Tries step part move) (sources : List Source)
    (course : Course State) :
    (sources.foldl step course).failed =
      (course.failed || (Outcome.all (sources.map part)).result.isNone) := by
  induction sources generalizing course with
  | nil => simp [Outcome.all]
  | cons source rest ih =>
      rw [List.foldl_cons, ih, tries.failed, List.map_cons, Outcome.all]
      cases (part source).result <;> cases (Outcome.all (rest.map part)).result <;> simp

theorem Tries.state_foldl (tries : Tries step part move) {sources : List Source}
    {results : List Result}
    (each : sources.map (fun source => (part source).result) = results.map some)
    (course : Course State) :
    (sources.foldl step course).state = results.foldl move course.state := by
  induction sources generalizing results course with
  | nil =>
      rw [List.map_eq_nil_iff.mp each.symm]
      rfl
  | cons source rest ih =>
      cases results with
      | nil => contradiction
      | cons result others =>
          obtain ⟨found, behind⟩ := List.cons.inj each
          rw [List.foldl_cons, List.foldl_cons, ih behind, tries.state course source result found]

/-- What a loop comes to is what its parts come to together. -/
theorem Tries.outcome_foldl (tries : Tries step part move) (sources : List Source)
    (state : State) :
    (sources.foldl step (start state)).outcome =
      Outcome.all (sources.map part) >>= fun results =>
        .succeed (results.foldl move state) := by
  rw [outcome, tries.reports_foldl, tries.failed_foldl]
  cases together : Outcome.all (sources.map part) with
  | mk reports given =>
      cases given with
      | none => rfl
      | some results =>
          have each := Outcome.result_all.mp (congrArg Outcome.result together)
          rw [List.map_map] at each
          rw [tries.state_foldl each]
          simp [bind, Outcome.andThen, Outcome.succeed, start]

end Tries

end Course

/-! ## Names -/

namespace Term

open Course (start)

/-- Check a name for one fault after the other.  Behind the empty name there is no other. -/
def examineName (name : String) (owner : Owner) (language : History) : Outcome Problem Unit :=
  if name = "" then .refuse (.declaration owner .emptyName)
  else
    ((((start ()).note (name = Dtmi.scheme) (.declaration owner (.schemeName name))).note
      (!isWellFormed name) (.declaration owner (.malformedName name))).note
      (language.isTermReserved name) (.declaration owner (.reservedName name))).outcome

theorem checkName_eq (name : String) (owner : Owner) (language : History) :
    checkName name owner language = examineName name owner language := by
  rw [checkName, nameProblems, examineName]
  split
  · rfl
  · have noted := Course.outcome_notes
      [(decide (name = Dtmi.scheme), .declaration owner (.schemeName name)),
        (!isWellFormed name, .declaration owner (.malformedName name)),
        (language.isTermReserved name, .declaration owner (.reservedName name))]
    refine (congrArg Outcome.check ?_).trans noted.symm
    cases isWellFormed name <;> cases language.isTermReserved name <;>
      by_cases name = Dtmi.scheme <;> simp [*]

/-! ## Blocks -/

section Blocks

variable (validator : Dtmi.Validator) (known : History) (language : Nat) (owner : Owner)

/-- Take one more declaration of a block.  One whose name is at fault is passed over.  Any other
takes its name out of the scope, also if its definition turns out to be at fault. -/
def declareNext (course : Course Scope) (declaration : String × Option String) :
    Course Scope :=
  let (name, definition) := declaration
  let named := checkName name owner known
  let reports := course.reports ++ named.reports
  if named.result.isNone then { course with reports, failed := true }
  else
    let cleared := course.state.erase name
    let defined := meaningUnder validator name definition language owner
    let reports := reports ++ defined.reports
    match defined.result with
    | some (.identifier identifier) =>
        { course with
          reports, state := { cleared with terms := cleared.terms.insert name identifier } }
    | some (.expansion text) =>
        { course with
          reports, state := { cleared with prefixes := cleared.prefixes.insert name text } }
    | some .nothing =>
        { course with
          reports, state := { cleared with undefined := cleared.undefined ++ [name] } }
    | none => ⟨reports, true, cleared⟩

/-- A declaration fails and leaves a mark, or it is declared. -/
theorem declareNext_cases (course : Course Scope) (declaration : String × Option String) :
    let part := resolveDeclaration validator known language owner declaration
    let reports := course.reports ++ part.reports
    (part.result = none ∧ ∃ state,
      declareNext validator known language owner course declaration = ⟨reports, true, state⟩) ∨
    ∃ meaning, part.result = some (declaration.1, meaning) ∧
      declareNext validator known language owner course declaration =
        ⟨reports, course.failed, declare course.state declaration.1 meaning⟩ := by
  intro part reports
  have resolved : part =
      checkName declaration.1 owner known >>= fun _ =>
        meaningUnder validator declaration.1 declaration.2 language owner >>= fun meaning =>
          .succeed (declaration.1, meaning) := rfl
  simp only [reports, resolved, declareNext]
  cases checkName declaration.1 owner known with
  | mk wrongs named =>
      cases named with
      | none => exact .inl ⟨rfl, course.state, rfl⟩
      | some nothing =>
          cases meaningUnder validator declaration.1 declaration.2 language owner with
          | mk others defined =>
              cases defined with
              | none => exact .inl ⟨rfl, course.state.erase declaration.1, by
                  simp [bind, Outcome.andThen]⟩
              | some meaning =>
                  refine .inr ⟨meaning, rfl, ?_⟩
                  cases meaning <;>
                    simp [bind, Outcome.andThen, Outcome.succeed, declare]

theorem tries_declareNext :
    Course.Tries (declareNext validator known language owner)
      (resolveDeclaration validator known language owner)
      fun scope named => declare scope named.1 named.2 := by
  constructor
  case reports =>
    intro course declaration
    obtain ⟨-, state, next⟩ | ⟨meaning, -, next⟩ :=
      declareNext_cases validator known language owner course declaration <;> rw [next]
  case failed =>
    intro course declaration
    obtain ⟨found, state, next⟩ | ⟨meaning, found, next⟩ :=
      declareNext_cases validator known language owner course declaration <;>
        simp [next, found]
  case state =>
    intro course declaration named given
    obtain ⟨found, -⟩ | ⟨meaning, found, next⟩ :=
      declareNext_cases validator known language owner course declaration
    · rw [found] at given
      contradiction
    · rw [found, Option.mem_some_iff] at given
      rw [next, ← given]

/-- Layering a block is the loop over its declarations. -/
theorem layer_eq (block : Context.Block) (parent : Scope) :
    layer validator known block parent language owner =
      (block.entries.foldl (declareNext validator known language owner) (start parent)).outcome :=
  ((tries_declareNext validator known language owner).outcome_foldl block.entries parent).symm

end Blocks

end Term

namespace Resolver

open Course (start)

variable (resolver : Resolver)

/-! ## Extensions -/

/-- Take one more entry of the context of an extension.  A final block is layered over the empty
scope, and becomes what the extension defines.  Any other entry has to be resolved, but nothing is
made of it. -/
def collect (language : Nat) (course : Course Scope) (component : Context.Component) :
    Course Scope :=
  match component.entry, component.isLast with
  | .block block, true =>
      let merged := resolver.merge block Scope.empty language .extension
      { reports := course.reports ++ merged.reports
        failed := course.failed || merged.result.isNone
        state := merged.result.getD course.state }
  | _, _ =>
      let resolved :=
        resolver.resolveAffiliate component language resolver.options.allowUndefined
      { course with
        reports := course.reports ++ resolved.reports
        failed := course.failed || resolved.result.isNone }

/-- What an extension defines in the context that stands behind its language. -/
def collected (stack : Context.Stack) (language : Vocabulary) : Outcome Problem Scope :=
  ((Context.Stack.place 1 stack.entries.tail).foldl (resolver.collect language.version.major)
    (start Scope.empty)).outcome

/-- An entry is merged or resolved, and the loop keeps the scope or nothing of it. -/
theorem collect_cases (language : Nat) (course : Course Scope)
    (component : Context.Component) :
    let part := resolver.resolveComponent language .extension Scope.empty component
    let next := resolver.collect language course component
    (∃ merged : Outcome Problem Scope,
      part = merged >>= (fun scope => .succeed (.scope scope)) ∧
      next = ⟨course.reports ++ merged.reports, course.failed || merged.result.isNone,
        merged.result.getD course.state⟩) ∨
    ∃ resolved : Outcome Problem (Option Context.Affiliate),
      part = resolved >>= (fun affiliate => .succeed (affiliate.elim .nothing .affiliate)) ∧
      next = ⟨course.reports ++ resolved.reports, course.failed || resolved.result.isNone,
        course.state⟩ := by
  obtain ⟨index, isLast, entry⟩ := component
  cases entry with
  | remote specifier => exact .inr ⟨_, rfl, rfl⟩
  | block block =>
      cases isLast with
      | true => exact .inl ⟨_, rfl, rfl⟩
      | false => exact .inr ⟨_, rfl, rfl⟩

theorem tries_collect (language : Nat) :
    Course.Tries (resolver.collect language)
      (resolver.resolveComponent language .extension Scope.empty)
      fun scope contribution => contribution.scope?.getD scope := by
  constructor
  case reports =>
    intro course component
    obtain ⟨_, part, next⟩ | ⟨_, part, next⟩ :=
      resolver.collect_cases language course component <;>
        rw [next, part, Outcome.reports_bind_succeed]
  case failed =>
    intro course component
    obtain ⟨_, part, next⟩ | ⟨_, part, next⟩ :=
      resolver.collect_cases language course component <;>
        rw [next, part, Outcome.result_bind_succeed, Option.isNone_map]
  case state =>
    intro course component contribution given
    obtain ⟨_, part, next⟩ | ⟨_, part, next⟩ :=
      resolver.collect_cases language course component <;>
        rw [part, Outcome.result_bind_succeed] at given <;>
          obtain ⟨found, result, rfl⟩ := Option.map_eq_some_iff.mp given
    · rw [next, result]
      rfl
    · rw [next]
      cases found <;> rfl

/-- Among the contributions of the entries there is a scope only if the final one is a block, so
that taking each of them in turn comes to looking for one. -/
theorem foldl_scope? {language index : Nat} {owner : Owner} {parent : Scope}
    {entries : List Context.Entry} {contributions : List Contribution}
    (each : (Context.Stack.place index entries).map (fun component =>
      (resolver.resolveComponent language owner parent component).result) =
        contributions.map some)
    (scope : Scope) :
    contributions.foldl (fun scope contribution => contribution.scope?.getD scope) scope =
      (contributions.findSome? Contribution.scope?).getD scope := by
  induction entries generalizing index contributions with
  | nil =>
      rw [List.map_eq_nil_iff.mp each.symm]
      rfl
  | cons entry rest ih =>
      cases contributions with
      | nil => contradiction
      | cons contribution others =>
          obtain ⟨found, behind⟩ := List.cons.inj each
          cases rest with
          | nil =>
              rw [List.map_eq_nil_iff.mp behind.symm]
              cases contribution <;> rfl
          | cons next entries =>
              have silent : contribution.scope? = none := by
                cases contribution with
                | affiliate resolved => rfl
                | nothing => rfl
                | scope merged =>
                    obtain ⟨-, -, last, -⟩ := resolveComponent_eq_scope found
                    contradiction
              rw [List.foldl_cons, List.findSome?_cons, silent]
              exact ih behind

/-- What is made of a context for an extension is made of its language and what its own loop has
collected. -/
theorem following_eq_collected {Result : Type} (stack : Context.Stack) (language : Vocabulary)
    (make : Vocabulary → Scope → Result) :
    (resolver.following stack Scope.empty .extension language >>= fun context =>
        .succeed (make context.language context.scope)) =
      resolver.collected stack language >>= fun scope => .succeed (make language scope) := by
  rw [collected, (resolver.tries_collect _).outcome_foldl, following, Outcome.bind_assoc,
    Outcome.bind_assoc]
  refine Outcome.bind_congr fun contributions resolved => ?_
  have each := Outcome.result_all.mp resolved
  rw [List.map_map] at each
  rw [resolver.foldl_scope? each Scope.empty]
  rfl

/-- An extension is recorded as its own loop has collected it. -/
theorem register_eq_collected (specifier : String) (stack : Context.Stack) :
    resolver.register specifier stack =
      (resolver.examine specifier >>= fun dtmi =>
        resolver.opening stack (.extensionWithoutLanguage specifier) >>= fun language =>
          resolver.collected stack language >>= fun scope =>
            .succeed ⟨dtmi.name, language.version.major,
              ⟨dtmi.version, scope.terms, scope.prefixes⟩⟩).thread resolver
        (resolver.enter specifier) := by
  have same (dtmi : Dtmi) (language : Vocabulary) :=
    resolver.following_eq_collected stack language fun language scope =>
      (⟨dtmi.name, language.version.major, ⟨dtmi.version, scope.terms, scope.prefixes⟩⟩ :
        Registration)
  simp only [register_eq, registration, same]

/-! ## Both loops -/

/-- The loop over the context of an extension and the pass over that of an element are at the same
place: reports that correspond, the same mark, and the same scope. -/
structure Alongside (course : Course Scope) (pass : Pass) : Prop where
  reports : List.Forall₂ Problem.Mirrors course.reports pass.reports
  failed : course.failed = pass.failed
  scope : course.state = pass.scope

variable {resolver} {language : Nat}

theorem Alongside.append {Result : Type} {course : Course Scope} {pass : Pass}
    (alongside : Alongside course pass) {mirror original : Outcome Problem Result}
    (mirrored : mirror.Mirrors original) {state scope : Scope} (same : state = scope)
    {affiliates : List Context.Affiliate} :
    Alongside ⟨course.reports ++ mirror.reports, course.failed || mirror.result.isNone, state⟩
      ⟨pass.reports ++ original.reports, pass.failed || original.result.isNone, affiliates,
        scope⟩ where
  reports := List.rel_append alongside.reports mirrored.reports
  failed := by rw [alongside.failed, mirrored.result]
  scope := same

/-- One entry leaves the two at the same place.  The final block is layered over the empty scope by
the one and over what it has come to by the other, so nothing may have been layered before. -/
theorem Alongside.advance {course : Course Scope} {pass : Pass}
    (alongside : Alongside course pass) (untouched : pass.scope = Scope.empty)
    (component : Context.Component) :
    Alongside (resolver.collect language course component)
      (resolver.advance language pass component) := by
  have resolved := resolver.mirrors_resolveAffiliate component language
    resolver.options.allowUndefined
  obtain ⟨index, isLast, entry⟩ := component
  cases entry with
  | remote specifier => exact alongside.append resolved alongside.scope
  | block block =>
      cases isLast with
      | false => exact alongside.append resolved alongside.scope
      | true =>
          have merged : (resolver.merge block Scope.empty language .extension).Mirrors
              (resolver.merge block pass.scope language .element) := by
            rw [untouched]
            exact resolver.mirrors_merge block Scope.empty language
          exact alongside.append merged (by rw [merged.result, alongside.scope])

/-- By induction on the entries.  The scope that the pass has come to is the one that it began with
until the final entry is reached. -/
theorem Alongside.foldl {course : Course Scope} {pass : Pass}
    (alongside : Alongside course pass) (untouched : pass.scope = Scope.empty) (index : Nat)
    (entries : List Context.Entry) :
    Alongside ((Context.Stack.place index entries).foldl (resolver.collect language) course)
      ((Context.Stack.place index entries).foldl (resolver.advance language) pass) := by
  induction entries generalizing course pass index with
  | nil => exact alongside
  | cons entry rest ih =>
      have next : Alongside
          (resolver.collect language course ⟨index, rest.isEmpty, entry⟩)
          (resolver.advance language pass ⟨index, rest.isEmpty, entry⟩) :=
        alongside.advance untouched _
      cases rest with
      | nil => exact next
      | cons following others =>
          refine ih next ?_ (index + 1)
          rw [advance_eq]
          exact untouched

/-- The context of an extension and that of an element are resolved in loops of their own, which
run alongside each other from the first entry behind the language to the last. -/
theorem collected_alongside (resolver : Resolver) (stack : Context.Stack)
    (language : Vocabulary) :
    let behind := Context.Stack.place 1 stack.entries.tail
    let pass := behind.foldl (resolver.advance language.version.major) (Pass.start Scope.empty)
    Alongside (behind.foldl (resolver.collect language.version.major) (start Scope.empty)) pass ∧
      (resolver.collected stack language).Mirrors
        (pass.outcome language >>= fun context => .succeed context.scope) := by
  intro behind pass
  have together : Alongside
      (behind.foldl (resolver.collect language.version.major) (start Scope.empty)) pass :=
    Alongside.foldl ⟨.nil, rfl, rfl⟩ rfl 1 stack.entries.tail
  refine ⟨together, ?result, ?reports⟩
  case result =>
    rw [Outcome.result_bind_succeed, collected, Course.outcome, Pass.outcome, together.failed,
      together.scope]
    cases pass.failed <;> rfl
  case reports =>
    rw [Outcome.reports_bind_succeed]
    exact together.reports

end Resolver

end Dtdl
