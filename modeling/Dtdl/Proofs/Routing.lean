import Dtdl.Proofs.Registration

/-!
# Where specifiers of the language lead

A context begins with a specifier of the language, and no other entry may be one.  On which side
an entry belongs is decided on its text: what stands before the first mark of a version or of a
fragment.  What is then looked up, and what a document must not register, is decided on the name of
the identifier that the text is read as.

The two decisions never part.  So no affiliate bears the name of the language, whatever histories
the resolver was given, and the language of a context was found under that name alone.  The latter
has to hold for contexts that are refused in the end as well, so resolving a stack is parted into
its opening, which finds the language, and what follows it.
-/

namespace Dtdl

namespace Outcome

variable {Report Result Next Last : Type}

theorem bind_assoc (first : Outcome Report Result) (second : Result → Outcome Report Next)
    (third : Next → Outcome Report Last) :
    (first >>= second) >>= third = first >>= fun result => second result >>= third := by
  cases first with
  | mk reports given =>
      cases given with
      | none => rfl
      | some result =>
          simp only [bind, andThen]
          cases (second result).result with
          | none => rfl
          | some next => simp only [List.append_assoc]

theorem refuse_bind (report : Report) (next : Result → Outcome Report Next) :
    (refuse report : Outcome Report Result) >>= next = refuse report := rfl

end Outcome

namespace Resolver

variable {resolver : Resolver} {specifier : String} {stack : Context.Stack}

/-- Find the language that a stack begins with. -/
def opening (resolver : Resolver) (stack : Context.Stack) (missing : Problem) :
    Outcome Problem Vocabulary :=
  match stack.entries with
  | .remote specifier :: _ =>
      if Language.isSpecifier specifier then resolver.resolveLanguage specifier
      else .refuse missing
  | _ => .refuse missing

/-- Resolve what follows the language of a stack. -/
def following (resolver : Resolver) (stack : Context.Stack) (parent : Scope) (owner : Owner)
    (language : Vocabulary) : Outcome Problem Context.Resolved := do
  let contributions ←
    Outcome.all
      ((Context.Stack.place 1 stack.entries.tail).map
        (resolver.resolveComponent language.version.major owner parent))
  return {
    language
    affiliates := contributions.filterMap Contribution.affiliate?
    scope := (contributions.findSome? Contribution.scope?).getD parent }

/-- Examine the identifier under which an extension is to be recorded. -/
def examine (resolver : Resolver) (specifier : String) : Outcome Problem Dtmi := do
  let dtmi ← readSpecifier specifier
  if !dtmi.isVersioned then .refuse (.unversionedExtension specifier)
  else if resolver.isExtensionReserved specifier dtmi.name then
    .refuse (.reservedExtension specifier dtmi.name)
  else return dtmi

/-- What is recorded of an extension whose context has been resolved. -/
def registration (dtmi : Dtmi) (context : Context.Resolved) : Registration where
  name := dtmi.name
  language := context.language.version.major
  vocabulary := ⟨dtmi.version, context.scope.terms, context.scope.prefixes⟩

/-- Record what was drafted under a specifier, unless its version is known. -/
def enter (resolver : Resolver) (specifier : String) (draft : Registration) :
    Outcome Problem Registration × Resolver :=
  match resolver.record draft.name draft.vocabulary with
  | (.ok vocabulary, extended) => (.succeed { draft with vocabulary }, extended)
  | (.error _, extended) =>
      (.refuse (.duplicateExtension specifier draft.name draft.vocabulary.version), extended)

theorem resolveStack_eq (resolver : Resolver) (stack : Context.Stack) (parent : Scope)
    (owner : Owner) (missing : Problem) :
    resolver.resolveStack stack parent owner missing =
      resolver.opening stack missing >>= resolver.following stack parent owner := by
  rw [resolveStack, opening, Context.Stack.components]
  cases entries : stack.entries with
  | nil => rfl
  | cons first rest =>
      cases first with
      | block declarations => rfl
      | remote specifier =>
          cases names : Language.isSpecifier specifier with
          | false => simp only [Context.Stack.place, names, Bool.false_eq_true, if_false,
              Outcome.refuse_bind]
          | true =>
              have behind : resolver.following stack parent owner = fun language => do
                  let contributions ←
                    Outcome.all ((Context.Stack.place 1 rest).map
                      (resolver.resolveComponent language.version.major owner parent))
                  return ⟨language, contributions.filterMap Contribution.affiliate?,
                    (contributions.findSome? Contribution.scope?).getD parent⟩ := by
                funext language
                rw [following, entries, List.tail_cons]
              simp only [Context.Stack.place, names, if_true, behind, Nat.zero_add]

theorem draft_eq (resolver : Resolver) (specifier : String) (stack : Context.Stack) :
    resolver.draft specifier stack =
      resolver.examine specifier >>= fun dtmi =>
        resolver.opening stack (.extensionWithoutLanguage specifier) >>= fun language =>
          resolver.following stack Scope.empty .extension language >>= fun context =>
            .succeed (registration dtmi context) := by
  rw [draft, examine, Outcome.bind_assoc]
  congr 1
  funext dtmi
  split
  · rfl
  split
  · rfl
  rw [resolveStack_eq, Outcome.bind_assoc]
  rfl

theorem register_eq (resolver : Resolver) (specifier : String) (stack : Context.Stack) :
    resolver.register specifier stack =
      (resolver.examine specifier >>= fun dtmi =>
        resolver.opening stack (.extensionWithoutLanguage specifier) >>= fun language =>
          resolver.following stack Scope.empty .extension language >>= fun context =>
            .succeed (registration dtmi context)).thread resolver (resolver.enter specifier) := by
  rw [← draft_eq, register]
  rfl

theorem opening_eq_some {missing : Problem} {language : Vocabulary}
    (opened : (resolver.opening stack missing).result = some language) :
    ∃ specifier rest, stack.entries = .remote specifier :: rest ∧
      Language.isSpecifier specifier = true ∧
      (resolver.resolveLanguage specifier).result = some language := by
  rw [opening] at opened
  split at opened
  · next specifier rest entries =>
      split at opened
      · next names => exact ⟨specifier, rest, entries, names, opened⟩
      · contradiction
  · contradiction

/-- The vocabulary was found under a specifier with the name of the language, with which the stack
begins. -/
def Named (resolver : Resolver) (stack : Context.Stack) (language : Vocabulary) : Prop :=
  ∃ specifier rest dtmi, stack.entries = .remote specifier :: rest ∧
    Dtmi.parse? specifier = some dtmi ∧ dtmi.name = Language.name ∧
    (resolver.resolveLanguage specifier).result = some language

theorem named_of_opening {missing : Problem} {language : Vocabulary}
    (opened : (resolver.opening stack missing).result = some language) :
    resolver.Named stack language := by
  obtain ⟨specifier, rest, entries, names, resolved⟩ := opening_eq_some opened
  obtain ⟨dtmi, parsed, -⟩ := resolveLanguage_eq_some resolved
  have name : dtmi.name = Language.name := (Language.isSpecifier_iff_of_parse? parsed).mp names
  exact ⟨specifier, rest, dtmi, entries, parsed, name, resolved⟩

/-- An affiliate was found under the name that its own specifier has, and that specifier was not
recognized as one of the language. -/
theorem name_ne_of_resolveAffiliate {component : Context.Component} {language : Nat}
    {lenient : Bool} {affiliate : Context.Affiliate}
    (resolved :
      (resolver.resolveAffiliate component language lenient).result = some (some affiliate)) :
    affiliate.name ≠ Language.name := by
  rw [resolveAffiliate] at resolved
  cases entry : component.entry with
  | block declarations =>
      cases last : component.isLast <;> simp [entry, last] at resolved
  | remote specifier =>
      simp only [entry] at resolved
      obtain ⟨unrecognized, -, ⟨-, nothing⟩ | ⟨-, dtmi, parsed, -, -, -, found⟩⟩ :=
        resolveSpecifier_eq_some.mp resolved
      · contradiction
      · rw [eq_comm, Option.map_eq_some_iff] at found
        obtain ⟨vocabulary, -, rfl⟩ := found
        intro same
        rw [(Language.isSpecifier_iff_of_parse? parsed).mpr same] at unrecognized
        contradiction

/-- A specifier is recognized as one of the language if and only if the identifier that it is read
as bears the name of the language.  So no affiliate bears that name.  Resolving the context of an
element and registering an extension find a language in the opening of a stack and nowhere else,
and whatever becomes of the rest, it was found under that name. -/
theorem recognized_by_name :
    (∀ text dtmi, Dtmi.parse? text = some dtmi →
      (Language.isSpecifier text = true ↔ dtmi.name = Language.name)) ∧
    ∀ resolver : Resolver,
      (∀ component language lenient affiliate,
        (resolver.resolveAffiliate component language lenient).result = some (some affiliate) →
          affiliate.name ≠ Language.name) ∧
      (∀ stack parent,
        resolver.process stack parent =
          resolver.opening stack
              (.contextWithoutLanguage (stack.entries.head?.bind Context.Entry.specifier?)) >>=
            resolver.following stack (parent.getD Scope.empty) .element) ∧
      (∀ specifier stack,
        resolver.register specifier stack =
          (resolver.examine specifier >>= fun dtmi =>
            resolver.opening stack (.extensionWithoutLanguage specifier) >>= fun language =>
              resolver.following stack Scope.empty .extension language >>= fun context =>
                .succeed (registration dtmi context)).thread resolver
            (resolver.enter specifier)) ∧
      ∀ stack missing language, (resolver.opening stack missing).result = some language →
        resolver.Named stack language := by
  refine ⟨fun text dtmi => Language.isSpecifier_iff_of_parse?, fun resolver => ?_⟩
  refine ⟨?affiliates, ?process, register_eq resolver, ?opening⟩
  case affiliates =>
    intro component language lenient affiliate
    exact name_ne_of_resolveAffiliate
  case process =>
    intro stack parent
    rw [process, resolveStack_eq]
  case opening =>
    intro stack missing language
    exact named_of_opening

/-- A specifier of the language whose fragment holds the mark of a version, an affiliate, and the
language of a context. -/
theorem recognized_by_name_plants :
    let reached := (minimal.register "dtmi:com:example:plants;1" plants).2
    (∃ dtmi, Dtmi.parse? "dtmi:dtdl:context#a;3" = some dtmi ∧
      (Language.isSpecifier "dtmi:dtdl:context#a;3" = true ↔ dtmi.name = Language.name)) ∧
    (∃ affiliate,
      (reached.resolveAffiliate ⟨1, true, .remote "dtmi:com:example:plants;1"⟩ 3 false).result =
          some (some affiliate) ∧
        affiliate.name ≠ Language.name) ∧
    ∃ language,
      (minimal.opening plants (.extensionWithoutLanguage "dtmi:com:example:plants;1")).result =
          some language ∧
        minimal.Named plants language := by
  intro reached
  obtain ⟨agree, routes⟩ := recognized_by_name
  refine ⟨?text, ?affiliate, ?language⟩
  case text =>
    have read : (Dtmi.parse? "dtmi:dtdl:context#a;3").isSome = true := by decide +kernel
    obtain ⟨dtmi, parsed⟩ := Option.isSome_iff_exists.mp read
    exact ⟨dtmi, parsed, agree _ dtmi parsed⟩
  case affiliate =>
    have resolves : (reached.resolveAffiliate
        ⟨1, true, .remote "dtmi:com:example:plants;1"⟩ 3 false).result.join.isSome = true := by
      decide +kernel
    obtain ⟨affiliate, joined⟩ := Option.isSome_iff_exists.mp resolves
    have resolved := Option.join_eq_some_iff.mp joined
    exact ⟨affiliate, resolved, (routes reached).1 _ 3 false affiliate resolved⟩
  case language =>
    have opens : (minimal.opening plants
        (.extensionWithoutLanguage "dtmi:com:example:plants;1")).result.isSome = true := by
      decide +kernel
    obtain ⟨language, opened⟩ := Option.isSome_iff_exists.mp opens
    exact ⟨language, opened, (routes minimal).2.2.2 plants _ language opened⟩

end Resolver

end Dtdl
