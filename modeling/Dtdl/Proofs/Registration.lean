import Dtdl.Proofs.Resolution

/-!
# Registration

A registration does two things: it examines what a document asks for, which looks at the
resolver only, and it records the outcome, which changes one table.  The table is touched
before it is certain that the version can be recorded, so that a refusal leaves no trace
is a statement about the operations on the table and on the history, not about the order
of the checks.

The main statements are that a registration either changes nothing or appends one
vocabulary to one history, and that what was registered can be referred to exactly when
its specifier is a legal reference.
-/

namespace Dtdl.Resolver

variable {resolver : Resolver} {specifier : String} {stack : Context.Stack}

/-- What documents have declared under a name so far. -/
def family (resolver : Resolver) (name : String) : History :=
  (resolver.exogenous.get? name).getD (History.empty name)

/-- A resolver that has recorded one more registration. -/
def extend (resolver : Resolver) (registration : Registration) : Resolver :=
  { resolver with
    exogenous :=
      resolver.exogenous.insert registration.name
        ((resolver.family registration.name).append registration.vocabulary) }

theorem family_extend (resolver : Resolver) (registration : Registration) (name : String) :
    (resolver.extend registration).family name =
      if name = registration.name then (resolver.family name).append registration.vocabulary
      else resolver.family name := by
  split
  · next same =>
      subst same
      rw [family, extend, Table.get?_insert_self, Option.getD_some]
  · next differs => rw [family, extend, Table.get?_insert_of_ne _ differs, family]

/-! ## Recording -/

/-- A version that is new to its family is recorded.  If the family is new as well, the
history that was entered for it is the one that ends up in the table. -/
theorem record_of_not_mem {name : String} {vocabulary : Vocabulary}
    (absent : vocabulary.version ∉ (resolver.family name).available) :
    resolver.record name vocabulary =
      (.ok vocabulary,
        { resolver with
          exogenous :=
            resolver.exogenous.insert name ((resolver.family name).append vocabulary) }) := by
  cases known : resolver.exogenous.get? name with
  | none =>
      simp only [family, known, Option.getD_none] at absent ⊢
      simp only [record, Table.enter_of_get?_eq_none known, History.add_of_not_mem absent,
        Table.insert_insert]
  | some history =>
      simp only [family, known, Option.getD_some] at absent ⊢
      simp only [record, Table.enter_of_get? known, History.add_of_not_mem absent]

/-- A version that its family has is refused.  The family is not new then, so nothing was
entered for it, and its history is put back as it was. -/
theorem record_of_mem {name : String} {vocabulary : Vocabulary}
    (present : vocabulary.version ∈ (resolver.family name).available) :
    resolver.record name vocabulary =
      (.error (.duplicateVersion (resolver.family name).name vocabulary.version), resolver) := by
  cases known : resolver.exogenous.get? name with
  | none => simp [family, known] at present
  | some history =>
      simp only [family, known, Option.getD_some] at present ⊢
      simp only [record, Table.enter_of_get? known, History.add_of_mem present,
        Table.insert_of_get? known]

/-! ## What a registration does -/

theorem draft_eq_some {registration : Registration}
    (drafted : (resolver.draft specifier stack).result = some registration) :
    ∃ dtmi context, Dtmi.parse? specifier = some dtmi ∧ dtmi.fragment = none ∧
      dtmi.isVersioned = true ∧ resolver.isExtensionReserved specifier dtmi.name = false ∧
      (resolver.resolveStack stack Scope.empty .extension
        (.extensionWithoutLanguage specifier)).result = some context ∧
      registration = ⟨dtmi.name, context.language.version.major,
        ⟨dtmi.version, context.scope.terms, context.scope.prefixes⟩⟩ := by
  rw [draft, Outcome.result_bind, Option.bind_eq_some_iff] at drafted
  obtain ⟨dtmi, read, drafted⟩ := drafted
  obtain ⟨parsed, whole⟩ := readSpecifier_eq_some.mp read
  cases versioned : dtmi.isVersioned with
  | false => simp [versioned] at drafted
  | true =>
      cases reserved : resolver.isExtensionReserved specifier dtmi.name with
      | true => simp [versioned, reserved] at drafted
      | false =>
          simp only [versioned, reserved, Bool.not_true, Bool.false_eq_true, if_false,
            Outcome.result_bind, Option.bind_eq_some_iff, Outcome.result_pure,
            Option.some.injEq] at drafted
          obtain ⟨context, resolved, same⟩ := drafted
          exact ⟨dtmi, context, parsed, whole, versioned, reserved, resolved, same.symm⟩

theorem draft_of_parts {dtmi : Dtmi} {context : Context.Resolved}
    (parsed : Dtmi.parse? specifier = some dtmi) (whole : dtmi.fragment = none)
    (versioned : dtmi.isVersioned = true)
    (unreserved : resolver.isExtensionReserved specifier dtmi.name = false)
    (resolved : (resolver.resolveStack stack Scope.empty .extension
      (.extensionWithoutLanguage specifier)).result = some context) :
    (resolver.draft specifier stack).result = some ⟨dtmi.name, context.language.version.major,
      ⟨dtmi.version, context.scope.terms, context.scope.prefixes⟩⟩ := by
  rw [draft, readSpecifier_of_parse? parsed whole, Outcome.succeed_bind]
  simp [versioned, unreserved, resolved]

theorem register_of_draft {registration : Registration}
    (drafted : (resolver.draft specifier stack).result = some registration)
    (new : registration.vocabulary.version ∉ (resolver.family registration.name).available) :
    (resolver.register specifier stack).1.result = some registration ∧
      (resolver.register specifier stack).2 = resolver.extend registration := by
  simp [register, Outcome.thread_of_some drafted, record_of_not_mem new, extend]

/-- All that a registration can do: give up and leave the resolver alone, or record what
was drafted as a version that its family did not have. -/
theorem register_cases (resolver : Resolver) (specifier : String) (stack : Context.Stack) :
    ((resolver.register specifier stack).1.result = none ∧
      (resolver.register specifier stack).2 = resolver) ∨
    ∃ registration, (resolver.draft specifier stack).result = some registration ∧
      registration.vocabulary.version ∉ (resolver.family registration.name).available ∧
      (resolver.register specifier stack).1.result = some registration ∧
      (resolver.register specifier stack).2 = resolver.extend registration := by
  cases drafted : (resolver.draft specifier stack).result with
  | none => exact .inl (by simp [register, Outcome.thread_of_none drafted])
  | some draft =>
      by_cases present :
          draft.vocabulary.version ∈ (resolver.family draft.name).available
      · exact .inl (by
          simp [register, Outcome.thread_of_some drafted, record_of_mem present])
      · exact .inr ⟨draft, rfl, present, register_of_draft drafted present⟩

theorem register_eq_some {registration : Registration}
    (registered : (resolver.register specifier stack).1.result = some registration) :
    (resolver.draft specifier stack).result = some registration ∧
      registration.vocabulary.version ∉ (resolver.family registration.name).available ∧
      (resolver.register specifier stack).2 = resolver.extend registration := by
  rcases register_cases resolver specifier stack with
    ⟨failed, -⟩ | ⟨found, drafted, new, same, state⟩
  · simp [failed] at registered
  · rw [same, Option.some.injEq] at registered
    subst registered
    exact ⟨drafted, new, state⟩

/-- A registration reaches the exogenous table and nothing else. -/
theorem register_frame (resolver : Resolver) (specifier : String) (stack : Context.Stack) :
    ∃ exogenous, (resolver.register specifier stack).2 = { resolver with exogenous } := by
  rcases register_cases resolver specifier stack with
    ⟨-, state⟩ | ⟨registration, -, -, -, state⟩
  · exact ⟨resolver.exogenous, state⟩
  · exact ⟨_, state⟩

/-! ## What a registration leaves behind -/

theorem exists_entry_extend (resolver : Resolver) (registration : Registration) :
    ∃ entry ∈ (resolver.extend registration).exogenous.entries,
      entry.1 = registration.name ∧ registration.vocabulary.version ∈ entry.2.available := by
  have known := Table.get?_insert_self resolver.exogenous registration.name
    ((resolver.family registration.name).append registration.vocabulary)
  exact ⟨_, Table.mem_entries_of_get? known, rfl, by simp⟩

/-- One table of histories comes from another by one vocabulary at the end of the history
of a name.  A name that is new is entered at the end of the table. -/
inductive Appended (name : String) (vocabulary : Vocabulary) (before after : Table History) :
    Prop
  | known (earlier later : List (String × History)) (history : History)
      (stood : before.entries = earlier ++ (name, history) :: later)
      (stands : after.entries = earlier ++ (name, history.append vocabulary) :: later)
  | entered (absent : name ∉ before.names)
      (stands : after.entries =
        before.entries ++ [(name, (History.empty name).append vocabulary)])

theorem appended_extend (resolver : Resolver) (registration : Registration) :
    Appended registration.name registration.vocabulary resolver.exogenous
      (resolver.extend registration).exogenous := by
  cases known : resolver.exogenous.get? registration.name with
  | none =>
      have absent := Table.get?_eq_none_iff.mp known
      refine .entered absent ?_
      simp [extend, family, known, Table.entries_insert_of_not_mem absent]
  | some history =>
      obtain ⟨earlier, later, stood, stored⟩ := Entries.exists_place known
      refine .known earlier later history stood ?_
      simp [extend, family, known, Table.insert, stored]

/-- A resolver over a language with one version that defines nothing. -/
def minimal : Resolver :=
  ofHistories ((History.empty Language.name).add ⟨⟨3, 0⟩, Table.empty, Table.empty⟩).2
    Table.empty .released .default

/-- The context of an extension that declares one term. -/
def plants : Context.Stack :=
  ⟨[.remote "dtmi:dtdl:context;3",
    .block (Table.ofList [("Plant", some "dtmi:com:example:Plant;1")])]⟩

/-- A registration that gives up leaves the resolver exactly as it was.  One that succeeds
changes nothing but the exogenous table, and nothing there but one vocabulary that is put
at the end of one history: the name is that of the specifier without its version, and the
vocabulary bears that version. -/
theorem register_appends_or_preserves (resolver : Resolver) (specifier : String)
    (stack : Context.Stack) :
    ((resolver.register specifier stack).1.result = none →
      (resolver.register specifier stack).2 = resolver) ∧
    ∀ registration, (resolver.register specifier stack).1.result = some registration →
      ∃ dtmi exogenous, Dtmi.parse? specifier = some dtmi ∧
        registration.name = dtmi.name ∧ registration.vocabulary.version = dtmi.version ∧
        (resolver.register specifier stack).2 = { resolver with exogenous } ∧
        Appended dtmi.name registration.vocabulary resolver.exogenous exogenous := by
  constructor
  · intro failed
    rcases register_cases resolver specifier stack with ⟨-, state⟩ | ⟨_, -, -, same, -⟩
    · exact state
    · simp [failed] at same
  · intro registration registered
    obtain ⟨drafted, -, state⟩ := register_eq_some registered
    obtain ⟨dtmi, context, parsed, -, -, -, -, same⟩ := draft_eq_some drafted
    have appended := appended_extend resolver registration
    refine ⟨dtmi, (resolver.extend registration).exogenous, parsed, ?_, ?_, state, ?_⟩
    · rw [same]
    · rw [same]
    · rwa [same] at appended ⊢

/-- One specifier lacks a version and is refused; with a version it is recorded. -/
theorem register_plants :
    (minimal.register "dtmi:com:example:plants" plants).2 = minimal ∧
      ∃ registration dtmi exogenous,
        (minimal.register "dtmi:com:example:plants;1" plants).1.result = some registration ∧
          Dtmi.parse? "dtmi:com:example:plants;1" = some dtmi ∧
          (minimal.register "dtmi:com:example:plants;1" plants).2 =
            { minimal with exogenous } ∧
          Appended dtmi.name registration.vocabulary Table.empty exogenous := by
  constructor
  · have refused : (minimal.register "dtmi:com:example:plants" plants).1.result = none := by
      decide +kernel
    exact (register_appends_or_preserves minimal _ plants).1 refused
  · have recorded :
        (minimal.register "dtmi:com:example:plants;1" plants).1.result.isSome = true := by
      decide +kernel
    obtain ⟨registration, registered⟩ := Option.isSome_iff_exists.mp recorded
    obtain ⟨dtmi, exogenous, parsed, -, -, state, appended⟩ :=
      (register_appends_or_preserves minimal _ plants).2 registration registered
    exact ⟨registration, dtmi, exogenous, registered, parsed, state, appended⟩

theorem history?_extend {registration : Registration}
    (exogenous : registration.name ∉ resolver.endogenous.names) :
    (resolver.extend registration).history? registration.name =
      some ((resolver.family registration.name).append registration.vocabulary) := by
  have elsewhere : resolver.endogenous.get? registration.name = none :=
    Table.get?_eq_none_iff.mpr exogenous
  simp [history?, extend, elsewhere]

/-- What was registered is found under its own specifier: the language that it was
declared in decides whether the specifier is a legal reference, and nothing else stands
in the way. -/
theorem resolveAffiliate_of_register {registration : Registration}
    (registered : (resolver.register specifier stack).1.result = some registration)
    (index : Nat) (isLast : Bool) :
    (resolver.register specifier stack).2.resolveAffiliate ⟨index, isLast, .remote specifier⟩
        registration.language false =
      if resolver.rules.accepts registration.language specifier then
        .succeed (some ⟨registration.name, registration.vocabulary⟩)
      else .refuse (.illegalSpecifier specifier registration.language) := by
  obtain ⟨drafted, new, state⟩ := register_eq_some registered
  obtain ⟨dtmi, context, parsed, whole, versioned, unreserved, -, same⟩ := draft_eq_some drafted
  have name : registration.name = dtmi.name := by rw [same]
  have version : registration.vocabulary.version = dtmi.version := by rw [same]
  obtain ⟨foreign, exogenous, -⟩ := isExtensionReserved_eq_false.mp unreserved
  have known := history?_extend (name ▸ exogenous)
  have found := History.find?_append new
  rw [name] at known found
  rw [version] at found
  rw [state, resolveAffiliate, name]
  exact resolveSpecifier_of_recorded parsed whole versioned foreign known found index
    registration.language false

theorem resolveAffiliate_plants :
    ∃ registration,
      (minimal.register "dtmi:com:example:plants;1" plants).1.result = some registration ∧
        (minimal.register "dtmi:com:example:plants;1" plants).2.resolveAffiliate
            ⟨1, true, .remote "dtmi:com:example:plants;1"⟩ registration.language false =
          .succeed (some ⟨registration.name, registration.vocabulary⟩) := by
  have recorded : (minimal.register "dtmi:com:example:plants;1" plants).1.result =
      some ⟨"dtmi:com:example:plants", 3, ⟨⟨1, 0⟩, Table.ofList
        [("Plant", .dtmi ⟨["com", "example", "Plant"], some ⟨"1", none⟩, none⟩)],
        Table.empty⟩⟩ := by
    decide +kernel
  have accepted : minimal.rules.accepts 3 "dtmi:com:example:plants;1" = true := by
    decide +kernel
  refine ⟨_, recorded, ?_⟩
  rw [resolveAffiliate_of_register recorded 1 true, if_pos accepted]

/-- A specifier can be registered although no context may refer to it: a label may hold a
hyphen in an identifier, but not in a legal reference. -/
theorem not_resolveAffiliate_hyphen :
    (minimal.register "dtmi:com:example:my-ext;1" ⟨[.remote "dtmi:dtdl:context;3"]⟩).1 =
        .succeed ⟨"dtmi:com:example:my-ext", 3, ⟨⟨1, 0⟩, Table.empty, Table.empty⟩⟩ ∧
      (minimal.register "dtmi:com:example:my-ext;1"
            ⟨[.remote "dtmi:dtdl:context;3"]⟩).2.resolveAffiliate
          ⟨1, false, .remote "dtmi:com:example:my-ext;1"⟩ 3 false =
        .refuse (.illegalSpecifier "dtmi:com:example:my-ext;1" 3) := by
  decide +kernel

end Dtdl.Resolver
