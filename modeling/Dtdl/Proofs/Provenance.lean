import Dtdl.Proofs.Catalog
import Dtdl.Proofs.Registry

/-!
# Where recorded versions come from

A registration asks whether its specifier is reserved and records the version that the
specifier stands for.  Several specifiers stand for one version, since its numbers may be
written with leading zeros and a minor number 0 may be written or left out.  So what can be
said of a recorded version is that it was asked for under some specifier that is not
reserved; the canonical one may be another.

The main statement is that no version bears a reserved identifier if nobody has asked for it
in another spelling, and that only version 2.0 can be asked for in that way.
-/

namespace Dtdl.Resolver

variable {resolver : Resolver} {asked : List String} {name specifier : String}
variable {version : Version}

/-- A resolver over the released language and its extensions, with any rules. -/
def releasedWith (options : Options) (rules : Dtmi.Rules) : Resolver :=
  ofHistories Language.history Extension.histories rules options

theorem fresh_releasedWith (options : Options) (rules : Dtmi.Rules) :
    Fresh (releasedWith options rules) := fresh_released options rules

/-- The specifier of a version without leading zeros and without a minor number 0. -/
def canonical (name : String) (version : Version) : String := name ++ (";" ++ version.text)

/-- Whether a specifier stands for a version of a family. -/
def Spells (specifier name : String) (version : Version) : Prop :=
  ∃ dtmi, Dtmi.parse? specifier = some dtmi ∧ dtmi.fragment = none ∧ dtmi.name = name ∧
    dtmi.version = version

/-- A version was asked for by one of some specifiers, and the specifier was free. -/
structure Requested (resolver : Resolver) (asked : List String) (name : String)
    (version : Version) (specifier : String) : Prop where
  listed : specifier ∈ asked
  spells : Spells specifier name version
  free : resolver.isIdentifierReserved specifier = false

/-- Every version of a declared extension was asked for. -/
def Traced (asked : List String) (resolver : Resolver) : Prop :=
  ∀ entry ∈ resolver.exogenous.entries, ∀ version ∈ entry.2.available,
    ∃ specifier, resolver.Requested asked entry.1 version specifier

/-! ## Every version was asked for -/

/-- A reservation is a matter of the given histories, which registrations do not change. -/
theorem isIdentifierReserved_extend (resolver : Resolver) (registration : Registration)
    (identifier : String) :
    (resolver.extend registration).isIdentifierReserved identifier =
      resolver.isIdentifierReserved identifier := rfl

theorem isIdentifierReserved_run (resolver : Resolver) (operations : List Operation)
    (identifier : String) :
    (resolver.run operations).isIdentifierReserved identifier =
      resolver.isIdentifierReserved identifier := by
  obtain ⟨exogenous, reached⟩ := run_frame resolver operations
  rw [reached]
  rfl

theorem Requested.extend (requested : resolver.Requested asked name version specifier)
    (registration : Registration) :
    (resolver.extend registration).Requested asked name version specifier where
  listed := requested.listed
  spells := requested.spells
  free := by rw [isIdentifierReserved_extend, requested.free]

/-- The versions of a family before a registration are traced, if there are any. -/
theorem Traced.family (traced : Traced asked resolver)
    (recorded : version ∈ (resolver.family name).available) :
    ∃ specifier, resolver.Requested asked name version specifier := by
  rw [Resolver.family] at recorded
  cases known : resolver.exogenous.get? name with
  | none => simp [known] at recorded
  | some history =>
      rw [known, Option.getD_some] at recorded
      exact traced (name, history) (Table.mem_entries_of_get? known) version recorded

theorem Traced.register (traced : Traced asked resolver) (listed : specifier ∈ asked)
    (stack : Context.Stack) : Traced asked (resolver.register specifier stack).2 := by
  rcases register_cases resolver specifier stack with
    ⟨-, state⟩ | ⟨registration, drafted, -, -, state⟩
  · rw [state]
    exact traced
  · obtain ⟨dtmi, context, parsed, whole, -, unreserved, -, rfl⟩ := draft_eq_some drafted
    obtain ⟨-, -, free⟩ := isExtensionReserved_eq_false.mp unreserved
    have requested : resolver.Requested asked dtmi.name dtmi.version specifier :=
      ⟨listed, ⟨dtmi, parsed, whole, rfl, rfl⟩, free⟩
    rw [state]
    intro entry member version recorded
    -- Either the family has got the new version, or the entry is one from before.
    rcases Table.mem_entries_insert member with rfl | member
    · rw [History.available_append, List.mem_append, List.mem_singleton] at recorded
      rcases recorded with earlier | rfl
      · obtain ⟨other, before⟩ := traced.family earlier
        exact ⟨other, before.extend _⟩
      · exact ⟨specifier, requested.extend _⟩
    · obtain ⟨other, before⟩ := traced entry member version recorded
      exact ⟨other, before.extend _⟩

theorem traced_run (fresh : Fresh resolver) (operations : List Operation) :
    Traced (operations.flatMap Operation.specifiers) (resolver.run operations) := by
  refine run_preserves_of_specifiers (Traced (operations.flatMap Operation.specifiers)) ?_ ?_
  · intro reached specifier listed stack traced
    exact traced.register listed stack
  · cases fresh with
    | mk rules options languageBuilt endogenousBuilt =>
        intro entry member
        simp [ofHistories] at member

/-! ## Canonical specifiers of the released catalogs -/

/-- What the released catalogs reserve lies under the prefix of the language, or else it is
written with version 2. -/
theorem reserved_cases_released {options : Options} {rules : Dtmi.Rules} {text : String}
    (reserved : (releasedWith options rules).isIdentifierReserved text = true) :
    Text.startsWith text "dtmi:dtdl:" = true ∨
      Text.startsWith text "dtmi:standard:" = true ∧ ";2".toList <:+ text.toList := by
  rw [isIdentifierReserved, List.any_cons, Bool.or_eq_true, List.any_eq_true] at reserved
  rcases reserved with language | ⟨history, member, extension⟩
  · exact Language.reserved_cases language
  · exact .inl (Extension.startsWith_of_reserved member extension)

theorem not_startsWith_of_run (options : Options) (rules : Dtmi.Rules)
    (operations : List Operation) (entry : String × History)
    (declared : entry ∈ ((releasedWith options rules).run operations).exogenous.entries) :
    Text.startsWith entry.1 "dtmi:dtdl:" = false := by
  have sound := (fresh_releasedWith options rules).sound.run operations
  obtain ⟨exogenous, reached⟩ := run_frame (releasedWith options rules) operations
  have recorded : (Language.history.find? ⟨2, 0⟩).isSome = true := by
    decide +kernel
  obtain ⟨vocabulary, found⟩ := Option.isSome_iff_exists.mp recorded
  obtain ⟨member, -⟩ := History.mem_of_find? found
  have expansion := Language.expansion?_of_mem member
  have unreserved := (sound.registry entry declared).unreserved
  rw [reached] at unreserved
  exact unreserved Language.history List.mem_cons_self vocabulary member "dtmi:dtdl:"
    (List.mem_map.mpr ⟨("dtdl", "dtmi:dtdl:"), Table.mem_entries_of_get? expansion, rfl⟩)

theorem toList_canonical (name : String) (version : Version) :
    (canonical name version).toList = name.toList ++ ';' :: version.text.toList := by
  simp [canonical]

/-- A word without a semicolon that a canonical specifier begins with belongs to its name. -/
theorem startsWith_of_canonical {lead : String} (plain : ';' ∉ lead.toList)
    (begins : Text.startsWith (canonical name version) lead = true) :
    Text.startsWith name lead = true := by
  rw [Text.startsWith_iff, toList_canonical] at begins
  exact Text.startsWith_iff.mpr (Text.prefix_of_marked plain begins)

/-- The last semicolon of a canonical specifier stands in front of its version. -/
theorem eq_of_canonical_suffix (ends : ";2".toList <:+ (canonical name version).toList) :
    version = ⟨2, 0⟩ := by
  obtain ⟨front, written⟩ := ends
  -- The name may be anything here, so the specifier is cut at its last semicolon.
  have backwards : ['2'] ++ ';' :: front.reverse =
      version.text.toList.reverse ++ ';' :: name.toList.reverse := by
    simpa [toList_canonical] using congrArg List.reverse written
  have plain : ';' ∉ version.text.toList.reverse := by
    simpa using version.semicolon_not_mem_text
  have cuts := congrArg (fun text => (Text.cut ';' text).1) backwards
  simp only [Text.cut_append plain, Text.cut_append (show ';' ∉ ['2'] by decide)] at cuts
  have text : version.text = (⟨2, 0⟩ : Version).text := by
    apply String.toList_injective
    rw [← List.reverse_inj, ← cuts]
    rfl
  exact Version.text_injective text

/-- No recorded version bears a reserved identifier unless the session has asked for it in
another spelling, and that can be the case for a version 2.0 only. -/
theorem not_reserved_of_run (options : Options) (rules : Dtmi.Rules)
    (operations : List Operation) {entry : String × History}
    (declared : entry ∈ ((releasedWith options rules).run operations).exogenous.entries)
    {version : Version} (recorded : version ∈ entry.2.available)
    (spelled : version = ⟨2, 0⟩ → ∀ specifier ∈ operations.flatMap Operation.specifiers,
      Spells specifier entry.1 version → specifier = canonical entry.1 version) :
    ((releasedWith options rules).run operations).isIdentifierReserved
      (canonical entry.1 version) = false := by
  have fresh := fresh_releasedWith options rules
  rw [← Bool.not_eq_true]
  intro reserved
  have catalogs := isIdentifierReserved_run (releasedWith options rules) operations
    (canonical entry.1 version)
  rw [reserved] at catalogs
  rcases reserved_cases_released catalogs.symm with own | ⟨-, ends⟩
  · have clash : Text.startsWith entry.1 "dtmi:dtdl:" = true :=
      startsWith_of_canonical (by decide) own
    have outside := not_startsWith_of_run options rules operations entry declared
    rw [outside] at clash
    exact Bool.false_ne_true clash
  · -- The specifier that was asked for is free, so it is not the canonical one.
    obtain ⟨specifier, requested⟩ :=
      traced_run fresh operations entry declared version recorded
    have same := spelled (eq_of_canonical_suffix ends) specifier requested.listed
      requested.spells
    have free := requested.free
    rw [same, reserved] at free
    exact Bool.false_ne_true free.symm

/-! ## Spellings of version 2.0 -/

/-- The context of an extension that declares nothing. -/
def bare : Context.Stack := ⟨[.remote "dtmi:dtdl:context;3"]⟩

/-- A resolver over the released catalogs records what it is asked for under a free
specifier. -/
theorem recorded_of_bare (spells : Spells specifier name version)
    (versioned : version.major ≠ 0) (foreign : name ≠ Language.name)
    (exogenous : name ∉ Extension.histories.names)
    (free : (releasedWith .default .released).isIdentifierReserved specifier = false) :
    ∃ entry ∈
        ((releasedWith .default .released).run [.register specifier bare]).exogenous.entries,
      entry.1 = name ∧ version ∈ entry.2.available := by
  obtain ⟨dtmi, parsed, whole, rfl, rfl⟩ := spells
  have unreserved := isExtensionReserved_eq_false.mpr ⟨foreign, exogenous, free⟩
  have known : ((releasedWith .default .released).resolveLanguage
      "dtmi:dtdl:context;3").result.isSome = true := by
    decide +kernel
  obtain ⟨language, begins⟩ := Option.isSome_iff_exists.mp known
  have nothing : ([] : List Context.Component).map (fun component =>
      ((releasedWith .default .released).resolveComponent language.version.major .extension
        Scope.empty component).result) = ([] : List Contribution).map some := rfl
  have names : Language.isSpecifier "dtmi:dtdl:context;3" = true := by
    decide +kernel
  have resolved : ((releasedWith .default .released).resolveStack bare Scope.empty .extension
      (.extensionWithoutLanguage specifier)).result = some _ :=
    resolveStack_of_parts rfl rfl names begins nothing
  have drafted := draft_of_parts parsed whole (by simpa [Dtmi.isVersioned] using versioned)
    unreserved resolved
  have recorded :=
    (register_of_draft drafted (by simp [family, releasedWith, ofHistories])).2
  rw [run, List.foldl_cons, List.foldl_nil, after, recorded]
  exact exists_entry_extend _ _

/-- Version 2.0 of an extension that was asked for by its canonical specifier. -/
theorem not_reserved_of_run_plants :
    ∃ entry ∈ ((releasedWith .default .released).run
        [.register "dtmi:com:example:plants;2" bare]).exogenous.entries,
      entry.1 = "dtmi:com:example:plants" ∧ ⟨2, 0⟩ ∈ entry.2.available ∧
        ((releasedWith .default .released).run
          [.register "dtmi:com:example:plants;2" bare]).isIdentifierReserved
            (canonical entry.1 ⟨2, 0⟩) = false := by
  have spells : Spells "dtmi:com:example:plants;2" "dtmi:com:example:plants" ⟨2, 0⟩ :=
    ⟨⟨["com", "example", "plants"], some ⟨"2", none⟩, none⟩, by decide +kernel⟩
  have free : (releasedWith .default .released).isIdentifierReserved
      "dtmi:com:example:plants;2" = false := by
    rw [← Bool.not_eq_true]
    intro reserved
    rcases reserved_cases_released reserved with own | ⟨standard, -⟩
    · exact absurd own (by decide +kernel)
    · exact absurd standard (by decide +kernel)
  obtain ⟨entry, declared, label, recorded⟩ := recorded_of_bare spells (by decide)
    (by decide +kernel) (by decide +kernel) free
  refine ⟨entry, declared, label, recorded, ?_⟩
  refine not_reserved_of_run .default .released _ declared recorded ?_
  intro _ specifier asked _
  have written : canonical "dtmi:com:example:plants" ⟨2, 0⟩ = "dtmi:com:example:plants;2" := by
    decide +kernel
  rw [label, written]
  simpa [Operation.specifiers] using asked

/-- The language has a term whose identifier is written with version 2. -/
theorem isIdentifierReserved_length :
    (releasedWith .default .released).isIdentifierReserved
      (canonical "dtmi:standard:class:Length" ⟨2, 0⟩) = true := by
  have defined : ((Language.history.find? ⟨2, 0⟩).bind fun vocabulary =>
      (vocabulary.terms.get? "Length").map Identifier.text) =
        some (canonical "dtmi:standard:class:Length" ⟨2, 0⟩) := by
    decide +kernel
  obtain ⟨vocabulary, found, valued⟩ := Option.bind_eq_some_iff.mp defined
  obtain ⟨identifier, known, text⟩ := Option.map_eq_some_iff.mp valued
  have value : identifier ∈ vocabulary.terms.values :=
    List.mem_map.mpr ⟨("Length", identifier), Table.mem_entries_of_get? known, rfl⟩
  have recorded := (History.mem_of_find? found).1
  rw [isIdentifierReserved, List.any_cons, Bool.or_eq_true]
  exact .inl (Language.built_history.faithful.isIdentifierReserved_iff.mpr
    (.inl ⟨vocabulary, recorded, identifier, value, text⟩))

/-- A version that is written with its minor number is recorded although the language
reserves its canonical specifier. -/
theorem reserved_of_run_length :
    ∃ entry ∈ ((releasedWith .default .released).run
        [.register "dtmi:standard:class:Length;2.0" bare]).exogenous.entries,
      entry.1 = "dtmi:standard:class:Length" ∧ ⟨2, 0⟩ ∈ entry.2.available ∧
        ((releasedWith .default .released).run
          [.register "dtmi:standard:class:Length;2.0" bare]).isIdentifierReserved
            (canonical entry.1 ⟨2, 0⟩) = true := by
  have spells : Spells "dtmi:standard:class:Length;2.0" "dtmi:standard:class:Length" ⟨2, 0⟩ :=
    ⟨⟨["standard", "class", "Length"], some ⟨"2", some "0"⟩, none⟩, by decide +kernel⟩
  have free : (releasedWith .default .released).isIdentifierReserved
      "dtmi:standard:class:Length;2.0" = false := by
    rw [← Bool.not_eq_true]
    intro reserved
    rcases reserved_cases_released reserved with own | ⟨-, ends⟩
    · exact absurd own (by decide +kernel)
    · exact absurd ends (by decide +kernel)
  obtain ⟨entry, declared, label, recorded⟩ := recorded_of_bare spells (by decide)
    (by decide +kernel) (by decide +kernel) free
  refine ⟨entry, declared, label, recorded, ?_⟩
  rw [label, isIdentifierReserved_run]
  exact isIdentifierReserved_length

end Dtdl.Resolver
