import Dtdl.Proofs.Reporting
import Mathlib.Data.List.Forall2

/-!
# Contexts in JSON

In JSON a context stack is a value of one of three shapes, and the definitions in its blocks are of
one of four.  Reading goes on behind what is malformed, so that one fault does not hide another.

Here the shapes are described by two relations, between a value and the definition that it stands
for and between a value and an entry.  The main statement is that reading follows them exactly: it
succeeds where every item has an admitted shape, the entries are then what the items stand for, and
it reports each item and each member of another shape once and in order.  A stack that is written
in JSON is read back as it was.
-/

namespace Dtdl

namespace Outcome

variable {Report Source Result : Type}

theorem result_all_map {part : Source → Outcome Report Result} {sources : List Source}
    {results : List Result} :
    (all (sources.map part)).result = some results ↔
      List.Forall₂ (fun source result => (part source).result = some result) sources results := by
  rw [result_all, ← List.forall₂_eq_eq_eq, List.map_map, List.forall₂_map_left_iff,
    List.forall₂_map_right_iff]
  rfl

end Outcome

namespace Table

variable {Value : Type}

theorem entries_ofList {entries : List (String × Value)}
    (distinct : (Entries.names entries).Nodup) : (ofList entries).entries = entries := by
  suffices filled : ∀ (table : Table Value), (∀ name ∈ table.names, name ∉ Entries.names entries) →
      (entries.foldl (fun table entry => table.insert entry.1 entry.2) table).entries =
        table.entries ++ entries by
    exact filled empty (by simp [names, Entries.names])
  -- The table grows by the entries that are taken, and stays apart from those that are left.
  induction entries with
  | nil => exact fun table _ => (List.append_nil table.entries).symm
  | cons entry rest ih =>
      intro table apart
      rw [Entries.names, List.map_cons, List.nodup_cons] at distinct
      have absent : entry.1 ∉ table.names := fun present =>
        apart entry.1 present List.mem_cons_self
      rw [List.foldl_cons, ih distinct.2, entries_insert_of_not_mem absent, List.append_assoc,
        List.singleton_append]
      intro name present later
      rcases mem_names_insert.mp present with rfl | present
      · exact distinct.1 later
      · exact apart name present (List.mem_cons_of_mem entry.1 later)

@[simp] theorem ofList_entries (table : Table Value) : ofList table.entries = table :=
  eq_of_entries (entries_ofList table.distinct)

end Table

namespace Context.Stack

/-! ## What values stand for -/

/-- The definitions that a value may stand for: a text for itself, `null` for none, and an object
for what stands under its `@id`. -/
inductive Defines : Json.Value → Option String → Prop
  | null : Defines .null none
  | text (text : String) : Defines (.string text) (some text)
  | nestedNull {members : List (String × Json.Value)}
      (named : Entries.find? "@id" members = some .null) : Defines (.object members) none
  | nestedText {members : List (String × Json.Value)} {text : String}
      (named : Entries.find? "@id" members = some (.string text)) :
      Defines (.object members) (some text)

/-- A declaration has the name of a member and the definition that its value stands for. -/
def Declares (member : String × Json.Value) (declaration : String × Option String) : Prop :=
  declaration.1 = member.1 ∧ Defines member.2 declaration.2

/-- The entries that a value may stand for: a text for a specifier, and an object for the block of
the declarations that its members are. -/
inductive Denotes : Json.Value → Entry → Prop
  | remote (specifier : String) : Denotes (.string specifier) (.remote specifier)
  | block {members : List (String × Json.Value)} {declarations : List (String × Option String)}
      (each : List.Forall₂ Declares members declarations) :
      Denotes (.object members) (.block (Table.ofList declarations))

/-- The values that may be items of a context. -/
inductive Admissible : Json.Value → Prop
  | text (text : String) : Admissible (.string text)
  | object {members : List (String × Json.Value)}
      (each : ∀ member ∈ members, ∃ definition, Defines member.2 definition) :
      Admissible (.object members)

theorem definition?_eq_some {value : Json.Value} {definition : Option String} :
    definition? value = some definition ↔ Defines value definition := by
  constructor
  · intro read
    cases value with
    | null =>
        cases read
        exact .null
    | string text =>
        cases read
        exact .text text
    | object members =>
        rw [definition?] at read
        split at read
        · next named =>
            cases read
            exact .nestedText named
        · next named =>
            cases read
            exact .nestedNull named
        · contradiction
    | bool value => contradiction
    | number value => contradiction
    | array items => contradiction
  · intro defines
    cases defines with
    | null => rfl
    | text text => rfl
    | nestedNull named => simp [definition?, named]
    | nestedText named => simp [definition?, named]

instance (value : Json.Value) : Decidable (∃ definition, Defines value definition) :=
  decidable_of_iff ((definition? value).isSome = true)
    (by simp only [Option.isSome_iff_exists, definition?_eq_some])

/-! ## One item -/

theorem result_readDeclaration {member : String × Json.Value}
    {declaration : String × Option String} :
    (readDeclaration member).result = some declaration ↔ Declares member declaration := by
  obtain ⟨name, definition⟩ := declaration
  rw [readDeclaration, Declares, ← definition?_eq_some]
  cases definition? member.2 <;> simp [eq_comm]

theorem result_readEntry {index : Nat} {value : Json.Value} {entry : Entry} :
    (readEntry index value).result = some entry ↔ Denotes value entry := by
  cases value with
  | string specifier =>
      constructor
      · rintro ⟨⟩
        exact .remote specifier
      · rintro ⟨⟩
        rfl
  | object members =>
      simp only [readEntry, Outcome.result_bind, Outcome.result_pure, Option.bind_eq_some_iff,
        Outcome.result_all_map, result_readDeclaration, Option.some.injEq]
      constructor
      · rintro ⟨declarations, each, rfl⟩
        exact .block each
      · intro denotes
        cases denotes with
        | block each => exact ⟨_, each, rfl⟩
  | null => exact ⟨nofun, nofun⟩
  | bool value => exact ⟨nofun, nofun⟩
  | number value => exact ⟨nofun, nofun⟩
  | array items => exact ⟨nofun, nofun⟩

/-- The members of an object that define nothing. -/
def offending (members : List (String × Json.Value)) : List (String × Json.Value) :=
  members.filter fun member => decide ¬∃ definition, Defines member.2 definition

/-- The faults of an item: of an object those of its members, and of a value that is neither a text
nor an object that it is none. -/
def faults (index : Nat) : Json.Value → List Problem
  | .string _ => []
  | .object members =>
      (offending members).map fun member => .malformedDefinition member.1 member.2
  | value => [.malformedEntry index value]

/-- The kinds of the faults of an item. -/
def faultKinds : Json.Value → List Diagnostic.Kind
  | .string _ => []
  | .object members => (offending members).map fun _ => .invalidTermDefinition
  | _ => [.invalidContextEntry]

theorem kinds_faults (index : Nat) (value : Json.Value) :
    (faults index value).map Problem.kind = faultKinds value := by
  cases value with
  | object members =>
      rw [faults, List.map_map]
      rfl
  | _ => rfl

theorem faults_eq_nil {index : Nat} {value : Json.Value} :
    faults index value = [] ↔ Admissible value := by
  cases value with
  | string text => exact ⟨fun _ => .text text, fun _ => rfl⟩
  | object members =>
      have clean : faults index (.object members) = [] ↔
          ∀ member ∈ members, ∃ definition, Defines member.2 definition := by
        simp [faults, offending]
      rw [clean]
      constructor
      · exact .object
      · intro admissible
        cases admissible with
        | object each => exact each
  | null => exact ⟨nofun, nofun⟩
  | bool value => exact ⟨nofun, nofun⟩
  | number value => exact ⟨nofun, nofun⟩
  | array items => exact ⟨nofun, nofun⟩

theorem reports_readDeclaration (member : String × Json.Value) :
    (readDeclaration member).reports =
      if ∃ definition, Defines member.2 definition then []
      else [.malformedDefinition member.1 member.2] := by
  rw [readDeclaration]
  cases read : definition? member.2 with
  | none =>
      have nothing : ¬∃ definition, Defines member.2 definition := by
        simp [← definition?_eq_some, read]
      rw [if_neg nothing]
      rfl
  | some definition => rw [if_pos ⟨definition, definition?_eq_some.mp read⟩]; rfl

theorem reports_members (members : List (String × Json.Value)) :
    members.flatMap (fun member => (readDeclaration member).reports) =
      (offending members).map fun member => .malformedDefinition member.1 member.2 := by
  induction members with
  | nil => rfl
  | cons member rest ih =>
      rw [List.flatMap_cons, ih, reports_readDeclaration, offending, offending]
      by_cases defines : ∃ definition, Defines member.2 definition <;> simp [defines]

theorem reports_readEntry (index : Nat) (value : Json.Value) :
    (readEntry index value).reports = faults index value := by
  cases value with
  | object members =>
      have each : (Outcome.all (members.map readDeclaration)).reports =
          faults index (.object members) := by
        rw [Outcome.reports_all, List.flatMap_map, reports_members, faults]
      rw [← each]
      exact Outcome.reports_bind_succeed _ _
  | _ => rfl

/-! ## All items -/

theorem readEntries_eq (index : Nat) (values : List Json.Value) :
    readEntries index values =
      (values.zipIdx index).map fun item => readEntry item.2 item.1 := by
  induction values generalizing index with
  | nil => rfl
  | cons value rest ih => rw [readEntries, ih, List.zipIdx_cons, List.map_cons]

theorem reports_ofJson (value : Json.Value) :
    (ofJson value).reports = value.items.zipIdx.flatMap fun item => faults item.2 item.1 := by
  have all : (ofJson value).reports = (Outcome.all (readEntries 0 value.items)).reports :=
    Outcome.reports_bind_succeed _ _
  rw [all, Outcome.reports_all, readEntries_eq, List.flatMap_map]
  simp only [reports_readEntry]

/-- Where an item stands has no say in what it stands for. -/
theorem result_ofJson {value : Json.Value} {stack : Stack} :
    (ofJson value).result = some stack ↔ List.Forall₂ Denotes value.items stack.entries := by
  have all : (ofJson value).result = some stack ↔
      (Outcome.all (readEntries 0 value.items)).result = some stack.entries := by
    simp only [ofJson, Outcome.result_bind, Outcome.result_pure, Option.bind_eq_some_iff,
      Option.some.injEq]
    constructor
    · rintro ⟨entries, read, rfl⟩
      exact read
    · intro read
      exact ⟨stack.entries, read, rfl⟩
  have places : value.items.zipIdx.map Prod.fst = value.items := List.zipIdx_map_fst 0 value.items
  rw [all, readEntries_eq, Outcome.result_all_map]
  simp only [result_readEntry]
  rw [← List.forall₂_map_left_iff, places]

theorem succeeds_ofJson (value : Json.Value) :
    (ofJson value).result.isSome = true ↔ ∀ item ∈ value.items, Admissible item := by
  have honest : (ofJson value).result.isSome = true ↔ (ofJson value).reports = [] :=
    honest_ofJson value
  rw [honest, reports_ofJson, List.flatMap_eq_nil_iff]
  simp only [faults_eq_nil]
  constructor
  · intro each item listed
    rw [← List.zipIdx_map_fst 0 value.items] at listed
    obtain ⟨place, member, rfl⟩ := List.mem_map.mp listed
    exact each place member
  · intro each place member
    exact each place.1 (List.fst_mem_of_mem_zipIdx member)

/-! ## Writing -/

def writeDefinition : Option String → Json.Value
  | none => .null
  | some text => .string text

def writeEntry : Entry → Json.Value
  | .remote specifier => .string specifier
  | .block declarations =>
      .object (declarations.entries.map fun entry => (entry.1, writeDefinition entry.2))

/-- A stack as an array of its entries. -/
def toJson (stack : Stack) : Json.Value := .array (stack.entries.map writeEntry)

theorem defines_writeDefinition (definition : Option String) :
    Defines (writeDefinition definition) definition := by
  cases definition with
  | none => exact .null
  | some text => exact .text text

theorem denotes_writeEntry (entry : Entry) : Denotes (writeEntry entry) entry := by
  cases entry with
  | remote specifier => exact .remote specifier
  | block declarations =>
      have each : List.Forall₂ Declares
          (declarations.entries.map fun entry => (entry.1, writeDefinition entry.2))
          declarations.entries := by
        rw [List.forall₂_map_left_iff, List.forall₂_same]
        exact fun entry _ => ⟨rfl, defines_writeDefinition entry.2⟩
      have read := Denotes.block each
      rwa [Table.ofList_entries] at read

theorem ofJson_toJson (stack : Stack) : ofJson stack.toJson = .succeed stack := by
  apply (honest_ofJson stack.toJson).eq_succeed
  rw [result_ofJson, toJson, Json.Value.items, List.forall₂_map_left_iff, List.forall₂_same]
  exact fun entry _ => denotes_writeEntry entry

/-! ## Reading and writing -/

/-- What reading makes of a value, told by what its items stand for. -/
structure Exact (value : Json.Value) : Prop where
  /-- Reading succeeds if each item has an admitted shape, and only then. -/
  accepted : (ofJson value).result.isSome = true ↔ ∀ item ∈ value.items, Admissible item
  /-- The reports are the faults of the items, in order. -/
  reported : (ofJson value).reports =
    value.items.zipIdx.flatMap fun item => faults item.2 item.1
  kinds : (ofJson value).reports.map Problem.kind = value.items.flatMap faultKinds
  /-- A stack that is read has one entry for each item, namely what the item stands for. -/
  entries : ∀ stack,
    ofJson value = .succeed stack ↔ List.Forall₂ Denotes value.items stack.entries
  /-- If no name occurs twice in an object, its block holds one declaration for each member. -/
  declarations : ∀ members block, (Entries.names members).Nodup →
    Denotes (.object members) (.block block) → List.Forall₂ Declares members block.entries

theorem names_of_declares {members : List (String × Json.Value)}
    {declarations : List (String × Option String)}
    (each : List.Forall₂ Declares members declarations) :
    Entries.names declarations = Entries.names members := by
  induction each with
  | nil => rfl
  | cons declares _ ih =>
      rw [Entries.names, List.map_cons, declares.1, ← Entries.names, ih]
      rfl

/-- Reading the context of an element is exact: it succeeds if every item is a text, or an object
all of whose members define something, the entries are then what the items stand for, and otherwise
every item and every member that is malformed is reported once, in order, and nothing else.  It is
lossless: a stack that is written as an array is read back as it was. -/
theorem ofJson_lossless :
    (∀ value, Exact value) ∧ ∀ stack, ofJson (toJson stack) = .succeed stack := by
  refine ⟨fun value => ?_, ofJson_toJson⟩
  constructor
  case accepted => exact succeeds_ofJson value
  case reported => exact reports_ofJson value
  case kinds =>
    rw [reports_ofJson, List.map_flatMap]
    simp only [kinds_faults]
    rw [← List.flatMap_map, List.zipIdx_map_fst]
  case entries =>
    intro stack
    rw [← result_ofJson]
    constructor
    · intro read
      rw [read, Outcome.result_succeed]
    · exact (honest_ofJson value).eq_succeed
  case declarations =>
    intro members block distinct denotes
    cases denotes with
    | block each =>
        rw [← names_of_declares each] at distinct
        rwa [Table.entries_ofList distinct]

/-- What is malformed is reported behind and in front of items that are not. -/
theorem ofJson_lossless_bad :
    let value : Json.Value := .array [.string "dtmi:dtdl:context;3", .bool true,
      .object [("bad", .array []), ("gone", .null)], .null]
    (ofJson value).result.isSome = false ∧
      (ofJson value).reports =
        [.malformedEntry 1 (.bool true), .malformedDefinition "bad" (.array []),
          .malformedEntry 3 .null] ∧
      (ofJson value).reports.map Problem.kind =
        [.invalidContextEntry, .invalidTermDefinition, .invalidContextEntry] := by
  intro value
  have exact := ofJson_lossless.1 value
  refine ⟨?_, ?_, ?_⟩
  · rw [Bool.eq_false_iff, ne_eq, exact.accepted]
    intro each
    have admissible := each (.bool true) (by simp [value, Json.Value.items])
    contradiction
  · rw [exact.reported]
    decide +kernel
  · rw [exact.kinds]
    decide +kernel

end Context.Stack

end Dtdl
