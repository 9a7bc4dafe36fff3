import Dtdl.Proofs.Naming
import Dtdl.Proofs.Registration
import Dtdl.Proofs.Reporting
import Mathlib.Data.List.Basic

/-!
# Layering a block over a scope

A block is layered over a scope declaration by declaration.  Each of them takes its name out of
all three tables of the scope and puts it at the end of one of them, so a table could lose an
entry that it should have kept, or change the order of those that stay.

The main statement gives the reports and the three tables without the loop.  What the scope knew
before has no say in what is reported, and every table consists of two parts: what the scope had
there under names that are not declared, and what the block declares for it.
-/

namespace Dtdl

/-! ## The forms of a definition -/

namespace Term.Meaning

/-- What a term stands for. -/
def identifier? : Meaning → Option Identifier
  | .identifier model => some model
  | .expansion _ => none
  | .nothing => none

/-- What a prefix expands to. -/
def expansion? : Meaning → Option String
  | .identifier _ => none
  | .expansion text => some text
  | .nothing => none

/-- Whether a name is declared to mean nothing. -/
def nothing? : Meaning → Option Unit
  | .identifier _ => none
  | .expansion _ => none
  | .nothing => some ()

end Term.Meaning

namespace Term

section Blocks

variable (validator : Dtmi.Validator) (known : History) (language : Nat) (owner : Owner)

/-- What is reported of a declaration: what is wrong with its name and, only if nothing is, what
is wrong with its definition. -/
def faults (declaration : String × Option String) : List Problem :=
  if nameProblems declaration.1 known = [] then
    (meaningUnder validator declaration.1 declaration.2 language owner).reports
  else (nameProblems declaration.1 known).map (.declaration owner)

/-- What a definition resolves to if it is of a given form. -/
def formed? {Value : Type} (form : Meaning → Option Value)
    (declaration : String × Option String) : Option Value :=
  (meaningUnder validator declaration.1 declaration.2 language owner).result.bind form

/-- The names of a block whose definitions are of a given form, in the order of their
declaration, each with what it is declared as. -/
def declared {Value : Type} (form : Meaning → Option Value) (block : Context.Block) :
    List (String × Value) :=
  block.entries.filterMap fun declaration =>
    (formed? validator language owner form declaration).map (declaration.1, ·)

/-- What layering a block over a scope is to come to. -/
structure Layered (block : Context.Block) (parent merged : Scope) : Prop where
  terms : merged.terms.entries =
    (parent.terms.entries.filter fun entry => entry.1 ∉ block.names) ++
      declared validator language owner Meaning.identifier? block
  prefixes : merged.prefixes.entries =
    (parent.prefixes.entries.filter fun entry => entry.1 ∉ block.names) ++
      declared validator language owner Meaning.expansion? block
  undefined : merged.undefined =
    (parent.undefined.filter fun name => name ∉ block.names) ++
      (declared validator language owner Meaning.nothing? block).map Prod.fst

end Blocks

/-! ## Declarations one after the other -/

section Steps

variable (scope : Scope) (name : String) (meaning : Meaning)

theorem entries_terms_declare :
    (declare scope name meaning).terms.entries =
      (scope.terms.entries.filter fun entry => entry.1 ≠ name) ++
        (meaning.identifier?.map (name, ·)).toList := by
  cases meaning with
  | identifier identifier =>
      have absent : name ∉ (scope.terms.erase name).names := by simp
      exact Table.entries_insert_of_not_mem absent identifier
  | expansion text => exact (List.append_nil _).symm
  | nothing => exact (List.append_nil _).symm

theorem entries_prefixes_declare :
    (declare scope name meaning).prefixes.entries =
      (scope.prefixes.entries.filter fun entry => entry.1 ≠ name) ++
        (meaning.expansion?.map (name, ·)).toList := by
  cases meaning with
  | identifier identifier => exact (List.append_nil _).symm
  | expansion text =>
      have absent : name ∉ (scope.prefixes.erase name).names := by simp
      exact Table.entries_insert_of_not_mem absent text
  | nothing => exact (List.append_nil _).symm

theorem undefined_declare :
    (declare scope name meaning).undefined =
      (scope.undefined.filter fun other => other ≠ name) ++
        (meaning.nothing?.map fun _ => name).toList := by
  cases meaning with
  | identifier identifier => exact (List.append_nil _).symm
  | expansion text => exact (List.append_nil _).symm
  | nothing => rfl

end Steps

/-- What declarations come to in one part of a scope, if each of them drops the items there that
bear its name and puts what it adds behind the others.  In the end those items are left whose name
did not come up, and behind them stands what was added: as no name comes up twice, nothing that was
added is dropped again. -/
theorem part_foldl_declare {Item : Type} (part : Scope → List Item) (key : Item → String)
    (add : String × Meaning → Option Item)
    (bears : ∀ named, ∀ item ∈ add named, key item = named.1)
    (step : ∀ scope named, part (declare scope named.1 named.2) =
      ((part scope).filter fun item => key item ≠ named.1) ++ (add named).toList)
    {meanings : List (String × Meaning)} (distinct : (meanings.map Prod.fst).Nodup)
    (scope : Scope) :
    part (meanings.foldl (fun scope named => declare scope named.1 named.2) scope) =
      ((part scope).filter fun item => key item ∉ meanings.map Prod.fst) ++
        meanings.filterMap add := by
  induction meanings generalizing scope with
  | nil =>
      have all : ((part scope).filter fun item => key item ∉ ([] : List String)) = part scope :=
        List.filter_eq_self.mpr (by simp)
      rw [List.map_nil, all, List.filterMap_nil, List.append_nil, List.foldl_nil]
  | cons named rest ih =>
      rw [List.map_cons, List.nodup_cons] at distinct
      have stays : ∀ item ∈ (add named).toList, key item ∉ rest.map Prod.fst := by
        intro item added
        rw [bears named item (Option.mem_toList.mp added)]
        exact distinct.1
      have kept : ((add named).toList.filter fun item => key item ∉ rest.map Prod.fst) =
          (add named).toList :=
        List.filter_eq_self.mpr fun item added => by simpa using stays item added
      have both : ((part scope).filter fun item => key item ∉ (named :: rest).map Prod.fst) =
          ((part scope).filter fun item => key item ≠ named.1).filter fun item =>
            key item ∉ rest.map Prod.fst := by
        rw [List.filter_filter]
        apply List.filter_congr
        intro item _
        rw [List.map_cons, Bool.eq_iff_iff]
        simp [and_comm]
      rw [List.foldl_cons, ih distinct.2, step, List.filter_append, kept, both,
        List.append_assoc]
      cases made : add named <;> simp [made]

section Declarations

variable {meanings : List (String × Meaning)} (distinct : (meanings.map Prod.fst).Nodup)
variable (scope : Scope)

include distinct

theorem entries_terms_foldl_declare :
    (meanings.foldl (fun scope named => declare scope named.1 named.2) scope).terms.entries =
      (scope.terms.entries.filter fun entry => entry.1 ∉ meanings.map Prod.fst) ++
        meanings.filterMap fun named => named.2.identifier?.map (named.1, ·) :=
  part_foldl_declare (·.terms.entries) Prod.fst _ (by simp)
    (fun scope named => entries_terms_declare scope named.1 named.2) distinct scope

theorem entries_prefixes_foldl_declare :
    (meanings.foldl (fun scope named => declare scope named.1 named.2) scope).prefixes.entries =
      (scope.prefixes.entries.filter fun entry => entry.1 ∉ meanings.map Prod.fst) ++
        meanings.filterMap fun named => named.2.expansion?.map (named.1, ·) :=
  part_foldl_declare (·.prefixes.entries) Prod.fst _ (by simp)
    (fun scope named => entries_prefixes_declare scope named.1 named.2) distinct scope

theorem undefined_foldl_declare :
    (meanings.foldl (fun scope named => declare scope named.1 named.2) scope).undefined =
      (scope.undefined.filter fun name => name ∉ meanings.map Prod.fst) ++
        meanings.filterMap fun named => named.2.nothing?.map fun _ => named.1 :=
  part_foldl_declare (·.undefined) id _ (by simp)
    (fun scope named => undefined_declare scope named.1 named.2) distinct scope

end Declarations

/-! ## Blocks -/

section Blocks

variable {validator : Dtmi.Validator} {known : History} {language : Nat} {owner : Owner}
variable {block : Context.Block} {parent merged : Scope}

theorem reports_resolveDeclaration (declaration : String × Option String) :
    (resolveDeclaration validator known language owner declaration).reports =
      faults validator known language owner declaration := by
  rw [resolveDeclaration, checkName, faults]
  cases wrong : nameProblems declaration.1 known with
  | nil =>
      rw [if_pos rfl, List.map_nil, Outcome.check_nil_bind]
      exact Outcome.reports_bind_succeed _ _
  | cons problem others =>
      rw [if_neg (List.cons_ne_nil problem others)]
      rfl

theorem reports_layer :
    (layer validator known block parent language owner).reports =
      block.entries.flatMap (faults validator known language owner) := by
  calc
    _ = (Outcome.all (block.entries.map
          (resolveDeclaration validator known language owner))).reports :=
      Outcome.reports_bind_succeed _ _
    _ = block.entries.flatMap (faults validator known language owner) := by
      rw [Outcome.reports_all, List.flatMap_map]
      simp only [reports_resolveDeclaration]

section Resolved

variable {meanings : List (String × Meaning)}
variable (each : block.entries.map (fun declaration =>
    (resolveDeclaration validator known language owner declaration).result) = meanings.map some)

include each

theorem names_of_each : meanings.map Prod.fst = block.names := by
  have names := congrArg (List.map (Option.map Prod.fst)) each
  rw [List.map_map, List.map_map] at names
  have named : block.entries.map (fun declaration => some declaration.1) =
      meanings.map fun named => some named.1 := by
    rw [← show _ = meanings.map fun named => some named.1 from names]
    apply List.map_congr_left
    intro declaration listed
    obtain ⟨named, -, found⟩ := Outcome.exists_result each listed
    rw [Function.comp_apply, found, Option.map_some, (resolveDeclaration_eq_some.mp found).2.2]
  have unwrapped := congrArg (List.filterMap id) named
  simpa [List.filterMap_map, Function.comp_def, Table.names, Entries.names] using unwrapped.symm

theorem filterMap_of_each {Value : Type} (form : Meaning → Option Value) :
    (meanings.filterMap fun named => (form named.2).map (named.1, ·)) =
      declared validator language owner form block := by
  rw [Outcome.filterMap_of_each each, declared]
  apply List.filterMap_congr
  intro declaration listed
  obtain ⟨named, -, found⟩ := Outcome.exists_result each listed
  obtain ⟨-, meaning, name⟩ := resolveDeclaration_eq_some.mp found
  rw [found, formed?, meaning, Option.bind_some, Option.bind_some, name]

end Resolved

theorem layered_of_layer
    (resolved : (layer validator known block parent language owner).result = some merged) :
    Layered validator language owner block parent merged := by
  obtain ⟨meanings, each, rfl⟩ := layer_eq_some.mp resolved
  have names := names_of_each each
  have distinct : (meanings.map Prod.fst).Nodup := names ▸ block.distinct
  constructor
  case terms =>
    rw [entries_terms_foldl_declare distinct, names, filterMap_of_each each]
  case prefixes =>
    rw [entries_prefixes_foldl_declare distinct, names, filterMap_of_each each]
  case undefined =>
    rw [undefined_foldl_declare distinct, names, ← filterMap_of_each each, List.map_filterMap]
    simp only [Option.map_map, Function.comp_def]

end Blocks

end Term

theorem Scope.Unambiguous.foldl_declare {scope : Scope} (unambiguous : scope.Unambiguous)
    (meanings : List (String × Term.Meaning)) :
    (meanings.foldl (fun scope named => Term.declare scope named.1 named.2)
      scope).Unambiguous := by
  induction meanings generalizing scope with
  | nil => exact unambiguous
  | cons named rest ih => exact ih (unambiguous.declare named.1 named.2)

namespace Term

/-- What layering a block over a scope comes to.  Every declaration is reported on its own, in
order, whatever the scope is; the block is layered exactly if nothing is reported; and then each
table keeps what the scope had there under names that are not declared, followed by what is
declared for it, in order.  If no name had two meanings, none has two meanings then.  A resolver
layers blocks in this way, under its own language and rules. -/
theorem layer_exact (validator : Dtmi.Validator) (known : History) (block : Context.Block)
    (parent : Scope) (language : Nat) (owner : Owner) :
    let outcome := layer validator known block parent language owner
    let reports := block.entries.flatMap (faults validator known language owner)
    outcome.reports = reports ∧
    (outcome.result = none ↔ reports ≠ []) ∧
    (∀ merged, outcome.result = some merged →
      Layered validator language owner block parent merged ∧
        (parent.Unambiguous → merged.Unambiguous)) ∧
    ∀ resolver : Resolver, resolver.rules.validator = validator → resolver.language = known →
      resolver.merge block parent language owner = outcome := by
  intro outcome reports
  have reported : outcome.reports = reports := reports_layer
  refine ⟨reported, ?failed, ?layered, ?resolver⟩
  case failed =>
    have honest : outcome.Honest := honest_layer validator known block parent language owner
    rw [← Option.isNone_iff_eq_none, honest.isNone_result, reported]
    cases reports <;> simp
  case layered =>
    intro merged resolved
    refine ⟨layered_of_layer resolved, fun unambiguous => ?_⟩
    obtain ⟨meanings, -, rfl⟩ := layer_eq_some.mp resolved
    exact unambiguous.foldl_declare meanings
  case resolver =>
    rintro resolver rfl rfl
    rfl

/-- A scope with a name of each form. -/
def bed : Scope where
  terms := Table.ofList [("Rose", .dtmi ⟨["com", "example", "Rose"], none, none⟩),
    ("Tulip", .dtmi ⟨["com", "example", "Tulip"], none, none⟩)]
  prefixes := Table.ofList [("ex", "https://example.com/")]
  undefined := ["Weed"]

theorem unambiguous_bed : bed.Unambiguous := by
  constructor <;> decide +kernel

/-- Each of these names but the last one is declared in another form than in the scope. -/
theorem layer_exact_bed :
    let block : Context.Block := Table.ofList [("ex", some "dtmi:com:example:Ex;1"),
      ("Rose", none), ("Weed", some "urn:weeds:"), ("Lily", some "dtmi:com:example:Lily;1")]
    ∃ merged, Resolver.minimal.merge block bed 3 .element = .succeed merged ∧
      merged.terms.names = ["Tulip", "ex", "Lily"] ∧
      merged.prefixes.entries = [("Weed", "urn:weeds:")] ∧ merged.undefined = ["Rose"] ∧
      Layered Resolver.minimal.rules.validator 3 .element block bed merged ∧
      merged.Unambiguous := by
  intro block
  have tables : (Resolver.minimal.merge block bed 3 .element).result.map
      (fun merged => (merged.terms.names, merged.prefixes.entries, merged.undefined)) =
        some (["Tulip", "ex", "Lily"], [("Weed", "urn:weeds:")], ["Rose"]) := by
    decide +kernel
  obtain ⟨merged, resolved, same⟩ := Option.map_eq_some_iff.mp tables
  obtain ⟨terms, prefixes, undefined⟩ : merged.terms.names = ["Tulip", "ex", "Lily"] ∧
      merged.prefixes.entries = [("Weed", "urn:weeds:")] ∧ merged.undefined = ["Rose"] := by
    simpa using same
  obtain ⟨-, -, layered, asked⟩ := layer_exact Resolver.minimal.rules.validator
    Resolver.minimal.language block bed 3 .element
  rw [asked Resolver.minimal rfl rfl] at resolved ⊢
  obtain ⟨tables, apart⟩ := layered merged resolved
  refine ⟨merged, ?_, terms, prefixes, undefined, tables, apart unambiguous_bed⟩
  exact (honest_layer _ _ block bed 3 .element).eq_succeed resolved

end Term

end Dtdl
