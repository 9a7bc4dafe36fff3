import Dtdl.Proofs.Layering

/-!
# Layers over layers

What a scope says of a name once a block has been layered over it is what the block declares the
name as, or else what the scope said before.  The look-ups are all that this takes: where a name
stands in a table depends on every declaration that came before, but what is found under it does
not.

The main statement gives the laws of layering that follow.  A block that is layered twice is
layered once, two blocks come to one block that declares what they declare, and the order of the
declarations of a block makes no difference to what is found.
-/

namespace Dtdl

/-- Whether two scopes say the same of every name. -/
structure Scope.Agrees (left right : Scope) : Prop where
  terms : ∀ name, left.terms.get? name = right.terms.get? name
  prefixes : ∀ name, left.prefixes.get? name = right.prefixes.get? name
  undefined : ∀ name, name ∈ left.undefined ↔ name ∈ right.undefined

theorem Scope.Agrees.refl (scope : Scope) : scope.Agrees scope :=
  ⟨fun _ => rfl, fun _ => rfl, fun _ => Iff.rfl⟩

/-- A block in which the declarations of another one have been made as well, one after the
other. -/
def Context.Block.declaring (block other : Context.Block) : Context.Block :=
  other.entries.foldl (fun block declaration => block.insert declaration.1 declaration.2) block

theorem Context.Block.get?_declaring (block other : Context.Block) (name : String) :
    (block.declaring other).get? name = (other.get? name).or (block.get? name) :=
  Table.get?_foldl_insert other.distinct block name

namespace Term

variable {validator : Dtmi.Validator} {known : History} {language : Nat} {owner : Owner}
variable {block other : Context.Block} {parent merged : Scope}

/-! ## Looking names up -/

/-- What is found among the entries that are kept and those that are declared. -/
theorem find?_declared {Value : Type} (form : Meaning → Option Value)
    (kept : List (String × Value)) (block : Context.Block) (name : String) :
    Entries.find? name ((kept.filter fun entry => entry.1 ∉ block.names) ++
        declared validator language owner form block) =
      match block.get? name with
      | none => Entries.find? name kept
      | some definition => formed? validator language owner form (name, definition) := by
  rw [Entries.find?_append, Entries.find?_filter, declared,
    Entries.find?_filterMap name _ block.distinct, ← Table.get?]
  cases found : block.get? name with
  | none =>
      rw [if_neg (Table.get?_eq_none_iff.mp found), Option.bind_none, Option.or_none]
  | some definition =>
      rw [if_pos (Table.mem_names_of_get? found), Option.none_or, Option.bind_some]

section Layered

variable (layered : Layered validator language owner block parent merged) (name : String)

include layered

theorem Layered.get?_terms :
    merged.terms.get? name =
      match block.get? name with
      | none => parent.terms.get? name
      | some definition =>
          formed? validator language owner Meaning.identifier? (name, definition) := by
  rw [Table.get?, layered.terms, find?_declared]
  rfl

theorem Layered.get?_prefixes :
    merged.prefixes.get? name =
      match block.get? name with
      | none => parent.prefixes.get? name
      | some definition =>
          formed? validator language owner Meaning.expansion? (name, definition) := by
  rw [Table.get?, layered.prefixes, find?_declared]
  rfl

theorem Layered.mem_undefined :
    name ∈ merged.undefined ↔
      match block.get? name with
      | none => name ∈ parent.undefined
      | some definition =>
          (formed? validator language owner Meaning.nothing? (name, definition)).isSome := by
  have said : name ∈ (declared validator language owner Meaning.nothing? block).map Prod.fst ↔
      ((block.get? name).bind fun definition =>
        formed? validator language owner Meaning.nothing? (name, definition)).isSome := by
    rw [Table.get?, ← Entries.find?_filterMap name _ block.distinct,
      Option.isSome_iff_ne_none, ne_eq, Entries.find?_eq_none_iff, Decidable.not_not]
    rfl
  rw [layered.undefined, List.mem_append, said]
  cases found : block.get? name with
  | none => simp [Table.get?_eq_none_iff.mp found]
  | some definition => simp [Table.mem_names_of_get? found]

end Layered

/-! ## Success -/

theorem isSome_layer_iff :
    (layer validator known block parent language owner).result.isSome = true ↔
      ∀ name definition, block.get? name = some definition →
        faults validator known language owner (name, definition) = [] := by
  have honest := honest_layer validator known block parent language owner
  rw [Outcome.Honest, reports_layer, List.flatMap_eq_nil_iff] at honest
  rw [honest]
  constructor
  · intro silent name definition found
    exact silent (name, definition) (Table.mem_entries_of_get? found)
  · intro silent declaration listed
    exact silent declaration.1 declaration.2 (Table.get?_of_mem_entries listed)

/-- A block that can be layered over one scope can be layered over every other one. -/
theorem exists_layer
    (silent : ∀ name definition, block.get? name = some definition →
      faults validator known language owner (name, definition) = [])
    (parent : Scope) :
    ∃ merged, layer validator known block parent language owner = .succeed merged := by
  have resolves : (layer validator known block parent language owner).result.isSome = true :=
    isSome_layer_iff.mpr silent
  obtain ⟨merged, resolved⟩ := Option.isSome_iff_exists.mp resolves
  exact ⟨merged, (honest_layer _ _ _ _ _ _).eq_succeed resolved⟩

/-! ## The laws -/

theorem mem_names_of_mem_declared {Value : Type} {form : Meaning → Option Value}
    {entry : String × Value} (listed : entry ∈ declared validator language owner form block) :
    entry.1 ∈ block.names := by
  obtain ⟨declaration, member, made⟩ := List.mem_filterMap.mp listed
  obtain ⟨value, -, rfl⟩ := Option.map_eq_some_iff.mp made
  exact List.mem_map_of_mem member

/-- What has been put behind the items that were kept is dropped when they are kept again. -/
theorem filter_filter_append {Item : Type} (keep : Item → Bool) (items : List Item)
    {own : List Item} (drops : ∀ item ∈ own, keep item = false) :
    (items.filter keep ++ own).filter keep = items.filter keep := by
  have none : own.filter keep = [] := by
    rw [List.filter_eq_nil_iff]
    intro item listed
    rw [drops item listed]
    exact Bool.false_ne_true
  rw [List.filter_append, none, List.append_nil, List.filter_filter]
  simp only [Bool.and_self]

/-- Layering a block again changes nothing: all that the block declares is taken out of the
tables, and what is put back stands where it was. -/
theorem Layered.again {again : Scope}
    (first : Layered validator language owner block parent merged)
    (second : Layered validator language owner block merged again) : again = merged := by
  have drops {Value : Type} (form : Meaning → Option Value) :
      ∀ entry ∈ declared validator language owner form block,
        decide (entry.1 ∉ block.names) = false := by
    intro entry listed
    simpa using mem_names_of_mem_declared listed
  have terms : again.terms = merged.terms := by
    apply Table.eq_of_entries
    rw [second.terms, first.terms, filter_filter_append _ _ (drops _)]
  have prefixes : again.prefixes = merged.prefixes := by
    apply Table.eq_of_entries
    rw [second.prefixes, first.prefixes, filter_filter_append _ _ (drops _)]
  have undefined : again.undefined = merged.undefined := by
    rw [second.undefined, first.undefined, filter_filter_append]
    intro name listed
    obtain ⟨entry, declares, rfl⟩ := List.mem_map.mp listed
    exact drops _ entry declares
  cases again
  cases merged
  simp_all

/-- What is found in the end depends on what is found in the block and in the scope that it is
layered over. -/
theorem Layered.agrees {source scope : Scope}
    (left : Layered validator language owner block parent merged)
    (right : Layered validator language owner other source scope)
    (blocks : ∀ name, block.get? name = other.get? name) (parents : parent.Agrees source) :
    merged.Agrees scope := by
  constructor
  case terms =>
    intro name
    rw [left.get?_terms, right.get?_terms, blocks, parents.terms]
  case prefixes =>
    intro name
    rw [left.get?_prefixes, right.get?_prefixes, blocks, parents.prefixes]
  case undefined =>
    intro name
    rw [left.mem_undefined, right.mem_undefined, blocks]
    cases other.get? name with
    | none => exact parents.undefined name
    | some definition => exact Iff.rfl

/-- Two blocks that are layered one over the other say what the one block says that declares
what both of them declare: the second one is asked first either way. -/
theorem Layered.declaring {final once : Scope}
    (first : Layered validator language owner block parent merged)
    (second : Layered validator language owner other merged final)
    (both : Layered validator language owner (block.declaring other) parent once) :
    once.Agrees final := by
  constructor
  case terms =>
    intro name
    rw [both.get?_terms, second.get?_terms, first.get?_terms, Context.Block.get?_declaring]
    cases other.get? name <;> rfl
  case prefixes =>
    intro name
    rw [both.get?_prefixes, second.get?_prefixes, first.get?_prefixes,
      Context.Block.get?_declaring]
    cases other.get? name <;> rfl
  case undefined =>
    intro name
    rw [both.mem_undefined, second.mem_undefined, Context.Block.get?_declaring]
    cases other.get? name with
    | none => exact (first.mem_undefined name).symm
    | some definition => exact Iff.rfl

/-- The laws of layering, for every parent scope, version of the language and validator.  A block
that has been layered is layered once more without a report and without any change, also to the
order of the tables.  If two blocks are layered one over the other, so is the one block in which
the declarations of the second one have been made after those of the first, and every name is
found alike.  The order of the declarations of a block changes neither whether it is layered nor
what is found. -/
theorem layer_laws (validator : Dtmi.Validator) (known : History) (parent : Scope)
    (language : Nat) (owner : Owner) (block : Context.Block) :
    (∀ merged, (layer validator known block parent language owner).result = some merged →
      layer validator known block merged language owner = .succeed merged) ∧
    (∀ other merged final,
      (layer validator known block parent language owner).result = some merged →
      (layer validator known other merged language owner).result = some final →
      ∃ once, layer validator known (block.declaring other) parent language owner =
        .succeed once ∧ once.Agrees final) ∧
    ∀ other : Context.Block, other.entries.Perm block.entries →
      (layer validator known other parent language owner).result.isSome =
        (layer validator known block parent language owner).result.isSome ∧
      ∀ merged permuted,
        (layer validator known block parent language owner).result = some merged →
        (layer validator known other parent language owner).result = some permuted →
        permuted.Agrees merged := by
  refine ⟨?again, ?composed, ?permuted⟩
  case again =>
    intro merged resolved
    have silent := isSome_layer_iff.mp (Option.isSome_iff_exists.mpr ⟨merged, resolved⟩)
    obtain ⟨again, repeated⟩ := exists_layer silent merged
    have second : Layered validator language owner block merged again :=
      layered_of_layer (by rw [repeated]; rfl)
    rw [repeated, (layered_of_layer resolved).again second]
  case composed =>
    intro other merged final first second
    have silentFirst := isSome_layer_iff.mp (Option.isSome_iff_exists.mpr ⟨merged, first⟩)
    have silentSecond := isSome_layer_iff.mp (Option.isSome_iff_exists.mpr ⟨final, second⟩)
    have silent : ∀ name definition, (block.declaring other).get? name = some definition →
        faults validator known language owner (name, definition) = [] := by
      intro name definition found
      rw [Context.Block.get?_declaring] at found
      rcases Option.or_eq_some_iff.mp found with own | ⟨-, earlier⟩
      · exact silentSecond name definition own
      · exact silentFirst name definition earlier
    obtain ⟨once, resolved⟩ := exists_layer silent parent
    have both : Layered validator language owner (block.declaring other) parent once :=
      layered_of_layer (by rw [resolved]; rfl)
    exact ⟨once, resolved, (layered_of_layer first).declaring (layered_of_layer second) both⟩
  case permuted =>
    intro other permuted
    have same := Table.get?_of_perm permuted
    constructor
    · rw [Bool.eq_iff_iff, isSome_layer_iff, isSome_layer_iff]
      simp only [same]
    · intro merged final resolved ended
      exact (layered_of_layer ended).agrees (layered_of_layer resolved) same (.refl parent)

/-- A prefix becomes a term and then loses its meaning, and the declarations of the first block
are made in the other order as well. -/
theorem layer_laws_bed :
    let first : Context.Block :=
      Table.ofList [("ex", some "dtmi:com:example:Ex;1"), ("Weed", some "urn:weeds:")]
    let turned : Context.Block :=
      Table.ofList [("Weed", some "urn:weeds:"), ("ex", some "dtmi:com:example:Ex;1")]
    let second : Context.Block :=
      Table.ofList [("ex", none), ("Lily", some "dtmi:com:example:Lily;1")]
    let lay := fun block parent => Resolver.minimal.merge block parent 3 .element
    ∃ merged final once permuted, (lay first bed).result = some merged ∧
      (lay second merged).result = some final ∧ (lay turned bed).result = some permuted ∧
      lay first merged = .succeed merged ∧
      lay (first.declaring second) bed = .succeed once ∧ once.Agrees final ∧
      permuted.Agrees merged := by
  intro first turned second lay
  have both : ((lay first bed).result.bind fun merged =>
      (lay second merged).result).isSome = true := by
    decide +kernel
  have other : (lay turned bed).result.isSome = true := by decide +kernel
  have swapped : turned.entries.Perm first.entries := by decide +kernel
  obtain ⟨final, ended⟩ := Option.isSome_iff_exists.mp both
  obtain ⟨merged, resolved, layered⟩ := Option.bind_eq_some_iff.mp ended
  obtain ⟨permuted, reordered⟩ := Option.isSome_iff_exists.mp other
  obtain ⟨again, composed, order⟩ := layer_laws Resolver.minimal.rules.validator
    Resolver.minimal.language bed 3 .element first
  obtain ⟨once, declared, agrees⟩ := composed second merged final resolved layered
  obtain ⟨-, found⟩ := order turned swapped
  exact ⟨merged, final, once, permuted, resolved, layered, reordered, again merged resolved,
    declared, agrees, found merged permuted resolved reordered⟩

end Term

end Dtdl
