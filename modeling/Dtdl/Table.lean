/-!
# Insertion-ordered tables

A table maps names to values and remembers the order in which the names arrived.
Storing a value under a name that is already present replaces the value and leaves
the name where it stands; a new name goes to the end.  Every answer that lists
definitions lists them in this order, so the order belongs to the type.

The list functions come first: objects of a JSON document are kept as bare entry
lists and follow the same rule.
-/

namespace Dtdl

namespace Entries

variable {Value : Type}

/-- The names of an entry list, in order. -/
def names (entries : List (String × Value)) : List String :=
  entries.map Prod.fst

def find? (name : String) : List (String × Value) → Option Value
  | [] => none
  | entry :: rest => if entry.1 = name then some entry.2 else find? name rest

def put (name : String) (value : Value) : List (String × Value) → List (String × Value)
  | [] => [(name, value)]
  | entry :: rest =>
      if entry.1 = name then (name, value) :: rest else entry :: put name value rest

def drop (name : String) (entries : List (String × Value)) : List (String × Value) :=
  entries.filter fun entry => entry.1 ≠ name

theorem names_put (name : String) (value : Value) (entries : List (String × Value)) :
    names (put name value entries) =
      if name ∈ names entries then names entries else names entries ++ [name] := by
  induction entries with
  | nil => simp [put, names]
  | cons entry rest ih =>
      by_cases equal : entry.1 = name
      · simp [put, names, equal]
      · have differs : name ≠ entry.1 := fun same => equal same.symm
        simp only [put, equal, if_false, names, List.map_cons, List.mem_cons, differs,
          false_or] at ih ⊢
        rw [ih]
        split <;> simp_all

theorem nodup_put (name : String) (value : Value) {entries : List (String × Value)}
    (distinct : (names entries).Nodup) : (names (put name value entries)).Nodup := by
  rw [names_put]
  split
  · exact distinct
  · next absent =>
      rw [List.nodup_append]
      refine ⟨distinct, by simp, ?_⟩
      intro left member right same equal
      simp only [List.mem_singleton] at same
      exact absent (by rw [← same, ← equal]; exact member)

theorem names_drop (name : String) (entries : List (String × Value)) :
    names (drop name entries) = (names entries).filter (· ≠ name) := by
  induction entries with
  | nil => rfl
  | cons entry rest ih =>
      simp only [drop, names, List.filter_cons, List.map_cons] at ih ⊢
      split <;> simp_all

theorem nodup_drop (name : String) {entries : List (String × Value)}
    (distinct : (names entries).Nodup) : (names (drop name entries)).Nodup := by
  rw [names_drop]
  exact distinct.filter _

theorem find?_eq_none_iff {name : String} {entries : List (String × Value)} :
    find? name entries = none ↔ name ∉ names entries := by
  induction entries with
  | nil => simp [find?, names]
  | cons entry rest ih =>
      by_cases equal : entry.1 = name
      · simp [find?, names, equal]
      · simp only [find?, equal, if_false, ih, names, List.map_cons, List.mem_cons, not_or]
        exact ⟨fun absent => ⟨fun same => equal same.symm, absent⟩, And.right⟩

theorem find?_put_self (name : String) (value : Value) (entries : List (String × Value)) :
    find? name (put name value entries) = some value := by
  induction entries with
  | nil => simp [put, find?]
  | cons entry rest ih =>
      by_cases equal : entry.1 = name <;> simp [put, find?, equal, ih]

theorem find?_put_of_ne {name other : String} (differs : other ≠ name) (value : Value)
    (entries : List (String × Value)) :
    find? other (put name value entries) = find? other entries := by
  induction entries with
  | nil => simp [put, find?, Ne.symm differs]
  | cons entry rest ih =>
      by_cases equal : entry.1 = name
      · simp [put, find?, equal, Ne.symm differs]
      · simp [put, find?, equal, ih]

theorem mem_put {name : String} {value : Value} {entry : String × Value}
    {entries : List (String × Value)} (member : entry ∈ put name value entries) :
    entry = (name, value) ∨ entry ∈ entries := by
  induction entries with
  | nil => simpa [put] using member
  | cons first rest ih =>
      by_cases equal : first.1 = name
      · simp only [put, equal, if_true, List.mem_cons] at member
        exact member.imp_right (List.mem_cons_of_mem _)
      · simp only [put, equal, if_false, List.mem_cons] at member
        rcases member with same | member
        · exact .inr (same ▸ List.mem_cons_self)
        · exact (ih member).imp_right (List.mem_cons_of_mem _)

theorem put_of_not_mem {name : String} (value : Value) {entries : List (String × Value)}
    (absent : name ∉ names entries) : put name value entries = entries ++ [(name, value)] := by
  induction entries with
  | nil => rfl
  | cons entry rest ih =>
      simp only [names, List.map_cons, List.mem_cons, not_or] at absent
      simp [put, Ne.symm absent.1, ih absent.2]

theorem put_put (name : String) (first value : Value) (entries : List (String × Value)) :
    put name value (put name first entries) = put name value entries := by
  induction entries with
  | nil => simp [put]
  | cons entry rest ih =>
      by_cases equal : entry.1 = name <;> simp [put, equal, ih]

/-- A name that is present stands in one place, and storing a value under it changes
nothing but the value there. -/
theorem exists_place {name : String} {value : Value} {entries : List (String × Value)}
    (found : find? name entries = some value) :
    ∃ before behind, entries = before ++ (name, value) :: behind ∧
      ∀ other, put name other entries = before ++ (name, other) :: behind := by
  induction entries with
  | nil => simp [find?] at found
  | cons entry rest ih =>
      by_cases equal : entry.1 = name
      · simp only [find?, equal, if_true, Option.some.injEq] at found
        refine ⟨[], rest, ?_, fun other => by simp [put, equal]⟩
        simp [← equal, ← found]
      · simp only [find?, equal, if_false] at found
        obtain ⟨before, behind, split, stored⟩ := ih found
        refine ⟨entry :: before, behind, by simp [split], fun other => ?_⟩
        simp [put, equal, stored other]

theorem mem_of_find? {name : String} {value : Value} {entries : List (String × Value)}
    (found : find? name entries = some value) : (name, value) ∈ entries := by
  obtain ⟨before, behind, split, -⟩ := exists_place found
  simp [split]

theorem find?_of_mem {entry : String × Value} {entries : List (String × Value)}
    (distinct : (names entries).Nodup) (member : entry ∈ entries) :
    find? entry.1 entries = some entry.2 := by
  induction entries with
  | nil => simp at member
  | cons first rest ih =>
      rw [names, List.map_cons, List.nodup_cons] at distinct
      rcases List.mem_cons.mp member with same | behind
      · rw [same, find?, if_pos rfl]
      · have differs : first.1 ≠ entry.1 := fun same =>
          distinct.1 (same ▸ List.mem_map_of_mem behind)
        rw [find?, if_neg differs]
        exact ih distinct.2 behind

theorem find?_append (name : String) (left right : List (String × Value)) :
    find? name (left ++ right) = (find? name left).or (find? name right) := by
  induction left with
  | nil => rfl
  | cons entry rest ih =>
      by_cases equal : entry.1 = name <;> simp [find?, equal, ih]

theorem find?_filter (name : String) (hidden : List String) (entries : List (String × Value)) :
    find? name (entries.filter fun entry => entry.1 ∉ hidden) =
      if name ∈ hidden then none else find? name entries := by
  induction entries with
  | nil => simp [find?]
  | cons entry rest ih =>
      by_cases equal : entry.1 = name
      · by_cases absent : name ∈ hidden <;> simp_all [find?]
      · by_cases absent : entry.1 ∈ hidden <;> simp_all [find?]

/-- What is found when some values are replaced and the other entries are left out.  An entry
that is left out hides no other one, as no name occurs twice. -/
theorem find?_filterMap {Image : Type} (name : String) (image : String × Value → Option Image)
    {entries : List (String × Value)} (distinct : (names entries).Nodup) :
    find? name (entries.filterMap fun entry => (image entry).map (entry.1, ·)) =
      (find? name entries).bind fun value => image (name, value) := by
  induction entries with
  | nil => rfl
  | cons entry rest ih =>
      rw [names, List.map_cons, List.nodup_cons] at distinct
      have later := ih distinct.2
      by_cases equal : entry.1 = name
      · have absent : find? name rest = none :=
          find?_eq_none_iff.mpr fun member => distinct.1 (equal ▸ member)
        rw [absent, Option.bind_none] at later
        have same : entry = (name, entry.2) := by rw [← equal]
        cases found : image entry with
        | none => simp [find?, equal, found, later, ← same]
        | some value => simp [find?, equal, found, ← same]
      · cases found : image entry <;> simp [find?, equal, found, later]

end Entries

/-- An insertion-ordered map from names to values; no name occurs twice. -/
structure Table (Value : Type) where
  entries : List (String × Value)
  distinct : (Entries.names entries).Nodup
  deriving DecidableEq

namespace Table

variable {Value : Type}

def empty : Table Value := ⟨[], List.nodup_nil⟩

instance : Inhabited (Table Value) := ⟨empty⟩

def names (table : Table Value) : List String := Entries.names table.entries

def values (table : Table Value) : List Value := table.entries.map Prod.snd

def size (table : Table Value) : Nat := table.entries.length

def isEmpty (table : Table Value) : Bool := table.entries.isEmpty

def get? (table : Table Value) (name : String) : Option Value :=
  Entries.find? name table.entries

def contains (table : Table Value) (name : String) : Bool := (table.get? name).isSome

/-- Store a value: in place when the name is present, at the end otherwise. -/
def insert (table : Table Value) (name : String) (value : Value) : Table Value :=
  ⟨Entries.put name value table.entries, Entries.nodup_put name value table.distinct⟩

/-- The value stored under a name.  A name that is not present is entered first, with a
given value. -/
def enter (table : Table Value) (name : String) (value : Value) : Value × Table Value :=
  match table.get? name with
  | some present => (present, table)
  | none => (value, table.insert name value)

/-- Remove a name; the other entries keep their order. -/
def erase (table : Table Value) (name : String) : Table Value :=
  ⟨Entries.drop name table.entries, Entries.nodup_drop name table.distinct⟩

/-- Store entries one after the other into the empty table. -/
def ofList (entries : List (String × Value)) : Table Value :=
  entries.foldl (fun table entry => table.insert entry.1 entry.2) empty

@[simp] theorem entries_empty : (empty : Table Value).entries = [] := rfl

@[simp] theorem get?_empty (name : String) : (empty : Table Value).get? name = none := rfl

theorem get?_eq_none_iff {table : Table Value} {name : String} :
    table.get? name = none ↔ name ∉ table.names := Entries.find?_eq_none_iff

@[simp] theorem contains_iff {table : Table Value} {name : String} :
    table.contains name = true ↔ name ∈ table.names := by
  rw [contains, Option.isSome_iff_ne_none, ne_eq, get?_eq_none_iff, Decidable.not_not]

theorem mem_entries_of_get? {table : Table Value} {name : String} {value : Value}
    (found : table.get? name = some value) : (name, value) ∈ table.entries :=
  Entries.mem_of_find? found

theorem get?_of_mem_entries {table : Table Value} {entry : String × Value}
    (member : entry ∈ table.entries) : table.get? entry.1 = some entry.2 :=
  Entries.find?_of_mem table.distinct member

theorem mem_names_of_get? {table : Table Value} {name : String} {value : Value}
    (found : table.get? name = some value) : name ∈ table.names := by
  rw [← contains_iff, contains, found, Option.isSome_some]

theorem get?_eq_some_iff {table : Table Value} {name : String} {value : Value} :
    table.get? name = some value ↔ (name, value) ∈ table.entries :=
  ⟨mem_entries_of_get?, get?_of_mem_entries⟩

theorem eq_of_entries {left right : Table Value} (same : left.entries = right.entries) :
    left = right := by
  cases left
  cases right
  cases same
  rfl

theorem get?_of_perm {left right : Table Value} (permuted : left.entries.Perm right.entries)
    (name : String) : left.get? name = right.get? name := by
  ext value
  rw [get?_eq_some_iff, get?_eq_some_iff, permuted.mem_iff]

@[simp] theorem get?_insert_self (table : Table Value) (name : String) (value : Value) :
    (table.insert name value).get? name = some value :=
  Entries.find?_put_self name value table.entries

theorem get?_insert_of_ne (table : Table Value) {name other : String} (differs : other ≠ name)
    (value : Value) : (table.insert name value).get? other = table.get? other :=
  Entries.find?_put_of_ne differs value table.entries

theorem mem_entries_insert {table : Table Value} {name : String} {value : Value}
    {entry : String × Value} (member : entry ∈ (table.insert name value).entries) :
    entry = (name, value) ∨ entry ∈ table.entries :=
  Entries.mem_put member

theorem entries_insert_of_not_mem {table : Table Value} {name : String}
    (absent : name ∉ table.names) (value : Value) :
    (table.insert name value).entries = table.entries ++ [(name, value)] :=
  Entries.put_of_not_mem value absent

theorem names_insert (table : Table Value) (name : String) (value : Value) :
    (table.insert name value).names =
      if name ∈ table.names then table.names else table.names ++ [name] :=
  Entries.names_put name value table.entries

@[simp] theorem mem_names_insert {table : Table Value} {name other : String} {value : Value} :
    other ∈ (table.insert name value).names ↔ other = name ∨ other ∈ table.names := by
  rw [names_insert]
  split
  · next present =>
      exact ⟨.inr, fun member => member.elim (fun same => same ▸ present) id⟩
  · simp [or_comm]

@[simp] theorem mem_names_erase {table : Table Value} {name other : String} :
    other ∈ (table.erase name).names ↔ other ∈ table.names ∧ other ≠ name := by
  simp [names, erase, Entries.names_drop]

theorem mem_entries_of_erase {table : Table Value} {name : String} {entry : String × Value}
    (member : entry ∈ (table.erase name).entries) : entry ∈ table.entries :=
  (List.mem_filter.mp member).1

theorem insert_of_get? {table : Table Value} {name : String} {value : Value}
    (found : table.get? name = some value) : table.insert name value = table := by
  obtain ⟨before, behind, split, stored⟩ := Entries.exists_place found
  cases table with
  | mk entries distinct =>
      simp only [insert, mk.injEq]
      rw [stored value, ← split]

@[simp] theorem insert_insert (table : Table Value) (name : String) (first value : Value) :
    (table.insert name first).insert name value = table.insert name value := by
  simp only [insert, mk.injEq]
  exact Entries.put_put name first value table.entries

theorem get?_foldl_insert {entries : List (String × Value)}
    (distinct : (Entries.names entries).Nodup) (table : Table Value) (name : String) :
    (entries.foldl (fun table entry => table.insert entry.1 entry.2) table).get? name =
      (Entries.find? name entries).or (table.get? name) := by
  induction entries generalizing table with
  | nil => rfl
  | cons entry rest ih =>
      rw [Entries.names, List.map_cons, List.nodup_cons] at distinct
      rw [List.foldl_cons, ih distinct.2]
      by_cases equal : entry.1 = name
      · have absent : Entries.find? name rest = none :=
          Entries.find?_eq_none_iff.mpr fun member => distinct.1 (equal ▸ member)
        simp [Entries.find?, equal, absent]
      · rw [Entries.find?, if_neg equal, get?_insert_of_ne table (Ne.symm equal)]

theorem enter_of_get? {table : Table Value} {name : String} {present : Value}
    (found : table.get? name = some present) (value : Value) :
    table.enter name value = (present, table) := by
  rw [enter, found]

theorem enter_of_get?_eq_none {table : Table Value} {name : String}
    (absent : table.get? name = none) (value : Value) :
    table.enter name value = (value, table.insert name value) := by
  rw [enter, absent]

theorem mem_of_mem_entries_ofList {entries : List (String × Value)} {entry : String × Value}
    (member : entry ∈ (ofList entries).entries) : entry ∈ entries := by
  suffices filled : ∀ (table : Table Value),
      entry ∈ (entries.foldl (fun table entry => table.insert entry.1 entry.2) table).entries →
        entry ∈ table.entries ∨ entry ∈ entries by
    rcases filled empty member with nowhere | listed
    · simp at nowhere
    · exact listed
  clear member
  induction entries with
  | nil => exact fun table member => .inl member
  | cons first rest ih =>
      intro table member
      rcases ih _ member with present | listed
      · rcases mem_entries_insert present with same | present
        · exact .inr (same ▸ List.mem_cons_self)
        · exact .inl present
      · exact .inr (List.mem_cons_of_mem _ listed)

end Table

end Dtdl
