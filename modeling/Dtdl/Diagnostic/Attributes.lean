/-!
# Attributes of a diagnostic

Attributes are texts under names, sorted by name.  Names are compared by code points,
which orders them like the bytes of their UTF-8 forms.
-/

namespace Dtdl

/-- Texts under distinct names, sorted by name. -/
structure Attributes where
  entries : List (String × String)
  sorted : entries.Pairwise fun left right => left.1 < right.1
  deriving DecidableEq

namespace Attributes

/-- Store a text under a name, in its place by name. -/
def put (name text : String) : List (String × String) → List (String × String)
  | [] => [(name, text)]
  | entry :: rest =>
      if name < entry.1 then (name, text) :: entry :: rest
      else if name = entry.1 then (name, text) :: rest
      else entry :: put name text rest

theorem mem_put {name text : String} {entries : List (String × String)}
    {entry : String × String} (member : entry ∈ put name text entries) :
    entry = (name, text) ∨ entry ∈ entries := by
  induction entries with
  | nil => simpa [put] using member
  | cons first rest ih =>
      simp only [put] at member
      split at member
      · simpa using member
      · split at member
        · rcases List.mem_cons.mp member with equal | inRest
          · exact .inl equal
          · exact .inr (List.mem_cons_of_mem _ inRest)
        · rcases List.mem_cons.mp member with equal | inRest
          · exact .inr (by simp [equal])
          · rcases ih inRest with equal | known
            · exact .inl equal
            · exact .inr (List.mem_cons_of_mem _ known)

theorem sorted_put (name text : String) {entries : List (String × String)}
    (sorted : entries.Pairwise fun left right => left.1 < right.1) :
    (put name text entries).Pairwise fun left right => left.1 < right.1 := by
  induction entries with
  | nil => simp [put]
  | cons first rest ih =>
      obtain ⟨least, sortedRest⟩ := List.pairwise_cons.mp sorted
      simp only [put]
      split
      · next before =>
          refine List.pairwise_cons.mpr ⟨?_, sorted⟩
          intro entry member
          rcases List.mem_cons.mp member with equal | inRest
          · rw [equal]; exact before
          · exact String.lt_trans before (least entry inRest)
      · next notBefore =>
          split
          · next equal =>
              refine List.pairwise_cons.mpr ⟨?_, sortedRest⟩
              intro entry member
              rw [equal]
              exact least entry member
          · next differs =>
              refine List.pairwise_cons.mpr ⟨?_, ih sortedRest⟩
              intro entry member
              rcases mem_put member with equal | inRest
              · rw [equal]
                refine Decidable.byContradiction fun notAfter => differs ?_
                exact String.le_antisymm (String.not_lt.mp notAfter) (String.not_lt.mp notBefore)
              · exact least entry inRest

theorem put_of_lt {name : String} (text : String) {entries : List (String × String)}
    (last : ∀ entry ∈ entries, entry.1 < name) :
    put name text entries = entries ++ [(name, text)] := by
  induction entries with
  | nil => rfl
  | cons first rest ih =>
      have before : first.1 < name := last first List.mem_cons_self
      have notBefore : ¬name < first.1 := fun after =>
        String.lt_irrefl name (String.lt_trans after before)
      have differs : name ≠ first.1 := fun same => String.lt_irrefl name (same ▸ before)
      rw [put, if_neg notBefore, if_neg differs, List.cons_append,
        ih fun entry listed => last entry (List.mem_cons_of_mem first listed)]

def empty : Attributes := ⟨[], .nil⟩

instance : Inhabited Attributes := ⟨empty⟩

/-- Store a text under a name; an earlier text under that name is replaced. -/
def insert (attributes : Attributes) (name text : String) : Attributes :=
  ⟨put name text attributes.entries, sorted_put name text attributes.sorted⟩

def ofList (entries : List (String × String)) : Attributes :=
  entries.foldl (fun attributes entry => attributes.insert entry.1 entry.2) empty

/-- Texts whose names are in order are stored one behind the other. -/
theorem entries_foldl_insert (attributes : Attributes) {entries : List (String × String)}
    (sorted : (attributes.entries ++ entries).Pairwise fun left right => left.1 < right.1) :
    (entries.foldl (fun attributes entry => attributes.insert entry.1 entry.2)
      attributes).entries = attributes.entries ++ entries := by
  induction entries generalizing attributes with
  | nil => exact (List.append_nil attributes.entries).symm
  | cons entry rest ih =>
      have last : ∀ other ∈ attributes.entries, other.1 < entry.1 := fun other listed =>
        (List.pairwise_append.mp sorted).2.2 other listed entry List.mem_cons_self
      have stored : (attributes.insert entry.1 entry.2).entries = attributes.entries ++ [entry] :=
        put_of_lt entry.2 last
      have regrouped : attributes.entries ++ entry :: rest =
          (attributes.insert entry.1 entry.2).entries ++ rest := by
        rw [stored, List.append_assoc, List.singleton_append]
      rw [regrouped] at sorted ⊢
      exact ih (attributes.insert entry.1 entry.2) sorted

theorem ofList_entries (attributes : Attributes) : ofList attributes.entries = attributes := by
  have same : (ofList attributes.entries).entries = attributes.entries :=
    entries_foldl_insert empty attributes.sorted
  exact (Attributes.mk.injEq _ _ _ _).mpr same

theorem names_nodup (attributes : Attributes) : (attributes.entries.map Prod.fst).Nodup := by
  apply List.pairwise_map.mpr
  refine attributes.sorted.imp ?_
  intro left right less same
  exact String.lt_irrefl right.1 (same ▸ less)

def get? (attributes : Attributes) (name : String) : Option String :=
  (attributes.entries.find? (·.1 = name)).map Prod.snd

def isEmpty (attributes : Attributes) : Bool := attributes.entries.isEmpty

theorem eq_empty {attributes : Attributes} (nothing : attributes.isEmpty = true) :
    attributes = empty :=
  (Attributes.mk.injEq _ _ _ _).mpr (List.isEmpty_iff.mp nothing)

end Attributes

end Dtdl
