import Dtdl.Vocabulary
import Dtdl.Text

/-!
# Vocabulary histories

A history holds every recorded version of one family.  Versions are only ever added,
so a name or an identifier stays reserved when later versions drop it.  What is
reserved is gathered while versions are added, so that a question about it need not
search them all again.
-/

namespace Dtdl

/-- The recorded versions of a vocabulary family. -/
structure History where
  name : String
  versions : List Vocabulary
  reservedTerms : List String
  reservedIdentifiers : List String
  reservedPrefixes : List String
  deriving DecidableEq

namespace History

def empty (name : String) : History := ⟨name, [], [], [], []⟩

/-- The recorded versions, in the order of their recording. -/
def available (history : History) : List Version := history.versions.map (·.version)

/-- The vocabulary with exactly the given version. -/
def find? (history : History) (version : Version) : Option Vocabulary :=
  history.versions.find? (·.version = version)

/-- Add expansions to those that are known, each of them once. -/
def gather (known expansions : List String) : List String :=
  expansions.foldl
    (fun known expansion => if known.contains expansion then known else known ++ [expansion]) known

/-- A history with one more version at its end, whose names and identifiers are reserved
from then on. -/
def append (history : History) (vocabulary : Vocabulary) : History where
  name := history.name
  versions := history.versions ++ [vocabulary]
  reservedTerms := history.reservedTerms ++ vocabulary.terms.names ++ vocabulary.prefixes.names
  reservedIdentifiers :=
    history.reservedIdentifiers ++ vocabulary.terms.values.map Identifier.text
  reservedPrefixes := gather history.reservedPrefixes vocabulary.prefixes.values

/-- Record one more version; what was recorded comes back beside the history.  A version
that is already recorded is refused, whatever its content is. -/
def add (history : History) (vocabulary : Vocabulary) :
    Except Vocabulary.Fault Vocabulary × History :=
  if history.versions.any (·.version = vocabulary.version) then
    (.error (.duplicateVersion history.name vocabulary.version), history)
  else (.ok vocabulary, history.append vocabulary)

/-- Record versions one after the other, up to the first one that is refused. -/
def ofVersions (name : String) (versions : List Vocabulary) : Except Vocabulary.Fault History :=
  versions.foldlM
    (fun history vocabulary =>
      match history.add vocabulary with
      | (.ok _, longer) => .ok longer
      | (.error fault, _) => .error fault)
    (empty name)

/-- Whether some version defines a name, as a term or as a prefix. -/
def isTermReserved (history : History) (name : String) : Bool :=
  history.reservedTerms.contains name

/-- Whether some version has a term for an identifier, or a prefix whose expansion the
identifier begins with. -/
def isIdentifierReserved (history : History) (identifier : String) : Bool :=
  history.reservedIdentifiers.contains identifier ||
    history.reservedPrefixes.any (Text.startsWith identifier)

/-- The term for an identifier in the earliest version that has one. -/
def termFor? (history : History) (identifier : String) : Option String :=
  history.versions.findSome? (·.termFor? identifier)

def latest? (history : History) : Option Vocabulary :=
  (Version.highest? history.available).bind history.find?

/-- Expansions are gathered without repetition, but none is lost. -/
@[simp] theorem mem_gather {expansion : String} (known expansions : List String) :
    expansion ∈ gather known expansions ↔ expansion ∈ known ∨ expansion ∈ expansions := by
  induction expansions generalizing known with
  | nil => simp [gather]
  | cons first rest ih =>
      rw [gather, List.foldl_cons, ← gather, ih, List.mem_cons]
      split
      · next present =>
          have presentMem : first ∈ known := by simpa using present
          constructor
          · exact fun member => member.imp_right .inr
          · rintro (member | same | member)
            · exact .inl member
            · exact .inl (same ▸ presentMem)
            · exact .inr member
      · simp [or_assoc]

theorem any_version_iff {history : History} {version : Version} :
    history.versions.any (·.version = version) = true ↔ version ∈ history.available := by
  simp [available]

theorem add_of_mem {history : History} {vocabulary : Vocabulary}
    (present : vocabulary.version ∈ history.available) :
    history.add vocabulary =
      (.error (.duplicateVersion history.name vocabulary.version), history) := by
  rw [add, if_pos (any_version_iff.mpr present)]

theorem add_of_not_mem {history : History} {vocabulary : Vocabulary}
    (absent : vocabulary.version ∉ history.available) :
    history.add vocabulary = (.ok vocabulary, history.append vocabulary) := by
  rw [add, if_neg (fun present => absent (any_version_iff.mp present))]

@[simp] theorem available_empty (name : String) : (empty name).available = [] := rfl

@[simp] theorem available_append (history : History) (vocabulary : Vocabulary) :
    (history.append vocabulary).available = history.available ++ [vocabulary.version] := by
  simp [available, append]

@[simp] theorem versions_append (history : History) (vocabulary : Vocabulary) :
    (history.append vocabulary).versions = history.versions ++ [vocabulary] := rfl

theorem nodup_available_append {history : History} (distinct : history.available.Nodup)
    {vocabulary : Vocabulary} (new : vocabulary.version ∉ history.available) :
    (history.append vocabulary).available.Nodup := by
  rw [available_append, List.nodup_append]
  refine ⟨distinct, by simp, ?_⟩
  intro version member added same
  rw [List.mem_singleton] at same
  intro equal
  exact new (same ▸ equal ▸ member)

theorem find?_append {history : History} {vocabulary : Vocabulary}
    (absent : vocabulary.version ∉ history.available) :
    (history.append vocabulary).find? vocabulary.version = some vocabulary := by
  have earlier : history.versions.find? (·.version = vocabulary.version) = none := by
    rw [List.find?_eq_none]
    intro recorded member same
    exact absent (List.mem_map.mpr ⟨recorded, member, of_decide_eq_true same⟩)
  simp [find?, append, List.find?_append, earlier]

theorem mem_of_find? {history : History} {version : Version} {vocabulary : Vocabulary}
    (found : history.find? version = some vocabulary) :
    vocabulary ∈ history.versions ∧ vocabulary.version = version :=
  ⟨List.mem_of_find?_eq_some found, by simpa using List.find?_some found⟩

end History

end Dtdl
