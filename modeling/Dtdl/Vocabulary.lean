import Dtdl.Dtmi
import Dtdl.Table
import Dtdl.Url

/-!
# Vocabularies

A vocabulary is one version of a family: a table of terms with the identifiers they
stand for, and a table of prefixes with their expansions.  A name is either a term or
a prefix, never both.
-/

namespace Dtdl

/-- The meaning of a term: a digital twin model identifier or any other absolute URL. -/
inductive Identifier where
  | dtmi (model : Dtmi)
  | url (address : Url)
  deriving DecidableEq, Repr

def Identifier.text : Identifier → String
  | .dtmi model => model.text
  | .url address => address.text

/-- One version of a vocabulary family. -/
structure Vocabulary where
  version : Version
  terms : Table Identifier
  prefixes : Table String
  deriving DecidableEq

namespace Vocabulary

/-- Why a vocabulary or a history of vocabularies cannot be built. -/
inductive Fault where
  | termDefinedTwice (term : String)
  | duplicateVersion (family : String) (version : Version)
  deriving DecidableEq, Repr

def Fault.message : Fault → String
  | termDefinedTwice term => s!"term \"{term}\" is defined as both a term and a prefix"
  | duplicateVersion family version =>
      s!"version {version.text} of \"{family}\" is already recorded"

/-- Build a vocabulary.  The first term that is also a prefix is refused. -/
def build (version : Version) (terms : Table Identifier) (prefixes : Table String) :
    Except Fault Vocabulary :=
  match terms.names.find? prefixes.contains with
  | some term => .error (.termDefinedTwice term)
  | none => .ok ⟨version, terms, prefixes⟩

def term? (vocabulary : Vocabulary) (name : String) : Option Identifier :=
  vocabulary.terms.get? name

def expansion? (vocabulary : Vocabulary) (name : String) : Option String :=
  vocabulary.prefixes.get? name

/-- Whether a name is a term or a prefix. -/
def defines (vocabulary : Vocabulary) (name : String) : Bool :=
  vocabulary.terms.contains name || vocabulary.prefixes.contains name

/-- The first term that stands for an identifier. -/
def termFor? (vocabulary : Vocabulary) (identifier : String) : Option String :=
  (vocabulary.terms.entries.find? fun entry => entry.2.text = identifier).map Prod.fst

@[simp] theorem defines_iff {vocabulary : Vocabulary} {name : String} :
    vocabulary.defines name = true ↔
      name ∈ vocabulary.terms.names ∨ name ∈ vocabulary.prefixes.names := by
  simp [defines]

theorem term?_of_not_defines {vocabulary : Vocabulary} {name : String}
    (absent : vocabulary.defines name = false) : vocabulary.term? name = none := by
  rw [term?, Table.get?_eq_none_iff]
  intro member
  simp [defines_iff.mpr (.inl member)] at absent

theorem expansion?_of_not_defines {vocabulary : Vocabulary} {name : String}
    (absent : vocabulary.defines name = false) : vocabulary.expansion? name = none := by
  rw [expansion?, Table.get?_eq_none_iff]
  intro member
  simp [defines_iff.mpr (.inr member)] at absent

end Vocabulary

end Dtdl
