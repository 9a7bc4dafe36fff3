import Dtdl.Vocabulary

/-!
# Scopes

A scope holds what the local blocks of an element and its surroundings declare: terms,
prefixes, and names that are declared to mean nothing.
-/

namespace Dtdl

/-- The local definitions that are in force for an element. -/
structure Scope where
  terms : Table Identifier
  prefixes : Table String
  undefined : List String
  deriving DecidableEq

namespace Scope

def empty : Scope := ⟨Table.empty, Table.empty, []⟩

instance : Inhabited Scope := ⟨empty⟩

def isEmpty (scope : Scope) : Bool :=
  scope.terms.isEmpty && scope.prefixes.isEmpty && scope.undefined.isEmpty

/-- Forget a name, whatever it was declared to be. -/
def erase (scope : Scope) (name : String) : Scope :=
  ⟨scope.terms.erase name, scope.prefixes.erase name, scope.undefined.filter (· ≠ name)⟩

end Scope

end Dtdl
