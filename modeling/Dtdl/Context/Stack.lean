import Dtdl.Json.Value
import Dtdl.Outcome
import Dtdl.Problem
import Dtdl.Table

/-!
# Context stacks

The `@context` of an element is a stack of entries.  An entry refers to a context by
its specifier, or it is a block of declarations that is written in place.  In JSON a
stack is a specifier, a block, or an array of those.
-/

namespace Dtdl.Context

/-- Declared names with their definitions; no definition means that the name is
declared to mean nothing. -/
abbrev Block := Table (Option String)

inductive Entry where
  | remote (specifier : String)
  | block (declarations : Block)
  deriving DecidableEq

def Entry.isBlock : Entry → Bool
  | .remote _ => false
  | .block _ => true

def Entry.specifier? : Entry → Option String
  | .remote specifier => some specifier
  | .block _ => none

/-- An entry together with its place in the stack. -/
structure Component where
  index : Nat
  isLast : Bool
  entry : Entry
  deriving DecidableEq

/-- The entries of an `@context`, first one first. -/
structure Stack where
  entries : List Entry
  deriving DecidableEq

namespace Stack

/-- The entries from a position on, with their places. -/
def place (index : Nat) : List Entry → List Component
  | [] => []
  | entry :: rest => ⟨index, rest.isEmpty, entry⟩ :: place (index + 1) rest

def components (stack : Stack) : List Component := place 0 stack.entries

/-- Read the definition of a term: a text, `null`, or an object whose `@id` is one of
these. -/
def definition? : Json.Value → Option (Option String)
  | .null => some none
  | .string text => some (some text)
  | .object members =>
      match Entries.find? "@id" members with
      | some (.string text) => some (some text)
      | some .null => some none
      | _ => none
  | _ => none

def readDeclaration (member : String × Json.Value) : Outcome Problem (String × Option String) :=
  match definition? member.2 with
  | some definition => .succeed (member.1, definition)
  | none => .refuse (.malformedDefinition member.1 member.2)

def readEntry (index : Nat) : Json.Value → Outcome Problem Entry
  | .string specifier => .succeed (.remote specifier)
  | .object members => do
      let declarations ← Outcome.all (members.map readDeclaration)
      return .block (Table.ofList declarations)
  | value => .refuse (.malformedEntry index value)

def readEntries (index : Nat) : List Json.Value → List (Outcome Problem Entry)
  | [] => []
  | value :: rest => readEntry index value :: readEntries (index + 1) rest

/-- Read a stack.  Every malformed entry and definition is reported. -/
def ofJson (value : Json.Value) : Outcome Problem Stack := do
  let entries ← Outcome.all (readEntries 0 value.items)
  return ⟨entries⟩

end Stack

end Dtdl.Context
