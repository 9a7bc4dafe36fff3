import Dtdl.Json.Number
import Dtdl.Table

/-!
# JSON values

An object keeps its members in the order in which their names first occur in the
document.
-/

namespace Dtdl.Json

inductive Value where
  | null
  | bool (value : Bool)
  | number (value : Number)
  | string (text : String)
  | array (items : List Value)
  | object (members : List (String × Value))
  deriving Repr, Inhabited

namespace Value

mutual

def decEq : (left right : Value) → Decidable (left = right)
  | .null, right => match right with
      | .null => isTrue rfl
      | .bool _ | .number _ | .string _ | .array _ | .object _ => isFalse (by simp)
  | .bool value, right => match right with
      | .bool other => decidable_of_iff (value = other) (by simp)
      | .null | .number _ | .string _ | .array _ | .object _ => isFalse (by simp)
  | .number value, right => match right with
      | .number other => decidable_of_iff (value = other) (by simp)
      | .null | .bool _ | .string _ | .array _ | .object _ => isFalse (by simp)
  | .string value, right => match right with
      | .string other => decidable_of_iff (value = other) (by simp)
      | .null | .bool _ | .number _ | .array _ | .object _ => isFalse (by simp)
  | .array items, right => match right with
      | .array others =>
          have := decEqItems items others
          decidable_of_iff (items = others) (by simp)
      | .null | .bool _ | .number _ | .string _ | .object _ => isFalse (by simp)
  | .object members, right => match right with
      | .object others =>
          have := decEqMembers members others
          decidable_of_iff (members = others) (by simp)
      | .null | .bool _ | .number _ | .string _ | .array _ => isFalse (by simp)

def decEqItems : (left right : List Value) → Decidable (left = right)
  | [], [] => isTrue rfl
  | [], _ :: _ | _ :: _, [] => isFalse (by simp)
  | item :: items, other :: others =>
      have := decEq item other
      have := decEqItems items others
      decidable_of_iff (item = other ∧ items = others) (by simp)

def decEqMembers : (left right : List (String × Value)) → Decidable (left = right)
  | [], [] => isTrue rfl
  | [], _ :: _ | _ :: _, [] => isFalse (by simp)
  | (name, value) :: members, (otherName, other) :: others =>
      have := decEq value other
      have := decEqMembers members others
      decidable_of_iff ((name = otherName ∧ value = other) ∧ members = others) (by simp)

end

instance : DecidableEq Value := decEq

/-- A member of an object; other values have none. -/
def member? (name : String) : Value → Option Value
  | object members => Entries.find? name members
  | _ => none

/-- The text of a string; other values have none. -/
def string? : Value → Option String
  | string text => some text
  | _ => none

/-- The items of an array; any other value stands for itself alone. -/
def items : Value → List Value
  | array items => items
  | value => [value]

def ofNat (number : Nat) : Value := .number (.integer number)

def ofTexts (texts : List String) : Value := .array (texts.map string)

def ofTable (table : Table String) : Value :=
  .object (table.entries.map fun entry => (entry.1, string entry.2))

end Value

end Dtdl.Json
