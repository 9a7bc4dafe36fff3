import Dtdl.Json.Reader

/-!
# Reading records

A record is read straight from a text, so that what does not fit is reported where it
stands.  It is written as an object whose members are its fields, in any order and
with unknown members passed over, or as an array of its fields in order.
-/

namespace Dtdl.Json.Reader

def mismatch {Result : Type} (problem : Mismatch) : Reader Result := fail (.mismatch problem)

/-- Fail because of what comes next.  A scalar is read first, which may fail by itself;
a container is left unread. -/
def wrongType {Result : Type} (expected : String) : Reader Result := do
  let found (found : Found) : Reader Result := mismatch (.type found expected)
  match ← next? with
  | none => fail .endInValue
  | some c =>
      if c = 'n' then
        step
        word ['u', 'l', 'l']
        found (.absent "null")
      else if c = 't' then
        step
        word ['r', 'u', 'e']
        found (.bool true)
      else if c = 'f' then
        step
        word ['a', 'l', 's', 'e']
        found (.bool false)
      else if c = '"' then
        step
        found (.string (← stringBody .value))
      else if c = '-' || c.isDigit then
        match ← number with
        | .integer value => found (.integer value)
        | real => found (.real real.text)
      else if c = '[' then found .sequence
      else if c = '\x7b' then found .map
      else failAhead .noValue

def string : Reader String := do
  match ← nextSolid? with
  | none => fail .endInValue
  | some '"' =>
      step
      stringBody .value
  | some _ => wrongType "a string"

def bool : Reader Bool := do
  match ← nextSolid? with
  | none => fail .endInValue
  | some 't' =>
      step
      word ['r', 'u', 'e']
      return true
  | some 'f' =>
      step
      word ['a', 'l', 's', 'e']
      return false
  | some _ => wrongType "a boolean"

/-- Read a whole number of at most 32 bits without sign. -/
def word32 : Reader Nat := do
  let expected := "u32"
  match ← nextSolid? with
  | none => fail .endInValue
  | some c =>
      if c = '-' || c.isDigit then
        match ← number with
        | .integer value =>
            if 0 ≤ value && value ≤ 4294967295 then return value.toNat
            else mismatch (.value (.integer value) expected)
        | real => mismatch (.type (.real real.text) expected)
      else wrongType expected

def optional {Result : Type} (read : Reader Result) : Reader (Option Result) := do
  match ← nextSolid? with
  | some 'n' =>
      step
      word ['u', 'l', 'l']
      return none
  | _ => return some (← read)

def stringMap (fuel depth : Nat) : Reader (List (String × String)) := do
  match ← nextSolid? with
  | none => fail .endInValue
  | some '\x7b' =>
      if depth ≤ 1 then failAhead .depth
      else
        step
        let entries ← members string fuel true []
        closeObject
        return entries
  | some _ => wrongType "a map"

def list {Item : Type} (item : Reader Item) (fuel depth : Nat) : Reader (List Item) := do
  match ← nextSolid? with
  | none => fail .endInValue
  | some '[' =>
      if depth ≤ 1 then failAhead .depth
      else
        step
        let items ← items item fuel true []
        closeArray
        return items
  | some _ => wrongType "a sequence"

/-- A field of a record that is being read: its name, whether it may be left out,
whether it has been read, and how it is read into the record. -/
structure Field (Draft : Type) where
  name : String
  isOptional : Bool
  isRead : Draft → Bool
  read : Draft → Reader Draft

variable {Draft : Type}

/-- Fail with a mismatch that concerns a whole object.  It is placed behind the blanks
that come next, and behind the end of the object if that follows. -/
def objectMismatch {Result : Type} (problem : Mismatch) : Reader Result := do
  if (← nextSolid?) = some '\x7d' then step
  mismatch problem

/-- Read the members of an object into a record. -/
def fieldsByName (fields : List (Field Draft)) (fuel bound : Nat) (isFirst : Bool)
    (record : Draft) : Reader Draft :=
  match fuel with
  | 0 => return record
  | fuel + 1 => do
      if ← hasMember isFirst then
        let name ← name
        match fields.find? (·.name = name) with
        | none =>
            colon
            skip bound
            fieldsByName fields fuel bound false record
        | some field =>
            if field.isRead record then objectMismatch (.duplicateField name)
            else
              colon
              let record ← field.read record
              fieldsByName fields fuel bound false record
      else return record

/-- Read the items of an array into a record.  The number of fields that were found is
given to the failure that reports a missing one. -/
def fieldsInOrder (expected : String) (isFirst : Bool) (count : Nat)
    (fields : List (Field Draft)) (record : Draft) : Reader Draft :=
  match fields with
  | [] => return record
  | field :: rest => do
      if ← hasItem isFirst then
        let record ← field.read record
        fieldsInOrder expected false (count + 1) rest record
      else if field.isOptional then
        fieldsInOrder expected isFirst (count + 1) rest record
      else
        if (← nextSolid?) = some ']' then step
        mismatch (.length count expected)

/-- Read a record.  The fields are read into `initial`, from which all are missing. -/
def record (kind : String) (fields : List (Field Draft)) (initial : Draft)
    (fuel depth : Nat) : Reader Draft := do
  match ← nextSolid? with
  | none => fail .endInValue
  | some '[' =>
      if depth ≤ 1 then failAhead .depth
      else
        step
        let noun := if fields.length = 1 then "element" else "elements"
        let expected := s!"{kind} with {fields.length} {noun}"
        let result ← fieldsInOrder expected true 0 fields initial
        closeArray
        return result
  | some '\x7b' =>
      if depth ≤ 1 then failAhead .depth
      else
        step
        let result ← fieldsByName fields fuel fuel true initial
        match fields.find? fun field => !field.isOptional && !field.isRead result with
        | some field => objectMismatch (.missingField field.name)
        | none =>
            closeObject
            return result
  | some _ => wrongType kind

end Dtdl.Json.Reader
