import Dtdl.Json.Scalar
import Dtdl.Json.Value

/-!
# Reading JSON

A value is read from the left, and the first character that cannot go on is reported.
Values that nothing asks for are passed over: they have to be well formed but may nest
to any depth.

Two bounds make the readers total.  Containers whose values are read may nest 127
deep, which is part of the format; and no container has more parts than its document
has characters.
-/

namespace Dtdl.Json.Reader

/-! ## Containers -/

/-- Whether an array goes on with another item.  The comma before it is taken. -/
def hasItem (isFirst : Bool) : Reader Bool := do
  match ← nextSolid? with
  | none => fail .endInArray
  | some c =>
      if c = ']' then return false
      else if isFirst then return true
      else if c = ',' then
        step
        match ← nextSolid? with
        | none => fail .endInValue
        | some ']' => failAhead .trailingComma
        | some _ => return true
      else failAhead .noItemEnd

/-- Whether an object goes on with another member.  The comma before it is taken. -/
def hasMember (isFirst : Bool) : Reader Bool := do
  match ← nextSolid? with
  | none => fail .endInObject
  | some c =>
      if c = '\x7d' then return false
      else if isFirst then
        if c = '"' then return true else failAhead .noKey
      else if c = ',' then
        step
        match ← nextSolid? with
        | none => fail .endInValue
        | some '"' => return true
        | some '\x7d' => failAhead .trailingComma
        | some _ => failAhead .noKey
      else failAhead .noMemberEnd

def closeArray : Reader Unit := do
  match ← nextSolid? with
  | none => fail .endInArray
  | some ']' => step
  | some ',' =>
      step
      match ← nextSolid? with
      | some ']' => failAhead .trailingComma
      | _ => failAhead .trailingText
  | some _ => failAhead .trailingText

def closeObject : Reader Unit := do
  match ← nextSolid? with
  | none => fail .endInObject
  | some '\x7d' => step
  | some ',' => failAhead .trailingComma
  | some _ => failAhead .trailingText

/-- Take the colon behind a member name. -/
def colon : Reader Unit := do
  match ← nextSolid? with
  | none => fail .endInObject
  | some ':' => step
  | some _ => failAhead .noColon

/-- Read a member name whose quotation mark comes next. -/
def name : Reader String := do
  step
  stringBody .value

/-- Read the items of an array up to its end.  `read` holds the items so far, last one
first, and `fuel` bounds their number. -/
def items {Item : Type} (item : Reader Item) (fuel : Nat) (isFirst : Bool)
    (read : List Item) : Reader (List Item) :=
  match fuel with
  | 0 => return read.reverse
  | fuel + 1 => do
      if ← hasItem isFirst then
        let value ← item
        items item fuel false (value :: read)
      else return read.reverse

/-- Read the members of an object up to its end.  A repeated name keeps its first place
and takes its last value. -/
def members {Member : Type} (member : Reader Member) (fuel : Nat) (isFirst : Bool)
    (read : List (String × Member)) : Reader (List (String × Member)) :=
  match fuel with
  | 0 => return read
  | fuel + 1 => do
      if ← hasMember isFirst then
        let name ← name
        colon
        let value ← member
        members member fuel false (Entries.put name value read)
      else return read

/-! ## Values -/

/-- Read a value.  `fuel` bounds the parts of a container and `depth` is one more than
the number of containers that may still be entered. -/
def value (fuel : Nat) : (depth : Nat) → Reader Value
  | 0 => failAhead .depth
  | depth + 1 => do
      match ← nextSolid? with
      | none => fail .endInValue
      | some 'n' =>
          step
          word ['u', 'l', 'l']
          return .null
      | some 't' =>
          step
          word ['r', 'u', 'e']
          return .bool true
      | some 'f' =>
          step
          word ['a', 'l', 's', 'e']
          return .bool false
      | some '"' =>
          step
          return .string (← stringBody .value)
      | some '[' =>
          if depth = 0 then failAhead .depth
          else
            step
            let items ← items (value fuel depth) fuel true []
            closeArray
            return .array items
      | some '\x7b' =>
          if depth = 0 then failAhead .depth
          else
            step
            let members ← members (value fuel depth) fuel true []
            closeObject
            return .object members
      | some c =>
          if c = '-' || c.isDigit then return .number (← number)
          else failAhead .noValue

/-! ## Passing over values -/

/-- What is to come while a value is passed over. -/
inductive Awaited where
  /-- A value. -/
  | value
  /-- The first part of a container, or its end. -/
  | first
  /-- A comma, or the end of a container. -/
  | comma
  deriving DecidableEq, Repr

inductive Container where
  | array
  | object
  deriving DecidableEq, Repr

/-- The character that ends a container. -/
def Container.close : Container → Char
  | array => ']'
  | object => '\x7d'

/-- What is reported of a container that the text ends in. -/
def Container.ending : Container → Fault
  | array => .endInArray
  | object => .endInObject

/-- What is reported where a container neither goes on nor ends. -/
def Container.separation : Container → Fault
  | array => .noItemEnd
  | object => .noMemberEnd

/-- Pass over the name and the colon of a member. -/
def skipName : Reader Unit := do
  match ← nextSolid? with
  | none => fail .endInObject
  | some '"' =>
      step
      let _ ← stringBody .skip
      colon
  | some _ => failAhead .noKey

/-- Pass over a value, given the containers that are open, innermost one first. -/
def skipFrom (fuel : Nat) (awaited : Awaited) (enclosing : List Container) : Reader Unit :=
  match fuel with
  | 0 => return ()
  | fuel + 1 =>
      match awaited, enclosing with
      | .value, _ => do
          match ← nextSolid? with
          | none => fail .endInValue
          | some '[' =>
              step
              skipFrom fuel .first (.array :: enclosing)
          | some '\x7b' =>
              step
              skipFrom fuel .first (.object :: enclosing)
          | some c =>
              if c = 'n' then
                step
                word ['u', 'l', 'l']
              else if c = 't' then
                step
                word ['r', 'u', 'e']
              else if c = 'f' then
                step
                word ['a', 'l', 's', 'e']
              else if c = '"' then
                step
                let _ ← stringBody .skip
              else if c = '-' || c.isDigit then
                let _ ← numeral .skip
              else failAhead .noValue
              skipFrom fuel .comma enclosing
      | _, [] => return ()
      | awaited, container :: outer => do
          match ← nextSolid? with
          | none => fail container.ending
          | some c =>
              if c = container.close then
                step
                skipFrom fuel .comma outer
              else if awaited = .first || c = ',' then
                if awaited = .comma then step
                if container = .object then skipName
                skipFrom fuel .value enclosing
              else failAhead container.separation

def skip (fuel : Nat) : Reader Unit := skipFrom (2 * fuel + 2) .value []

/-! ## Documents -/

/-- One more than the number of containers that may nest. -/
def maxDepth : Nat := 128

/-- Read a whole text, behind which only blanks may follow.  The reader is given a
bound on the parts of a container. -/
def document {Result : Type} (read : Nat → Reader Result) (text : String) :
    Except Failure Result :=
  let reading : Reader Result := do
    let result ← read (text.length + 1)
    match ← nextSolid? with
    | none => return result
    | some _ => failAhead .trailingText
  (reading (Cursor.ofText text)).map Prod.fst

end Dtdl.Json.Reader

namespace Dtdl.Json

def parse (text : String) : Except Failure Value :=
  Reader.document (fun fuel => Reader.value fuel Reader.maxDepth) text

end Dtdl.Json
