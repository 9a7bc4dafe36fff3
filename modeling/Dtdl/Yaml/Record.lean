import Dtdl.Yaml.Document
import Dtdl.Yaml.Scalar.Meaning

/-!
# Reading records from YAML documents

A reader goes along the parts of a document and reports what does not fit where it
stands.  A reference is read as the node that it means.  A record is a mapping; members
with other names than those of its fields are passed over.
-/

namespace Dtdl.Yaml

/-- A reader takes a node of the document, from an index on. -/
abbrev Reader := ReaderT Document (StateT Nat (Except Failure))

namespace Reader

def fail {Result : Type} (failure : Failure) : Reader Result := fun _ _ => .error failure

/-- Fail with a mismatch at a path and a place. -/
def mismatch {Result : Type} (path : String) (position : Position) (problem : Mismatch) :
    Reader Result :=
  fail (.mismatch problem path position)

/-- The part that comes next; behind the last one, the failure that cut the document
short. -/
def peek : Reader (Item × Position) := fun document index =>
  match document.items[index]? with
  | some part => .ok (part, index)
  | none => .error (document.failure.getD .endOfText)

def next : Reader (Item × Position) := do
  let part ← peek
  modify (· + 1)
  return part

/-- Read a node, given its first part.  For a reference that is the first part of the
node it means, and reading goes on behind the reference. -/
def node {Result : Type} (read : Item → Position → Reader Result) : Reader Result := do
  let (item, position) ← next
  match item with
  | .reference number =>
      let behind ← get
      let document ← readThe Document
      set ((document.targets.lookup number).getD 0)
      let (item, position) ← next
      let result ← read item position
      set behind
      return result
  | item => read item position

/-- Fail because a part is not what is expected. -/
def wrong {Result : Type} (path : String) (item : Item) (position : Position)
    (expected : String) : Reader Result :=
  match item with
  | .scalar tag text style => mismatch path position (Meaning.mismatch tag style text expected)
  | .sequenceStart => mismatch path position (.type .sequence expected)
  | .mappingStart => mismatch path position (.type .map expected)
  | _ => fail .endOfText

/-- Read a text, which every scalar has. -/
def string (path expected : String) : Reader String :=
  node fun item position =>
    match item with
    | .scalar _ text _ => return text
    | item => wrong path item position expected

/-- Whether a scalar is read by its text: a plain one, or a literal one with the tag
that is expected. -/
def isLiteral (kind : String) (tag : Option String) (style : Style) : Bool :=
  style = .plain || style = .literal && tag = some (Meaning.schema ++ kind)

def bool (path : String) : Reader Bool :=
  node fun item position =>
    let expected := "a boolean"
    match item with
    | .scalar tag text style =>
        match if isLiteral "bool" tag style then Meaning.bool? text else none with
        | some value => return value
        | none => wrong path item position expected
    | item => wrong path item position expected

/-- Read a whole number of at most 32 bits without sign. -/
def word32 (path : String) : Reader Nat :=
  node fun item position =>
    let expected := "u32"
    match item with
    | .scalar tag text style =>
        match if isLiteral "int" tag style then Meaning.natural? text.toList else none with
        | some value =>
            if value < UInt32.size then return value
            else if value < UInt64.size then mismatch path position (.value (.integer value) expected)
            else wrong path item position expected
        | none => wrong path item position expected
    | item => wrong path item position expected

/-- Whether a node stands for nothing.  A scalar whose tag says so has to be written
accordingly; otherwise the record that it belongs to does not fit. -/
def isAbsent (item : Item) : Except Mismatch Bool :=
  match item with
  | .nothing => .ok true
  | .scalar tag text .plain =>
      match tag with
      | none => .ok (text.isEmpty || Meaning.isNull text)
      | some tag =>
          if tag = Meaning.schema ++ "null" then
            if Meaning.isNull text then .ok true
            else .error (.value (.string text) "null")
          else .ok false
  | _ => .ok false

/-- Read a node that may stand for nothing.  `record` is the place of the record that it
belongs to. -/
def optional {Result : Type} (record : Position) (read : Reader Result) :
    Reader (Option Result) := do
  let start ← get
  let absent ← node fun item _ =>
    match isAbsent item with
    | .ok absent => return absent
    | .error problem => mismatch "" record problem
  if absent then return none
  else
    set start
    return some (← read)

/-- Whether a part can be read as a collection without items. -/
def isEmptyCollection : Item → Bool
  | .nothing => true
  | .scalar _ text style => text.isEmpty && style = .plain
  | _ => false

/-- Read the items of a sequence from the given one on, up to its end. -/
def items {Result : Type} (read : Nat → Reader Result) (fuel index : Nat) :
    Reader (List Result) :=
  match fuel with
  | 0 => fail .endOfText
  | fuel + 1 => do
      let (item, _) ← peek
      if item = .sequenceEnd then
        modify (· + 1)
        return []
      else
        let first ← read index
        return first :: (← items read fuel (index + 1))

/-- Read a sequence.  An item is read at its own path. -/
def sequence {Result : Type} (path : String) (read : String → Reader Result) :
    Reader (List Result) :=
  node fun item position => do
    let document ← readThe Document
    if item = .sequenceStart then
      items (fun index => read s!"{path}[{index}]") (document.items.length + 1) 0
    else if isEmptyCollection item then return []
    else wrong path item position "a sequence"

/-- Go past a node, `depth` collections deep in it. -/
def pass (fuel depth : Nat) : Reader Unit :=
  match fuel with
  | 0 => fail .endOfText
  | fuel + 1 => do
      let (item, _) ← next
      let depth :=
        match item with
        | .sequenceStart | .mappingStart => depth + 1
        | .sequenceEnd | .mappingEnd => depth - 1
        | _ => depth
      if depth = 0 then return () else pass fuel depth

/-- A field of a record that is being read. -/
structure Field (Draft : Type) where
  name : String
  isRead : Draft → Bool
  /-- Read the value of the field in a record that begins at the given place. -/
  read : Position → Draft → Reader Draft

/-- Read the members of a record up to its end. -/
def members {Draft : Type} (fields : List (Field Draft)) (record : Position) (fuel : Nat)
    (draft : Draft) : Reader Draft :=
  match fuel with
  | 0 => fail .endOfText
  | fuel + 1 => do
      let (item, _) ← peek
      if item = .mappingEnd then
        modify (· + 1)
        return draft
      else
        let name ← string "" "field identifier"
        match fields.find? (·.name = name) with
        | none =>
            let document ← readThe Document
            pass (document.items.length + 1) 0
            members fields record fuel draft
        | some field =>
            if field.isRead draft then mismatch "" record (.duplicateField name)
            else members fields record fuel (← field.read record draft)

def record {Draft : Type} (expected : String) (fields : List (Field Draft)) (draft : Draft) :
    Reader Draft :=
  node fun item position => do
    let document ← readThe Document
    if item = .mappingStart then members fields position (document.items.length + 1) draft
    else if isEmptyCollection item then return draft
    else wrong "" item position expected

def document {Result : Type} (read : Reader Result) (text : String) :
    Except Failure Result := do
  let document := Document.ofText text
  let (result, _) ← read document 0
  match document.failure with
  | some failure => throw failure
  | none => if document.isFollowed then throw .severalDocuments else return result

end Reader

end Dtdl.Yaml
