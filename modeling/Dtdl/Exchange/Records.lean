import Dtdl.Batch
import Dtdl.Json.Record
import Dtdl.Json.Writer

/-!
# JSON forms of records

Diagnostics can be written and read back.  Options and documents are only read, and
scopes, elements and vocabularies are only written.
-/

namespace Dtdl

open Json (Reader Value)

/-! ## Diagnostics -/

namespace Diagnostic

/-- A diagnostic as a value.  Attributes are left out when there are none, and the
document when there is none. -/
def toJson (diagnostic : Diagnostic) : Value :=
  let attributes := Value.object
    (diagnostic.attributes.entries.map fun entry => (entry.1, Value.string entry.2))
  .object
    ([("validationId", .string diagnostic.kind.code), ("cause", .string diagnostic.cause)] ++
      (if diagnostic.attributes.isEmpty then [] else [("attributes", attributes)]) ++
      (diagnostic.document.toList.map fun document => ("document", .string document)))

/-- The kind with a code, or what is wrong with the code. -/
def Kind.find (code : String) : Except Mismatch Kind :=
  match Kind.ofCode? code with
  | some kind => .ok kind
  | none => .error (.unknownVariant code (Kind.all.map Kind.code))

def Kind.readCode : Reader Kind := do
  match Kind.find (← Reader.stringBody .value) with
  | .ok kind => return kind
  | .error problem => Reader.mismatch problem

/-- Read a kind: its code, or an object with `null` under its code. -/
def Kind.read (depth : Nat) : Reader Kind := do
  match ← Reader.nextSolid? with
  | none => Reader.fail .endInValue
  | some '"' =>
      Reader.step
      Kind.readCode
  | some '\x7b' =>
      if depth ≤ 1 then Reader.failAhead .depth
      else
        Reader.step
        let kind ← do
          match ← Reader.nextSolid? with
          | none => Reader.fail .endInValue
          | some '"' =>
              Reader.step
              Kind.readCode
          | some _ => Reader.wrongType "variant identifier"
        Reader.colon
        match ← Reader.nextSolid? with
        | none => Reader.fail .endInValue
        | some 'n' =>
            Reader.step
            Reader.word ['u', 'l', 'l']
        | some _ => Reader.wrongType "unit"
        match ← Reader.nextSolid? with
        | none => Reader.fail .endInObject
        | some '\x7d' =>
            Reader.step
            return kind
        | some _ => Reader.fail .noValue
  | some _ => Reader.failAhead .noValue

/-- A diagnostic of which some fields have been read. -/
structure Draft where
  kind : Option Kind
  cause : Option String
  attributes : Option Attributes
  document : Option (Option String)

def fields (fuel depth : Nat) : List (Reader.Field Draft) :=
  [{ name := "validationId"
     isOptional := false
     isRead := (·.kind.isSome)
     read := fun draft => do return { draft with kind := some (← Kind.read depth) } },
   { name := "cause"
     isOptional := false
     isRead := (·.cause.isSome)
     read := fun draft => do return { draft with cause := some (← Reader.string) } },
   { name := "attributes"
     isOptional := true
     isRead := (·.attributes.isSome)
     read := fun draft => do
       let entries ← Reader.stringMap fuel depth
       return { draft with attributes := some (Attributes.ofList entries) } },
   { name := "document"
     isOptional := true
     isRead := (·.document.isSome)
     read := fun draft => do
       return { draft with document := some (← Reader.optional Reader.string) } }]

def read (fuel depth : Nat) : Reader Diagnostic := do
  let draft ←
    Reader.record "struct ParsingError" (fields fuel (depth - 1)) ⟨none, none, none, none⟩
      fuel depth
  match draft.kind, draft.cause with
  | some kind, some cause =>
      return {
        kind
        cause
        attributes := draft.attributes.getD Attributes.empty
        document := draft.document.getD none }
  | _, _ => Reader.mismatch (.missingField "validationId")

def parse (text : String) : Except Json.Failure Diagnostic :=
  Reader.document (fun fuel => read fuel Reader.maxDepth) text

end Diagnostic

/-! ## Options -/

namespace Resolver.Options

/-- Options of which some fields have been read. -/
structure Draft where
  maxVersion : Option (Option Nat)
  allowUndefined : Option Bool

/-- The fields of options, each of which may be left out. -/
def fields : List (Reader.Field Draft) :=
  [{ name := "maxDtdlVersion"
     isOptional := true
     isRead := (·.maxVersion.isSome)
     read := fun draft => do
       return { draft with maxVersion := some (← Reader.optional Reader.word32) } },
   { name := "allowUndefinedExtensions"
     isOptional := true
     isRead := (·.allowUndefined.isSome)
     read := fun draft => do return { draft with allowUndefined := some (← Reader.bool) } }]

def read (fuel depth : Nat) : Reader Options := do
  let draft ← Reader.record "struct ResolverOptions" fields ⟨none, none⟩ fuel depth
  return ⟨draft.maxVersion.getD none, draft.allowUndefined.getD false⟩

def parse (text : String) : Except Json.Failure Options :=
  Reader.document (fun fuel => read fuel Reader.maxDepth) text

end Resolver.Options

/-! ## Documents -/

namespace Document

/-- A document of which some fields have been read. -/
structure Draft where
  source : Option String
  content : Option Value

def fields (fuel depth : Nat) : List (Reader.Field Draft) :=
  [{ name := "source"
     isOptional := false
     isRead := (·.source.isSome)
     read := fun draft => do return { draft with source := some (← Reader.string) } },
   { name := "content"
     isOptional := false
     isRead := (·.content.isSome)
     read := fun draft => do return { draft with content := some (← Reader.value fuel depth) } }]

def read (fuel depth : Nat) : Reader Document := do
  let draft ←
    Reader.record "struct DocumentInput" (fields fuel (depth - 1)) ⟨none, none⟩ fuel depth
  match draft.source, draft.content with
  | some source, some content => return ⟨source, content⟩
  | _, _ => Reader.mismatch (.missingField "source")

def parseList (text : String) : Except Json.Failure (List Document) :=
  Reader.document
    (fun fuel => Reader.list (read fuel (Reader.maxDepth - 1)) fuel Reader.maxDepth) text

end Document

/-! ## Results -/

def termsJson (terms : Table Identifier) : Value :=
  .object (terms.entries.map fun entry => (entry.1, .string entry.2.text))

/-- A scope as a value; undefined names are left out when there are none. -/
def Scope.toJson (scope : Scope) : Value :=
  .object
    ([("terms", termsJson scope.terms), ("prefixes", .ofTable scope.prefixes)] ++
      (if scope.undefined.isEmpty then [] else [("undefined", .ofTexts scope.undefined)]))

def Element.toJson (element : Element) : Value :=
  .object
    ([("document", .string element.document), ("index", .ofNat element.index)] ++
      (element.id.toList.map fun id => ("id", .string id)) ++
      [("kind", .string element.kind.code), ("dtdlVersion", .ofNat element.language),
        ("affiliates", .ofTexts element.affiliates), ("scope", element.scope.toJson)] ++
      (if element.types.isEmpty then [] else [("types", .ofTexts element.types)]))

def Version.toJson (version : Version) : Value :=
  .object [("major", .ofNat version.major), ("minor", .ofNat version.minor)]

def Vocabulary.toJson (vocabulary : Vocabulary) : Value :=
  .object
    [("major_version", .ofNat vocabulary.version.major),
      ("minor_version", .ofNat vocabulary.version.minor),
      ("term_definitions", termsJson vocabulary.terms),
      ("prefix_definitions", .ofTable vocabulary.prefixes)]

def Log.toJson (log : Log) : Value :=
  .object [("errors", .array (log.diagnostics.map Diagnostic.toJson))]

end Dtdl
