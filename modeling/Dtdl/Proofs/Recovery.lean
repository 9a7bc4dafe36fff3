import Dtdl.Exchange.Records
import Dtdl.Proofs.Reading

/-!
# Diagnostics that were written

A diagnostic is written under names of its own: its kind by a code, its attributes and its document
only where there are some.  The reader goes by another list of names and another list of codes, and
has its own rules for what is missing.  What they agree on is that nothing is lost.  Every
diagnostic is read back from what is written for it, and also from an array of its four fields.
-/

namespace Dtdl.Diagnostic

open Json
open Json.Reader (Takes Fills FillsInOrder)

/-! ## Kinds -/

/-- No two kinds have the same code, and each is among those that are looked through. -/
theorem Kind.ofCode?_code (kind : Kind) : ofCode? kind.code = some kind := by
  cases kind <;> decide +kernel

theorem Kind.find_code (kind : Kind) : find kind.code = .ok kind := by
  rw [find, ofCode?_code]

theorem takes_kind (kind : Kind) (depth : Nat) (rest : List Char) :
    Takes (Kind.read depth) (Writer.quoted kind.code ++ rest) kind rest := by
  rw [Reader.quoted_append]
  refine (Reader.takes_nextSolid rfl _).bind ((Reader.takes_step _ _).bind ?_)
  refine (Reader.takes_stringBody kind.code rest).bind ?_
  simp only [Kind.find_code]
  exact Reader.takes_pure kind rest

/-! ## Fields -/

/-- The attributes of a diagnostic as a value. -/
def attributesJson (diagnostic : Diagnostic) : Value :=
  .object (diagnostic.attributes.entries.map fun entry => (entry.1, .string entry.2))

/-- A diagnostic as an array of its fields in order, with `null` for no document. -/
def toArray (diagnostic : Diagnostic) : Value :=
  .array [.string diagnostic.kind.code, .string diagnostic.cause, diagnostic.attributesJson,
    diagnostic.document.elim .null .string]

/-- The members of a diagnostic that is written as an object. -/
def members (diagnostic : Diagnostic) : List (String × Value) :=
  [("validationId", .string diagnostic.kind.code), ("cause", .string diagnostic.cause)] ++
    (if diagnostic.attributes.isEmpty then [] else [("attributes", diagnostic.attributesJson)]) ++
    (diagnostic.document.toList.map fun document => ("document", .string document))

theorem toJson_eq (diagnostic : Diagnostic) : diagnostic.toJson = .object diagnostic.members := rfl

theorem member?_attributes (diagnostic : Diagnostic) :
    diagnostic.toJson.member? "attributes" =
      if diagnostic.attributes.isEmpty then none else some diagnostic.attributesJson := by
  rw [toJson_eq, Value.member?, members]
  cases diagnostic.attributes.isEmpty <;> cases diagnostic.document <;> simp [Entries.find?]

theorem member?_document (diagnostic : Diagnostic) :
    diagnostic.toJson.member? "document" = diagnostic.document.map .string := by
  rw [toJson_eq, Value.member?, members]
  cases diagnostic.attributes.isEmpty <;> cases diagnostic.document <;> simp [Entries.find?]

def parts (diagnostic : Diagnostic) : List (List Char) :=
  diagnostic.members.map fun entry => Writer.member entry.1 (Writer.compact entry.2)

def items (diagnostic : Diagnostic) : List (List Char) :=
  [Writer.quoted diagnostic.kind.code, Writer.quoted diagnostic.cause,
    Writer.compact diagnostic.attributesJson,
    Writer.compact (diagnostic.document.elim .null .string)]

def Draft.start : Draft := ⟨none, none, none, none⟩

/-- The draft of a diagnostic from whose text what is empty was left out. -/
def draft (diagnostic : Diagnostic) : Draft where
  kind := some diagnostic.kind
  cause := some diagnostic.cause
  attributes := if diagnostic.attributes.isEmpty then none else some diagnostic.attributes
  document := diagnostic.document.map some

theorem attributes_draft (diagnostic : Diagnostic) :
    diagnostic.draft.attributes.getD .empty = diagnostic.attributes := by
  cases empty : diagnostic.attributes.isEmpty with
  | true =>
      rw [draft, empty]
      exact (Attributes.eq_empty empty).symm
  | false =>
      rw [draft, empty]
      rfl

theorem document_draft (diagnostic : Diagnostic) :
    diagnostic.draft.document.getD none = diagnostic.document := by
  rw [draft]
  cases diagnostic.document <;> rfl

section Fields

variable (diagnostic : Diagnostic) {fuel depth : Nat}

theorem takes_attributes (enough : diagnostic.attributes.entries.length ≤ fuel)
    (deep : 1 < depth) (draft : Draft) (rest : List Char) :
    Takes (do
        let entries ← Reader.stringMap fuel depth
        return { draft with attributes := some (Attributes.ofList entries) })
      (Writer.compact diagnostic.attributesJson ++ rest)
      { draft with attributes := some diagnostic.attributes } rest := by
  have entries := Reader.takes_stringMap enough deep diagnostic.attributes.names_nodup rest
  refine entries.bind ?_
  rw [Attributes.ofList_entries]
  exact Reader.takes_pure _ rest

theorem takes_document (document : Option String) (draft : Draft) (rest : List Char) :
    Takes (do return { draft with document := some (← Reader.optional Reader.string) })
      (Writer.compact (document.elim .null .string) ++ rest)
      { draft with document := some document } rest :=
  (Reader.takes_optional_string document rest).bind (Reader.takes_pure _ rest)

/-- The kind and the cause are read alike from an array and from an object.  An array holds the
other two fields even if they are empty. -/
theorem fills_array (enough : diagnostic.attributes.entries.length ≤ fuel) (deep : 1 < depth) :
    FillsInOrder (fields fuel depth) .start diagnostic.items
      ⟨some diagnostic.kind, some diagnostic.cause, some diagnostic.attributes,
        some diagnostic.document⟩ := by
  apply FillsInOrder.cons rfl (by decide)
  · intro rest
    exact (takes_kind diagnostic.kind depth rest).bind (Reader.takes_pure _ rest)
  apply FillsInOrder.cons rfl (by decide)
  · intro rest
    exact (Reader.takes_string diagnostic.cause rest).bind (Reader.takes_pure _ rest)
  -- An item is told from the end of the array by its first character.
  rw [attributesJson, Writer.compact]
  apply FillsInOrder.cons rfl (by decide)
  · exact diagnostic.takes_attributes enough deep _
  have document := takes_document diagnostic.document
  cases given : diagnostic.document with
  | none =>
      rw [given] at document
      exact .cons rfl (by decide) (document _) .nil
  | some text =>
      rw [given] at document
      exact .cons rfl (by decide) (document _) .nil

theorem fills_required :
    Fills (fields fuel depth) .start
      [Writer.member "validationId" (Writer.quoted diagnostic.kind.code),
        Writer.member "cause" (Writer.quoted diagnostic.cause)]
      ⟨some diagnostic.kind, some diagnostic.cause, none, none⟩ := by
  apply Fills.cons rfl rfl
  · intro rest
    exact (takes_kind diagnostic.kind depth rest).bind (Reader.takes_pure _ rest)
  apply Fills.cons rfl rfl
  · intro rest
    exact (Reader.takes_string diagnostic.cause rest).bind (Reader.takes_pure _ rest)
  exact .nil

theorem fills_attributes (enough : diagnostic.attributes.entries.length ≤ fuel) (deep : 1 < depth)
    (kind : Option Kind) (cause : Option String) :
    Fills (fields fuel depth) ⟨kind, cause, none, none⟩
      (if diagnostic.attributes.isEmpty then []
        else [Writer.member "attributes" (Writer.compact diagnostic.attributesJson)])
      ⟨kind, cause, if diagnostic.attributes.isEmpty then none else some diagnostic.attributes,
        none⟩ := by
  cases diagnostic.attributes.isEmpty with
  | true => exact .nil
  | false => exact .cons rfl rfl (diagnostic.takes_attributes enough deep _) .nil

theorem fills_document (kind : Option Kind) (cause : Option String)
    (attributes : Option Attributes) (document : Option String) :
    Fills (fields fuel depth) ⟨kind, cause, attributes, none⟩
      (document.toList.map fun document => Writer.member "document" (Writer.quoted document))
      ⟨kind, cause, attributes, document.map some⟩ := by
  cases document with
  | none => exact .nil
  | some text => exact .cons rfl rfl (takes_document (some text) _) .nil

theorem fills_object (enough : diagnostic.attributes.entries.length ≤ fuel) (deep : 1 < depth) :
    Fills (fields fuel depth) .start diagnostic.parts diagnostic.draft := by
  rw [parts, members, List.map_append, List.map_append, apply_ite (List.map _), List.map_map]
  exact (diagnostic.fills_required.append (diagnostic.fills_attributes enough deep _ _)).append
    (fills_document _ _ _ diagnostic.document)

end Fields

/-! ## Texts

The reader lets a container have as many parts as its document has characters, so what is written
must not be shorter than the number of its attributes. -/

section Texts

variable (diagnostic : Diagnostic) {fuel depth : Nat}

theorem compact_toJson :
    Writer.compact diagnostic.toJson =
      '\x7b' :: Writer.separated true diagnostic.parts ++ ['\x7d'] := by
  rw [toJson_eq, Writer.compact_object, parts]

theorem compact_toArray :
    Writer.compact diagnostic.toArray =
      '[' :: Writer.separated true diagnostic.items ++ [']'] := by
  rw [toArray, Writer.compact_array]
  rfl

theorem length_attributes_le :
    diagnostic.attributes.entries.length ≤ (Writer.compact diagnostic.attributesJson).length := by
  have counted := Writer.length_le_compact_object
    (diagnostic.attributes.entries.map fun entry => (entry.1, Value.string entry.2))
  rw [List.length_map] at counted
  exact counted

theorem length_attributes_le_toJson :
    diagnostic.attributes.entries.length ≤ (Writer.compact diagnostic.toJson).length := by
  have counted := diagnostic.length_attributes_le
  cases empty : diagnostic.attributes.isEmpty with
  | true =>
      rw [List.isEmpty_iff.mp empty]
      exact Nat.zero_le _
  | false =>
      have listed : Writer.member "attributes" (Writer.compact diagnostic.attributesJson) ∈
          diagnostic.parts := by
        simp [parts, members, empty]
      have contained := Writer.length_part_le_separated true listed
      rw [Writer.member, List.length_append, List.length_cons] at contained
      rw [compact_toJson, List.length_append, List.length_cons]
      omega

theorem length_attributes_le_toArray :
    diagnostic.attributes.entries.length ≤ (Writer.compact diagnostic.toArray).length := by
  have counted := diagnostic.length_attributes_le
  have listed : Writer.compact diagnostic.attributesJson ∈ diagnostic.items := by
    simp [items]
  have contained := Writer.length_part_le_separated true listed
  rw [compact_toArray, List.length_append, List.length_cons]
  omega

theorem takes_toJson (members : diagnostic.parts.length ≤ fuel)
    (attributes : diagnostic.attributes.entries.length ≤ fuel) (deep : 2 < depth) :
    Takes (read fuel depth) (Writer.compact diagnostic.toJson) diagnostic [] := by
  have inner : 1 < depth - 1 := by omega
  have fills := diagnostic.fills_object attributes inner
  have complete : ((fields fuel (depth - 1)).find? fun field =>
      !field.isOptional && !field.isRead diagnostic.draft) = none := rfl
  have whole : Takes (pure {
      diagnostic with
      attributes := diagnostic.draft.attributes.getD .empty
      document := diagnostic.draft.document.getD none }) [] diagnostic [] := by
    rw [attributes_draft, document_draft]
    exact Reader.takes_pure diagnostic []
  rw [compact_toJson]
  exact (Reader.takes_record_object fills complete members (by omega) []).bind whole

theorem takes_toArray (attributes : diagnostic.attributes.entries.length ≤ fuel)
    (deep : 2 < depth) :
    Takes (read fuel depth) (Writer.compact diagnostic.toArray) diagnostic [] := by
  have inner : 1 < depth - 1 := by omega
  have fills := diagnostic.fills_array attributes inner
  rw [compact_toArray]
  exact (Reader.takes_record_array fills (by omega) []).bind (Reader.takes_pure diagnostic [])

theorem parse_toJson : parse diagnostic.toJson.text = .ok diagnostic := by
  have many := Writer.length_le_compact_object diagnostic.members
  have attributes := diagnostic.length_attributes_le_toJson
  apply Reader.document_of_takes
  rw [Value.text, String.length_ofList, String.toList_ofList]
  apply takes_toJson
  · rw [parts, List.length_map]
    exact Nat.le_succ_of_le many
  · exact Nat.le_succ_of_le attributes
  · decide

theorem parse_toArray : parse diagnostic.toArray.text = .ok diagnostic := by
  have attributes := diagnostic.length_attributes_le_toArray
  apply Reader.document_of_takes
  rw [Value.text, String.length_ofList, String.toList_ofList]
  apply takes_toArray
  · exact Nat.le_succ_of_le attributes
  · decide

/-- What is written for a diagnostic is read back as it was, as is the array of its fields.  Only
what is empty is left out of the object. -/
theorem parse_written :
    parse diagnostic.toJson.text = .ok diagnostic ∧
    parse diagnostic.toArray.text = .ok diagnostic ∧
    ((diagnostic.toJson.member? "attributes").isSome ↔ diagnostic.attributes.entries ≠ []) ∧
    ((diagnostic.toJson.member? "document").isSome ↔ diagnostic.document ≠ none) := by
  refine ⟨diagnostic.parse_toJson, diagnostic.parse_toArray, ?attributes, ?document⟩
  case attributes =>
    rw [member?_attributes, Attributes.isEmpty]
    cases diagnostic.attributes.entries <;> simp
  case document =>
    rw [member?_document, Option.isSome_map]
    exact Option.isSome_iff_ne_none

end Texts

end Dtdl.Diagnostic
