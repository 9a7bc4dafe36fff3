import Dtdl.Text
import Dtdl.Version

/-!
# Digital twin model identifiers

An identifier is `dtmi:` followed by labels joined by colons, then optionally a
version after a semicolon, then optionally a fragment after a number sign.

`Dtmi.parse?` reads this structure and nothing else: which characters a label may
hold, how long an identifier may be and how its version may be written depends on the
language version that refers to it, and is decided in `Dtdl.Dtmi.Reference`.

The version is kept as it was written, so that `Dtmi.text` gives back exactly the
text that was read although `1`, `01` and `1.0` are one and the same version.
-/

namespace Dtdl

/-- The version part of an identifier as it was written, in decimal digits. -/
structure Dtmi.Suffix where
  major : String
  minor : Option String
  deriving DecidableEq, Repr

/-- A digital twin model identifier, taken apart. -/
structure Dtmi where
  labels : List String
  suffix : Option Dtmi.Suffix
  fragment : Option String
  deriving DecidableEq, Repr

namespace Dtmi

/-- The scheme word of identifiers; no term may bear this name. -/
def scheme : String := "dtmi"

/-- What every identifier begins with. -/
def lead : String := "dtmi:"

namespace Suffix

/-- The written form, without the leading semicolon. -/
def text (suffix : Suffix) : String :=
  match suffix.minor with
  | none => suffix.major
  | some minor => suffix.major ++ "." ++ minor

/-- The version that is meant; a minor number that is not written is 0. -/
def version (suffix : Suffix) : Version where
  major := Text.decimal suffix.major.toList
  minor := (suffix.minor.map fun digits => Text.decimal digits.toList).getD 0

/-- Whether a text is a decimal numeral that a version may hold. -/
def isNumeral (digits : List Char) : Bool :=
  !digits.isEmpty && digits.all Char.isDigit && Text.decimal digits ≤ Version.limit

/-- Read a major number and, after a dot, a minor number. -/
def parse? (text : List Char) : Option Suffix :=
  let parts := Text.cut '.' text
  if isNumeral parts.1 && parts.2.all isNumeral then
    some ⟨String.ofList parts.1, parts.2.map String.ofList⟩
  else none

end Suffix

/-- The identifier without version and fragment: the name of a family of versions. -/
def name (dtmi : Dtmi) : String :=
  lead ++ String.ofList (Text.joined ':' (dtmi.labels.map String.toList))

/-- What follows the name in the written form: the version and the fragment, each with
its mark. -/
def tail (dtmi : Dtmi) : String :=
  (dtmi.suffix.elim "" fun suffix => ";" ++ suffix.text) ++
    (dtmi.fragment.elim "" fun fragment => "#" ++ fragment)

def text (dtmi : Dtmi) : String := dtmi.name ++ dtmi.tail

/-- The version of an identifier; 0 stands for a number that is not written. -/
def version (dtmi : Dtmi) : Version :=
  (dtmi.suffix.map Suffix.version).getD ⟨0, 0⟩

/-- Whether an identifier names a version.  Major version 0 counts as none. -/
def isVersioned (dtmi : Dtmi) : Bool := dtmi.version.major != 0

/-- Take an identifier apart.  The fragment begins at the first number sign and may
hold a semicolon, so it is cut off before the version. -/
def parse? (text : String) : Option Dtmi := do
  let body ← Text.after? lead.toList text.toList
  let outer := Text.cut '#' body
  let inner := Text.cut ';' outer.1
  let labels := Text.pieces ':' inner.1
  if labels.any List.isEmpty then none
  else if outer.2.any (·.contains '#') then none
  else
    let fragment := outer.2.map String.ofList
    match inner.2 with
    | none => some ⟨labels.map String.ofList, none, fragment⟩
    | some version =>
        (Suffix.parse? version).map fun suffix =>
          ⟨labels.map String.ofList, some suffix, fragment⟩

theorem Suffix.text_of_parse? {text : List Char} {suffix : Suffix}
    (parsed : parse? text = some suffix) : suffix.text.toList = text := by
  simp only [parse?, Option.ite_none_right_eq_some] at parsed
  obtain ⟨-, same⟩ := parsed
  have rebuilt := Text.cut_rebuild '.' text
  rw [← Option.some.inj same]
  cases minor : (Text.cut '.' text).2 with
  | none => simpa [Suffix.text, minor] using rebuilt.symm
  | some digits => simpa [Suffix.text, minor] using rebuilt.symm

theorem toList_tail (dtmi : Dtmi) :
    dtmi.tail.toList = (dtmi.suffix.map (·.text.toList)).elim [] (';' :: ·) ++
      (dtmi.fragment.map String.toList).elim [] ('#' :: ·) := by
  rw [tail]
  cases dtmi.suffix <;> cases dtmi.fragment <;> simp

/-- Reading cuts a text at its marks: the path of the labels holds neither the mark of a
version nor that of a fragment. -/
theorem exists_path_of_parse? {text : String} {dtmi : Dtmi} (parsed : parse? text = some dtmi) :
    ∃ path, text.toList = lead.toList ++ path ++ dtmi.tail.toList ∧
      dtmi.labels = (Text.pieces ':' path).map String.ofList ∧ ';' ∉ path ∧ '#' ∉ path := by
  simp only [parse?, Option.bind_eq_bind, Option.bind_eq_some_iff] at parsed
  obtain ⟨body, found, parsed⟩ := parsed
  have outer := Text.cut_rebuild '#' body
  have noNumberSign := Text.not_mem_cut '#' body
  generalize Text.cut '#' body = parts at outer noNumberSign parsed
  obtain ⟨head, fragment⟩ := parts
  have inner := Text.cut_rebuild ';' head
  have noSemicolon := Text.not_mem_cut ';' head
  simp only at outer noNumberSign parsed
  generalize Text.cut ';' head = parts at inner noSemicolon parsed
  obtain ⟨path, version⟩ := parts
  simp only at inner noSemicolon parsed
  rw [inner, List.mem_append, not_or] at noNumberSign
  refine ⟨path, ?_, ?_, noSemicolon, noNumberSign.1⟩
  all_goals
    split at parsed
    · contradiction
    split at parsed
    · contradiction
    cases version with
    | none =>
        cases parsed
        cases fragment <;>
          simp [Text.eq_append_of_after? found, outer, inner, tail]
    | some version =>
        obtain ⟨suffix, read, same⟩ := Option.map_eq_some_iff.mp parsed
        cases same
        cases fragment <;>
          simp [Text.eq_append_of_after? found, outer, inner, tail, Suffix.text_of_parse? read]

theorem toList_name {dtmi : Dtmi} {path : List Char}
    (labels : dtmi.labels = (Text.pieces ':' path).map String.ofList) :
    dtmi.name.toList = lead.toList ++ path := by
  have back : String.toList ∘ String.ofList = id := funext fun _ => String.toList_ofList
  simp [name, labels, back]

/-- Writing an identifier gives back exactly the text that was read. -/
theorem text_of_parse? {text : String} {dtmi : Dtmi} (parsed : parse? text = some dtmi) :
    dtmi.text = text := by
  obtain ⟨path, written, labels, -, -⟩ := exists_path_of_parse? parsed
  apply String.toList_injective
  rw [Dtmi.text, String.toList_append, toList_name labels, written]

theorem name_prefix_of_parse? {text : String} {dtmi : Dtmi} (parsed : parse? text = some dtmi) :
    dtmi.name.toList <+: text.toList :=
  ⟨dtmi.tail.toList, by rw [← String.toList_append, ← text_of_parse? parsed, Dtmi.text]⟩

theorem lead_prefix_of_parse? {text : String} {dtmi : Dtmi} (parsed : parse? text = some dtmi) :
    lead.toList <+: text.toList := by
  obtain ⟨path, written, -, -, -⟩ := exists_path_of_parse? parsed
  exact ⟨path ++ dtmi.tail.toList, by rw [written, List.append_assoc]⟩

/-- The name of an identifier is what stands before the first mark of a version or of a
fragment. -/
theorem takeWhile_of_parse? {text : String} {dtmi : Dtmi} (parsed : parse? text = some dtmi) :
    text.toList.takeWhile (fun c => c ≠ ';' && c ≠ '#') = dtmi.name.toList := by
  obtain ⟨path, written, labels, noSemicolon, noNumberSign⟩ := exists_path_of_parse? parsed
  have leadClean : ∀ c ∈ lead.toList, (c ≠ ';' && c ≠ '#') = true := by
    simp [lead]
  have clean : ∀ c ∈ lead.toList ++ path, (c ≠ ';' && c ≠ '#') = true := by
    intro c member
    rcases List.mem_append.mp member with member | member
    · exact leadClean c member
    · have notSemicolon : c ≠ ';' := fun same => noSemicolon (same ▸ member)
      have notNumberSign : c ≠ '#' := fun same => noNumberSign (same ▸ member)
      simp [notSemicolon, notNumberSign]
  have stops : dtmi.tail.toList.takeWhile (fun c => c ≠ ';' && c ≠ '#') = [] := by
    rw [tail]
    cases dtmi.suffix <;> cases dtmi.fragment <;> simp
  rw [written, List.takeWhile_append_of_pos clean, toList_name labels, stops, List.append_nil]

end Dtmi

end Dtdl
