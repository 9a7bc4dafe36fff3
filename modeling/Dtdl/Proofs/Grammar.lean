import Dtdl.Proofs.References

/-!
# The grammar of identifiers

`Dtmi.parse?` takes a text apart by cutting it at its marks, one mark after the other.  Here the
same language is described the other way round, by what its texts are put together from:

* labels, at least one, none of them empty, with colons between them;
* then a semicolon, a major number and perhaps a dot and a minor number;
* then a number sign and a fragment.

Any mark may stand in a fragment, apart from the one that starts it, and a number may have leading
zeros.  The main statement is that this makes no text ambiguous: what is read is the one way in
which the text is put together.
-/

namespace Dtdl.Dtmi

/-- The number that decimal digits stand for. -/
def value (digits : String) : Nat := Nat.ofDigitChars 10 digits.toList 0

/-- Decimal digits, perhaps with leading zeros, of a number that fits 32 bits. -/
structure Numeral (digits : String) : Prop where
  written : digits ≠ ""
  decimal : ∀ c ∈ digits.toList, c.isDigit = true
  fits : value digits ≤ 4294967295

/-- The characters of a label are other ones than the marks around it. -/
structure Label (label : String) : Prop where
  written : label ≠ ""
  unmarked : ∀ c ∈ label.toList, c ≠ ':' ∧ c ≠ ';' ∧ c ≠ '#'

/-- How the parts of an identifier are put together to a text. -/
structure Spells (dtmi : Dtmi) (text : String) : Prop where
  named : dtmi.labels ≠ []
  labels : ∀ label ∈ dtmi.labels, Label label
  major : ∀ suffix ∈ dtmi.suffix, Numeral suffix.major
  minor : ∀ suffix ∈ dtmi.suffix, ∀ minor ∈ suffix.minor, Numeral minor
  fragment : ∀ fragment ∈ dtmi.fragment, '#' ∉ fragment.toList
  whole : text = "dtmi:" ++ ":".intercalate dtmi.labels ++
    (dtmi.suffix.elim "" fun suffix =>
      ";" ++ suffix.major ++ suffix.minor.elim "" fun minor => "." ++ minor) ++
    dtmi.fragment.elim "" fun fragment => "#" ++ fragment

/-! ## Numbers -/

theorem numeral_iff {digits : String} :
    Numeral digits ↔ Suffix.isNumeral digits.toList = true := by
  have same : Text.decimal digits.toList = value digits := Text.decimal_eq_ofDigitChars _
  simp only [Suffix.isNumeral, same, Bool.and_eq_true, List.all_eq_true, decide_eq_true_eq,
    Version.limit, Bool.not_eq_true', List.isEmpty_eq_false_iff, ne_eq, String.toList_eq_nil_iff]
  constructor
  · intro numeral
    exact ⟨⟨numeral.written, numeral.decimal⟩, numeral.fits⟩
  · intro numeral
    exact ⟨numeral.1.1, numeral.1.2, numeral.2⟩

theorem Suffix.parse?_text_iff {suffix : Suffix} :
    parse? suffix.text.toList = some suffix ↔
      Numeral suffix.major ∧ ∀ minor ∈ suffix.minor, Numeral minor := by
  simp only [numeral_iff]
  constructor
  · intro parsed
    exact (parse?_eq_some parsed).2
  · intro numerals
    obtain ⟨major, minor⟩ := suffix
    have noDot : '.' ∉ major.toList := by
      intro dot
      have digit := (numeral_iff.mpr numerals.1).decimal '.' dot
      contradiction
    have cut : Text.cut '.' (Suffix.mk major minor).text.toList =
        (major.toList, minor.map String.toList) := by
      cases minor with
      | none => exact Text.cut_of_not_mem noDot
      | some minor => simpa [Suffix.text] using Text.cut_append noDot minor.toList
    have read : (minor.map String.toList).all isNumeral = true := by
      simpa [Option.all_eq_true] using numerals.2
    rw [parse?, cut]
    simp [numerals.1, read]

theorem version_eq (dtmi : Dtmi) :
    dtmi.version.major = dtmi.suffix.elim 0 (fun suffix => value suffix.major) ∧
      dtmi.version.minor = (dtmi.suffix.bind Suffix.minor).elim 0 value := by
  have same (digits : String) : Text.decimal digits.toList = value digits :=
    Text.decimal_eq_ofDigitChars _
  rw [version]
  cases dtmi.suffix with
  | none => exact ⟨rfl, rfl⟩
  | some suffix =>
      refine ⟨same suffix.major, ?_⟩
      cases written : suffix.minor with
      | none => simp [Suffix.version, written]
      | some minor => simp [Suffix.version, written, same]

/-! ## Names -/

theorem name_eq (dtmi : Dtmi) : dtmi.name = "dtmi:" ++ ":".intercalate dtmi.labels := by
  have path : String.ofList (Text.joined ':' (dtmi.labels.map String.toList)) =
      ":".intercalate dtmi.labels := by
    apply String.toList_injective
    simp [Text.joined_eq_intercalate]
  rw [name, lead, path]

/-- The one equation of the grammar is how an identifier is written. -/
theorem text_eq (dtmi : Dtmi) :
    dtmi.text = "dtmi:" ++ ":".intercalate dtmi.labels ++
      (dtmi.suffix.elim "" fun suffix =>
        ";" ++ suffix.major ++ suffix.minor.elim "" fun minor => "." ++ minor) ++
      dtmi.fragment.elim "" fun fragment => "#" ++ fragment := by
  have version (suffix : Suffix) : suffix.text =
      suffix.major ++ suffix.minor.elim "" fun minor => "." ++ minor := by
    rw [Suffix.text]
    cases suffix.minor <;> simp [String.append_assoc]
  simp only [text, name_eq, tail, version, String.append_assoc]

/-! ## Reading -/

section Reading

variable {text : String} {dtmi : Dtmi}

theorem spells_of_parse? (parsed : parse? text = some dtmi) : Spells dtmi text := by
  obtain ⟨path, -, labels, noSemicolon, noNumberSign⟩ := exists_path_of_parse? parsed
  obtain ⟨whole, numbered, plain⟩ := parts_of_parse? parsed
  constructor
  case named =>
    rw [labels, ne_eq, List.map_eq_nil_iff]
    exact Text.pieces_ne_nil ':' path
  case labels =>
    intro label member
    refine ⟨whole label member, ?_⟩
    rw [labels] at member
    obtain ⟨piece, listed, rfl⟩ := List.mem_map.mp member
    intro c held
    rw [String.toList_ofList] at held
    obtain ⟨inPath, notColon⟩ := Text.mem_of_mem_pieces listed c held
    exact ⟨notColon, fun same => noSemicolon (same ▸ inPath),
      fun same => noNumberSign (same ▸ inPath)⟩
  case major =>
    intro suffix marked
    exact (Suffix.parse?_text_iff.mp (numbered suffix marked)).1
  case minor =>
    intro suffix marked
    exact (Suffix.parse?_text_iff.mp (numbered suffix marked)).2
  case fragment => exact plain
  case whole => rw [← text_eq, text_of_parse? parsed]

theorem Spells.text_eq (spells : Spells dtmi text) : dtmi.text = text := by
  rw [Dtmi.text_eq, spells.whole]

/-- The labels of an identifier are what the colons part its path into. -/
theorem Spells.pieces_eq (spells : Spells dtmi text) :
    Text.pieces ':' (Text.joined ':' (dtmi.labels.map String.toList)) =
      dtmi.labels.map String.toList := by
  apply Text.pieces_joined
  · simpa using spells.named
  · intro part listed colon
    obtain ⟨label, member, rfl⟩ := List.mem_map.mp listed
    exact ((spells.labels label member).unmarked ':' colon).1 rfl

theorem Spells.not_mem_path (spells : Spells dtmi text) :
    ∀ c ∈ Text.joined ':' (dtmi.labels.map String.toList), c ≠ ';' ∧ c ≠ '#' := by
  intro c held
  rcases Text.mem_of_mem_joined held with colon | ⟨part, listed, inside⟩
  · rw [colon]
    decide
  · obtain ⟨label, member, rfl⟩ := List.mem_map.mp listed
    exact ((spells.labels label member).unmarked c inside).2

theorem parse?_of_spells (spells : Spells dtmi text) : parse? text = some dtmi := by
  have written : text.toList =
      lead.toList ++ (Text.joined ':' (dtmi.labels.map String.toList) ++ dtmi.tail.toList) := by
    rw [← spells.text_eq, Dtmi.text, name, String.toList_append, String.toList_append,
      String.toList_ofList, List.append_assoc]
  refine parse?_of_path written ?labels ?noSemicolon ?noNumberSign ?whole ?numbered
    spells.fragment
  case labels =>
    rw [spells.pieces_eq]
    simp
  case noSemicolon =>
    intro held
    exact (spells.not_mem_path ';' held).1 rfl
  case noNumberSign =>
    intro held
    exact (spells.not_mem_path '#' held).2 rfl
  case whole =>
    intro label member
    exact (spells.labels label member).written
  case numbered =>
    intro suffix marked
    exact Suffix.parse?_text_iff.mpr ⟨spells.major suffix marked, spells.minor suffix marked⟩

end Reading

/-- A text is read if and only if it is put together as the grammar says, and what is read are the
parts that it is put together from.  Written again they are the text, the name of the identifier
is what stands before the version, the numbers are those that are written, leading zeros or not,
and there is no other way to put the text together.  Without its version and its fragment the
identifier is read as the same labels. -/
theorem parse?_grammar (text : String) (dtmi : Dtmi) :
    (parse? text = some dtmi ↔ Spells dtmi text) ∧
    (Spells dtmi text →
      dtmi.text = text ∧
      dtmi.name = "dtmi:" ++ ":".intercalate dtmi.labels ∧
      dtmi.version.major = dtmi.suffix.elim 0 (fun suffix => value suffix.major) ∧
      dtmi.version.minor = (dtmi.suffix.bind Suffix.minor).elim 0 value ∧
      (∀ other, Spells other text → other = dtmi) ∧
      ∃ family, parse? dtmi.name = some family ∧ family.labels = dtmi.labels ∧
        family.version = ⟨0, 0⟩ ∧ family.fragment = none) := by
  refine ⟨⟨spells_of_parse?, parse?_of_spells⟩, fun spells => ?_⟩
  obtain ⟨major, minor⟩ := version_eq dtmi
  refine ⟨spells.text_eq, name_eq dtmi, major, minor, ?unique, ?family⟩
  case unique =>
    intro other also
    have same : some other = some dtmi := by
      rw [← parse?_of_spells also, parse?_of_spells spells]
    exact Option.some.inj same
  case family =>
    refine ⟨⟨dtmi.labels, none, none⟩, parse?_of_spells ?_, rfl, rfl, rfl⟩
    exact { spells with
      major := by simp
      minor := by simp
      fragment := by simp
      whole := by simp [name_eq] }

/-- A number with a leading zero, and a fragment that holds the mark of a version. -/
theorem parse?_grammar_plant :
    let dtmi : Dtmi := ⟨["com", "example", "Plant"], some ⟨"03", some "1"⟩, some "a;b"⟩
    let text := "dtmi:com:example:Plant;03.1#a;b"
    Spells dtmi text ∧ dtmi.version = ⟨3, 1⟩ ∧
      (∀ other, Spells other text → other = dtmi) ∧
      ∃ family, parse? dtmi.name = some family ∧ family.labels = dtmi.labels := by
  intro dtmi text
  obtain ⟨reads, parts⟩ := parse?_grammar text dtmi
  have spells : Spells dtmi text := reads.mp (by decide +kernel)
  obtain ⟨-, -, -, -, unique, family, parsed, labels, -⟩ := parts spells
  exact ⟨spells, by decide +kernel, unique, family, parsed, labels⟩

end Dtdl.Dtmi
