import Dtdl.Proofs.Forms
import Dtdl.Proofs.Grammar

/-!
# Legal references

The rules for references cut a text on their own, and so do the patterns that lay them down;
neither reads it as an identifier first.  A text might then be legal and still not be read, because
a label is empty or a number is too large, or its parts might be other ones than those that are
read.

The main statement is that this is not so.  The legal references are the identifiers whose parts,
as `Dtmi.parse?` reads them, keep the rules of the version of the language: how long the whole is,
which characters a label holds and begins and ends with, and how its version is written.
-/

namespace Dtdl.Dtmi

/-! ## The parts of a reference -/

/-- A number of up to some digits, the first of which is not 0. -/
structure PlainNumber (width : Nat) (digits : String) : Prop where
  decimal : ∀ c ∈ digits.toList, c.isDigit = true
  written : 1 ≤ digits.length
  short : digits.length ≤ width
  leads : digits.toList.head? ≠ some '0'

/-- What a version of the language asks of a label.  From version 3 on it may start with an
underscore. -/
structure LegalLabel (language : Nat) (label : String) : Prop where
  characters : ∀ c ∈ label.toList, c.isAlpha = true ∨ c.isDigit = true ∨ c = '_'
  starts : ∃ c ∈ label.toList.head?, c.isAlpha = true ∨ 3 ≤ language ∧ c = '_'
  ends : ∃ c ∈ label.toList.getLast?, c.isAlpha = true ∨ c.isDigit = true

/-- What a version of the language asks of the parts of an identifier.  From version 3 on a minor
number may follow the major one, and a fragment the version. -/
structure Legal (language : Nat) (dtmi : Dtmi) : Prop where
  labels : ∀ label ∈ dtmi.labels, LegalLabel language label
  major : ∀ suffix ∈ dtmi.suffix, PlainNumber 9 suffix.major
  minor : ∀ suffix ∈ dtmi.suffix, ∀ minor ∈ suffix.minor,
    3 ≤ language ∧ (minor = "0" ∨ PlainNumber 6 minor)
  fragment : ∀ fragment ∈ dtmi.fragment, 3 ≤ language ∧ LegalLabel language fragment

theorem plainNumber_iff {width : Nat} {digits : String} :
    PlainNumber width digits ↔ isPlainNumeral width digits.toList = true := by
  simp only [isPlainNumeral, Bool.and_eq_true, List.all_eq_true, decide_eq_true_eq,
    Option.any_eq_true, String.length_toList]
  constructor
  · intro plain
    refine ⟨⟨plain.decimal, plain.short⟩, ?_⟩
    cases leads : digits.toList.head? with
    | none =>
        have written := plain.written
        rw [← String.length_toList, List.head?_eq_none_iff.mp leads] at written
        contradiction
    | some first => exact ⟨first, rfl, fun zero => plain.leads (zero ▸ leads)⟩
  · rintro ⟨⟨decimal, short⟩, first, leads, nonzero⟩
    obtain ⟨rest, split⟩ := List.head?_eq_some_iff.mp leads
    refine ⟨decimal, ?_, short, ?_⟩
    · rw [← String.length_toList, split]
      exact Nat.le_add_left 1 rest.length
    · rw [leads]
      simpa using nonzero

theorem legalLabel_iff {language : Nat} {label : String} :
    LegalLabel language label ↔ isLabel language label.toList = true := by
  rw [isLabel_iff]
  simp only [isLabelChar, Char.isAlphanum, Bool.or_eq_true, decide_eq_true_eq, or_assoc]
  constructor
  · intro legal
    exact ⟨legal.characters, legal.starts, legal.ends⟩
  · intro legal
    obtain ⟨characters, starts, ends⟩ := legal
    exact ⟨characters, starts, ends⟩

section Parsed

variable {language : Nat} {text : String} {dtmi : Dtmi}

theorem isReferenceVersion_iff {suffix : Suffix}
    (numbered : Suffix.parse? suffix.text.toList = some suffix) :
    isReferenceVersion language suffix.text.toList = true ↔
      PlainNumber 9 suffix.major ∧
        ∀ minor ∈ suffix.minor, 3 ≤ language ∧ (minor = "0" ∨ PlainNumber 6 minor) := by
  obtain ⟨cut, -, -⟩ := Suffix.parse?_eq_some numbered
  rw [isReferenceVersion, cut]
  obtain ⟨major, minor⟩ := suffix
  have zero (digits : String) : digits.toList = ['0'] ↔ digits = "0" :=
    ⟨fun same => String.toList_injective same, fun same => same ▸ rfl⟩
  cases minor with
  | none => simp [plainNumber_iff]
  | some minor =>
      simp [plainNumber_iff, zero, Nat.lt_iff_add_one_le, and_left_comm, and_assoc]

theorem isReference_of_parse? (parsed : parse? text = some dtmi) :
    isReference language text = true ↔
      text.utf8ByteSize ≤ referenceLimit language ∧ Legal language dtmi := by
  obtain ⟨path, written, labels, noSemicolon, noNumberSign⟩ := exists_path_of_parse? parsed
  obtain ⟨-, numbered, -⟩ := parts_of_parse? parsed
  obtain ⟨outer, inner⟩ := cut_path noSemicolon noNumberSign numbered
  -- From here on the rules and the reader look at the same three pieces of the text.
  have pieces : (Text.pieces ':' path).all (isLabel language) = true ↔
      ∀ label ∈ dtmi.labels, LegalLabel language label := by
    simp [labels, legalLabel_iff]
  have version : (dtmi.suffix.map (·.text.toList)).all (isReferenceVersion language) = true ↔
      (∀ suffix ∈ dtmi.suffix, PlainNumber 9 suffix.major) ∧
        ∀ suffix ∈ dtmi.suffix, ∀ minor ∈ suffix.minor,
          3 ≤ language ∧ (minor = "0" ∨ PlainNumber 6 minor) := by
    cases marked : dtmi.suffix with
    | none => simp
    | some suffix => simpa using isReferenceVersion_iff (numbered suffix marked)
  have fragment : (dtmi.fragment.map String.toList).all
        (fun label => 2 < language && isLabel language label) = true ↔
      ∀ fragment ∈ dtmi.fragment, 3 ≤ language ∧ LegalLabel language fragment := by
    cases dtmi.fragment <;> simp [legalLabel_iff, Nat.lt_iff_add_one_le]
  rw [isReference, written, List.append_assoc, Text.after?_append]
  simp only [outer, inner, Bool.and_eq_true, decide_eq_true_eq, pieces, version, fragment]
  refine and_congr_right fun _ => ⟨?_, ?_⟩
  · rintro ⟨⟨labels, major, minor⟩, fragment⟩
    exact ⟨labels, major, minor, fragment⟩
  · intro legal
    exact ⟨⟨legal.labels, legal.major, legal.minor⟩, legal.fragment⟩

end Parsed

/-! ## Numbers -/

/-- A numeral stands for a number below the power of ten that its length gives.  The induction is
on the numeral from its last digit. -/
theorem decimal_lt {digits : List Char} (numerals : ∀ c ∈ digits, c.isDigit = true) :
    Text.decimal digits < 10 ^ digits.length := by
  induction digits using List.reverseRecOn with
  | nil => decide
  | append_singleton front digit ih =>
      have front' := ih fun c held => numerals c (List.mem_append_left [digit] held)
      have small := (Text.digitChar_value (numerals digit (by simp))).1
      have value : Text.decimal (front ++ [digit]) =
          Text.decimal front * 10 + (digit.toNat - '0'.toNat) := by
        simp [Text.decimal]
      rw [value, List.length_append, List.length_singleton, Nat.pow_succ]
      omega

theorem decimal_of_plain {width : Nat} {digits : List Char}
    (plain : isPlainNumeral width digits = true) :
    0 < Text.decimal digits ∧ Text.decimal digits < 10 ^ width := by
  simp only [isPlainNumeral, Bool.and_eq_true, decide_eq_true_eq] at plain
  obtain ⟨⟨numerals, short⟩, leads⟩ := plain
  refine ⟨(Text.toDigits_decimal numerals leads).2, ?_⟩
  calc
    Text.decimal digits < 10 ^ digits.length := decimal_lt (List.all_eq_true.mp numerals)
    _ ≤ 10 ^ width := Nat.pow_le_pow_right (by decide) short

theorem isNumeral_of_plain {width : Nat} (narrow : width ≤ 9) {digits : List Char}
    (plain : isPlainNumeral width digits = true) : Suffix.isNumeral digits = true := by
  obtain ⟨-, small⟩ := decimal_of_plain plain
  have fits : Text.decimal digits ≤ Version.limit := by
    have bound : 10 ^ width ≤ 10 ^ 9 := Nat.pow_le_pow_right (by decide) narrow
    have limit : 10 ^ 9 ≤ Version.limit := by decide
    omega
  simp only [isPlainNumeral, Bool.and_eq_true] at plain
  have written : digits.isEmpty = false := by
    cases digits with
    | nil => simp at plain
    | cons first rest => rfl
  simp [Suffix.isNumeral, written, plain.1.1, fits]

theorem exists_suffix_of_isReferenceVersion {language : Nat} {text : List Char}
    (legal : isReferenceVersion language text = true) :
    ∃ suffix, Suffix.parse? text = some suffix := by
  rw [isReferenceVersion] at legal
  rw [Suffix.parse?]
  cases cut : Text.cut '.' text with
  | mk major minor =>
      rw [cut] at legal
      cases minor with
      | none =>
          have numeral := isNumeral_of_plain (le_refl 9) legal
          exact ⟨_, if_pos (by simp [numeral])⟩
      | some minor =>
          simp only [Bool.and_eq_true, Bool.or_eq_true, decide_eq_true_eq] at legal
          obtain ⟨⟨-, plain⟩, allowed⟩ := legal
          have majorNumeral := isNumeral_of_plain (le_refl 9) plain
          have minorNumeral : Suffix.isNumeral minor = true := by
            rcases allowed with rfl | plain
            · decide
            · exact isNumeral_of_plain (by decide) plain
          exact ⟨_, if_pos (by simp [majorNumeral, minorNumeral])⟩

theorem exists_parse?_of_isReference {language : Nat} {text : String}
    (legal : isReference language text = true) : ∃ dtmi, parse? text = some dtmi := by
  rw [isReference, Bool.and_eq_true] at legal
  cases found : Text.after? lead.toList text.toList with
  | none => simp [found] at legal
  | some body =>
      simp only [found, Bool.and_eq_true, List.all_eq_true, Option.all_eq_true,
        decide_eq_true_eq] at legal
      obtain ⟨-, ⟨labels, version⟩, fragment⟩ := legal
      have whole : (Text.pieces ':' (Text.cut ';' (Text.cut '#' body).1).1).any
          List.isEmpty = false := by
        rw [List.any_eq_false]
        intro piece listed empty
        have legal := labels piece listed
        rw [List.isEmpty_iff.mp empty] at legal
        contradiction
      have single : (Text.cut '#' body).2.any (·.contains '#') = false := by
        cases marked : (Text.cut '#' body).2 with
        | none => rfl
        | some label =>
            have each := (isLabel_iff.mp (fragment label marked).2).1
            have absent : '#' ∉ label := by
              intro held
              have legal := each '#' held
              contradiction
            simpa using absent
      rw [parse?, found]
      simp only [Option.bind_eq_bind, Option.bind_some, whole, single, Bool.false_eq_true,
        if_false]
      cases written : (Text.cut ';' (Text.cut '#' body).1).2 with
      | none => exact ⟨_, rfl⟩
      | some text =>
          obtain ⟨suffix, numbered⟩ :=
            exists_suffix_of_isReferenceVersion (version text written)
          simp [numbered]

/-- The version of a legal reference is small, and it counts as one if it is written. -/
theorem Legal.version {language : Nat} {dtmi : Dtmi} (legal : Legal language dtmi) :
    dtmi.version.major ≤ 999999999 ∧ dtmi.version.minor ≤ 999999 ∧
      dtmi.isVersioned = dtmi.suffix.isSome := by
  rw [isVersioned, Dtmi.version]
  cases marked : dtmi.suffix with
  | none => decide
  | some suffix =>
      obtain ⟨positive, small⟩ := decimal_of_plain (plainNumber_iff.mp (legal.major suffix marked))
      have minor : suffix.version.minor ≤ 999999 := by
        rw [Suffix.version]
        cases written : suffix.minor with
        | none => exact Nat.zero_le _
        | some minor =>
            rcases (legal.minor suffix marked minor written).2 with rfl | plain
            · change Text.decimal ['0'] ≤ 999999
              decide
            · have small := (decimal_of_plain (plainNumber_iff.mp plain)).2
              exact Nat.le_of_lt_succ small
      refine ⟨Nat.le_of_lt_succ small, minor, ?_⟩
      have major : suffix.version.major ≠ 0 := Nat.ne_of_gt positive
      simpa using major

/-- A text is a legal reference in a version of the language exactly if it is short enough and has
the form that the pattern of that version describes, and also exactly if it is short enough and is
read as an identifier whose parts keep the rules of that version.  Its numbers are then small
enough to be read, and it counts as versioned if and only if a version is written. -/
theorem accepts_iff_legal (language : Nat) (text : String) :
    (Rules.released.accepts language text = true ↔
      text.utf8ByteSize ≤ (if language ≤ 2 then 2048 else 4096) ∧
        text.toList ∈ referencePattern language) ∧
    (Rules.released.accepts language text = true ↔
      ∃ dtmi, parse? text = some dtmi ∧
        text.utf8ByteSize ≤ (if language ≤ 2 then 2048 else 4096) ∧ Legal language dtmi) ∧
    (Rules.released.accepts language text = true →
      ∃ dtmi, parse? text = some dtmi ∧
        dtmi.version.major ≤ 999999999 ∧ dtmi.version.minor ≤ 999999 ∧
        dtmi.isVersioned = dtmi.suffix.isSome) := by
  have parts : isReference language text = true ↔
      ∃ dtmi, parse? text = some dtmi ∧
        text.utf8ByteSize ≤ referenceLimit language ∧ Legal language dtmi := by
    constructor
    · intro legal
      obtain ⟨dtmi, parsed⟩ := exists_parse?_of_isReference legal
      exact ⟨dtmi, parsed, (isReference_of_parse? parsed).mp legal⟩
    · rintro ⟨dtmi, parsed, legal⟩
      exact (isReference_of_parse? parsed).mpr legal
  refine ⟨isReference_iff_mem_pattern, parts, fun legal => ?_⟩
  obtain ⟨dtmi, parsed, -, legal⟩ := parts.mp legal
  exact ⟨dtmi, parsed, legal.version⟩

/-- A reference of version 3 with leading underscores, a minor number and a fragment; in version 2
it is none. -/
theorem accepts_iff_legal_contents :
    let text := "dtmi:com:_contents:__temp;12.0#_9f"
    Rules.released.accepts 3 text = true ∧ Rules.released.accepts 2 text = false ∧
      text.toList ∈ referencePattern 3 ∧ text.toList ∉ referencePattern 2 ∧
      ∃ dtmi, parse? text = some dtmi ∧ Legal 3 dtmi := by
  intro text
  have accepted : Rules.released.accepts 3 text = true := by decide +kernel
  have refused : Rules.released.accepts 2 text = false := by decide +kernel
  have short : text.utf8ByteSize ≤ 2048 := by decide +kernel
  obtain ⟨late, parts, -⟩ := accepts_iff_legal 3 text
  obtain ⟨dtmi, parsed, -, legal⟩ := parts.mp accepted
  refine ⟨accepted, refused, (late.mp accepted).2, ?_, dtmi, parsed, legal⟩
  intro admitted
  rw [(accepts_iff_legal 2 text).1.mpr ⟨short, admitted⟩] at refused
  contradiction

end Dtdl.Dtmi
