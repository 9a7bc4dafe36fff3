import Dtdl.Proofs.Ledger
import Mathlib.Data.List.Induction

/-!
# References to affiliates

An affiliate was referred to by some specifier, and it is reported under another one: its name
and its version, written anew.  The two differ where the first one had leading zeros or a minor
number 0, and nothing that was checked when the first one was resolved is a check of the second.

The main statement is that it makes no difference.  What is written anew is read back as the same
name and version, it is a legal reference wherever the first one was, and it is resolved to the
same affiliate; and different versions are never reported alike.
-/

namespace Dtdl

/-! ## Numerals -/

namespace Text

theorem decimal_eq_ofDigitChars (digits : List Char) :
    decimal digits = Nat.ofDigitChars 10 digits 0 := by
  rw [decimal, Nat.ofDigitChars_eq_foldl]
  simp only [Nat.mul_comm]

theorem decimal_toString (number : Nat) : decimal (toString number).toList = number := by
  rw [decimal_eq_ofDigitChars, Nat.toString_eq_repr, Nat.toList_repr,
    Nat.ofDigitChars_ten_toDigits]

theorem digitChar_value {digit : Char} (numeral : digit.isDigit = true) :
    digit.toNat - '0'.toNat < 10 ∧ Nat.digitChar (digit.toNat - '0'.toNat) = digit := by
  simp only [Char.isDigit, Bool.and_eq_true, decide_eq_true_eq, ge_iff_le, UInt32.le_iff_toNat_le]
    at numeral
  obtain ⟨above, below⟩ := numeral
  change 48 ≤ digit.toNat at above
  change digit.toNat ≤ 57 at below
  have small : digit.toNat - '0'.toNat < 10 := by
    change digit.toNat - 48 < 10
    omega
  refine ⟨small, Char.toNat_inj.mp ?_⟩
  rw [Nat.toNat_digitChar_of_lt_ten small]
  change 48 + (digit.toNat - 48) = digit.toNat
  omega

/-- A numeral that does not start with 0 is what its value is written as.  The induction is on
the numeral from its last digit. -/
theorem toDigits_decimal {digits : List Char} (numerals : digits.all Char.isDigit = true)
    (leads : digits.head?.any (· ≠ '0') = true) :
    Nat.toDigits 10 (decimal digits) = digits ∧ 0 < decimal digits := by
  induction digits using List.reverseRecOn with
  | nil => simp at leads
  | append_singleton front digit ih =>
      simp only [List.all_append, List.all_cons, List.all_nil, Bool.and_true,
        Bool.and_eq_true] at numerals
      obtain ⟨numerals, numeral⟩ := numerals
      obtain ⟨small, written⟩ := digitChar_value numeral
      have value : decimal (front ++ [digit]) =
          10 * decimal front + (digit.toNat - '0'.toNat) := by
        simp [decimal, Nat.mul_comm]
      rw [value]
      cases front with
      | nil =>
          have positive : 0 < digit.toNat - '0'.toNat := by
            rw [Nat.pos_iff_ne_zero]
            intro zero
            rw [zero] at written
            simp [← written] at leads
          have alone : decimal [] = 0 := rfl
          rw [alone, Nat.mul_zero, Nat.zero_add, Nat.toDigits_of_lt_base small, written]
          exact ⟨rfl, positive⟩
      | cons first rest =>
          obtain ⟨same, positive⟩ := ih numerals (by simpa using leads)
          rw [← Nat.toDigits_append_toDigits (by decide) positive small, same,
            Nat.toDigits_of_lt_base small, written]
          exact ⟨rfl, by omega⟩

end Text

/-! ## Versions -/

namespace Version

theorem not_mem_text {mark : Char} (notDigit : mark.isDigit = false) (notDot : mark ≠ '.')
    (version : Version) : mark ∉ version.text.toList := by
  have noMajor := not_mem_toString mark notDigit version.major
  have noMinor := not_mem_toString mark notDigit version.minor
  rw [text]
  split <;> simp_all

end Version

namespace Dtmi.Suffix

/-- The part of an identifier that a version is written as. -/
def ofVersion (version : Version) : Suffix :=
  ⟨toString version.major, if version.minor = 0 then none else some (toString version.minor)⟩

theorem version_ofVersion (version : Version) : (ofVersion version).version = version := by
  cases version with
  | mk major minor =>
      by_cases default : minor = 0
      · simp only [ofVersion, Suffix.version, default, if_true, Option.map_none,
          Option.getD_none, Text.decimal_toString]
      · simp only [ofVersion, Suffix.version, default, if_false, Option.map_some,
          Option.getD_some, Text.decimal_toString]

theorem isNumeral_toString {number : Nat} (small : number ≤ Version.limit) :
    isNumeral (toString number).toList = true := by
  have digits : ∀ c ∈ (toString number).toList, c.isDigit = true := by
    intro c member
    by_contra other
    exact Version.not_mem_toString c (by simpa using other) number member
  simp only [isNumeral, Text.decimal_toString, Bool.and_eq_true, List.all_eq_true,
    decide_eq_true_eq]
  refine ⟨⟨?_, digits⟩, small⟩
  simp [Nat.toString_eq_repr, Nat.toList_repr, Nat.toDigits_ne_nil]

theorem parse?_text {version : Version} (major : version.major ≤ Version.limit)
    (minor : version.minor ≤ Version.limit) :
    parse? version.text.toList = some (ofVersion version) := by
  have numerals := isNumeral_toString major
  rw [parse?, Version.cut_text]
  by_cases default : version.minor = 0
  · simp only [default, numerals, ofVersion, if_true, Option.all_none, Option.map_none,
      Bool.and_self, String.ofList_toList]
  · simp only [default, numerals, isNumeral_toString minor, ofVersion, if_true, if_false,
      Option.all_some, Option.map_some, Bool.and_self, String.ofList_toList]

section Parsed

variable {text : List Char} {suffix : Suffix} (parsed : parse? text = some suffix)

include parsed

/-- A suffix that was read holds two numerals, and the dot parts them. -/
theorem parse?_eq_some :
    Text.cut '.' text = (suffix.major.toList, suffix.minor.map String.toList) ∧
      isNumeral suffix.major.toList = true ∧
      ∀ minor ∈ suffix.minor, isNumeral minor.toList = true := by
  simp only [parse?, Option.ite_none_right_eq_some, Bool.and_eq_true, Option.all_eq_true,
    Option.some.injEq] at parsed
  obtain ⟨⟨major, minor⟩, rfl⟩ := parsed
  have back : String.toList ∘ String.ofList = id := funext fun _ => String.toList_ofList
  refine ⟨?cut, by simpa using major, ?minor⟩
  case cut => simp [back]
  case minor =>
    intro digits written
    obtain ⟨found, cut, rfl⟩ := Option.map_eq_some_iff.mp written
    simpa using minor found cut

theorem not_mem_text {mark : Char} (notDigit : mark.isDigit = false) (notDot : mark ≠ '.') :
    mark ∉ suffix.text.toList := by
  obtain ⟨-, major, minor⟩ := parse?_eq_some parsed
  have absent {digits : List Char} (numeral : isNumeral digits = true) : mark ∉ digits := by
    intro member
    simp only [isNumeral, Bool.and_eq_true, List.all_eq_true] at numeral
    simp [numeral.1.2 mark member] at notDigit
  rw [Suffix.text]
  cases written : suffix.minor with
  | none => exact absent major
  | some digits => simp [absent major, absent (minor digits written), notDot]

theorem version_le_of_parse? :
    suffix.version.major ≤ Version.limit ∧ suffix.version.minor ≤ Version.limit := by
  obtain ⟨-, major, minor⟩ := parse?_eq_some parsed
  simp only [isNumeral, Bool.and_eq_true, decide_eq_true_eq] at major minor
  refine ⟨major.2, ?_⟩
  rw [version]
  cases written : suffix.minor with
  | none => exact Nat.zero_le _
  | some digits => exact (minor digits written).2

/-- A legal version is written anew as it was, or a minor number 0 is left out. -/
theorem text_version {language : Nat} (legal : isReferenceVersion language text = true) :
    suffix.version.text = suffix.text ∨
      suffix.version.text = suffix.major ∧
        isPlainNumeral 9 suffix.major.toList = true := by
  obtain ⟨cut, -, -⟩ := parse?_eq_some parsed
  have again {digits : String} {width : Nat}
      (plain : isPlainNumeral width digits.toList = true) :
      toString (Text.decimal digits.toList) = digits ∧ 0 < Text.decimal digits.toList := by
    simp only [isPlainNumeral, Bool.and_eq_true] at plain
    obtain ⟨same, positive⟩ := Text.toDigits_decimal plain.1.1 plain.2
    refine ⟨String.toList_injective ?_, positive⟩
    rw [Nat.toString_eq_repr, Nat.toList_repr, same]
  rw [isReferenceVersion, cut] at legal
  obtain ⟨major, minor⟩ := suffix
  cases minor with
  | none =>
      left
      have plain : isPlainNumeral 9 major.toList = true := legal
      simp [Suffix.version, Suffix.text, Version.text, (again plain).1]
  | some minor =>
      simp only [Option.map_some, Bool.and_eq_true, Bool.or_eq_true, decide_eq_true_eq]
        at legal
      obtain ⟨⟨-, plain⟩, zero | plainMinor⟩ := legal
      · right
        have none : Text.decimal minor.toList = 0 := by
          rw [zero]
          rfl
        simp [Suffix.version, Version.text, none, (again plain).1, plain]
      · left
        obtain ⟨same, positive⟩ := again plainMinor
        simp [Suffix.version, Suffix.text, Version.text, (again plain).1, same,
          Nat.ne_of_gt positive]

end Parsed

end Dtmi.Suffix

/-! ## Identifiers with a version -/

namespace Dtmi

open Resolver (canonical toList_canonical)

theorem numberSign_not_mem {path : List Char} (noNumberSign : '#' ∉ path) (version : Version) :
    '#' ∉ path ++ ';' :: version.text.toList := by
  have noVersion : '#' ∉ version.text.toList :=
    Version.not_mem_text (by decide) (by decide) version
  simp [noNumberSign, noVersion]

theorem cut_path {dtmi : Dtmi} {path : List Char} (noSemicolon : ';' ∉ path)
    (noNumberSign : '#' ∉ path)
    (numbered : ∀ suffix ∈ dtmi.suffix, Suffix.parse? suffix.text.toList = some suffix) :
    let outer := Text.cut '#' (path ++ dtmi.tail.toList)
    outer.2 = dtmi.fragment.map String.toList ∧
      Text.cut ';' outer.1 = (path, dtmi.suffix.map (·.text.toList)) := by
  have noVersion :
      '#' ∉ path ++ (dtmi.suffix.map (·.text.toList)).elim [] (';' :: ·) := by
    refine Text.not_mem_marked noNumberSign (by decide) ?_
    intro written given
    obtain ⟨suffix, marked, rfl⟩ := Option.map_eq_some_iff.mp given
    exact Suffix.not_mem_text (numbered suffix marked) (by decide) (by decide)
  rw [toList_tail, ← List.append_assoc path, Text.cut_marked noVersion]
  exact ⟨rfl, Text.cut_marked noSemicolon _⟩

theorem parse?_of_path {text : String} {dtmi : Dtmi} {path : List Char}
    (written : text.toList = lead.toList ++ (path ++ dtmi.tail.toList))
    (labels : dtmi.labels = (Text.pieces ':' path).map String.ofList)
    (noSemicolon : ';' ∉ path) (noNumberSign : '#' ∉ path)
    (whole : ∀ label ∈ dtmi.labels, label ≠ "")
    (numbered : ∀ suffix ∈ dtmi.suffix, Suffix.parse? suffix.text.toList = some suffix)
    (plain : ∀ fragment ∈ dtmi.fragment, '#' ∉ fragment.toList) : parse? text = some dtmi := by
  have pieces : (Text.pieces ':' path).any List.isEmpty = false := by
    rw [labels] at whole
    simpa using whole
  have single : (dtmi.fragment.map String.toList).any (·.contains '#') = false := by
    cases marked : dtmi.fragment with
    | none => rfl
    | some fragment => simpa using plain fragment marked
  obtain ⟨outer, inner⟩ := cut_path noSemicolon noNumberSign numbered
  rw [parse?, written, Text.after?_append]
  simp only [Option.bind_eq_bind, Option.bind_some, outer, inner, pieces, single,
    Bool.false_eq_true, if_false, ← labels]
  obtain ⟨names, suffix, fragment⟩ := dtmi
  cases suffix with
  | none => simp
  | some suffix => simp [numbered suffix rfl]

section Written

variable {text : String} {path version : List Char}
variable (written : text.toList = lead.toList ++ (path ++ ';' :: version))
variable (noSemicolon : ';' ∉ path) (noNumberSign : '#' ∉ path ++ ';' :: version)

include written noSemicolon noNumberSign

/-- An identifier that is written without a fragment is measured by its length, its labels and its
version. -/
theorem isReference_of_written {language : Nat} :
    isReference language text = true ↔
      text.utf8ByteSize ≤ referenceLimit language ∧
        (Text.pieces ':' path).all (isLabel language) = true ∧
          isReferenceVersion language version = true := by
  rw [isReference, written, Text.after?_append]
  simp only [Text.cut_of_not_mem noNumberSign, Text.cut_append noSemicolon, Option.all_some,
    Option.all_none, Bool.and_true, Bool.and_eq_true, decide_eq_true_eq]

end Written

section Parsed

variable {text : String} {dtmi : Dtmi} (parsed : parse? text = some dtmi)

include parsed

/-- No label of an identifier that was read is empty, its version is what is written in it
between the marks, and its fragment holds no further mark. -/
theorem parts_of_parse? :
    (∀ label ∈ dtmi.labels, label ≠ "") ∧
      (∀ suffix ∈ dtmi.suffix, Suffix.parse? suffix.text.toList = some suffix) ∧
      ∀ fragment ∈ dtmi.fragment, '#' ∉ fragment.toList := by
  simp only [parse?, Option.bind_eq_bind, Option.bind_eq_some_iff] at parsed
  obtain ⟨body, -, parsed⟩ := parsed
  split at parsed
  · contradiction
  next labels =>
    have whole : ∀ label ∈ (Text.pieces ':' (Text.cut ';' (Text.cut '#' body).1).1).map
        String.ofList, label ≠ "" := by
      intro label member empty
      obtain ⟨piece, listed, rfl⟩ := List.mem_map.mp member
      have nothing : piece.isEmpty = true := by simpa using empty
      exact labels (List.any_eq_true.mpr ⟨piece, listed, nothing⟩)
    split at parsed
    · contradiction
    next single =>
      have plain : ∀ fragment ∈ (Text.cut '#' body).2.map String.ofList,
          '#' ∉ fragment.toList := by
        intro fragment listed held
        obtain ⟨text, cut, rfl⟩ := Option.map_eq_some_iff.mp listed
        exact single (by simpa [cut] using held)
      split at parsed
      · cases parsed
        exact ⟨whole, by simp, plain⟩
      · next version _ =>
          obtain ⟨suffix, read, same⟩ := Option.map_eq_some_iff.mp parsed
          cases same
          refine ⟨whole, fun other listed => ?_, plain⟩
          cases listed
          rw [Suffix.text_of_parse? read, read]

theorem version_le_of_parse? :
    dtmi.version.major ≤ Version.limit ∧ dtmi.version.minor ≤ Version.limit := by
  rw [version]
  cases suffix : dtmi.suffix with
  | none => exact ⟨Nat.zero_le _, Nat.zero_le _⟩
  | some written =>
      exact Suffix.version_le_of_parse? ((parts_of_parse? parsed).2.1 written suffix)

/-- The canonical specifier of an identifier has the same path, with its version written
anew. -/
theorem exists_path_canonical :
    ∃ path, dtmi.labels = (Text.pieces ':' path).map String.ofList ∧ ';' ∉ path ∧ '#' ∉ path ∧
      text.toList = lead.toList ++ (path ++ dtmi.tail.toList) ∧
      (canonical dtmi.name dtmi.version).toList =
        lead.toList ++ (path ++ ';' :: dtmi.version.text.toList) := by
  obtain ⟨path, written, labels, noSemicolon, noNumberSign⟩ := exists_path_of_parse? parsed
  refine ⟨path, labels, noSemicolon, noNumberSign, ?_, ?_⟩
  · rw [written, List.append_assoc]
  · rw [toList_canonical, toList_name labels, List.append_assoc]

theorem parse?_canonical :
    ∃ again, parse? (canonical dtmi.name dtmi.version) = some again ∧
      again.name = dtmi.name ∧ again.version = dtmi.version ∧ again.fragment = none := by
  obtain ⟨path, labels, noSemicolon, noNumberSign, -, written⟩ := exists_path_canonical parsed
  obtain ⟨major, minor⟩ := version_le_of_parse? parsed
  have read := Suffix.parse?_text major minor
  have anew := Suffix.text_of_parse? read
  refine ⟨⟨dtmi.labels, some (Suffix.ofVersion dtmi.version), none⟩, ?_, rfl, ?_, rfl⟩
  · refine parse?_of_path ?written labels noSemicolon noNumberSign
      (parts_of_parse? parsed).1 ?numbered (by simp)
    case written => simpa [toList_tail, anew] using written
    case numbered =>
      intro suffix same
      cases same
      rw [anew, read]
  · rw [version, Option.map_some, Option.getD_some, Suffix.version_ofVersion]

/-- A legal reference is one when its version is written anew, which does not make it longer. -/
theorem isReference_canonical {language : Nat} (whole : dtmi.fragment = none)
    (versioned : dtmi.isVersioned = true) (legal : isReference language text = true) :
    isReference language (canonical dtmi.name dtmi.version) = true := by
  obtain ⟨path, labels, noSemicolon, noNumberSign, original, written⟩ :=
    exists_path_canonical parsed
  obtain ⟨suffix, marked⟩ : ∃ suffix, dtmi.suffix = some suffix := by
    cases marked : dtmi.suffix with
    | none => simp [isVersioned, version, marked] at versioned
    | some suffix => exact ⟨suffix, rfl⟩
  have read := (parts_of_parse? parsed).2.1 suffix marked
  have means : dtmi.version = suffix.version := by
    rw [version, marked, Option.map_some, Option.getD_some]
  have tail : dtmi.tail = ";" ++ suffix.text := by
    simp [Dtmi.tail, marked, whole]
  have plain : '#' ∉ path ++ ';' :: suffix.text.toList := by
    have noVersion : '#' ∉ suffix.text.toList :=
      Suffix.not_mem_text read (by decide) (by decide)
    simp [noNumberSign, noVersion]
  have spelled : text.toList = lead.toList ++ (path ++ ';' :: suffix.text.toList) := by
    rw [original, tail, String.toList_append]
    rfl
  obtain ⟨short, pieces, number⟩ :=
    (isReference_of_written spelled noSemicolon plain).mp legal
  refine (isReference_of_written written noSemicolon
    (numberSign_not_mem noNumberSign _)).mpr ⟨?short, pieces, ?number⟩
  case short =>
    have size : suffix.version.text.utf8ByteSize ≤ suffix.text.utf8ByteSize := by
      rcases Suffix.text_version read number with same | ⟨same, -⟩
      · exact Nat.le_of_eq (by rw [same])
      · rw [same, Suffix.text]
        cases suffix.minor <;> simp [Nat.add_assoc]
    have whole := text_of_parse? parsed
    calc (canonical dtmi.name dtmi.version).utf8ByteSize
        ≤ text.utf8ByteSize := by
          rw [← whole, Dtmi.text, tail, canonical, means]
          simpa using size
      _ ≤ referenceLimit language := short
  case number =>
    rw [means]
    rcases Suffix.text_version read number with same | ⟨same, numeral⟩
    · rw [same]
      exact number
    · rw [same, isReferenceVersion, Text.cut_of_not_mem]
      · exact numeral
      · intro dot
        simp only [isPlainNumeral, Bool.and_eq_true, List.all_eq_true] at numeral
        exact absurd (numeral.1.1 '.' dot) (by decide)

theorem Rules.accepts_canonical {rules : Rules} {language : Nat} (whole : dtmi.fragment = none)
    (versioned : dtmi.isVersioned = true) (accepted : rules.accepts language text = true) :
    rules.accepts language (canonical dtmi.name dtmi.version) = true := by
  cases rules with
  | released => exact isReference_canonical parsed whole versioned accepted
  | structural =>
      obtain ⟨again, anew, -⟩ := parse?_canonical parsed
      rw [Rules.accepts, anew, Option.isSome_some]

end Parsed

end Dtmi

/-! ## Affiliates -/

namespace Resolver

/-- The semicolon that counts is the last one, since a version holds none. -/
theorem canonical_injective {left right : String} {one other : Version} :
    canonical left one = canonical right other ↔ left = right ∧ one = other := by
  constructor
  · intro same
    have plain (version : Version) : ';' ∉ version.text.toList.reverse := by
      simpa using version.semicolon_not_mem_text
    have backwards : one.text.toList.reverse ++ ';' :: left.toList.reverse =
        other.text.toList.reverse ++ ';' :: right.toList.reverse := by
      have reversed := congrArg (fun specifier : String => specifier.toList.reverse) same
      simpa [toList_canonical] using reversed
    have cuts := congrArg (Text.cut ';') backwards
    rw [Text.cut_append (plain one), Text.cut_append (plain other), Prod.mk.injEq,
      Option.some.injEq, List.reverse_inj, List.reverse_inj, String.toList_inj,
      String.toList_inj] at cuts
    exact ⟨cuts.2, Version.text_injective cuts.1⟩
  · rintro ⟨rfl, rfl⟩
    rfl

variable {resolver : Resolver} {component : Context.Component} {language : Nat}
variable {lenient : Bool} {affiliate : Context.Affiliate}

/-- The reference that an affiliate was found by. -/
theorem exists_reference_of_resolveAffiliate
    (resolved :
      (resolver.resolveAffiliate component language lenient).result = some (some affiliate)) :
    ∃ specifier dtmi history, Dtmi.parse? specifier = some dtmi ∧ dtmi.fragment = none ∧
      dtmi.isVersioned = true ∧ resolver.rules.accepts language specifier = true ∧
      dtmi.name ≠ Language.name ∧ resolver.history? dtmi.name = some history ∧
      history.find? dtmi.version = some affiliate.vocabulary ∧ affiliate.name = dtmi.name := by
  rw [resolveAffiliate] at resolved
  split at resolved
  · split at resolved <;> simp at resolved
  · next specifier _ =>
      obtain ⟨behind, -, ⟨-, absent⟩ | ⟨-, dtmi, parsed, whole, versioned, legal, found⟩⟩ :=
        resolveSpecifier_eq_some.mp resolved
      · contradiction
      · rw [eq_comm, Option.map_eq_some_iff] at found
        obtain ⟨vocabulary, recorded, rfl⟩ := found
        rw [recorded?, Option.bind_eq_some_iff] at recorded
        obtain ⟨history, known, found⟩ := recorded
        refine ⟨specifier, dtmi, history, parsed, whole, versioned, legality_eq_nil.mp legal,
          ?_, known, found, rfl⟩
        rw [← Bool.not_eq_true, Language.isSpecifier_iff_of_parse? parsed] at behind
        exact behind

/-- What an affiliate is reported under is a reference to it.  It is read as the name and the
version of the affiliate, it is resolved to the affiliate in the same language version without a
report, at any place of a stack and by a strict resolver, and no affiliate of another name or
version is reported under it. -/
theorem resolveAffiliate_specifier
    (resolved :
      (resolver.resolveAffiliate component language lenient).result = some (some affiliate)) :
    (∃ dtmi, Dtmi.parse? affiliate.specifier = some dtmi ∧ dtmi.name = affiliate.name ∧
      dtmi.fragment = none ∧ dtmi.version = affiliate.vocabulary.version) ∧
    (∀ index isLast,
      resolver.resolveAffiliate ⟨index, isLast, .remote affiliate.specifier⟩ language false =
        .succeed (some affiliate)) ∧
    ∀ other : Context.Affiliate, affiliate.specifier = other.specifier ↔
      affiliate.name = other.name ∧ affiliate.vocabulary.version = other.vocabulary.version := by
  obtain ⟨specifier, dtmi, history, parsed, whole, versioned, accepted, foreign, known, found,
    name⟩ := exists_reference_of_resolveAffiliate resolved
  have version := (History.mem_of_find? found).2
  have canonical := affiliate.specifier_eq_canonical
  rw [name, version] at canonical
  obtain ⟨again, anew, names, means, without⟩ := Dtmi.parse?_canonical parsed
  rw [← canonical] at anew
  refine ⟨⟨again, anew, by rw [names, name], without, by rw [means, version]⟩, ?again, ?alike⟩
  case again =>
    intro index isLast
    have legal : resolver.rules.accepts language affiliate.specifier = true := by
      rw [canonical]
      exact Dtmi.Rules.accepts_canonical parsed whole versioned accepted
    have numbered : again.isVersioned = true := by
      rw [Dtmi.isVersioned, means]
      exact versioned
    rw [← names] at foreign known
    rw [← means] at found
    have resolves := resolveSpecifier_of_recorded anew without numbered foreign known found index
      language false
    rw [if_pos legal, names, ← name] at resolves
    exact resolves
  case alike =>
    intro other
    rw [affiliate.specifier_eq_canonical, other.specifier_eq_canonical, canonical_injective]

/-- The extension is recorded under a leading zero and referred to with a minor number 0, and it
is reported with neither. -/
theorem resolveAffiliate_specifier_plants :
    let resolver := (minimal.register "dtmi:com:example:plants;02" plants).2
    ∃ affiliate : Context.Affiliate,
      (resolver.resolveAffiliate ⟨1, true, .remote "dtmi:com:example:plants;2.0"⟩ 3
        true).result = some (some affiliate) ∧
      affiliate.specifier = "dtmi:com:example:plants;2" ∧
      (∃ dtmi, Dtmi.parse? affiliate.specifier = some dtmi ∧ dtmi.name = affiliate.name ∧
        dtmi.version = affiliate.vocabulary.version) ∧
      resolver.resolveAffiliate ⟨1, true, .remote affiliate.specifier⟩ 3 false =
        .succeed (some affiliate) := by
  intro resolver
  have resolved :
      (resolver.resolveAffiliate ⟨1, true, .remote "dtmi:com:example:plants;2.0"⟩ 3
        true).result = some (some ⟨"dtmi:com:example:plants", ⟨⟨2, 0⟩, Table.ofList
          [("Plant", .dtmi ⟨["com", "example", "Plant"], some ⟨"1", none⟩, none⟩)],
          Table.empty⟩⟩) := by
    decide +kernel
  obtain ⟨⟨dtmi, parsed, name, -, version⟩, again, -⟩ := resolveAffiliate_specifier resolved
  exact ⟨_, resolved, by decide +kernel, ⟨dtmi, parsed, name, version⟩, again 1 true⟩

end Resolver

end Dtdl
