import Dtdl.Dtmi.Reference
import Dtdl.Proofs.Patterns

/-!
# The forms of references

Which references are legal is laid down by two patterns, one for the versions of the language up
to 2 and one for those from 3 on.  Here they are written just as they are laid down.  A label is
described in them by how it begins and by an optional end, and a run of underscores may be shared
out between the two in many ways.

`Dtmi.isReference` knows nothing of these patterns.  The main statement is that it admits the same
texts.
-/

namespace Dtdl

open Pattern
open scoped Computability

namespace Dtmi

/-! ## The patterns -/

/-- A label: how it starts, and perhaps a further part that ends in a letter or digit. -/
def labelPattern (start : Language Char) : Language Char :=
  start * opt ((one isLabelChar)∗ * one Char.isAlphanum)

/-- How a label starts up to version 2. -/
def earlyStart : Language Char := one Char.isAlpha

/-- How a label starts from version 3 on. -/
def lateStart : Language Char :=
  char '_' * (char '_')∗ * one Char.isAlphanum + one Char.isAlpha

/-- A number without leading zero: one digit, and up to some more. -/
def numberPattern (more : Nat) : Language Char :=
  one (fun c => '1' ≤ c && c ≤ '9') * upTo more (one Char.isDigit)

/-- References up to version 2, behind the word that all identifiers begin with. -/
def earlyPattern : Language Char :=
  separated ':' (labelPattern earlyStart) * opt (char ';' * numberPattern 8)

/-- References from version 3 on, behind the word that all identifiers begin with. -/
def latePattern : Language Char :=
  separated ':' (labelPattern lateStart) *
      opt (char ';' *
        (numberPattern 8 * opt (char '.' * (char '0' + numberPattern 5)))) *
    opt (char '#' * labelPattern lateStart)

/-- The pattern of the references that a version of the language knows. -/
def referencePattern (language : Nat) : Language Char :=
  {lead.toList} * if language ≤ 2 then earlyPattern else latePattern

/-! ## Labels -/

section Labels

variable {text : List Char}

/-- What may follow the start of a label. -/
theorem mem_end : text ∈ opt ((one isLabelChar)∗ * one Char.isAlphanum) ↔
    text = [] ∨ (∀ c ∈ text, isLabelChar c = true) ∧ ∃ c ∈ text.getLast?, c.isAlphanum = true := by
  rw [mem_opt, Language.mem_mul]
  refine or_congr_right ⟨?_, ?_⟩
  · rintro ⟨inner, repeated, _, ⟨last, admitted, rfl⟩, rfl⟩
    refine ⟨?_, last, by simp, admitted⟩
    intro c held
    rcases List.mem_append.mp held with inside | behind
    · exact mem_kstar_one.mp repeated c inside
    · rw [List.mem_singleton.mp behind, isLabelChar, admitted, Bool.true_or]
  · rintro ⟨each, last, ends, admitted⟩
    have split := List.dropLast_append_getLast? last ends
    refine ⟨text.dropLast, mem_kstar_one.mpr ?_, [last], ⟨last, admitted, rfl⟩, split⟩
    exact fun c held => each c (List.dropLast_subset text held)

/-- After a letter or digit the rest of a label may be missing. -/
theorem mem_end_iff {first : Char} (admitted : first.isAlphanum = true) :
    text ∈ opt ((one isLabelChar)∗ * one Char.isAlphanum) ↔
      (∀ c ∈ text, isLabelChar c = true) ∧
        ∃ c ∈ (first :: text).getLast?, c.isAlphanum = true := by
  rw [mem_end]
  cases text with
  | nil => simp [admitted]
  | cons c rest => simp [List.getLast?_cons_cons]

theorem isLabel_iff {language : Nat} : isLabel language text = true ↔
    (∀ c ∈ text, isLabelChar c = true) ∧
      (∃ c ∈ text.head?, c.isAlpha = true ∨ 2 < language ∧ c = '_') ∧
      ∃ c ∈ text.getLast?, c.isAlphanum = true := by
  simp [isLabel, Option.any_eq_true, and_assoc]

theorem isLabelChar_of_isAlphanum {c : Char} (admitted : c.isAlphanum = true) :
    isLabelChar c = true := by
  rw [isLabelChar, admitted, Bool.true_or]

theorem isAlphanum_of_isAlpha {c : Char} (letter : c.isAlpha = true) : c.isAlphanum = true := by
  rw [Char.isAlphanum, letter, Bool.true_or]

/-- A label that starts with a letter is legal in every version. -/
theorem isLabel_cons {language : Nat} {first : Char} (letter : first.isAlpha = true) :
    isLabel language (first :: text) = true ↔
      text ∈ opt ((one isLabelChar)∗ * one Char.isAlphanum) := by
  have admitted := isAlphanum_of_isAlpha letter
  rw [isLabel_iff, mem_end_iff admitted]
  simp [letter, isLabelChar_of_isAlphanum admitted]

/-- A run of underscores in front of a label is seen at its start only. -/
theorem isLabel_run {language : Nat} (late : 2 < language) {run : List Char} {first : Char}
    (underscores : ∀ c ∈ run, c = '_') (admitted : first.isAlphanum = true) :
    isLabel language ('_' :: (run ++ first :: text)) = true ↔
      text ∈ opt ((one isLabelChar)∗ * one Char.isAlphanum) := by
  have legal : ∀ c ∈ run, isLabelChar c = true := by
    intro c held
    rw [underscores c held]
    decide
  have last : ('_' :: (run ++ first :: text)).getLast? = (first :: text).getLast? := by
    rw [← List.cons_append, List.getLast?_append, List.getLast?_cons, Option.some_or]
  rw [isLabel_iff, mem_end_iff admitted, last]
  constructor
  · rintro ⟨each, -, ends⟩
    exact ⟨fun c held => each c (by simp [held]), ends⟩
  · rintro ⟨each, ends⟩
    refine ⟨?_, ⟨'_', rfl, .inr ⟨late, rfl⟩⟩, ends⟩
    intro c held
    rcases List.mem_cons.mp held with rfl | held
    · decide
    rcases List.mem_append.mp held with inside | held
    · exact legal c inside
    rcases List.mem_cons.mp held with rfl | behind
    · exact isLabelChar_of_isAlphanum admitted
    · exact each c behind

theorem mem_labelPattern_early {language : Nat} (early : language ≤ 2) :
    text ∈ labelPattern earlyStart ↔ isLabel language text = true := by
  rw [labelPattern, Language.mem_mul]
  constructor
  · rintro ⟨_, ⟨first, letter, rfl⟩, behind, ended, rfl⟩
    exact (isLabel_cons letter).mpr ended
  · intro legal
    obtain ⟨-, ⟨first, leads, letter | ⟨late, -⟩⟩, -⟩ := isLabel_iff.mp legal
    · obtain ⟨behind, rfl⟩ := List.head?_eq_some_iff.mp leads
      exact ⟨[first], ⟨first, letter, rfl⟩, behind, (isLabel_cons letter).mp legal, rfl⟩
    · omega

/-- The underscores that a label starts with may be parted in several ways, but they end before
the first letter or digit. -/
theorem exists_run_of_isLabel {language : Nat} (legal : isLabel language ('_' :: text) = true) :
    ∃ run first behind, text = run ++ first :: behind ∧ (∀ c ∈ run, c = '_') ∧
      first.isAlphanum = true := by
  obtain ⟨each, -, last, ends, admitted⟩ := isLabel_iff.mp legal
  -- The run ends at the last character of the label at the latest, which is no underscore.
  have held : last ∈ '_' :: text := List.mem_of_getLast? ends
  have differs : last ≠ '_' := by
    rintro rfl
    contradiction
  have found : (text.find? (· ≠ '_')).isSome = true :=
    List.find?_isSome.mpr
      ⟨last, (List.mem_cons.mp held).resolve_left differs, decide_eq_true differs⟩
  obtain ⟨first, found⟩ := Option.isSome_iff_exists.mp found
  obtain ⟨other, run, behind, rfl, underscores⟩ := List.find?_eq_some_iff_append.mp found
  have legal := each first (by simp)
  refine ⟨run, first, behind, rfl, by simpa using underscores, ?_⟩
  simpa [isLabelChar, of_decide_eq_true other] using legal

theorem mem_labelPattern_late {language : Nat} (late : 2 < language) :
    text ∈ labelPattern lateStart ↔ isLabel language text = true := by
  rw [labelPattern, lateStart, Language.mem_mul]
  constructor
  · rintro ⟨_, ⟨_, ⟨_, rfl, run, repeated, rfl⟩, _, ⟨first, admitted, rfl⟩, rfl⟩ |
      ⟨first, letter, rfl⟩, behind, ended, rfl⟩
    · have underscores := mem_kstar_char.mp repeated
      have whole := (isLabel_run late underscores admitted).mpr ended
      simpa using whole
    · exact (isLabel_cons letter).mpr ended
  · intro legal
    obtain ⟨-, ⟨first, leads, letter | ⟨-, rfl⟩⟩, -⟩ := isLabel_iff.mp legal
    · obtain ⟨behind, rfl⟩ := List.head?_eq_some_iff.mp leads
      exact ⟨[first], .inr ⟨first, letter, rfl⟩, behind, (isLabel_cons letter).mp legal, rfl⟩
    · obtain ⟨rest, rfl⟩ := List.head?_eq_some_iff.mp leads
      obtain ⟨run, first, behind, rfl, underscores, admitted⟩ := exists_run_of_isLabel legal
      refine ⟨'_' :: run ++ [first], .inl ⟨'_' :: run, ⟨['_'], rfl, run,
        mem_kstar_char.mpr underscores, rfl⟩, [first], ⟨first, admitted, rfl⟩, rfl⟩, behind,
        (isLabel_run late underscores admitted).mp legal, ?_⟩
      simp

end Labels

/-! ## Versions -/

section Versions

variable {text : List Char} {language : Nat}

theorem leading_digit (c : Char) : ('1' ≤ c && c ≤ '9') = (c.isDigit && c ≠ '0') := by
  have zero : c = '0' ↔ c.toNat = 48 := Char.toNat_inj.symm
  rw [Bool.eq_iff_iff]
  simp only [Char.isDigit, Bool.and_eq_true, decide_eq_true_eq, Char.le_def, ge_iff_le,
    UInt32.le_iff_toNat_le, ne_eq, zero]
  change 49 ≤ c.toNat ∧ c.toNat ≤ 57 ↔ (48 ≤ c.toNat ∧ c.toNat ≤ 57) ∧ ¬c.toNat = 48
  omega

theorem mem_numberPattern {more : Nat} :
    text ∈ numberPattern more ↔ isPlainNumeral (more + 1) text = true := by
  simp only [numberPattern, Language.mem_mul, mem_one, leading_digit, Bool.and_eq_true,
    decide_eq_true_eq, mem_upTo_one]
  constructor
  · rintro ⟨_, ⟨first, ⟨digit, leads⟩, rfl⟩, rest, ⟨short, digits⟩, rfl⟩
    have short : rest.length + 1 ≤ more + 1 := Nat.succ_le_succ short
    simp [isPlainNumeral, digit, leads, short, List.all_eq_true.mpr digits]
  · intro plain
    simp only [isPlainNumeral, Bool.and_eq_true, List.all_eq_true, decide_eq_true_eq,
      Option.any_eq_true] at plain
    obtain ⟨⟨digits, short⟩, first, leads, nonzero⟩ := plain
    obtain ⟨rest, rfl⟩ := List.head?_eq_some_iff.mp leads
    exact ⟨[first], ⟨first, ⟨digits first List.mem_cons_self, nonzero⟩, rfl⟩, rest,
      ⟨Nat.le_of_succ_le_succ short, fun c held => digits c (List.mem_cons_of_mem first held)⟩,
      rfl⟩

theorem avoids_numberPattern {mark : Char} (notDigit : mark.isDigit = false) (more : Nat) :
    Avoids mark (numberPattern more) := by
  have leading : ('1' ≤ mark && mark ≤ '9') = false := by
    rw [leading_digit, notDigit, Bool.false_and]
  exact (Avoids.one leading).mul ((Avoids.one notDigit).upTo more)

/-- A version is a major number and, where the pattern `minor` allows it, a minor one. -/
theorem mem_version {minor : Language Char} :
    text ∈ numberPattern 8 * opt (char '.' * minor) ↔
      isPlainNumeral 9 (Text.cut '.' text).1 = true ∧
        ∀ rest ∈ (Text.cut '.' text).2, rest ∈ minor := by
  rw [mem_mul_marked (avoids_numberPattern rfl 8), mem_numberPattern]

theorem mem_version_early (early : language ≤ 2) :
    text ∈ numberPattern 8 ↔ isReferenceVersion language text = true := by
  rw [← mul_marked_zero (numberPattern 8) '.', mem_version, isReferenceVersion]
  cases Text.cut '.' text with
  | mk major minor =>
      cases minor with
      | none => simp
      | some minor => simp [Nat.not_lt.mpr early, Language.notMem_zero]

theorem mem_version_late (late : 2 < language) :
    text ∈ numberPattern 8 * opt (char '.' * (char '0' + numberPattern 5)) ↔
      isReferenceVersion language text = true := by
  rw [mem_version, isReferenceVersion]
  cases Text.cut '.' text with
  | mk major minor =>
      cases minor with
      | none => simp
      | some minor =>
          simp only [Option.mem_some_iff, forall_eq', Language.mem_add, mem_char,
            mem_numberPattern, late, decide_true, Bool.true_and, Bool.and_eq_true,
            Bool.or_eq_true, decide_eq_true_eq]

end Versions

/-! ## References -/

section References

variable {label version fragment : Language Char} {mark : Char}

theorem avoids_labelPattern {start : Language Char} (starts : Avoids mark start)
    (illegal : isLabelChar mark = false) : Avoids mark (labelPattern start) := by
  have other : mark.isAlphanum = false := by
    simp only [isLabelChar, Bool.or_eq_false_iff] at illegal
    exact illegal.1
  exact starts.mul (((Avoids.one illegal).kstar.mul (Avoids.one other)).opt)

theorem avoids_earlyStart (illegal : isLabelChar mark = false) : Avoids mark earlyStart := by
  simp only [isLabelChar, Char.isAlphanum, Bool.or_eq_false_iff] at illegal
  exact Avoids.one illegal.1.1

theorem avoids_lateStart (illegal : isLabelChar mark = false) : Avoids mark lateStart := by
  have letter : Avoids mark (one Char.isAlpha) := avoids_earlyStart illegal
  simp only [isLabelChar, Bool.or_eq_false_iff, decide_eq_false_iff_not] at illegal
  have underscore := Avoids.char illegal.2
  exact ((underscore.mul underscore.kstar).mul (Avoids.one illegal.1)).add letter

theorem isLabelChar_of_mark (listed : mark ∈ [':', ';', '#']) : isLabelChar mark = false := by
  simp only [List.mem_cons, List.not_mem_nil, or_false] at listed
  rcases listed with rfl | rfl | rfl <;> rfl

/-- A reference is cut at its marks, the last one first. -/
theorem mem_reference {body : List Char}
    (labels : ∀ mark ∈ [':', ';', '#'], Avoids mark label) (unmarked : Avoids '#' version) :
    body ∈ separated ':' label * opt (char ';' * version) *
        opt (char '#' * fragment) ↔
      (∀ piece ∈ Text.pieces ':' (Text.cut ';' (Text.cut '#' body).1).1, piece ∈ label) ∧
        (∀ text ∈ (Text.cut ';' (Text.cut '#' body).1).2, text ∈ version) ∧
        ∀ text ∈ (Text.cut '#' body).2, text ∈ fragment := by
  have semicolon : Avoids ';' (separated ':' label) :=
    (labels ';' (by simp)).separated (by decide)
  have behind : Avoids '#' (char ';' * version) := (Avoids.char (by decide)).mul unmarked
  have numberSign : Avoids '#' (separated ':' label * opt (char ';' * version)) :=
    ((labels '#' (by simp)).separated (by decide)).mul behind.opt
  rw [mem_mul_marked numberSign, mem_mul_marked semicolon,
    mem_separated (labels ':' (by simp)), and_assoc]

theorem mem_earlyPattern {language : Nat} (early : language ≤ 2) {body : List Char} :
    body ∈ earlyPattern ↔
      (∀ piece ∈ Text.pieces ':' (Text.cut ';' (Text.cut '#' body).1).1,
          isLabel language piece = true) ∧
        (∀ text ∈ (Text.cut ';' (Text.cut '#' body).1).2,
          isReferenceVersion language text = true) ∧
        (Text.cut '#' body).2 = none := by
  have labels : ∀ mark ∈ [':', ';', '#'], Avoids mark (labelPattern earlyStart) := by
    intro mark listed
    have illegal := isLabelChar_of_mark listed
    exact avoids_labelPattern (avoids_earlyStart illegal) illegal
  rw [earlyPattern, ← mul_marked_zero (_ * _) '#',
    mem_reference labels (avoids_numberPattern rfl 8)]
  simp only [mem_labelPattern_early early, mem_version_early early, Language.notMem_zero,
    imp_false, Option.eq_none_iff_forall_not_mem]

theorem mem_latePattern {language : Nat} (late : 2 < language) {body : List Char} :
    body ∈ latePattern ↔
      (∀ piece ∈ Text.pieces ':' (Text.cut ';' (Text.cut '#' body).1).1,
          isLabel language piece = true) ∧
        (∀ text ∈ (Text.cut ';' (Text.cut '#' body).1).2,
          isReferenceVersion language text = true) ∧
        ∀ text ∈ (Text.cut '#' body).2, isLabel language text = true := by
  have labels : ∀ mark ∈ [':', ';', '#'], Avoids mark (labelPattern lateStart) := by
    intro mark listed
    have illegal := isLabelChar_of_mark listed
    exact avoids_labelPattern (avoids_lateStart illegal) illegal
  have minor : Avoids '#' (char '.' * (char '0' + numberPattern 5)) :=
    (Avoids.char (by decide)).mul ((Avoids.char (by decide)).add (avoids_numberPattern rfl 5))
  rw [latePattern, mem_reference labels ((avoids_numberPattern rfl 8).mul minor.opt)]
  simp only [mem_labelPattern_late late, mem_version_late late]

/-- A text is a legal reference if it is short enough and has the form that the pattern of the
version of the language describes. -/
theorem isReference_iff_mem_pattern {language : Nat} {text : String} :
    isReference language text = true ↔
      text.utf8ByteSize ≤ referenceLimit language ∧
        text.toList ∈ referencePattern language := by
  rw [isReference, Bool.and_eq_true, decide_eq_true_eq]
  refine and_congr_right fun _ => ?_
  have begins : text.toList ∈ referencePattern language ↔
      ∃ body ∈ Text.after? lead.toList text.toList,
        body ∈ if language ≤ 2 then earlyPattern else latePattern := by
    rw [referencePattern, Language.mem_mul]
    constructor
    · rintro ⟨_, rfl, body, admitted, written⟩
      refine ⟨body, ?_, admitted⟩
      rw [← written]
      exact Text.after?_append lead.toList body
    · rintro ⟨body, found, admitted⟩
      exact ⟨lead.toList, rfl, body, admitted, (Text.eq_append_of_after? found).symm⟩
  rw [begins]
  cases Text.after? lead.toList text.toList with
  | none => simp
  | some body =>
      by_cases early : language ≤ 2
      · have tooEarly : ¬2 < language := Nat.not_lt.mpr early
        simp [early, tooEarly, mem_earlyPattern early, and_assoc, Option.all_eq_true,
          Option.eq_none_iff_forall_not_mem]
      · have late : 2 < language := Nat.lt_of_not_le early
        simp [early, late, mem_latePattern late, and_assoc, Option.all_eq_true]

end References

end Dtmi

end Dtdl
