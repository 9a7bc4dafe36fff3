import Dtdl.Text

/-!
# Version numbers

A vocabulary version is a pair of a major and a minor number.  Minor version 0 is the
default: it is not written.
-/

namespace Dtdl

/-- A major and a minor version number. -/
structure Version where
  major : Nat
  minor : Nat
  deriving DecidableEq, Repr

namespace Version

/-- The largest number that a version may hold. -/
def limit : Nat := 4294967295

/-- The written form: the major number, and the minor number unless it is 0. -/
def text (version : Version) : String :=
  if version.minor = 0 then toString version.major
  else toString version.major ++ "." ++ toString version.minor

/-- The written form with both numbers, whatever the minor number is. -/
def fullText (version : Version) : String :=
  toString version.major ++ "." ++ toString version.minor

def listing (versions : List Version) : String :=
  String.intercalate ", " (versions.map text)

/-- Whether a version comes before another: major numbers decide, then minor ones. -/
def precedes (left right : Version) : Bool :=
  left.major < right.major || left.major = right.major && left.minor < right.minor

def highest? : List Version → Option Version
  | [] => none
  | version :: rest =>
      match highest? rest with
      | none => some version
      | some other => if version.precedes other then some other else some version

theorem not_mem_toString (mark : Char) (notDigit : mark.isDigit = false) (number : Nat) :
    mark ∉ (toString number).toList := by
  intro member
  rw [Nat.toString_eq_repr, Nat.toList_repr] at member
  have digit := Nat.isDigit_of_mem_toDigits (by decide) (by decide) member
  rw [notDigit] at digit
  contradiction

theorem toString_injective {left right : Nat} (same : toString left = toString right) :
    left = right := by
  have digits : Nat.toDigits 10 left = Nat.toDigits 10 right := by
    rw [← Nat.toList_repr, ← Nat.toList_repr, ← Nat.toString_eq_repr, ← Nat.toString_eq_repr,
      same]
  calc
    left = Nat.ofDigitChars 10 (Nat.toDigits 10 left) 0 := Nat.ofDigitChars_ten_toDigits.symm
    _ = Nat.ofDigitChars 10 (Nat.toDigits 10 right) 0 := by rw [digits]
    _ = right := Nat.ofDigitChars_ten_toDigits

theorem cut_text (version : Version) :
    Text.cut '.' version.text.toList =
      ((toString version.major).toList,
        if version.minor = 0 then none else some (toString version.minor).toList) := by
  have plain := not_mem_toString '.' (by decide) version.major
  by_cases default : version.minor = 0
  · rw [text, if_pos default, if_pos default, Text.cut_of_not_mem plain]
  · rw [text, if_neg default, if_neg default, String.toList_append, String.toList_append,
      List.append_assoc]
    exact Text.cut_append plain (toString version.minor).toList

theorem text_injective : Function.Injective text := by
  intro left right same
  have cuts := congrArg (fun written : String => Text.cut '.' written.toList) same
  simp only [cut_text, Prod.mk.injEq, String.toList_inj] at cuts
  obtain ⟨majors, minors⟩ := cuts
  have major := toString_injective majors
  have minor : left.minor = right.minor := by
    by_cases defaultLeft : left.minor = 0 <;> by_cases defaultRight : right.minor = 0
    · rw [defaultLeft, defaultRight]
    · simp [defaultLeft, defaultRight] at minors
    · simp [defaultLeft, defaultRight] at minors
    · simp only [defaultLeft, defaultRight, if_false, Option.some.injEq,
        String.toList_inj] at minors
      exact toString_injective minors
  cases left
  cases right
  simp_all

theorem semicolon_not_mem_text (version : Version) : ';' ∉ version.text.toList := by
  have noMajor := not_mem_toString ';' (by decide) version.major
  have noMinor := not_mem_toString ';' (by decide) version.minor
  rw [text]
  split <;> simp_all

end Version

end Dtdl
