import Dtdl.Text
import Mathlib.Computability.Language

/-!
# Patterns

A pattern is a regular language of characters, put together by sequence, choice and repetition
from single characters.  The grammars of this library do not match patterns: they cut a text at
its marks and look at the parts.

The main statements say that this comes to the same.  An optional part that is introduced by a
mark is cut off at the first such mark, and a repeated part is what stands between two marks,
provided that what comes before the mark does not admit it.
-/

namespace Dtdl

open scoped Computability

namespace Pattern

/-- One character of a class. -/
def one (admits : Char → Bool) : Language Char := {text | ∃ c, admits c = true ∧ text = [c]}

/-- One character and no other. -/
def char (mark : Char) : Language Char := {[mark]}

/-- What may be left out. -/
def opt (pattern : Language Char) : Language Char := 1 + pattern

/-- One repetition or more. -/
def plus (pattern : Language Char) : Language Char := pattern * pattern∗

/-- Up to a number of repetitions. -/
def upTo (count : Nat) (pattern : Language Char) : Language Char := opt pattern ^ count

variable {mark : Char} {text : List Char} {admits : Char → Bool} {left right : Language Char}

theorem mem_one : text ∈ one admits ↔ ∃ c, admits c = true ∧ text = [c] := Iff.rfl

theorem mem_char : text ∈ char mark ↔ text = [mark] := Iff.rfl

theorem mem_opt {pattern : Language Char} :
    text ∈ opt pattern ↔ text = [] ∨ text ∈ pattern := by
  rw [opt, Language.mem_add, Language.mem_one]

theorem mem_kstar_one : text ∈ (one admits)∗ ↔ ∀ c ∈ text, admits c = true := by
  rw [Language.mem_kstar]
  constructor
  · rintro ⟨parts, rfl, each⟩ c held
    obtain ⟨part, listed, inside⟩ := List.mem_flatten.mp held
    obtain ⟨d, admitted, rfl⟩ := each part listed
    rw [List.mem_singleton] at inside
    rw [inside]
    exact admitted
  · intro each
    refine ⟨text.map ([·]), ?_, ?_⟩
    · induction text with
      | nil => rfl
      | cons c text ih =>
          rw [List.map_cons, List.flatten_cons,
            ← ih fun d held => each d (List.mem_cons_of_mem c held)]
          rfl
    · intro part listed
      obtain ⟨c, held, rfl⟩ := List.mem_map.mp listed
      exact ⟨c, each c held, rfl⟩

theorem mem_plus_one : text ∈ plus (one admits) ↔ text ≠ [] ∧ ∀ c ∈ text, admits c = true := by
  rw [plus, Language.mem_mul]
  constructor
  · rintro ⟨_, ⟨first, admitted, rfl⟩, rest, repeated, rfl⟩
    refine ⟨List.cons_ne_nil first rest, ?_⟩
    intro c held
    rcases List.mem_cons.mp held with rfl | behind
    · exact admitted
    · exact mem_kstar_one.mp repeated c behind
  · rintro ⟨some, each⟩
    obtain ⟨first, rest, rfl⟩ := List.exists_cons_of_ne_nil some
    refine ⟨[first], ⟨first, each first List.mem_cons_self, rfl⟩, rest, ?_, rfl⟩
    exact mem_kstar_one.mpr fun c held => each c (List.mem_cons_of_mem first held)

theorem mem_kstar_char : text ∈ (char mark)∗ ↔ ∀ c ∈ text, c = mark := by
  have same : char mark = one fun c => c = mark := by
    ext other
    simp [mem_char, mem_one]
  simp [same, mem_kstar_one]

/-- By induction on the number of repetitions, the first of which takes the first character. -/
theorem mem_upTo_one {count : Nat} :
    text ∈ upTo count (one admits) ↔ text.length ≤ count ∧ ∀ c ∈ text, admits c = true := by
  induction count generalizing text with
  | zero =>
      rw [upTo, pow_zero, Language.mem_one, Nat.le_zero, List.length_eq_zero_iff]
      constructor
      · rintro rfl
        simp
      · exact And.left
  | succ count ih =>
      rw [upTo, pow_succ', ← upTo, Language.mem_mul]
      constructor
      · rintro ⟨first, admitted, rest, repeated, rfl⟩
        obtain ⟨short, each⟩ := ih.mp repeated
        rcases mem_opt.mp admitted with rfl | ⟨c, class', rfl⟩
        · exact ⟨Nat.le_succ_of_le short, each⟩
        · refine ⟨by simpa using short, fun d held => ?_⟩
          rcases List.mem_cons.mp held with rfl | behind
          · exact class'
          · exact each d behind
      · rintro ⟨short, each⟩
        cases text with
        | nil => exact ⟨[], mem_opt.mpr (.inl rfl), [], ih.mpr (by simp), rfl⟩
        | cons c rest =>
            refine ⟨[c], mem_opt.mpr (.inr ⟨c, each c List.mem_cons_self, rfl⟩), rest,
              ih.mpr ⟨by simpa using short, fun d held => each d (List.mem_cons_of_mem c held)⟩,
              rfl⟩

theorem mem_opt_marked {pattern : Language Char} :
    text ∈ opt (char mark * pattern) ↔
      ∃ part : Option (List Char), (∀ rest ∈ part, rest ∈ pattern) ∧
        text = part.elim [] (mark :: ·) := by
  rw [mem_opt, Language.mem_mul]
  constructor
  · rintro (rfl | ⟨_, rfl, rest, admitted, rfl⟩)
    · exact ⟨none, by simp, rfl⟩
    · exact ⟨some rest, by simpa using admitted, rfl⟩
  · rintro ⟨part, admitted, rfl⟩
    cases part with
    | none => exact .inl rfl
    | some rest => exact .inr ⟨[mark], rfl, rest, admitted rest rfl, rfl⟩

/-! ## Characters that a pattern does not admit -/

/-- No text of a pattern holds the character. -/
def Avoids (mark : Char) (pattern : Language Char) : Prop := ∀ text ∈ pattern, mark ∉ text

theorem Avoids.one (excluded : admits mark = false) : Avoids mark (one admits) := by
  rintro text ⟨c, admitted, rfl⟩ held
  rw [List.mem_singleton] at held
  rw [held, admitted] at excluded
  contradiction

theorem Avoids.char {other : Char} (differs : mark ≠ other) : Avoids mark (char other) := by
  rintro text rfl held
  exact differs (List.mem_singleton.mp held)

theorem Avoids.add (first : Avoids mark left) (second : Avoids mark right) :
    Avoids mark (left + right) := by
  intro text member
  exact member.elim (first text) (second text)

theorem Avoids.mul (first : Avoids mark left) (second : Avoids mark right) :
    Avoids mark (left * right) := by
  rintro text ⟨front, admitted, behind, also, rfl⟩ held
  exact (List.mem_append.mp held).elim (first front admitted) (second behind also)

theorem Avoids.kstar (each : Avoids mark left) : Avoids mark left∗ := by
  rintro text ⟨parts, rfl, admitted⟩ held
  obtain ⟨part, listed, inside⟩ := List.mem_flatten.mp held
  exact each part (admitted part listed) inside

theorem Avoids.opt (some : Avoids mark left) : Avoids mark (opt left) := by
  intro text member held
  rcases mem_opt.mp member with rfl | admitted
  · contradiction
  · exact some text admitted held

theorem Avoids.upTo (each : Avoids mark left) (count : Nat) : Avoids mark (upTo count left) := by
  induction count with
  | zero =>
      rintro text rfl
      exact List.not_mem_nil
  | succ count ih =>
      rw [Pattern.upTo, pow_succ', ← Pattern.upTo]
      exact each.opt.mul ih

/-! ## Patterns that are cut -/

/-- What an optional part begins with a mark for is cut off at that mark. -/
theorem mem_mul_marked (avoids : Avoids mark left) :
    text ∈ left * opt (char mark * right) ↔
      (Text.cut mark text).1 ∈ left ∧ ∀ rest ∈ (Text.cut mark text).2, rest ∈ right := by
  rw [Language.mem_mul]
  constructor
  · rintro ⟨front, admitted, behind, marked, rfl⟩
    have absent := avoids front admitted
    rcases mem_opt.mp marked with rfl | ⟨_, rfl, rest, also, rfl⟩
    · rw [List.append_nil, Text.cut_of_not_mem absent]
      exact ⟨admitted, by simp⟩
    · simp only [List.singleton_append, Text.cut_append absent, Option.mem_some_iff]
      exact ⟨admitted, fun other same => same ▸ also⟩
  · rintro ⟨admitted, also⟩
    refine ⟨(Text.cut mark text).1, admitted, (Text.cut mark text).2.elim [] (mark :: ·), ?_,
      (Text.cut_rebuild mark text).symm⟩
    cases rest : (Text.cut mark text).2 with
    | none => exact mem_opt.mpr (.inl rfl)
    | some behind => exact mem_opt.mpr (.inr ⟨[mark], rfl, behind, also behind rest, rfl⟩)

/-- A pattern that has no part behind a mark is one whose part there admits nothing. -/
theorem mul_marked_zero (pattern : Language Char) (mark : Char) :
    pattern * opt (char mark * 0) = pattern := by
  rw [opt, mul_zero, add_zero, mul_one]

/-- Parts of one pattern with a mark between neighbours. -/
def separated (mark : Char) (part : Language Char) : Language Char :=
  part * (char mark * part)∗

theorem Avoids.separated {part : Language Char} (each : Avoids mark part) {other : Char}
    (differs : mark ≠ other) : Avoids mark (separated other part) :=
  each.mul ((Avoids.char differs).mul each).kstar

theorem joined_cons (mark : Char) (part : List Char) (others : List (List Char)) :
    Text.joined mark (part :: others) = part ++ (others.map (mark :: ·)).flatten := by
  induction others generalizing part with
  | nil => simp [Text.joined]
  | cons other rest ih =>
      rw [Text.joined, ih, List.map_cons, List.flatten_cons, List.cons_append]
      exact List.cons_ne_nil other rest

theorem mem_separated {part : Language Char} (avoids : Avoids mark part) :
    text ∈ separated mark part ↔ ∀ piece ∈ Text.pieces mark text, piece ∈ part := by
  rw [separated, Language.mem_mul]
  constructor
  · rintro ⟨first, admitted, behind, ⟨chunks, rfl, each⟩, rfl⟩
    -- The induction is on what follows the first part, which is any part in turn.
    induction chunks generalizing first with
    | nil =>
        rw [List.flatten_nil, List.append_nil, Text.pieces_of_not_mem (avoids first admitted)]
        simpa using admitted
    | cons chunk rest ih =>
        obtain ⟨_, rfl, next, also, rfl⟩ := each chunk List.mem_cons_self
        have split : first ++ (([mark] ++ next) :: rest).flatten =
            first ++ mark :: (next ++ rest.flatten) := by
          simp
        rw [split, Text.pieces_append (avoids first admitted)]
        intro piece listed
        rcases List.mem_cons.mp listed with rfl | later
        · exact admitted
        · exact ih next also (fun other member => each other (List.mem_cons_of_mem _ member))
            piece later
  · intro each
    cases pieces : Text.pieces mark text with
    | nil => exact absurd pieces (Text.pieces_ne_nil mark text)
    | cons first others =>
        rw [pieces] at each
        refine ⟨first, each first List.mem_cons_self, (others.map (mark :: ·)).flatten, ?_, ?_⟩
        · refine Language.join_mem_kstar fun chunk listed => ?_
          obtain ⟨other, member, rfl⟩ := List.mem_map.mp listed
          exact ⟨[mark], rfl, other, each other (List.mem_cons_of_mem first member), rfl⟩
        · rw [← joined_cons, ← pieces, Text.joined_pieces]

end Pattern

end Dtdl
