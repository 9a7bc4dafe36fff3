/-!
# Cutting and joining text

The grammars of this library separate their parts by single characters.  `cut`
splits at the first separator, `pieces` at every one, and `joined` is the inverse of
`pieces`.  All three work on character lists, so that a grammar can be read off by
recursion.
-/

namespace Dtdl.Text

/-- What follows a leading word, or nothing when the text does not begin with it. -/
def after? : (lead text : List Char) → Option (List Char)
  | [], text => some text
  | _ :: _, [] => none
  | c :: lead, d :: text => if c = d then after? lead text else none

def startsWith (text lead : String) : Bool := (after? lead.toList text.toList).isSome

/-- The part before the first separator, and the part after it if there is one. -/
def cut (mark : Char) : List Char → List Char × Option (List Char)
  | [] => ([], none)
  | c :: rest =>
      if c = mark then ([], some rest)
      else
        let parts := cut mark rest
        (c :: parts.1, parts.2)

/-- The parts between separators; a text without separator is its own only part. -/
def pieces (mark : Char) : List Char → List (List Char)
  | [] => [[]]
  | c :: rest =>
      if c = mark then [] :: pieces mark rest
      else
        match pieces mark rest with
        | [] => [[c]]
        | piece :: others => (c :: piece) :: others

/-- Parts written one after the other with a separator between neighbours. -/
def joined (mark : Char) : List (List Char) → List Char
  | [] => []
  | [piece] => piece
  | piece :: others => piece ++ mark :: joined mark others

/-- The words between blanks and line breaks. -/
def words (text : List Char) : List (List Char) :=
  (pieces ' ' (text.map fun c => if c = '\n' then ' ' else c)).filter fun word => !word.isEmpty

/-- The value of a hexadecimal digit in either case. -/
def hexValue? (c : Char) : Option Nat :=
  if '0' ≤ c && c ≤ '9' then some (c.toNat - '0'.toNat)
  else if 'a' ≤ c && c ≤ 'f' then some (c.toNat - 'a'.toNat + 10)
  else if 'A' ≤ c && c ≤ 'F' then some (c.toNat - 'A'.toNat + 10)
  else none

/-- The value of a decimal numeral, most significant digit first. -/
def decimal (digits : List Char) : Nat :=
  digits.foldl (fun value digit => value * 10 + (digit.toNat - '0'.toNat)) 0

theorem after?_append (lead text : List Char) : after? lead (lead ++ text) = some text := by
  induction lead with
  | nil => cases text <;> rfl
  | cons c lead ih => simp [after?, ih]

theorem eq_append_of_after? {lead text rest : List Char} (found : after? lead text = some rest) :
    text = lead ++ rest := by
  induction lead generalizing text with
  | nil => simpa [after?] using found
  | cons c lead ih =>
      cases text with
      | nil => simp [after?] at found
      | cons d text =>
          by_cases equal : c = d
          · simp only [after?, equal, if_true] at found
            simp [equal, ih found]
          · simp [after?, equal] at found

theorem cut_of_not_mem {mark : Char} {text : List Char} (absent : mark ∉ text) :
    cut mark text = (text, none) := by
  induction text with
  | nil => rfl
  | cons c text ih =>
      simp only [List.mem_cons, not_or] at absent
      simp [cut, Ne.symm absent.1, ih absent.2]

theorem cut_append {mark : Char} {left : List Char} (absent : mark ∉ left) (right : List Char) :
    cut mark (left ++ mark :: right) = (left, some right) := by
  induction left with
  | nil => simp [cut]
  | cons c left ih =>
      simp only [List.mem_cons, not_or] at absent
      simp [cut, Ne.symm absent.1, ih absent.2]

/-- What is put together with a mark is cut there, if there is anything behind the mark. -/
theorem cut_marked {mark : Char} {left : List Char} (absent : mark ∉ left)
    (right : Option (List Char)) : cut mark (left ++ right.elim [] (mark :: ·)) = (left, right) := by
  cases right with
  | none => rw [Option.elim_none, List.append_nil, cut_of_not_mem absent]
  | some right => rw [Option.elim_some, cut_append absent]

theorem not_mem_marked {mark other : Char} {left : List Char} {right : Option (List Char)}
    (absent : mark ∉ left) (differs : mark ≠ other) (behind : ∀ rest ∈ right, mark ∉ rest) :
    mark ∉ left ++ right.elim [] (other :: ·) := by
  intro held
  rcases List.mem_append.mp held with inLeft | inRight
  · exact absent inLeft
  · cases right with
    | none => contradiction
    | some rest =>
        rcases List.mem_cons.mp inRight with same | inRest
        · exact differs same
        · exact behind rest rfl inRest

theorem not_mem_cut (mark : Char) (text : List Char) : mark ∉ (cut mark text).1 := by
  induction text with
  | nil => simp [cut]
  | cons c text ih =>
      by_cases equal : c = mark
      · simp [cut, equal]
      · simp only [cut, equal, if_false, List.mem_cons, not_or]
        exact ⟨fun same => equal same.symm, ih⟩

theorem cut_rebuild (mark : Char) (text : List Char) :
    text = (cut mark text).1 ++ ((cut mark text).2.elim [] (mark :: ·)) := by
  induction text with
  | nil => rfl
  | cons c text ih =>
      by_cases equal : c = mark
      · simp [cut, equal]
      · simp only [cut, equal, if_false, List.cons_append]
        rw [← ih]

theorem pieces_append {mark : Char} {left : List Char} (absent : mark ∉ left)
    (right : List Char) : pieces mark (left ++ mark :: right) = left :: pieces mark right := by
  induction left with
  | nil => simp [pieces]
  | cons c left ih =>
      simp only [List.mem_cons, not_or] at absent
      simp [pieces, Ne.symm absent.1, ih absent.2]

theorem pieces_of_not_mem {mark : Char} {text : List Char} (absent : mark ∉ text) :
    pieces mark text = [text] := by
  induction text with
  | nil => rfl
  | cons c text ih =>
      simp only [List.mem_cons, not_or] at absent
      simp [pieces, Ne.symm absent.1, ih absent.2]

theorem pieces_ne_nil (mark : Char) (text : List Char) : pieces mark text ≠ [] := by
  cases text with
  | nil => exact List.cons_ne_nil [] []
  | cons c text =>
      rw [pieces]
      split
      · exact List.cons_ne_nil _ _
      · cases pieces mark text <;> exact List.cons_ne_nil _ _

theorem mem_of_mem_pieces {mark : Char} {text piece : List Char}
    (listed : piece ∈ pieces mark text) : ∀ c ∈ piece, c ∈ text ∧ c ≠ mark := by
  induction text generalizing piece with
  | nil =>
      rw [pieces, List.mem_singleton] at listed
      simp [listed]
  | cons d text ih =>
      have behind : ∀ other ∈ pieces mark text, ∀ c ∈ other, c ∈ d :: text ∧ c ≠ mark :=
        fun other member c holds =>
          ⟨List.mem_cons_of_mem d (ih member c holds).1, (ih member c holds).2⟩
      rw [pieces] at listed
      split at listed
      · rcases List.mem_cons.mp listed with same | later
        · simp [same]
        · exact behind piece later
      · next differs =>
          cases parts : pieces mark text with
          | nil => exact absurd parts (pieces_ne_nil mark text)
          | cons first others =>
              rw [parts] at listed behind
              rcases List.mem_cons.mp listed with same | later
              · intro c holds
                rw [same] at holds
                rcases List.mem_cons.mp holds with same | inside
                · rw [same]
                  exact ⟨List.mem_cons_self, differs⟩
                · exact behind first List.mem_cons_self c inside
              · exact behind piece (List.mem_cons_of_mem first later)

theorem pieces_joined {mark : Char} {parts : List (List Char)} (some : parts ≠ [])
    (plain : ∀ part ∈ parts, mark ∉ part) : pieces mark (joined mark parts) = parts := by
  induction parts with
  | nil => contradiction
  | cons part rest ih =>
      have clean := plain part List.mem_cons_self
      cases rest with
      | nil => exact pieces_of_not_mem clean
      | cons next others =>
          rw [joined, pieces_append clean]
          · rw [ih (List.cons_ne_nil next others) fun other member =>
              plain other (List.mem_cons_of_mem part member)]
          · exact List.cons_ne_nil next others

theorem joined_eq_intercalate (mark : Char) (parts : List (List Char)) :
    joined mark parts = [mark].intercalate parts := by
  induction parts with
  | nil => rfl
  | cons part rest ih =>
      cases rest with
      | nil => simp [joined]
      | cons next others =>
          rw [joined, ih, List.intercalate_cons_cons, List.append_assoc]
          · rfl
          · exact List.cons_ne_nil next others

theorem mem_of_mem_joined {mark c : Char} {parts : List (List Char)}
    (held : c ∈ joined mark parts) : c = mark ∨ ∃ part ∈ parts, c ∈ part := by
  induction parts with
  | nil => contradiction
  | cons part rest ih =>
      cases rest with
      | nil => exact .inr ⟨part, List.mem_cons_self, held⟩
      | cons next others =>
          rw [joined, List.mem_append, List.mem_cons] at held
          · rcases held with inside | same | behind
            · exact .inr ⟨part, List.mem_cons_self, inside⟩
            · exact .inl same
            · rcases ih behind with same | ⟨other, listed, inside⟩
              · exact .inl same
              · exact .inr ⟨other, List.mem_cons_of_mem part listed, inside⟩
          · exact List.cons_ne_nil next others

@[simp] theorem joined_pieces (mark : Char) (text : List Char) :
    joined mark (pieces mark text) = text := by
  induction text with
  | nil => rfl
  | cons c text ih =>
      cases parts : pieces mark text with
      | nil =>
          have blank : text = [] := by rw [← ih, parts]; rfl
          simp [blank, pieces] at parts
      | cons piece others =>
          rw [parts] at ih
          by_cases equal : c = mark
          · simp [pieces, equal, parts, joined, ih]
          · cases others <;> simp_all [pieces, joined]

theorem startsWith_iff {text lead : String} :
    startsWith text lead = true ↔ lead.toList <+: text.toList := by
  rw [startsWith, Option.isSome_iff_exists]
  constructor
  · rintro ⟨rest, found⟩
    exact ⟨rest, (eq_append_of_after? found).symm⟩
  · rintro ⟨rest, split⟩
    exact ⟨rest, by rw [← split, after?_append]⟩

theorem startsWith_trans {text middle lead : String} (begins : startsWith text middle = true)
    (leads : startsWith middle lead = true) : startsWith text lead = true :=
  startsWith_iff.mpr ((startsWith_iff.mp leads).trans (startsWith_iff.mp begins))

theorem startsWith_append {text lead : String} (begins : startsWith text lead = true)
    (more : String) : startsWith (text ++ more) lead = true := by
  refine startsWith_trans (startsWith_iff.mpr ?_) begins
  rw [String.toList_append]
  exact List.prefix_append _ _

/-- A word that does not hold a mark ends before the first one of a text. -/
theorem prefix_of_marked {mark : Char} {word left right : List Char} (plain : mark ∉ word)
    (begins : word <+: left ++ mark :: right) : word <+: left := by
  have shares : left ++ [mark] <+: left ++ mark :: right := ⟨right, by simp⟩
  rcases List.prefix_or_prefix_of_prefix begins shares with within | beyond
  · rcases List.prefix_concat_iff.mp within with same | inside
    · exact absurd (by simp [same]) plain
    · exact inside
  · exact absurd (beyond.subset (by simp)) plain

/-- What follows the first mark of a text has no say in whether the text begins with a word
that ends in that mark and does not hold it otherwise. -/
theorem marked_prefix {mark : Char} {word left : List Char} (plain : mark ∉ word)
    (right other : List Char) (begins : word ++ [mark] <+: left ++ mark :: right) :
    word ++ [mark] <+: left ++ mark :: other := by
  have shares (right : List Char) : left ++ [mark] <+: left ++ mark :: right :=
    ⟨right, by simp⟩
  rcases List.prefix_or_prefix_of_prefix begins (shares right) with within | beyond
  · exact within.trans (shares other)
  · rcases List.prefix_concat_iff.mp beyond with same | inside
    · exact same ▸ shares other
    · exact absurd (inside.subset (by simp)) plain

end Dtdl.Text
