import Dtdl.Text

/-!
# Paths

A path keeps the text that it was written as, which is how it is shown.  Two paths are
compared by their components: repeated slashes count once, and a dot stands for nothing
except at the very front of a relative path.
-/

namespace Dtdl

structure Path where
  text : String
  deriving DecidableEq, Repr

inductive Path.Component where
  | root
  | here
  | parent
  | name (text : String)
  deriving DecidableEq, Repr

namespace Path

/-- The rank of a kind of component, and the name of a named one. -/
def Component.key : Component → Nat × String
  | root => (0, "")
  | here => (1, "")
  | parent => (2, "")
  | name text => (3, text)

/-- Whether a component comes before another or equals it. -/
def Component.le (left right : Component) : Bool :=
  left.key.1 < right.key.1 || left.key.1 = right.key.1 && left.key.2 ≤ right.key.2

/-- The component that a part between slashes stands for, if it stands for one. -/
def Component.ofPart? (part : List Char) : Option Component :=
  match part with
  | [] | ['.'] => none
  | ['.', '.'] => some .parent
  | _ => some (.name (String.ofList part))

/-- The parts of a path between its slashes, empty ones included. -/
def parts (path : Path) : List (List Char) := Text.pieces '/' path.text.toList

def components (path : Path) : List Component :=
  let inner := path.parts.filterMap Component.ofPart?
  if path.text = "" then []
  else
    match path.parts with
    | [] :: _ => .root :: inner
    | ['.'] :: _ => .here :: inner
    | _ => inner

def same (left right : Path) : Bool := left.components = right.components

/-- Whether a component list comes before another or equals it; the first difference
decides. -/
def componentsLe : List Component → List Component → Bool
  | [], _ => true
  | _ :: _, [] => false
  | left :: lefts, right :: rights =>
      if left = right then componentsLe lefts rights else left.le right

/-- Whether a path comes before another or equals it. -/
def le (left right : Path) : Bool := componentsLe left.components right.components

/-- Whether a path begins at the root of the file system. -/
def isAbsolute (path : Path) : Bool := path.text.toList.head? = some '/'

/-- The path that `further` names inside a directory. -/
def join (directory : Path) (further : String) : Path :=
  if Path.isAbsolute ⟨further⟩ || directory.text.isEmpty then ⟨further⟩
  else if directory.text.toList.getLast? = some '/' then ⟨directory.text ++ further⟩
  else ⟨directory.text ++ "/" ++ further⟩

/-! ## The order of paths -/

namespace Component

theorem key_injective {left right : Component} (same : left.key = right.key) : left = right := by
  cases left <;> cases right <;> simp_all [key]

theorem le_iff {left right : Component} :
    left.le right = true ↔
      left.key.1 < right.key.1 ∨ left.key.1 = right.key.1 ∧ left.key.2 ≤ right.key.2 := by
  simp [le]

theorem le_total (left right : Component) : left.le right = true ∨ right.le left = true := by
  simp only [le_iff]
  rcases Nat.lt_trichotomy left.key.1 right.key.1 with before | equal | behind
  · exact .inl (.inl before)
  · rcases String.le_total left.key.2 right.key.2 with before | behind
    · exact .inl (.inr ⟨equal, before⟩)
    · exact .inr (.inr ⟨equal.symm, behind⟩)
  · exact .inr (.inl behind)

theorem le_trans {first second third : Component} (before : first.le second = true)
    (behind : second.le third = true) : first.le third = true := by
  rw [le_iff] at before behind ⊢
  rcases before with before | ⟨before, names⟩
  · rcases behind with behind | ⟨behind, -⟩
    · exact .inl (Nat.lt_trans before behind)
    · exact .inl (behind ▸ before)
  · rcases behind with behind | ⟨behind, others⟩
    · exact .inl (before ▸ behind)
    · exact .inr ⟨before.trans behind, String.le_trans names others⟩

theorem le_antisymm {left right : Component} (before : left.le right = true)
    (behind : right.le left = true) : left = right := by
  rw [le_iff] at before behind
  apply key_injective
  rcases before with before | ⟨equal, names⟩
  · rcases behind with behind | ⟨equal, -⟩ <;> omega
  · rcases behind with behind | ⟨-, others⟩
    · omega
    · exact Prod.ext equal (String.le_antisymm names others)

end Component

theorem componentsLe_total (left right : List Component) :
    componentsLe left right = true ∨ componentsLe right left = true := by
  induction left generalizing right with
  | nil => exact .inl rfl
  | cons first lefts ih =>
      cases right with
      | nil => exact .inr rfl
      | cons second rights =>
          by_cases equal : first = second
          · simpa [componentsLe, equal] using ih rights
          · simpa [componentsLe, equal, Ne.symm equal] using Component.le_total first second

theorem componentsLe_antisymm {left right : List Component}
    (before : componentsLe left right = true) (behind : componentsLe right left = true) :
    left = right := by
  induction left generalizing right with
  | nil =>
      cases right with
      | nil => rfl
      | cons second rights => contradiction
  | cons first lefts ih =>
      cases right with
      | nil => contradiction
      | cons second rights =>
          by_cases equal : first = second
          · simp only [componentsLe, equal, if_true] at before behind
            rw [equal, ih before behind]
          · simp only [componentsLe, equal, Ne.symm equal, if_false] at before behind
            exact absurd (Component.le_antisymm before behind) equal

theorem componentsLe_trans {left middle right : List Component}
    (before : componentsLe left middle = true) (behind : componentsLe middle right = true) :
    componentsLe left right = true := by
  induction left generalizing middle right with
  | nil => rfl
  | cons first lefts ih =>
      cases middle with
      | nil => contradiction
      | cons second middles =>
          cases right with
          | nil => contradiction
          | cons third rights =>
              by_cases early : first = second <;> by_cases late : second = third
              · subst early late
                simp only [componentsLe, if_true] at before behind ⊢
                exact ih before behind
              · simp_all [componentsLe]
              · simp_all [componentsLe]
              · simp only [componentsLe, early, late, if_false] at before behind
                have differ : first ≠ third := by
                  intro same
                  rw [same] at before
                  exact late (Component.le_antisymm behind before)
                rw [componentsLe, if_neg differ]
                exact Component.le_trans before behind

end Path

end Dtdl
