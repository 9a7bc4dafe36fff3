import Dtdl.Proofs.Grammar
import Dtdl.Proofs.Patterns

/-!
# The structure of identifiers

The structure of an identifier is laid down by a pattern with groups: one for its path, one for
each of the two numbers of its version, and one for its fragment.  Here the pattern is written just
as it is laid down, and so is what the groups capture.  Two conditions are no part of the pattern.
No label of the path is empty, and the numbers fit 32 bits.

`Dtmi.parse?` knows neither the pattern nor its groups.  The main statement is that it reads the
texts of the pattern that meet the two conditions, and gives what the groups capture there.
-/

namespace Dtdl.Dtmi

open Pattern
open scoped Computability

/-! ## The pattern -/

/-- A path: no mark of a version and no mark of a fragment. -/
def pathPattern : Language Char := plus (one fun c => c ≠ ';' && c ≠ '#')

/-- A number, perhaps with leading zeros. -/
def digitsPattern : Language Char := plus (one Char.isDigit)

/-- What stands behind the mark of a fragment. -/
def fragmentPattern : Language Char := (one fun c => c ≠ '#')∗

/-- The structure of identifiers. -/
def structurePattern : Language Char :=
  {lead.toList} * pathPattern *
      opt (char ';' * (digitsPattern * opt (char '.' * digitsPattern))) *
    opt (char '#' * fragmentPattern)

/-- What the groups of the structure capture: the path, the major number with the minor one, and
the fragment. -/
structure Captures where
  path : List Char
  version : Option (List Char × Option (List Char))
  fragment : Option (List Char)

namespace Captures

/-- The text of the numbers of a version. -/
def spelled (version : List Char × Option (List Char)) : List Char :=
  version.1 ++ version.2.elim [] ('.' :: ·)

/-- The groups match a text, each in its place. -/
structure Match (captures : Captures) (text : List Char) : Prop where
  path : captures.path ∈ pathPattern
  major : ∀ version ∈ captures.version, version.1 ∈ digitsPattern
  minor : ∀ version ∈ captures.version, ∀ minor ∈ version.2, minor ∈ digitsPattern
  fragment : ∀ fragment ∈ captures.fragment, fragment ∈ fragmentPattern
  whole : text = lead.toList ++ captures.path ++
    (captures.version.map spelled).elim [] (';' :: ·) ++ captures.fragment.elim [] ('#' :: ·)

/-- What is asked of the groups that the pattern does not say. -/
structure Admitted (captures : Captures) : Prop where
  labels : [] ∉ Text.pieces ':' captures.path
  major : ∀ version ∈ captures.version, value (String.ofList version.1) ≤ 4294967295
  minor : ∀ version ∈ captures.version, ∀ minor ∈ version.2,
    value (String.ofList minor) ≤ 4294967295

/-- The identifier that the groups are put together to. -/
def identifier (captures : Captures) : Dtmi where
  labels := (Text.pieces ':' captures.path).map String.ofList
  suffix := captures.version.map fun version =>
    ⟨String.ofList version.1, version.2.map String.ofList⟩
  fragment := captures.fragment.map String.ofList

end Captures

variable {text : List Char} {captures : Captures}

/-! ## Groups -/

/-- A text of the pattern is one that the groups match in some way. -/
theorem mem_structurePattern_iff :
    text ∈ structurePattern ↔ ∃ captures : Captures, captures.Match text := by
  rw [structurePattern, Language.mem_mul]
  simp only [mem_opt_marked, Language.mem_mul]
  constructor
  · rintro ⟨_, ⟨_, ⟨_, rfl, path, held, rfl⟩, _, ⟨none | numbers, both, rfl⟩, rfl⟩, _,
      ⟨fragment, also, rfl⟩, rfl⟩
    · exact ⟨⟨path, none, fragment⟩, held, by simp, by simp, also, by simp⟩
    · obtain ⟨major, numeral, _, ⟨minor, others, rfl⟩, rfl⟩ := both numbers rfl
      exact ⟨⟨path, some (major, minor), fragment⟩, held, by simpa using numeral,
        by simpa using others, also, by simp [Captures.spelled]⟩
  · rintro ⟨⟨path, version, fragment⟩, held, majors, minors, also, rfl⟩
    refine ⟨_, ⟨_, ⟨_, rfl, path, held, rfl⟩, _, ⟨version.map Captures.spelled, ?_, rfl⟩, rfl⟩, _,
      ⟨fragment, also, rfl⟩, rfl⟩
    intro rest given
    obtain ⟨numbers, found, rfl⟩ := Option.mem_map.mp given
    exact ⟨numbers.1, majors numbers found, _, ⟨numbers.2, minors numbers found, rfl⟩, rfl⟩

/-- What is cut off a text at its marks. -/
def Captures.ofText? (text : List Char) : Option Captures :=
  (Text.after? lead.toList text).map fun body =>
    let outer := Text.cut '#' body
    let inner := Text.cut ';' outer.1
    ⟨inner.1, inner.2.map (Text.cut '.'), outer.2⟩

theorem mem_digits {digits : List Char} :
    digits ∈ digitsPattern ↔ digits ≠ [] ∧ ∀ c ∈ digits, c.isDigit = true := mem_plus_one

theorem not_mem_digits {digits : List Char} {mark : Char} (numeral : digits ∈ digitsPattern)
    (other : mark.isDigit = false) : mark ∉ digits := by
  intro held
  have digit := (mem_digits.mp numeral).2 mark held
  rw [digit] at other
  contradiction

namespace Captures.Match

theorem not_mem_path (matched : captures.Match text) {mark : Char}
    (excluded : (mark ≠ ';' && mark ≠ '#') = false) : mark ∉ captures.path := by
  intro held
  have admitted := (mem_plus_one.mp matched.path).2 mark held
  rw [admitted] at excluded
  contradiction

theorem not_mem_spelled (matched : captures.Match text) :
    ∀ numbers ∈ captures.version, '#' ∉ spelled numbers := by
  intro numbers given
  refine Text.not_mem_marked (not_mem_digits (matched.major numbers given) rfl) (by decide) ?_
  intro digits written
  exact not_mem_digits (matched.minor numbers given digits written) rfl

theorem ofText?_eq (matched : captures.Match text) : ofText? text = some captures := by
  have noNumberSign :
      '#' ∉ captures.path ++ (captures.version.map spelled).elim [] (';' :: ·) := by
    refine Text.not_mem_marked (matched.not_mem_path rfl) (by decide) ?_
    intro written given
    obtain ⟨numbers, version, rfl⟩ := Option.mem_map.mp given
    exact matched.not_mem_spelled numbers version
  have numbers : (captures.version.map spelled).map (Text.cut '.') = captures.version := by
    rw [Option.map_map]
    cases version : captures.version with
    | none => rfl
    | some numbers =>
        have noDot : '.' ∉ numbers.1 := not_mem_digits (matched.major numbers version) rfl
        exact congrArg some (Text.cut_marked noDot numbers.2)
  rw [ofText?, matched.whole, List.append_assoc, List.append_assoc, Text.after?_append,
    Option.map_some]
  simp only [← List.append_assoc]
  rw [Text.cut_marked noNumberSign, Text.cut_marked (matched.not_mem_path rfl), numbers]

theorem unique {others : Captures} (matched : captures.Match text) (also : others.Match text) :
    captures = others :=
  Option.some.inj (matched.ofText?_eq.symm.trans also.ofText?_eq)

end Captures.Match

/-! ## Reading -/

section Reading

variable {text : String} {dtmi : Dtmi}

/-- An identifier is written with what the groups capture, each in its place. -/
theorem Captures.toList_text_identifier (captures : Captures) :
    captures.identifier.text.toList = lead.toList ++ captures.path ++
      (captures.version.map spelled).elim [] (';' :: ·) ++
        captures.fragment.elim [] ('#' :: ·) := by
  have name : captures.identifier.name.toList = lead.toList ++ captures.path := toList_name rfl
  have version : captures.identifier.suffix.map (·.text.toList) =
      captures.version.map spelled := by
    rw [identifier, Option.map_map]
    cases captures.version with
    | none => rfl
    | some numbers =>
        obtain ⟨major, minor⟩ := numbers
        cases minor <;> simp [Suffix.text, spelled]
  have fragment : captures.identifier.fragment.map String.toList = captures.fragment := by
    rw [identifier]
    cases captures.fragment <;> simp
  rw [Dtmi.text, String.toList_append, name, toList_tail, version, fragment, ← List.append_assoc]

theorem Captures.Match.text_identifier (matched : captures.Match text.toList) :
    captures.identifier.text = text := by
  apply String.toList_injective
  rw [captures.toList_text_identifier, matched.whole]

theorem numeral_of_mem {digits : List Char} (member : digits ∈ digitsPattern)
    (fits : value (String.ofList digits) ≤ 4294967295) : Numeral (String.ofList digits) := by
  obtain ⟨written, decimal⟩ := mem_digits.mp member
  refine ⟨?_, ?_, fits⟩
  · simpa using written
  · simpa using decimal

theorem spells_of_match (matched : captures.Match text.toList) (admitted : captures.Admitted) :
    Spells captures.identifier text := by
  constructor
  case named => simpa [Captures.identifier] using Text.pieces_ne_nil ':' captures.path
  case labels =>
    intro label listed
    obtain ⟨piece, member, rfl⟩ := List.mem_map.mp listed
    constructor
    case written =>
      intro empty
      have nothing : piece = [] := by simpa using empty
      exact admitted.labels (nothing ▸ member)
    case unmarked =>
      intro c held
      rw [String.toList_ofList] at held
      obtain ⟨inPath, notColon⟩ := Text.mem_of_mem_pieces member c held
      have unmarked := (mem_plus_one.mp matched.path).2 c inPath
      exact ⟨notColon, by simpa using unmarked⟩
  case major =>
    intro suffix given
    obtain ⟨numbers, found, rfl⟩ := Option.mem_map.mp given
    exact numeral_of_mem (matched.major numbers found) (admitted.major numbers found)
  case minor =>
    intro suffix given minor written
    obtain ⟨numbers, found, rfl⟩ := Option.mem_map.mp given
    obtain ⟨digits, behind, rfl⟩ := Option.mem_map.mp written
    exact numeral_of_mem (matched.minor numbers found digits behind)
      (admitted.minor numbers found digits behind)
  case fragment =>
    intro fragment given
    obtain ⟨written, found, rfl⟩ := Option.mem_map.mp given
    intro held
    rw [String.toList_ofList] at held
    have unmarked := mem_kstar_one.mp (matched.fragment written found) '#' held
    contradiction
  case whole => rw [← text_eq, matched.text_identifier]

/-- What the groups have to capture for an identifier to be put together. -/
def captured (dtmi : Dtmi) : Captures where
  path := Text.joined ':' (dtmi.labels.map String.toList)
  version := dtmi.suffix.map fun suffix => (suffix.major.toList, suffix.minor.map String.toList)
  fragment := dtmi.fragment.map String.toList

theorem identifier_captured (spells : Spells dtmi text) : dtmi.captured.identifier = dtmi := by
  have labels : dtmi.captured.identifier.labels = dtmi.labels := by
    rw [Captures.identifier, captured, spells.pieces_eq]
    simp
  have suffix : dtmi.captured.identifier.suffix = dtmi.suffix := by
    rw [Captures.identifier, captured]
    cases dtmi.suffix <;> simp [Function.comp_def]
  have fragment : dtmi.captured.identifier.fragment = dtmi.fragment := by
    rw [Captures.identifier, captured]
    cases dtmi.fragment <;> simp
  obtain ⟨names, numbers, mark⟩ := dtmi
  rw [Captures.identifier, Dtmi.mk.injEq]
  exact ⟨labels, suffix, fragment⟩

theorem Numeral.mem {digits : String} (numeral : Numeral digits) :
    digits.toList ∈ digitsPattern := by
  refine mem_digits.mpr ⟨?_, numeral.decimal⟩
  rw [ne_eq, String.toList_eq_nil_iff]
  exact numeral.written

theorem admitted_captured (spells : Spells dtmi text) : dtmi.captured.Admitted := by
  constructor
  case labels =>
    rw [captured, spells.pieces_eq]
    intro listed
    obtain ⟨label, member, nothing⟩ := List.mem_map.mp listed
    exact (spells.labels label member).written (String.toList_eq_nil_iff.mp nothing)
  case major =>
    intro version given
    obtain ⟨suffix, found, rfl⟩ := Option.mem_map.mp given
    rw [String.ofList_toList]
    exact (spells.major suffix found).fits
  case minor =>
    intro version given minor written
    obtain ⟨suffix, found, rfl⟩ := Option.mem_map.mp given
    obtain ⟨digits, behind, rfl⟩ := Option.mem_map.mp written
    rw [String.ofList_toList]
    exact (spells.minor suffix found digits behind).fits

theorem match_captured (spells : Spells dtmi text) : dtmi.captured.Match text.toList := by
  constructor
  case path =>
    refine mem_plus_one.mpr ⟨?_, fun c held => ?_⟩
    · intro nothing
      have whole := (admitted_captured spells).labels
      rw [nothing] at whole
      exact whole List.mem_cons_self
    · simpa using spells.not_mem_path c held
  case major =>
    intro version given
    obtain ⟨suffix, found, rfl⟩ := Option.mem_map.mp given
    exact (spells.major suffix found).mem
  case minor =>
    intro version given minor written
    obtain ⟨suffix, found, rfl⟩ := Option.mem_map.mp given
    obtain ⟨digits, behind, rfl⟩ := Option.mem_map.mp written
    exact (spells.minor suffix found digits behind).mem
  case fragment =>
    intro fragment given
    obtain ⟨written, found, rfl⟩ := Option.mem_map.mp given
    refine mem_kstar_one.mpr fun c held => ?_
    have unmarked : c ≠ '#' := fun same => spells.fragment written found (same ▸ held)
    simpa using unmarked
  case whole =>
    rw [← Captures.toList_text_identifier, identifier_captured spells, spells.text_eq]

end Reading

/-- The texts that are read are those of the pattern whose groups are admitted, and what is read is
what the groups capture. -/
theorem parse?_iff_match (text : String) (dtmi : Dtmi) :
    parse? text = some dtmi ↔
      ∃ captures : Captures,
        captures.Match text.toList ∧ captures.Admitted ∧ captures.identifier = dtmi := by
  constructor
  · intro parsed
    have spells := spells_of_parse? parsed
    exact ⟨dtmi.captured, match_captured spells, admitted_captured spells,
      identifier_captured spells⟩
  · rintro ⟨captures, matched, admitted, rfl⟩
    exact parse?_of_spells (spells_of_match matched admitted)

/-- Nothing is read from a text that the pattern does not have. -/
theorem mem_structurePattern_of_parse? {text : String} {dtmi : Dtmi}
    (parsed : parse? text = some dtmi) : text.toList ∈ structurePattern := by
  obtain ⟨captures, matched, -, -⟩ := (parse?_iff_match text dtmi).mp parsed
  exact mem_structurePattern_iff.mpr ⟨captures, matched⟩

end Dtdl.Dtmi
