import Dtdl.Dtmi

/-!
# Legal references

A language version decides which identifiers a context may refer to.  Up to version 2
a label starts with a letter, only a major version may follow, and there is no
fragment.  From version 3 on a label may start with underscores, a minor version may
follow the major one, and a fragment is one more label.

`Dtmi.isReference` reads the text from the left on its own and does not go through
`Dtmi.parse?`.
-/

namespace Dtdl.Dtmi

def isLabelChar (c : Char) : Bool := c.isAlphanum || c = '_'

/-- Whether a label is legal: it starts with a letter, or from version 3 on also with
an underscore, and ends with a letter or digit. -/
def isLabel (language : Nat) (label : List Char) : Bool :=
  label.all isLabelChar &&
    (label.head?.any fun c => c.isAlpha || 2 < language && c = '_') &&
    label.getLast?.any Char.isAlphanum

/-- Whether a numeral has at most `width` digits and does not start with 0. -/
def isPlainNumeral (width : Nat) (digits : List Char) : Bool :=
  digits.all Char.isDigit && digits.length ≤ width && digits.head?.any (· ≠ '0')

/-- Whether a version is legal: nine digits for the major number and, from version 3
on, six for the minor number, which alone may be 0. -/
def isReferenceVersion (language : Nat) (text : List Char) : Bool :=
  match Text.cut '.' text with
  | (major, none) => isPlainNumeral 9 major
  | (major, some minor) =>
      2 < language && isPlainNumeral 9 major && (minor = ['0'] || isPlainNumeral 6 minor)

/-- The length in bytes that a reference may have. -/
def referenceLimit (language : Nat) : Nat := if language ≤ 2 then 2048 else 4096

/-- Whether a text is a legal reference in a language version. -/
def isReference (language : Nat) (text : String) : Bool :=
  text.utf8ByteSize ≤ referenceLimit language &&
    match Text.after? lead.toList text.toList with
    | none => false
    | some body =>
        let outer := Text.cut '#' body
        let inner := Text.cut ';' outer.1
        (Text.pieces ':' inner.1).all (isLabel language) &&
          inner.2.all (isReferenceVersion language) &&
          outer.2.all fun fragment => 2 < language && isLabel language fragment

/-- Which references a resolver accepts: those that the language versions allow, or
everything that has the structure of an identifier. -/
inductive Rules where
  | released
  | structural
  deriving DecidableEq, Repr

/-- Whether a text may be referred to in a language version. -/
def Rules.accepts (rules : Rules) (language : Nat) (text : String) : Bool :=
  match rules with
  | .released => isReference language text
  | .structural => (parse? text).isSome

/-- What definitions of terms have to know of identifiers: how their structure is read, and
which of them a language version may refer to. -/
structure Validator where
  parse? : String → Option Dtmi
  accepts (language : Nat) (text : String) : Bool

/-- Rules decide on references only; the structure is the same under all of them. -/
def Rules.validator (rules : Rules) : Validator := ⟨Dtmi.parse?, rules.accepts⟩

@[simp] theorem Rules.parse?_validator (rules : Rules) : rules.validator.parse? = Dtmi.parse? :=
  rfl

@[simp] theorem Rules.accepts_validator (rules : Rules) :
    rules.validator.accepts = rules.accepts := rfl

end Dtdl.Dtmi
