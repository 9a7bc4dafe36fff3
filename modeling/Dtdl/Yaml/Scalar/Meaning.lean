import Dtdl.Binary64.Shortest
import Dtdl.Mismatch
import Dtdl.Text
import Dtdl.Yaml.Token

/-!
# What a scalar stands for

A plain scalar stands for nothing, a truth value or a number if it is written like one,
and for its own text otherwise.  A whole number may be written in base 16, 8 or 2
behind `0x`, `0o` or `0b`; a decimal one with a superfluous leading zero is a text.  A
scalar in quotation marks or in a block stands for its text.  A tag of the common
schema decides the matter for scalars of every style.
-/

namespace Dtdl.Yaml.Meaning

def isNull (text : String) : Bool := ["~", "null", "Null", "NULL"].contains text

def bool? (text : String) : Option Bool :=
  if ["true", "True", "TRUE"].contains text then some true
  else if ["false", "False", "FALSE"].contains text then some false
  else none

/-- The value of a nonempty run of digits of a base. -/
def digits? (base : Nat) (digits : List Char) : Option Nat :=
  let digit? (c : Char) : Option Nat := (Text.hexValue? c).filter (· < base)
  if digits.isEmpty then none
  else digits.foldlM (fun value c => do return value * base + (← digit? c)) 0

/-- The value of a whole number in another base than ten, behind its mark. -/
def based? : List Char → Option Nat
  | '0' :: 'x' :: digits => digits? 16 digits
  | '0' :: 'o' :: digits => digits? 8 digits
  | '0' :: 'b' :: digits => digits? 2 digits
  | _ => none

/-- Whether a text is a decimal number with a superfluous leading zero, behind a sign
if it has one. -/
def hasLeadingZero (text : List Char) : Bool :=
  let digits :=
    match text with
    | '-' :: rest | '+' :: rest => rest
    | text => text
  1 < digits.length && digits.head? = some '0' && digits.all Char.isDigit

/-- The whole number without sign, or behind a plus sign, that a text stands for. -/
def natural? (text : List Char) : Option Nat :=
  let digits :=
    match text with
    | '+' :: rest => rest
    | text => text
  match based? digits with
  | some value => some value
  | none => if hasLeadingZero text then none else digits? 10 digits

/-- The magnitude of the whole number behind a minus sign that a text stands for. -/
def negative? (text : List Char) : Option Nat :=
  match text with
  | '-' :: digits =>
      match based? digits with
      | some value => some value
      | none => if hasLeadingZero text then none else digits? 10 digits
  | _ => none

/-- The whole number that a text stands for, as far as it fits into 128 bits. -/
def integer? (text : List Char) : Option Found :=
  match natural? text, negative? text with
  | some value, _ =>
      if value < UInt64.size then some (.integer value)
      else if value < Nat.pow 2 128 then some (.wideInteger value)
      else none
  | none, some value =>
      if value ≤ Nat.pow 2 63 then some (.integer (-value))
      else if value ≤ Nat.pow 2 127 then some (.wideInteger (-value))
      else none
  | none, none => none

/-- The decimal that a text without sign stands for. -/
def decimal? (text : List Char) : Option Decimal := do
  let whole := text.takeWhile Char.isDigit
  let behind := text.dropWhile Char.isDigit
  let (fraction, behind) :=
    match behind with
    | '.' :: rest => (rest.takeWhile Char.isDigit, rest.dropWhile Char.isDigit)
    | rest => ([], rest)
  if whole.isEmpty && fraction.isEmpty then none
  let exponent : Int ←
    match behind with
    | [] => some 0
    | mark :: rest =>
        if mark = 'e' || mark = 'E' then
          match rest with
          | '-' :: digits => (digits? 10 digits).map fun value => 0 - (value : Int)
          | '+' :: digits => (digits? 10 digits).map Int.ofNat
          | digits => (digits? 10 digits).map Int.ofNat
        else none
  return ⟨Text.decimal (whole ++ fraction), exponent - fraction.length⟩

/-- The floating point number that a text stands for, as it is written in messages. -/
def real? (text : List Char) : Option String :=
  let (isNegative, isSigned, magnitude) :=
    match text with
    | '-' :: rest => (true, true, rest)
    | '+' :: rest => (false, true, rest)
    | rest => (false, false, rest)
  let sign := if isNegative then "-" else ""
  let word := String.ofList magnitude
  if [".inf", ".Inf", ".INF"].contains word then some (sign ++ "inf")
  else if !isSigned && [".nan", ".NaN", ".NAN"].contains word then some "NaN"
  else do
    let value ← Binary64.ofDecimal (← decimal? magnitude)
    return sign ++ value.shortest.positional

/-- What a plain scalar stands for. -/
def plain (text : String) : Found :=
  let characters := text.toList
  if text.isEmpty || isNull text then .absent "unit value"
  else
    match bool? text with
    | some value => .bool value
    | none =>
        match integer? characters with
        | some found => found
        | none =>
            match if hasLeadingZero characters then none else real? characters with
            | some text => .real text
            | none => .string text

/-- The lead of the tags of the common schema. -/
def schema : String := "tag:yaml.org,2002:"

/-- How a scalar differs from something else that is expected. -/
def mismatch (tag : Option String) (style : Style) (text expected : String) : Mismatch :=
  let fitting (found : Option Found) (kind : String) : Mismatch :=
    match found with
    | some found => .type found expected
    | none => .value (.string text) kind
  let byStyle : Mismatch :=
    .type (if style = .plain then plain text else .string text) expected
  match tag with
  | none => byStyle
  | some tag =>
      if tag = schema ++ "bool" then fitting ((bool? text).map .bool) "a boolean"
      else if tag = schema ++ "int" then fitting (integer? text.toList) "an integer"
      else if tag = schema ++ "float" then fitting ((real? text.toList).map .real) "a float"
      else if tag = schema ++ "null" then
        fitting (if isNull text then some (.absent "unit value") else none) "null"
      else if Text.startsWith tag "!" then byStyle
      else .type (.string text) expected

end Dtdl.Yaml.Meaning
