import Dtdl.Text.Unseen

/-!
# Mismatches between data and what is expected of them

Records are read from documents of more than one format.  What may go wrong with the
shape of the data is the same for all of them.

A text that a message quotes is put in quotation marks.  Quotation marks, backslashes
and the usual line controls are escaped with a backslash, and whatever cannot be seen
is written as its code point in hexadecimal digits.
-/

namespace Dtdl

namespace Text

def quotedChar (c : Char) : List Char :=
  if c = '"' then ['\\', '"']
  else if c = '\\' then ['\\', '\\']
  else if ' ' ≤ c && c ≤ '~' then [c]
  else if c = '\n' then ['\\', 'n']
  else if c = '\r' then ['\\', 'r']
  else if c = '\t' then ['\\', 't']
  else if c = '\x00' then ['\\', '0']
  else if unseen.contains c then ['\\', 'u', '\x7b'] ++ Nat.toDigits 16 c.toNat ++ ['\x7d']
  else [c]

def quoted (text : String) : String :=
  String.ofList ('"' :: text.toList.flatMap quotedChar ++ ['"'])

end Text

/-- What a document holds where something else is expected. -/
inductive Found where
  /-- The value that stands for nothing, under the name its format gives it. -/
  | absent (name : String)
  | bool (value : Bool)
  | integer (value : Int)
  /-- A whole number of more than 64 bits. -/
  | wideInteger (value : Int)
  /-- A floating point number, as its format writes it. -/
  | real (text : String)
  | string (text : String)
  | sequence
  | map
  deriving DecidableEq, Repr

def Found.text : Found → String
  | absent name => name
  | bool value => s!"boolean `{value}`"
  | integer value => s!"integer `{value}`"
  | wideInteger value => s!"integer `{value}` as " ++ (if value < 0 then "i128" else "u128")
  | real text => s!"floating point `{text}`"
  | string text => s!"string {Text.quoted text}"
  | sequence => "sequence"
  | map => "map"

/-- How data differ from what is expected. -/
inductive Mismatch where
  | type (found : Found) (expected : String)
  | value (found : Found) (expected : String)
  | length (count : Nat) (expected : String)
  | missingField (name : String)
  | duplicateField (name : String)
  | unknownVariant (name : String) (known : List String)
  deriving DecidableEq, Repr

def Mismatch.message : Mismatch → String
  | type found expected => s!"invalid type: {found.text}, expected {expected}"
  | value found expected => s!"invalid value: {found.text}, expected {expected}"
  | length count expected => s!"invalid length {count}, expected {expected}"
  | missingField name => s!"missing field `{name}`"
  | duplicateField name => s!"duplicate field `{name}`"
  | unknownVariant name known =>
      let names := String.intercalate ", " (known.map fun name => s!"`{name}`")
      s!"unknown variant `{name}`, expected one of {names}"

end Dtdl
