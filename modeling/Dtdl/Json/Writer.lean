import Dtdl.Json.Value

/-!
# Writing JSON

The compact form has no blanks.  The indented form puts every item and member on a
line of its own, two blanks deeper than its container, and writes empty containers as
`[]` and `{}`.

In a string only the quotation mark, the backslash and the controls below U+0020 are
escaped.
-/

namespace Dtdl.Json

namespace Writer

/-- A hexadecimal digit in lower case. -/
def hexDigit (value : Nat) : Char :=
  if value < 10 then Char.ofNat ('0'.toNat + value) else Char.ofNat ('a'.toNat + (value - 10))

/-- A character as it is written in a string. -/
def escaped (c : Char) : List Char :=
  if c = '"' then ['\\', '"']
  else if c = '\\' then ['\\', '\\']
  else if c = '\n' then ['\\', 'n']
  else if c = '\r' then ['\\', 'r']
  else if c = '\t' then ['\\', 't']
  else if c = '\x08' then ['\\', 'b']
  else if c = '\x0c' then ['\\', 'f']
  else if c.toNat < 0x20 then
    ['\\', 'u', '0', '0', hexDigit (c.toNat / 16), hexDigit (c.toNat % 16)]
  else [c]

def quoted (text : String) : List Char := '"' :: text.toList.flatMap escaped ++ ['"']

mutual

def compact : Value → List Char
  | .null => "null".toList
  | .bool true => "true".toList
  | .bool false => "false".toList
  | .number number => number.text.toList
  | .string text => quoted text
  | .array items => '[' :: compactItems items ++ [']']
  | .object members => '\x7b' :: compactMembers members ++ ['\x7d']

def compactItems : List Value → List Char
  | [] => []
  | [item] => compact item
  | item :: other :: rest => compact item ++ ',' :: compactItems (other :: rest)

def compactMembers : List (String × Value) → List Char
  | [] => []
  | [(name, value)] => quoted name ++ ':' :: compact value
  | (name, value) :: other :: rest =>
      quoted name ++ ':' :: compact value ++ ',' :: compactMembers (other :: rest)

end

/-- A line break and the indentation behind it. -/
def lineBreak (depth : Nat) : List Char := '\n' :: List.replicate (2 * depth) ' '

mutual

/-- A value in indented form, at a depth. -/
def indented (depth : Nat) : Value → List Char
  | .array [] => ['[', ']']
  | .array (item :: rest) =>
      '[' :: indentedItems (depth + 1) (item :: rest) ++ lineBreak depth ++ [']']
  | .object [] => ['\x7b', '\x7d']
  | .object (entry :: rest) =>
      '\x7b' :: indentedMembers (depth + 1) (entry :: rest) ++ lineBreak depth ++ ['\x7d']
  | .null => compact .null
  | .bool value => compact (.bool value)
  | .number number => compact (.number number)
  | .string text => compact (.string text)

def indentedItems (depth : Nat) : List Value → List Char
  | [] => []
  | [item] => lineBreak depth ++ indented depth item
  | item :: other :: rest =>
      lineBreak depth ++ indented depth item ++ ',' :: indentedItems depth (other :: rest)

def indentedMembers (depth : Nat) : List (String × Value) → List Char
  | [] => []
  | [(name, value)] => lineBreak depth ++ quoted name ++ ':' :: ' ' :: indented depth value
  | (name, value) :: other :: rest =>
      lineBreak depth ++ quoted name ++ ':' :: ' ' :: indented depth value ++
        ',' :: indentedMembers depth (other :: rest)

end

end Writer

def Value.text (value : Value) : String := String.ofList (Writer.compact value)

def Value.indentedText (value : Value) : String := String.ofList (Writer.indented 0 value)

end Dtdl.Json
