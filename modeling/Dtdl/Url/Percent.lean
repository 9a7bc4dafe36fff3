import Dtdl.Text

/-!
# Percent encoding

Characters that a part of a URL may not hold are written as the bytes of their UTF-8
form, each as a percent sign and two hexadecimal digits.  Controls and everything
outside ASCII are always written so; each part adds reserved characters of its own.
-/

namespace Dtdl.Url.Percent

def hexDigit (value : Nat) : Char :=
  if value < 10 then Char.ofNat ('0'.toNat + value) else Char.ofNat ('A'.toNat + (value - 10))

def byte (value : UInt8) : List Char :=
  ['%', hexDigit (value.toNat / 16), hexDigit (value.toNat % 16)]

/-- Whether a character is written encoded wherever it stands. -/
def isForeign (c : Char) : Bool := c.toNat < 0x20 || 0x7E < c.toNat

/-- Encode the foreign characters and the reserved ones. -/
def encode (reserved text : List Char) : List Char :=
  text.flatMap fun c =>
    if isForeign c || reserved.contains c then (String.utf8EncodeChar c).flatMap byte else [c]

/-! The characters that are reserved in each part of a URL. -/

def fragment : List Char := [' ', '"', '<', '>', '\x60']

def query : List Char := [' ', '"', '#', '<', '>']

/-- Reserved in the query of a special scheme. -/
def specialQuery : List Char := '\'' :: query

def path : List Char := ['#', '?', '\x7b', '\x7d'] ++ fragment

def userinfo : List Char := ['/', ':', ';', '=', '@', '[', '\\', ']', '^', '|'] ++ path

/-- The bytes that a text stands for.  A percent sign that two hexadecimal digits do
not follow stands for itself. -/
def decode : List Char → List UInt8
  | [] => []
  | '%' :: high :: low :: rest =>
      match Text.hexValue? high, Text.hexValue? low with
      | some high, some low => UInt8.ofNat (high * 16 + low) :: decode rest
      | _, _ => '%'.toUInt8 :: decode (high :: low :: rest)
  | c :: rest => String.utf8EncodeChar c ++ decode rest

end Dtdl.Url.Percent
