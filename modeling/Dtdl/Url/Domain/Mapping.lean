import Dtdl.Text.Composition
import Dtdl.Url.Domain.Mapping.Table

/-!
# Mapping of domain names

Characters that are told apart only by case, width or style are mapped to one of them,
some are left out, and some may not stand in a domain name at all.
-/

namespace Dtdl.Url.Domain

/-- A row of the table of mapped characters. -/
inductive MappingRow where
  | shifted (first last : Nat) (distance : Int)
  /-- Every second character is mapped to the one behind it. -/
  | paired (first last : Nat)
  | listed (first : Nat) (images : List (List Nat))
  deriving DecidableEq, Repr

namespace MappingRow

def ofWord (word : List Char) : MappingRow :=
  match Text.cut ':' word with
  | (first, some images) =>
      .listed (Text.hexadecimal first)
        ((Text.pieces ',' images).map fun image =>
          (Text.pieces '.' image).map Text.hexadecimal)
  | (run, none) =>
      let isDigit (c : Char) : Bool := (Text.hexValue? c).isSome
      let (first, behind) := Text.cut '-' run
      let behind := behind.getD []
      let first := Text.hexadecimal first
      let last := Text.hexadecimal (behind.takeWhile isDigit)
      match behind.dropWhile isDigit with
      | '+' :: distance => .shifted first last (Text.hexadecimal distance)
      | '-' :: distance => .shifted first last (0 - (Text.hexadecimal distance : Int))
      | _ => .paired first last

/-- The image of a character, if a row maps it. -/
def image? (code : Nat) : MappingRow → Option (List Nat)
  | shifted first last distance =>
      if first ≤ code && code ≤ last then some [((code : Int) + distance).toNat] else none
  | paired first last =>
      if first ≤ code && code ≤ last && (code - first) % 2 = 0 then some [code + 1] else none
  | listed first images => if first ≤ code then images[code - first]? else none

end MappingRow

def mapping : List MappingRow := (Text.words mappingRows.toList).map MappingRow.ofWord

def isKept (c : Char) : Bool :=
  if c.toNat < 0x80 then !c.isUpper
  else
    !refused.contains c && !ignored.contains c &&
      !mapping.any fun row => (row.image? c.toNat).isSome

/-- The image of a character; nothing if it may not stand in a domain name. -/
def image? (c : Char) : Option (List Char) :=
  if c.toNat < 0x80 then some [c.toLower]
  else if refused.contains c then none
  else if ignored.contains c then some []
  else
    match mapping.findSome? (MappingRow.image? c.toNat) with
    | some image => some (image.map Char.ofNat)
    | none => some [c]

/-- The mapped and composed form of a domain name. -/
def mapped? (name : List Char) : Option (List Char) :=
  (name.mapM image?).map fun images => Text.Composition.composed images.flatten

end Dtdl.Url.Domain
