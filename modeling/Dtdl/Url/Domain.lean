import Dtdl.Text.Marks
import Dtdl.Url.Domain.Direction
import Dtdl.Url.Domain.Joiner
import Dtdl.Url.Domain.Mapping
import Dtdl.Url.Domain.Punycode

/-!
# Domain names

A domain name is mapped and cut into its labels at the points.  A label outside ASCII is
written in its ASCII form behind `xn--`; a label that is given in that form has to be the
form of one that is written so.
-/

namespace Dtdl.Url.Domain

/-- Whether a character may not stand in a domain name. -/
def isForbidden (c : Char) : Bool :=
  c.toNat ≤ 0x20 || c.toNat = 0x7F || "%#/:<>?@[\\]^|".toList.contains c

/-- What the ASCII form of a label begins with. -/
def asciiLead : List Char := "xn--".toList

def isAscii (label : List Char) : Bool := label.all fun c => c.toNat < 0x80

/-- Whether the characters of a label may stand together. -/
def isSound (label : List Char) : Bool :=
  !((label.head?.map Text.marks.contains).getD false) && joinersFit [] label

/-- The label with an ASCII form, if it is one that is written so. -/
def decoded? (text : List Char) : Option (List Char) := do
  let label ← Punycode.decode? text
  if !isAscii label && label.all isKept && Text.Composition.composed label = label then
    some label
  else none

def full? (label : List Char) : Option (List Char) :=
  match Text.after? asciiLead label with
  | some text => decoded? text
  | none => some label

def asciiLabel (label : List Char) : List Char :=
  if isAscii label then label else asciiLead ++ Punycode.encode label

/-- The ASCII form of a domain name, if it has one. -/
def ascii? (name : List Char) : Option (List Char) := do
  let mapped ← mapped? name
  if mapped.any isForbidden then none
  let labels ← (Text.pieces '.' mapped).mapM full?
  if labels.all isSound && areStraight labels then
    some (Text.joined '.' (labels.map asciiLabel))
  else none

end Dtdl.Url.Domain
