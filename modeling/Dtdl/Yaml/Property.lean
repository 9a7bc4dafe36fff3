import Dtdl.Text
import Dtdl.Yaml.Token

/-!
# Names of nodes: anchors, references and tags

An anchor gives a node a name, and a reference stands for the node so named.  A tag
gives the kind of a node, either in full or as a handle and what follows it.
-/

namespace Dtdl.Yaml.Property

/-- Whether a character may follow the name of an anchor. -/
def endsName : Option Char → Bool
  | none => true
  | some c => isBlank c || isBreak c || ['?', ':', ',', ']', '\x7d', '%', '@', '\x60'].contains c

/-- Read an anchor or a reference. -/
def name (isAnchor : Bool) : Scan Token := fun cursor =>
  let start := cursor.position
  let (word, behind) := (cursor.advance 1).span isWordChar
  if word.isEmpty || !endsName behind.next? then
    behind.fail (if isAnchor then .anchor else .reference) start .anchorName
  else
    let text := String.ofList word
    .ok (⟨if isAnchor then .anchor text else .reference text, start, behind.position⟩, behind)

/-- Read a handle: an exclamation mark, a word, and another mark if there is one.  A
handle that a directive declares has to have both unless it is the mark alone. -/
def handle (ofDirective : Bool) (start : Position) : Scan (List Char) := fun cursor =>
  if !cursor.startsWith '!' then
    cursor.fail (if ofDirective then .tagDirectiveHandle else .tag) start .handleBang
  else
    let (word, behind) := (cursor.advance 1).span isWordChar
    if behind.startsWith '!' then .ok ('!' :: word ++ ['!'], behind.advance 1)
    else if ofDirective && !word.isEmpty then
      behind.fail .tagDirectiveHandleEnd start .handleBang
    else .ok ('!' :: word, behind)

/-- Whether a character may stand in the suffix of a tag. -/
def isSuffixChar (withBrackets : Bool) (c : Char) : Bool :=
  isWordChar c || ";/?:@&=+$.%!~*'()".toList.contains c || withBrackets && ",[]".toList.contains c

/-- The number of bytes that a character with this first byte has in UTF-8. -/
def octetCount (octet : Nat) : Nat :=
  if octet < 0x80 then 1
  else if octet / 0x20 = 6 then 2
  else if octet / 0x10 = 14 then 3
  else if octet / 8 = 30 then 4
  else 0

/-- Read the escaped bytes of one character.  `missing` counts the bytes that the first
one calls for and is absent in front of it. -/
def octets (part : Part) (start : Position) (fuel : Nat) (missing : Option Nat) :
    Scan (List UInt8) := fun cursor =>
  match fuel with
  | 0 => .ok ([], cursor)
  | fuel + 1 =>
      let octet? :=
        match cursor.rest with
        | '%' :: high :: low :: _ => do
            return (← Text.hexValue? high) * 16 + (← Text.hexValue? low)
        | _ => none
      match octet? with
      | none => cursor.fail part start .tagEscape
      | some octet =>
          let left? :=
            match missing with
            | none => if octetCount octet = 0 then none else some (octetCount octet - 1)
            | some left => if octet / 0x40 = 2 then some (left - 1) else none
          match left? with
          | none =>
              cursor.fail part start
                (if missing.isNone then .tagLeadingOctet else .tagTrailingOctet)
          | some left => do
              let behind := cursor.advance 3
              let (others, behind) ←
                if left = 0 then .ok ([], behind) else octets part start fuel (some left) behind
              return (UInt8.ofNat octet :: others, behind)

/-- Read the suffix of a tag as bytes, behind those that have been read already. -/
def suffixBytes (withBrackets : Bool) (part : Part) (start : Position) (fuel : Nat)
    (bytes : List UInt8) : Scan (List UInt8) := fun cursor =>
  match fuel with
  | 0 => .ok (bytes, cursor)
  | fuel + 1 =>
      match cursor.next? with
      | none => .ok (bytes, cursor)
      | some c =>
          if !isSuffixChar withBrackets c then .ok (bytes, cursor)
          else if c = '%' then do
            let (escaped, behind) ← octets part start 4 none cursor
            suffixBytes withBrackets part start fuel (bytes ++ escaped) behind
          else
            suffixBytes withBrackets part start fuel (bytes ++ String.utf8EncodeChar c)
              (cursor.advance 1)

/-- Read the suffix of a tag.  `head` is a word that turned out to belong to it; its
exclamation mark does not. -/
def suffix (withBrackets ofDirective : Bool) (head : List Char) (start : Position) :
    Scan String := fun cursor => do
  let part : Part := if ofDirective then .tagDirectiveLead else .tagSuffix
  let (bytes, behind) ←
    suffixBytes withBrackets part start (cursor.rest.length + 1)
      ((head.drop 1).flatMap String.utf8EncodeChar) cursor
  if head.isEmpty && behind.position = cursor.position then
    behind.fail part start .tagMissing
  else return ((String.fromUTF8? (ByteArray.mk bytes.toArray)).getD "", behind)

/-- Read the handle and the suffix of a tag. -/
def tagParts (start : Position) : Scan (String × String) := fun cursor => do
  if cursor.rest.tail.head? = some '<' then
    let (suffix, behind) ← suffix true false [] start (cursor.advance 2)
    if behind.startsWith '>' then return (("", suffix), behind.advance 1)
    else behind.fail .tag start .tagClose
  else
    let (handle, behind) ← handle false start cursor
    if handle.length > 1 && handle.getLast? = some '!' then
      let (suffix, behind) ← suffix false false [] start behind
      return ((String.ofList handle, suffix), behind)
    else
      let (suffix, behind) ← suffix false false handle start behind
      return (if suffix.isEmpty then ("", "!") else ("!", suffix), behind)

def tag (inFlow : Bool) : Scan Token := fun cursor => do
  let start := cursor.position
  let ((handle, suffix), behind) ← tagParts start cursor
  if behind.atGap || inFlow && behind.startsWith ',' then
    return (⟨.tag handle suffix, start, behind.position⟩, behind)
  else behind.fail .tag start .tagEnd

end Dtdl.Yaml.Property
