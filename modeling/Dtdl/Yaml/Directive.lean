import Dtdl.Text
import Dtdl.Yaml.Property

/-!
# Directives

A line that begins with a percent sign, in front of a document, gives the version of
the format or declares a handle for tags.
-/

namespace Dtdl.Yaml.Directive

def name (start : Position) : Scan String := fun cursor =>
  let (word, behind) := cursor.span isWordChar
  if word.isEmpty then behind.fail .directive start .directiveNameMissing
  else if behind.atGap then .ok (String.ofList word, behind)
  else behind.fail .directive start .directiveNameEnd

/-- Read one number of a version; it has at most nine digits. -/
def number (start : Position) : Scan Nat := fun cursor =>
  let (digits, behind) := cursor.span Char.isDigit
  if 9 < digits.length then (cursor.advance 9).fail .versionDirective start .versionLength
  else if digits.isEmpty then behind.fail .versionDirective start .versionMissing
  else .ok (Text.decimal digits, behind)

def version (start : Position) : Scan Token.Kind := fun cursor => do
  let (major, behind) ← number start cursor.skipBlanks
  if behind.startsWith '.' then
    let (minor, behind) ← number start (behind.advance 1)
    return (.versionDirective major minor, behind)
  else behind.fail .versionDirective start .versionPoint

/-- Read a handle and what it stands for. -/
def tagHandle (start : Position) : Scan Token.Kind := fun cursor => do
  let (handle, behind) ← Property.handle true start cursor.skipBlanks
  if (behind.next?.map isBlank).getD false then
    let (lead, behind) ← Property.suffix true true [] start behind.skipBlanks
    if behind.atGap then return (.tagDirective (String.ofList handle) lead, behind)
    else behind.fail .tagDirective start .tagLeadEnd
  else behind.fail .tagDirective start .handleEnd

/-- Read a directive and the line break behind it. -/
def scan : Scan Token := fun cursor => do
  let start := cursor.position
  let (name, behind) ← name start (cursor.advance 1)
  let (kind, behind) ←
    if name = "YAML" then version start behind
    else if name = "TAG" then tagHandle start behind
    else behind.fail .directive start .directiveName
  let stop := behind.position
  let behind := behind.skipBlanks.skipComment
  if behind.atLineEnd then return (⟨kind, start, stop⟩, behind.skipBreak)
  else behind.fail .directive start .directiveEnd

end Dtdl.Yaml.Directive
