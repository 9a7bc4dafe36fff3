import Dtdl.Text
import Dtdl.Url.Percent

/-!
# Hierarchical paths

A path is a list of segments.  A segment of one dot stands for nothing and one of two
dots takes back the segment before it, also when the dots are percent-encoded.  A
segment that looks like a drive letter is never taken back.  A path that ends in dots
ends in an empty segment.

A drive letter may be written with a bar in place of its colon.  In the path of a file
that no authority stands before the bar becomes a colon; behind an authority, be it an
empty one, it stays.
-/

namespace Dtdl.Url.Path

/-- The segments of a text; a backslash separates them too when the scheme is special. -/
def segments (special : Bool) (text : List Char) : List (List Char) :=
  Text.pieces '/' (if special then text.map fun c => if c = '\\' then '/' else c else text)

/-- A segment in which encoded dots are written as dots. -/
def plainDots : List Char → List Char
  | '%' :: '2' :: 'e' :: rest | '%' :: '2' :: 'E' :: rest => '.' :: plainDots rest
  | c :: rest => c :: plainDots rest
  | [] => []

/-- Whether a segment is a drive letter: a letter and a colon or a bar. -/
def isDriveLetter : List Char → Bool
  | [letter, mark] => letter.isAlpha && (mark = ':' || mark = '|')
  | _ => false

/-- The path without its last segment, unless that is a drive letter.  The segments are
given last one first. -/
def shorten : List (List Char) → List (List Char)
  | [] => []
  | segment :: earlier => if isDriveLetter segment then segment :: earlier else earlier

/-- Resolve the dots.  The result and `earlier` hold the last segment first. -/
def resolve (earlier : List (List Char)) : List (List Char) → List (List Char)
  | [] => earlier
  | segment :: rest =>
      let close (path : List (List Char)) := if rest.isEmpty then [] :: path else path
      match plainDots segment with
      | ['.', '.'] => resolve (close (shorten earlier)) rest
      | ['.'] => resolve (close earlier) rest
      | _ => resolve (Percent.encode Percent.path segment :: earlier) rest

/-- The written form of a path whose text follows a leading slash. -/
def normal (special : Bool) (text : List Char) : List Char :=
  '/' :: Text.joined '/' (resolve [] (segments special text)).reverse

/-- The same without empty segments at the front, as paths of files are written. -/
def normalFile (text : List Char) : List Char :=
  '/' :: (normal true text).dropWhile (· = '/')

/-- The same with a colon in place of the bar of a drive letter at the front. -/
def normalDrive (text : List Char) : List Char :=
  match normalFile text with
  | '/' :: letter :: '|' :: rest =>
      let ends := rest.isEmpty || rest.head? = some '/'
      '/' :: letter :: (if letter.isAlpha && ends then ':' else '|') :: rest
  | path => path

end Dtdl.Url.Path
