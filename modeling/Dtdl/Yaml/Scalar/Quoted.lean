import Dtdl.Text
import Dtdl.Yaml.Scalar.Fold

/-!
# Scalars in quotation marks

Between apostrophes a doubled apostrophe stands for one.  Between quotation marks a
backslash begins an escape; in front of a line break it hides the break.
-/

namespace Dtdl.Yaml.Quoted

/-- What an escape stands for: one character, or a code point of so many digits. -/
inductive Escape where
  | character (c : Char)
  | codePoint (digits : Nat)
  deriving DecidableEq, Repr

/-- The escape that a character behind a backslash names. -/
def Escape.named? : Char → Option Escape
  | '0' => some (.character '\x00')
  | 'a' => some (.character '\x07')
  | 'b' => some (.character '\x08')
  | 't' | '\t' => some (.character '\t')
  | 'n' => some (.character '\n')
  | 'v' => some (.character '\x0b')
  | 'f' => some (.character '\x0c')
  | 'r' => some (.character '\r')
  | 'e' => some (.character '\x1b')
  | ' ' => some (.character ' ')
  | '"' => some (.character '"')
  | '/' => some (.character '/')
  | '\\' => some (.character '\\')
  | 'N' => some (.character '\u0085')
  | '_' => some (.character '\u00a0')
  | 'L' => some (.character '\u2028')
  | 'P' => some (.character '\u2029')
  | 'x' => some (.codePoint 2)
  | 'u' => some (.codePoint 4)
  | 'U' => some (.codePoint 8)
  | _ => none

/-- The value of hexadecimal digits, if all of them are. -/
def hexadecimal? (digits : List Char) : Option Nat :=
  digits.foldlM (fun value digit => do return value * 16 + (← Text.hexValue? digit)) 0

/-- Read an escape; a backslash comes next. -/
def escape (start : Position) : Scan Char := fun cursor => do
  match (cursor.rest.tail.head?).bind Escape.named? with
  | none => cursor.fail .quotedEscape start .escapeName
  | some (.character c) => return (c, cursor.advance 2)
  | some (.codePoint count) =>
      let behind := cursor.advance 2
      let digits := behind.rest.take count
      match if digits.length = count then hexadecimal? digits else none with
      | none => behind.fail .quotedEscape start .escapeDigits
      | some value =>
          if value.isValidChar then return (Char.ofNat value, behind.advance count)
          else behind.fail .quotedEscape start .escapeValue

/-- Read the characters up to the next gap or the end of the scalar.  The answer also
says whether the run ended in a hidden line break. -/
def run (single : Bool) (start : Position) (fuel : Nat) (text : List Char) :
    Scan (List Char × Bool) := fun cursor =>
  match fuel with
  | 0 => .ok ((text, false), cursor)
  | fuel + 1 =>
      match cursor.rest with
      | [] => .ok ((text, false), cursor)
      | c :: rest =>
          if isBlank c || isBreak c then .ok ((text, false), cursor)
          else if single then
            if c = '\'' then
              if rest.head? = some '\'' then
                run single start fuel (text ++ [c]) (cursor.advance 2)
              else .ok ((text, false), cursor)
            else run single start fuel (text ++ [c]) (cursor.advance 1)
          else if c = '"' then .ok ((text, false), cursor)
          else if c = '\\' then
            if (rest.head?.map isBreak).getD false then
              .ok ((text, true), (cursor.advance 1).skipBreak)
            else do
              let (escaped, behind) ← escape start cursor
              run single start fuel (text ++ [escaped]) behind
          else run single start fuel (text ++ [c]) (cursor.advance 1)

/-- Read on up to the closing mark. -/
def readOn (single : Bool) (start : Position) (fuel : Nat) (text : List Char) :
    Scan (List Char) := fun cursor =>
  match fuel with
  | 0 => cursor.fail .quotedScalar start .scalarEnd
  | fuel + 1 =>
      if cursor.atDocumentMark then cursor.fail .quotedScalar start .documentMark
      else if cursor.rest.isEmpty then cursor.fail .quotedScalar start .scalarEnd
      else do
        let ((text, hidden), behind) ← run single start (cursor.rest.length + 1) text cursor
        if behind.startsWith (if single then '\'' else '"') then return (text, behind.advance 1)
        else
          let (space, cursor, _) :=
            Space.scan (fun _ => false) (behind.rest.length + 1)
              (if hidden then .hiddenBreak else .none) behind
          readOn single start fuel (text ++ space.text) cursor

/-- Read a scalar in quotation marks or apostrophes. -/
def scan (single : Bool) : Scan Token := fun cursor => do
  let start := cursor.position
  let (text, behind) ← readOn single start (cursor.rest.length + 1) [] (cursor.advance 1)
  let style := if single then Style.singleQuoted else .doubleQuoted
  return (⟨.scalar (String.ofList text) style, start, behind.position⟩, behind)

end Dtdl.Yaml.Quoted
