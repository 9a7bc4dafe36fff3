import Dtdl.Json.Cursor
import Dtdl.Json.Number

/-!
# Words, numerals and strings

These are read character by character, and every failure is placed where the first
character that cannot belong to the scalar was met.

What is only passed over is held to the same grammar but not to the limits of values:
a numeral may be out of range, and a string may name halves of surrogate pairs.
-/

namespace Dtdl.Json

/-- Whether a scalar is read for its value or only passed over. -/
inductive Purpose where
  | value
  | skip
  deriving DecidableEq, Repr

/-! ## Words -/

/-- Go past the rest of a word. -/
def Reader.word : List Char → Reader Unit
  | [] => return ()
  | expected :: others => do
      match ← Reader.next? with
      | none => Reader.fail .endInValue
      | some c =>
          if c = expected then
            Reader.step
            Reader.word others
          else Reader.failAhead .noWord

/-! ## Numerals -/

structure Numeral where
  negative : Bool
  whole : List Char
  fraction : Option (List Char)
  exponent : Option (Bool × List Char)
  deriving DecidableEq, Repr

namespace Numeral

/-- The largest exponent that is read. -/
def maxExponent : Nat := 2147483647

/-- Take digits into a significand as long as it fits into 64 bits.  The number of
digits that were taken is given as well. -/
def gather (significand : Nat) : List Char → Nat × Nat
  | [] => (significand, 0)
  | digit :: rest =>
      let longer := significand * 10 + (digit.toNat - '0'.toNat)
      if Number.maxInteger < longer then (significand, 0)
      else
        let gathered := gather longer rest
        (gathered.1, gathered.2 + 1)

/-- The number of leading exponent digits with which an exponent first exceeds what is
read, if it does. -/
def excess? (value count : Nat) : List Char → Option Nat
  | [] => none
  | digit :: rest =>
      let longer := value * 10 + (digit.toNat - '0'.toNat)
      if maxExponent < longer then some (count + 1) else excess? longer (count + 1) rest

/-- The value of a numeral.  On failure, the number of characters of the exponent
behind which it is out of range. -/
def value (numeral : Numeral) : Except (Option Nat) Number :=
  let whole := gather 0 numeral.whole
  let dropped := numeral.whole.length - whole.2
  let isWhole := numeral.fraction.isNone && numeral.exponent.isNone && dropped = 0
  let fraction := gather whole.1 (numeral.fraction.getD [])
  let significand := fraction.1
  let shift : Int := (dropped : Int) - fraction.2
  let real (magnitude : Option Binary64) : Except (Option Nat) Number :=
    match magnitude with
    | some magnitude => .ok (.real numeral.negative magnitude)
    | none => .error none
  if isWhole then
    if !numeral.negative then .ok (.integer whole.1)
    else if 0 < whole.1 && whole.1 ≤ Number.maxNegative then .ok (.integer (-whole.1))
    else real (Binary64.ofNat whole.1)
  else
    match numeral.exponent with
    | none => real (Number.scaled significand shift)
    | some (isNegative, digits) =>
        match excess? 0 0 digits with
        | some count =>
            if significand = 0 || isNegative then real (some Binary64.zero)
            else .error (some count)
        | none =>
            let exponent := digits.foldl (fun value digit =>
              value * 10 + (digit.toNat - '0'.toNat)) 0
            real (Number.scaled significand
              (if isNegative then shift - exponent else shift + exponent))

end Numeral

namespace Reader

/-- What is reported of a numeral that the text ends in. -/
def endOfNumeral : Purpose → Fault
  | .value => .endInValue
  | .skip => .number

def digits : Reader (List Char) := fun cursor => .ok cursor.takeDigits

/-- Read the digits before the point; only a lone 0 may begin with 0. -/
def wholeDigits (purpose : Purpose) : Reader (List Char) := do
  match ← next? with
  | none => fail (endOfNumeral purpose)
  | some '0' =>
      step
      match ← next? with
      | some c => if c.isDigit then failAhead .number else return ['0']
      | none => return ['0']
  | some c => if c.isDigit then digits else failAhead .number

/-- Read a point and the digits behind it, if there is a point. -/
def fractionDigits (purpose : Purpose) : Reader (Option (List Char)) := do
  match ← next? with
  | some '.' =>
      step
      let found ← digits
      if found.isEmpty then
        match ← next? with
        | some _ => failAhead .number
        | none => fail (endOfNumeral purpose)
      else return some found
  | _ => return none

/-- Read an exponent, if there is one: whether it is negative, and its digits. -/
def exponentDigits (purpose : Purpose) : Reader (Option (Bool × List Char)) := do
  match ← next? with
  | some 'e' | some 'E' =>
      step
      let mark ← next?
      if mark = some '+' || mark = some '-' then step
      match ← next? with
      | none => fail (endOfNumeral purpose)
      | some c =>
          if c.isDigit then return some (mark = some '-', ← digits) else failAhead .number
  | _ => return none

def numeral (purpose : Purpose) : Reader Numeral := do
  let negative := (← next?) = some '-'
  if negative then step
  let whole ← wholeDigits purpose
  let fraction ← fractionDigits purpose
  let exponent ← exponentDigits purpose
  return ⟨negative, whole, fraction, exponent⟩

/-- Read a number.  A numeral that is out of range fails behind the digit of its
exponent with which it leaves the range, or behind all of it. -/
def number : Reader Number := do
  let numeral ← numeral .value
  match numeral.value with
  | .ok number => return number
  | .error none => fail .numberRange
  | .error (some count) =>
      failBefore .numberRange
        ((numeral.exponent.elim 0 fun exponent => exponent.2.length) - count)

end Reader

/-! ## Strings -/

/-- What has been read of an escape inside a string. -/
inductive Escape where
  /-- No escape. -/
  | outside
  /-- A backslash. -/
  | started
  /-- Some of the four bytes of a hexadecimal code: the half of a pair that precedes it,
  the number of bytes, their value, and whether all of them are digits. -/
  | code (high : Option Nat) (bytes value : Nat) (isCode : Bool)
  /-- The first half of a pair. -/
  | half (high : Nat)
  /-- The first half of a pair and a backslash. -/
  | halfStarted (high : Nat)
  deriving DecidableEq, Repr

namespace Escape

/-- The character of an escape with a single letter. -/
def letter? (c : Char) : Option Char :=
  if c = '"' || c = '\\' || c = '/' then some c
  else if c = 'b' then some '\x08'
  else if c = 'f' then some '\x0c'
  else if c = 'n' then some '\n'
  else if c = 'r' then some '\r'
  else if c = 't' then some '\t'
  else none

/-- What a complete code gives: a fault, the first half of a pair, or a character. -/
def complete (purpose : Purpose) (high : Option Nat) (code : Nat) :
    Except Fault (Escape × Option Char) :=
  match purpose, high with
  | .skip, _ => .ok (outside, none)
  | .value, none =>
      if 0xDC00 ≤ code && code ≤ 0xDFFF then .error .surrogate
      else if 0xD800 ≤ code && code ≤ 0xDBFF then .ok (half code, none)
      else .ok (outside, some (Char.ofNat code))
  | .value, some high =>
      if 0xDC00 ≤ code && code ≤ 0xDFFF then
        .ok (outside, some (Char.ofNat ((high - 0xD800) * 0x400 + (code - 0xDC00) + 0x10000)))
      else .error .surrogate

end Escape

/-- Read the rest of a string behind its opening quotation mark.  `read` holds the
characters so far, last one first. -/
def stringFrom (purpose : Purpose) (escape : Escape) (position : Position)
    (read : List Char) : List Char → Except Failure (List Char × Cursor)
  | [] => .error ⟨.endInString, position⟩
  | c :: rest =>
      let behind := position.behind c
      match escape with
      | .outside =>
          if c = '"' then .ok (read.reverse, ⟨rest, behind⟩)
          else if c = '\\' then stringFrom purpose .started behind read rest
          else if c.toNat < 0x20 then
            .error ⟨.control, if purpose = .value then position.insideOf c else position⟩
          else stringFrom purpose .outside behind (c :: read) rest
      | .started =>
          if c = 'u' then stringFrom purpose (.code none 0 0 true) behind read rest
          else
            match Escape.letter? c with
            | some letter => stringFrom purpose .outside behind (letter :: read) rest
            | none => .error ⟨.escape, position.insideOf c⟩
      | .code high bytes value isCode =>
          let digit := Text.hexValue? c
          let value := value * 16 + digit.getD 0
          let isCode := isCode && digit.isSome
          let total := bytes + c.utf8Size
          if total < 4 then
            stringFrom purpose (.code high total value isCode) behind read rest
          else if !isCode then
            .error ⟨.escape,
              if total = 4 then behind
              else ⟨position.line, position.column + (4 - bytes)⟩⟩
          else
            match Escape.complete purpose high value with
            | .error fault => .error ⟨fault, behind⟩
            | .ok (escape, c) => stringFrom purpose escape behind (c.toList ++ read) rest
      | .half high =>
          if c = '\\' then stringFrom purpose (.halfStarted high) behind read rest
          else .error ⟨.surrogateEnd, position.insideOf c⟩
      | .halfStarted high =>
          if c = 'u' then stringFrom purpose (.code (some high) 0 0 true) behind read rest
          else .error ⟨.surrogateEnd, position.insideOf c⟩

/-- Read a string behind its opening quotation mark. -/
def Reader.stringBody (purpose : Purpose) : Reader String := fun cursor =>
  (stringFrom purpose .outside cursor.position [] cursor.rest).map fun result =>
    (String.ofList result.1, result.2)

end Dtdl.Json
