import Dtdl.Text

/-!
# Characters of a label as ASCII

A label is written as its ASCII characters, a dash, and a number for every other
character, smallest character first.  Such a number counts the steps from the character
before it, in a walk over all characters and all places of the label.  Its digits are
letters and decimal digits; a digit below the threshold of its place is the last one, and
the thresholds follow the size of the numbers so far.
-/

namespace Dtdl.Url.Domain.Punycode

/-- The number of digits. -/
def base : Nat := 36

/-- The first character that is written as a number. -/
def firstForeign : Nat := 0x80

/-- The bias in front of the first number. -/
def firstBias : Nat := 72

def digit (value : Nat) : Char :=
  if value < 26 then Char.ofNat ('a'.toNat + value) else Char.ofNat ('0'.toNat + (value - 26))

def value? (c : Char) : Option Nat :=
  if 'a' ≤ c && c ≤ 'z' then some (c.toNat - 'a'.toNat)
  else if '0' ≤ c && c ≤ '9' then some (c.toNat - '0'.toNat + 26)
  else none

/-- The threshold of a place. -/
def threshold (place bias : Nat) : Nat :=
  max 1 (min 26 (base * (place + 1) - bias))

theorem threshold_pos (place bias : Nat) : 0 < threshold place bias := by
  unfold threshold
  omega

/-- The number of divisions by 35 that bring a number down to 455, and what is left. -/
def reduced (number : Nat) : Nat × Nat :=
  if 455 < number then
    let rest := reduced (number / 35)
    (rest.1 + 1, rest.2)
  else (0, number)
termination_by number
decreasing_by omega

/-- The bias behind a number, when the label has `count` characters up to it. -/
def adapt (number count : Nat) (isFirst : Bool) : Nat :=
  let damped := if isFirst then number / 700 else number / 2
  let (steps, left) := reduced (damped + damped / count)
  base * steps + base * left / (left + 38)

/-- The digits of a number, from a place on. -/
def digits (bias place number : Nat) : List Char :=
  let limit := threshold place bias
  if number < limit then [digit number]
  else
    digit (limit + (number - limit) % (base - limit)) ::
      digits bias (place + 1) ((number - limit) / (base - limit))
termination_by number
decreasing_by
  have positive := threshold_pos place bias
  have small : (number - threshold place bias) / (base - threshold place bias) ≤
      number - threshold place bias := Nat.div_le_self _ _
  omega

/-! ## Writing -/

/-- A label that has been written up to some character. -/
structure Writing where
  output : List Char
  steps : Nat
  bias : Nat
  /-- How many characters have been written. -/
  count : Nat
  isFirst : Bool

/-- Write the places of the label that hold a character; the others are steps of the
walk as long as they have been written. -/
def Writing.scan (writing : Writing) (code : Nat) : List Char → Writing
  | [] => writing
  | c :: rest =>
      if c.toNat < code then { writing with steps := writing.steps + 1 }.scan code rest
      else if c.toNat = code then
        ({ output := writing.output ++ digits writing.bias 0 writing.steps
           steps := 0
           bias := adapt writing.steps (writing.count + 1) writing.isFirst
           count := writing.count + 1
           isFirst := false } : Writing).scan code rest
      else writing.scan code rest

/-- Write the characters of a label from a code point on; `codes` lists those that are
left, in ascending order. -/
def Writing.run (writing : Writing) (label : List Char) (next : Nat) : List Nat → Writing
  | [] => writing
  | code :: codes =>
      let walked := { writing with steps := writing.steps + (code - next) * (writing.count + 1) }
      let scanned := walked.scan code label
      { scanned with steps := scanned.steps + 1 }.run label (code + 1) codes

/-- The code points of a label outside ASCII, in ascending order. -/
def foreignCodes (label : List Char) : List Nat :=
  (((label.map Char.toNat).filter (firstForeign ≤ ·)).mergeSort fun left right =>
    left ≤ right).eraseDups

def encode (label : List Char) : List Char :=
  let plain := label.filter fun c => c.toNat < firstForeign
  let lead := if plain.isEmpty then [] else plain ++ ['-']
  let start : Writing := ⟨lead, 0, firstBias, plain.length, true⟩
  (start.run label firstForeign (foreignCodes label)).output

/-! ## Reading -/

/-- Read the digits of a number from a place on; `weight` is the worth of that place. -/
def number? (bias place weight : Nat) : List Char → Option (Nat × List Char)
  | [] => none
  | c :: rest =>
      match value? c with
      | none => none
      | some value =>
          let limit := threshold place bias
          if value < limit then some (value * weight, rest)
          else
            (number? bias (place + 1) (weight * (base - limit)) rest).map fun read =>
              (value * weight + read.1, read.2)

/-- Read numbers and put their characters into the label so far. -/
def insertAll (fuel code place bias : Nat) (isFirst : Bool) (label : List Char)
    (text : List Char) : Option (List Char) :=
  match fuel, text with
  | _, [] => some label
  | 0, _ :: _ => none
  | fuel + 1, text => do
      let (number, rest) ← number? bias 0 1 text
      let length := label.length + 1
      let walked := place + number
      let code := code + walked / length
      let place := walked % length
      if code.isValidChar then
        insertAll fuel code (place + 1) (adapt number length isFirst) false
          (label.take place ++ Char.ofNat code :: label.drop place) rest
      else none

/-- The text behind the last dash, and what stands in front of that dash. -/
def splitAtLastDash (text : List Char) : List Char × List Char :=
  let backwards := text.reverse
  match backwards.dropWhile (· ≠ '-') with
  | [] | [_] => ([], text)
  | _ :: front => (front.reverse, (backwards.takeWhile (· ≠ '-')).reverse)

def decode? (text : List Char) : Option (List Char) :=
  let (plain, numbers) := splitAtLastDash text
  insertAll numbers.length firstForeign 0 firstBias true plain numbers

end Dtdl.Url.Domain.Punycode
