import Dtdl.Text

/-!
# Numeric hosts

An IPv4 address may be written with fewer than four numbers, the last of which then
fills the remaining bytes, and every number may be decimal, octal after a leading `0`,
or hexadecimal after `0x`.  It is always printed as four decimal numbers.

An IPv6 address is eight groups of 16 bits.  One run of zero groups may be left out,
and the last two groups may be written as an IPv4 address.  It is always printed with
its first longest run of at least two zero groups left out.
-/

namespace Dtdl.Url

namespace Ipv4

/-- The reading of one number: not a number at all, or its value unless that is out
of range. -/
inductive Number where
  | invalid
  | tooLarge
  | value (number : Nat)
  deriving DecidableEq, Repr

/-- The largest 32-bit number. -/
def limit : Nat := 4294967295

/-- The value of digits in a base, if all of them are digits of that base. -/
def digits? (base : Nat) (digits : List Char) : Option Nat :=
  digits.foldl
    (fun value c => do
      let value ← value
      let digit ← Text.hexValue? c
      if digit < base then some (value * base + digit) else none)
    (some 0)

def number (text : List Char) : Number :=
  let read (base : Nat) (digits : List Char) : Number :=
    match digits? base digits with
    | none => .invalid
    | some value => if value ≤ limit then .value value else .tooLarge
  match text with
  | [] => .invalid
  | '0' :: 'x' :: digits | '0' :: 'X' :: digits => read 16 digits
  | '0' :: digit :: digits => read 8 (digit :: digits)
  | digits => read 10 digits

/-- The numbers of an address; one dot may end it. -/
def parts (text : List Char) : List (List Char) :=
  let pieces := Text.pieces '.' text
  if pieces.getLast? = some [] then pieces.dropLast else pieces

/-- Whether the last part of a host is a number, so that the host must be an address. -/
def isNumeric (host : List Char) : Bool :=
  match (parts host).getLast? with
  | none | some [] => false
  | some last => last.all Char.isDigit || number last ≠ .invalid

/-- Put the bytes of the leading numbers in front of the last number. -/
def combine (last : Nat) : List Nat → Nat → Nat
  | [], _ => last
  | byte :: rest, position => byte * Nat.pow 256 (3 - position) + combine last rest (position + 1)

def parse? (text : List Char) : Option Nat := do
  let parts := parts text
  if 4 < parts.length then none
  else
    let numbers ← parts.mapM fun part =>
      match number part with
      | .value value => some value
      | _ => none
    let last ← numbers.getLast?
    let leading := numbers.dropLast
    if last < Nat.pow 256 (4 - leading.length) && leading.all (· < 256) then
      some (combine last leading 0)
    else none

def text (address : Nat) : String :=
  String.intercalate "."
    ([3, 2, 1, 0].map fun position => toString (address / Nat.pow 256 position % 256))

end Ipv4

namespace Ipv6

/-- Groups that were read: those before the gap, and those after it once there is one. -/
structure Groups where
  before : List Nat
  after : Option (List Nat)
  deriving DecidableEq, Repr

namespace Groups

/-- The number of groups, the gap counting as one. -/
def count (groups : Groups) : Nat :=
  groups.before.length + groups.after.elim 0 (·.length + 1)

def add (groups : Groups) (group : Nat) : Groups :=
  match groups.after with
  | none => { groups with before := groups.before ++ [group] }
  | some after => { groups with after := some (after ++ [group]) }

/-- The eight groups; a gap stands for as many zero groups as are missing. -/
def complete? (groups : Groups) : Option (List Nat) :=
  match groups.after with
  | none => if groups.before.length = 8 then some groups.before else none
  | some after =>
      if groups.count ≤ 8 then
        some (groups.before ++ List.replicate (8 - groups.before.length - after.length) 0 ++ after)
      else none

end Groups

/-- One number of an embedded IPv4 address: decimal, below 256, without a leading 0. -/
def byte? (text : List Char) : Option Nat :=
  match text with
  | [] => none
  | ['0'] => some 0
  | '0' :: _ => none
  | digits =>
      if digits.all Char.isDigit && Text.decimal digits < 256 then some (Text.decimal digits)
      else none

/-- The two groups that an embedded IPv4 address stands for. -/
def embedded? (text : List Char) : Option (Nat × Nat) :=
  match (Text.pieces '.' text).mapM byte? with
  | some [first, second, third, fourth] => some (first * 256 + second, third * 256 + fourth)
  | _ => none

/-- Read groups from the left.  A colon where a group should begin is the gap; it may
occur once.  A dot after the digits of a group means that an IPv4 address begins there. -/
def groups (fuel : Nat) (read : Groups) (text : List Char) : Option Groups :=
  match fuel, text with
  | _, [] => some read
  | 0, _ => none
  | fuel + 1, ':' :: rest =>
      if read.after.isSome || read.count = 8 then none
      else groups fuel { read with after := some [] } rest
  | fuel + 1, text =>
      let digits := (text.take 4).takeWhile fun c => (Text.hexValue? c).isSome
      let value := digits.foldl (fun value c => value * 16 + (Text.hexValue? c).getD 0) 0
      if read.count = 8 then none
      else
        match text.drop digits.length with
        | [] => some (read.add value)
        | '.' :: _ =>
            if digits.isEmpty || 6 < read.count then none
            else
              (embedded? text).map fun pair => (read.add pair.1).add pair.2
        | [':'] => none
        | ':' :: rest => groups fuel (read.add value) rest
        | _ => none

def parse? (text : List Char) : Option (List Nat) := do
  let read ←
    match text with
    | ':' :: ':' :: rest => groups rest.length ⟨[], some []⟩ rest
    | ':' :: _ | [] | [_] => none
    | text => groups text.length ⟨[], none⟩ text
  read.complete?

/-- The digits of a group, without leading zeros. -/
def groupText (group : Nat) : List Char := Nat.toDigits 16 group

/-- The length of the run of zero groups at the front. -/
def zeros (groups : List Nat) : Nat := (groups.takeWhile (· = 0)).length

/-- Start and length of the first longest run of zero groups. -/
def longestZeros : List Nat → Nat × Nat
  | [] => (0, 0)
  | group :: rest =>
      let run := zeros (group :: rest)
      let later := longestZeros rest
      if later.2 ≤ run then (0, run) else (later.1 + 1, later.2)

/-- The written form of an address, without the brackets. -/
def text (groups : List Nat) : List Char :=
  let gap := longestZeros groups
  let write (groups : List Nat) : List Char := Text.joined ':' (groups.map groupText)
  if gap.2 < 2 then write groups
  else write (groups.take gap.1) ++ [':', ':'] ++ write (groups.drop (gap.1 + gap.2))

end Ipv6

end Dtdl.Url
