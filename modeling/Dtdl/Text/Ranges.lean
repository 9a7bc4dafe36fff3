import Dtdl.Text

/-!
# Tables of characters

A set of characters is written as the hexadecimal code points of its members, runs of
neighbours as the two ends with a dash between them, and blanks between the runs.
-/

namespace Dtdl.Text

def hexadecimal (digits : List Char) : Nat :=
  digits.foldl (fun value digit => value * 16 + (hexValue? digit).getD 0) 0

/-- A set of characters, as runs of code points. -/
abbrev Ranges := List (Nat × Nat)

namespace Ranges

/-- The run that a word of a table stands for. -/
def range (word : List Char) : Nat × Nat :=
  match cut '-' word with
  | (first, none) => (hexadecimal first, hexadecimal first)
  | (first, some last) => (hexadecimal first, hexadecimal last)

/-- The set that a table lists. -/
def ofText (table : String) : Ranges := (words table.toList).map range

def contains (ranges : Ranges) (c : Char) : Bool :=
  ranges.any fun run => run.1 ≤ c.toNat && c.toNat ≤ run.2

end Ranges

end Dtdl.Text
