import Descent.Unicode.CodeSet

/-!
# Tables of code points

The sets that the Unicode standard lists are written down as lines of text: ranges in hexadecimal,
in ascending order, with a space between them, each either a single code point or its two ends with
a hyphen. Tables hold such lines under the names by which a set is asked for. The tables are those
of version 17 of the standard.
-/

namespace Descent.Unicode

/-- The value of a hexadecimal digit in lower case. -/
def hexValue (c : Char) : Nat :=
  if c.isDigit then c.toNat - '0'.toNat else c.toNat - 'a'.toNat + 10

/-- Reads a set from the lines of its ranges. -/
def CodeSet.read (lines : List String) : CodeSet :=
  .ofRuns (lines.flatMap fun line => ranges none 0 line.toList)
where
  /-- `lo` is the lower end of the range being read, if it has one, and `n` the number so far. -/
  ranges (lo : Option Nat) (n : Nat) : List Char → List (Nat × Nat)
    | [] => [(lo.getD n, n)]
    | ' ' :: rest => (lo.getD n, n) :: ranges none 0 rest
    | '-' :: rest => ranges (some n) 0 rest
    | c :: rest => ranges lo (16 * n + hexValue c) rest

/-- A tabled set and the names it goes by. -/
structure Entry where
  names : List String
  ranges : List String

/-- The set that a table has under a name. -/
def Entry.find? (table : List Entry) (name : String) : Option CodeSet :=
  (table.find? (·.names.contains name)).map fun e => CodeSet.read e.ranges

end Descent.Unicode
