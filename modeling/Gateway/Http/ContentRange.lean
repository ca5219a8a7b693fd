import Gateway.Text.Numeral

/-!
# The range of a page

The `Content-Range` of a page of rows: the numbers of its first and its last row, or `*` when it has
none, and the number of all rows, or `*` when that was not counted. Row numbers are unsigned 64-bit
numbers, and so is the number of the row behind the page, from which that of the last row is computed. A
page that reaches further has no range.
-/

namespace Gateway.Http

/-- The number of all rows in a range, or `*` when it is not known. -/
def totalText (total : Option Nat) : String :=
  total.elim "*" toString

/-- The sum of two unsigned 64-bit numbers, unless it is beyond them. -/
def checkedSum? (a b : Nat) : Option Nat :=
  if a + b < Text.wordSize then some (a + b) else none

/-- The number of the last row of a page that has rows, if the number behind it can be computed. -/
def lastRow? (offset length : Nat) : Option Nat :=
  (checkedSum? offset length).map (· - 1)

/-- **The range of a page** of `length` rows that starts at row `offset`, if its numbers can be
computed. -/
def contentRange? (offset length : Nat) (total : Option Nat) : Option String :=
  if length = 0 then some ("*/" ++ totalText total)
  else
    (lastRow? offset length).map fun last =>
      toString offset ++ "-" ++ toString last ++ "/" ++ totalText total

/-- The range of all rows, of which there are `length`. They start at row 0, so that no sum is needed. -/
def wholeRange (length : Nat) (total : Option Nat) : String :=
  if length = 0 then "*/" ++ totalText total
  else "0-" ++ toString (length - 1) ++ "/" ++ totalText total

end Gateway.Http
