/-
# JsonQuery.Text.RangeTable — sets of code points written as ranges.

A property of characters is stored as text: ranges of hexadecimal code points between spaces, in
ascending order, a range of one point as the point alone (`41-5A AA`).
-/
import JsonQuery.Text.Basic

namespace JsonQuery.Text

/-- A non-empty interval of code points, both ends included. -/
structure CodeRange where
  first : Nat
  last : Nat
  deriving DecidableEq, Repr

/-- A set of code points as a list of ranges. -/
abbrev RangeTable := List CodeRange

namespace RangeTable

/-- Reads one range, `41-5A` or `AA`. -/
def range? (word : List Char) : Option CodeRange := do
  let first ← hexNumber? (word.takeWhile (· != '-'))
  match word.dropWhile (· != '-') with
  | [] => return ⟨first, first⟩
  | _ :: rest => return ⟨first, ← hexNumber? rest⟩

/-- Reads a row of ranges; a word that is no range contributes nothing. -/
def ofRow (row : String) : RangeTable :=
  (row.splitOn " ").filterMap (fun word => range? word.toList)

/-- Reads a table row by row. -/
def ofRows (rows : List String) : RangeTable := rows.flatMap ofRow

/-- Membership of a code point. -/
def contains (table : RangeTable) (n : Nat) : Bool :=
  table.any (fun r => r.first ≤ n && n ≤ r.last)

end RangeTable

end JsonQuery.Text
