/-
# JsonQuery.Pattern.CharSet — sets of characters.

A set of characters is a list of ranges in ascending order, between which there are gaps.  Each set
has one such list, so that equal sets are equal values.  Surrogates are no characters: a range that
reaches across them is written as two.
-/
import JsonQuery.Text.Age
import JsonQuery.Text.CaseFold

namespace JsonQuery.Pattern

open Text (CodeRange RangeTable)

/-- A set of characters. -/
structure CharSet where
  ranges : List CodeRange
  deriving DecidableEq, Repr

namespace CharSet

/-! ## Ranges -/

/-- The last code point. -/
def lastCodePoint : Nat := 0x10FFFF

/-- The parts of a range before and behind the surrogates. -/
def withoutSurrogates (r : CodeRange) : List CodeRange :=
  [⟨r.first, min r.last 0xD7FF⟩, ⟨max r.first 0xE000, min r.last lastCodePoint⟩].filter fun part =>
    part.first ≤ part.last

/-- One more range behind ranges that come last one first; it is joined to the last of them unless
there is a gap. -/
def extend (ranges : List CodeRange) (r : CodeRange) : List CodeRange :=
  match ranges with
  | [] => [r]
  | before :: others =>
    if r.first ≤ before.last + 1 then ⟨before.first, max before.last r.last⟩ :: others
    else r :: before :: others

/-- Ranges that ascend by their first points, joined where there is no gap. -/
def join (ranges : List CodeRange) : List CodeRange := (ranges.foldl extend []).reverse

/-- Whether a range starts no later than another. -/
def startsBefore (r s : CodeRange) : Bool := r.first ≤ s.first

/-- The set of the characters in some ranges. -/
def ofRanges (ranges : RangeTable) : CharSet :=
  ⟨join ((ranges.flatMap withoutSurrogates).mergeSort startsBefore)⟩

/-- The characters from one code point to another. -/
def range (first last : Nat) : CharSet := ofRanges [⟨first, last⟩]

/-- The set of one code point. -/
def single (n : Nat) : CharSet := range n n

/-- The set without characters. -/
def empty : CharSet := ⟨[]⟩

/-- The ranges between ranges, from a code point on. -/
def gaps : Nat → List CodeRange → List CodeRange
  | start, [] => [⟨start, lastCodePoint⟩]
  | start, r :: rest =>
    if start < r.first then ⟨start, r.first - 1⟩ :: gaps (r.last + 1) rest
    else gaps (r.last + 1) rest

/-! ## Operations -/

/-- Membership of a code point in ascending ranges. -/
def rangesContain : List CodeRange → Nat → Bool
  | [], _ => false
  | r :: rest, n => r.first ≤ n && (n ≤ r.last || rangesContain rest n)

/-- Membership of a code point. -/
def contains (s : CharSet) (n : Nat) : Bool := rangesContain s.ranges n

/-- All other characters. -/
def complement (s : CharSet) : CharSet :=
  ⟨(gaps 0 s.ranges).flatMap withoutSurrogates⟩

/-- The characters of either set. -/
def union (s t : CharSet) : CharSet := ⟨join (s.ranges.merge t.ranges startsBefore)⟩

/-- The characters of both sets. -/
def inter (s t : CharSet) : CharSet := (s.complement.union t.complement).complement

/-- The characters of the first set that the second has not. -/
def diff (s t : CharSet) : CharSet := (s.complement.union t).complement

/-- The characters of exactly one of two sets. -/
def symmDiff (s t : CharSet) : CharSet := (s.diff t).union (t.diff s)

/-- The characters of any of some sets. -/
def unionOf (sets : List CharSet) : CharSet := sets.foldl union empty

/-- Whether a set has ASCII characters only. -/
def isAscii (s : CharSet) : Bool := s.ranges.all (·.last < 0x80)

/-- The only code point of a set. -/
def only? (s : CharSet) : Option Nat :=
  match s.ranges with
  | [r] => if r.first = r.last then some r.first else none
  | _ => none

/-! ## Letter case -/

/-- The characters that differ from others in case only, each with its orbit, in ascending order.
What the latest edition added has no cases. -/
def cased : List (Nat × List Nat) :=
  let orbits := Text.caseOrbits.map fun orbit =>
    orbit.filter fun n => !Text.Edition.latestTable.contains n
  (orbits.flatMap fun orbit => orbit.map (·, orbit)).mergeSort (·.1 ≤ ·.1)

/-- The orbits of the characters in ascending ranges. -/
def orbitsWithin : List CodeRange → List (Nat × List Nat) → List (List Nat)
  | [], _ | _, [] => []
  | r :: rest, (n, orbit) :: more =>
    if n < r.first then orbitsWithin (r :: rest) more
    else if r.last < n then orbitsWithin rest ((n, orbit) :: more)
    else orbit :: orbitsWithin (r :: rest) more
termination_by ranges entries => ranges.length + entries.length

/-- All characters that differ in case only from one of a set. -/
def anyCase (s : CharSet) : CharSet :=
  s.union (ofRanges ((orbitsWithin s.ranges cased).flatten.map fun n => ⟨n, n⟩))

/-- A set moved by a number of code points. -/
def shift (move : Nat → Nat) (s : CharSet) : CharSet :=
  ofRanges (s.ranges.map fun r => ⟨move r.first, move r.last⟩)

/-- All characters that differ from one of a set in the case of an ASCII letter only. -/
def anyAsciiCase (s : CharSet) : CharSet :=
  unionOf
    [s, (s.inter (range 0x41 0x5A)).shift (· + 32), (s.inter (range 0x61 0x7A)).shift (· - 32)]

end CharSet

end JsonQuery.Pattern
