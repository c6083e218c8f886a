/-
# JsonQuery.Json.Pointer — looking up a JSON pointer.

A pointer (RFC 6901) is empty or a sequence of segments, each after a slash; in a segment `~1`
stands for a slash and `~0` for a tilde.  An array index is written without sign and without zeros
in front.
-/
import JsonQuery.Json.Basic
import JsonQuery.Text.Alphabetic

namespace JsonQuery.Json

/-- A name as a pointer segment. -/
def escapeSegment (name : List Char) : List Char :=
  name.flatMap fun c =>
    if c = '~' then ['~', '0'] else if c = '/' then ['~', '1'] else [c]

/-- Resolves the escapes of a segment; a tilde before any other character stands for itself. -/
def unescapeSegment : List Char → List Char
  | '~' :: '1' :: rest => '/' :: unescapeSegment rest
  | '~' :: '0' :: rest => '~' :: unescapeSegment rest
  | c :: rest => c :: unescapeSegment rest
  | [] => []

/-- The array index of a segment: decimal digits without zeros in front, at most 2^64 − 1. -/
def segmentIndex? (segment : List Char) : Option Nat :=
  if segment.isEmpty || !segment.all Text.isAsciiDigit then none
  else if segment.head? = some '0' && segment.length != 1 then none
  else
    let n := segment.foldl (fun acc c => acc * 10 + (c.toNat - 48)) 0
    if n < 0x10000000000000000 then some n else none

/-- The child that an unescaped segment names. -/
def child? (json : Json) (segment : List Char) : Option Json :=
  match json with
  | .object members => Entries.get? members (String.ofList segment)
  | .array items => do items[← segmentIndex? segment]?
  | _ => none

/-- The segments of a pointer: none for the empty pointer, and no pointer without a slash in
front. -/
def pointerSegments? (pointer : List Char) : Option (List (List Char)) :=
  match pointer with
  | [] => some []
  | '/' :: rest => some ((rest.splitOn '/').map unescapeSegment)
  | _ => none

/-- The part of a document that a pointer leads to. -/
def pointer? (json : Json) (pointer : String) : Option Json := do
  (← pointerSegments? pointer.toList).foldlM child? json

end JsonQuery.Json
