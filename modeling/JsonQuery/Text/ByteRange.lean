/-
# JsonQuery.Text.ByteRange — ranges of characters as ranges of bytes.

In UTF-8 a range of characters is a union of products: the characters whose first byte lies in one
range, whose second byte lies in another, and so on.  A range is cut where the number of bytes
changes, and then into pieces that lie within one block of 64, 64² or 64³ code points or consist of
whole blocks.  Each piece is one product.
-/
import JsonQuery.Text.RangeTable
import JsonQuery.Text.Encoding

namespace JsonQuery.Text

/-- A range of bytes, both ends included. -/
structure ByteRange where
  first : Nat
  last : Nat
  deriving DecidableEq, Repr

namespace CodeRange

/-- The parts of a range up to and behind each of some points, which ascend. -/
def splitAfter : List Nat → CodeRange → List CodeRange
  | [], r => [r]
  | point :: rest, r =>
    if r.first ≤ point && point < r.last then
      ⟨r.first, point⟩ :: splitAfter rest ⟨point + 1, r.last⟩
    else splitAfter rest r

/-- The part of a range before its first whole block, the whole blocks, and the part behind them; a
range within one block stays as it is. -/
def splitBlocks (size : Nat) (r : CodeRange) : List CodeRange :=
  if r.first / size = r.last / size then [r]
  else
    let start := (r.first + size - 1) / size * size
    let stop := (r.last + 1) / size * size
    (if r.first < start then [⟨r.first, start - 1⟩] else [])
      ++ (if start < stop then [⟨start, stop - 1⟩] else [])
      ++ (if stop ≤ r.last then [⟨stop, r.last⟩] else [])

/-- The products of byte ranges that make up a range of characters, in ascending order. -/
def byteRanges (r : CodeRange) : List (List ByteRange) :=
  let pieces := (splitAfter [0x7F, 0x7FF, 0xFFFF] r).flatMap fun piece =>
    if piece.last ≤ 0x7F then [piece]
    else ((piece.splitBlocks 0x40).flatMap (splitBlocks 0x1000)).flatMap (splitBlocks 0x40000)
  pieces.map fun piece =>
    List.zipWith ByteRange.mk (utf8Bytes (Char.ofNat piece.first))
      (utf8Bytes (Char.ofNat piece.last))

end CodeRange

end JsonQuery.Text
