/-
# JsonQuery.Text.Encoding — characters as bytes and as code units.

Addresses escape characters byte by byte.  Reading bytes back is strict: a sequence that is too
long for its character, a surrogate, a number past U+10FFFF or a missing byte makes the whole text
invalid.  Strings sort by their UTF-16 code units: a character past U+FFFF is two surrogates, and
therefore comes before the characters from U+E000 to U+FFFF, unlike in the order of code points.
-/
import JsonQuery.Text.Basic

namespace JsonQuery.Text

/-! ## Bytes -/

/-- The bytes of a character. -/
def utf8Bytes (c : Char) : List Nat :=
  let n := c.toNat
  if n < 0x80 then [n]
  else if n < 0x800 then [0xC0 + n / 0x40, 0x80 + n % 0x40]
  else if n < 0x10000 then [0xE0 + n / 0x1000, 0x80 + n / 0x40 % 0x40, 0x80 + n % 0x40]
  else [0xF0 + n / 0x40000, 0x80 + n / 0x1000 % 0x40, 0x80 + n / 0x40 % 0x40, 0x80 + n % 0x40]

/-- The value of the continuation bytes of a character, after the bits that came before them. -/
def continuation : Nat → Nat → List Nat → Option (Nat × List Nat)
  | 0, value, rest => some (value, rest)
  | n + 1, value, b :: rest =>
    if 0x80 ≤ b && b < 0xC0 then continuation n (value * 0x40 + (b - 0x80)) rest else none
  | _ + 1, _, [] => none

/-- The number of continuation bytes, the bits and the least code point that a first byte
announces. -/
def announced (b : Nat) : Option (Nat × Nat × Nat) :=
  if b < 0x80 then some (0, b, 0)
  else if 0xC0 ≤ b && b < 0xE0 then some (1, b - 0xC0, 0x80)
  else if 0xE0 ≤ b && b < 0xF0 then some (2, b - 0xE0, 0x800)
  else if 0xF0 ≤ b && b < 0xF8 then some (3, b - 0xF0, 0x10000)
  else none

/-- The first character of some bytes, and the bytes behind it. -/
def decodeChar : List Nat → Option (Char × List Nat)
  | [] => none
  | b :: rest => do
    let (more, bits, least) ← announced b
    let (n, rest) ← continuation more bits rest
    if n < least then none else return (← charOfCodePoint? n, rest)

/-- The characters of some bytes, at most as many as the fuel says. -/
def decodeChars : Nat → List Nat → Option (List Char)
  | _, [] => some []
  | 0, _ :: _ => none
  | fuel + 1, bytes => do
    let (c, rest) ← decodeChar bytes
    return c :: (← decodeChars fuel rest)

/-- The text of some bytes. -/
def ofUtf8? (bytes : List Nat) : Option (List Char) := decodeChars bytes.length bytes

/-! ## Code units -/

/-- The code units of a character: one, or a surrogate pair. -/
def codeUnits (c : Char) : List Nat :=
  let n := c.toNat
  if n < 0x10000 then [n]
  else [0xD800 + (n - 0x10000) / 0x400, 0xDC00 + (n - 0x10000) % 0x400]

/-- The code units of a text. -/
def utf16 (s : String) : List Nat :=
  s.toList.flatMap codeUnits

/-- The lexicographic order of two lists of numbers. -/
def compareUnits : List Nat → List Nat → Ordering
  | [], [] => .eq
  | [], _ :: _ => .lt
  | _ :: _, [] => .gt
  | a :: as, b :: bs => if a < b then .lt else if b < a then .gt else compareUnits as bs

/-- The order of two texts by code units. -/
def compareUtf16 (s t : String) : Ordering :=
  compareUnits (utf16 s) (utf16 t)

end JsonQuery.Text
