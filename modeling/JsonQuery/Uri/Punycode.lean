/-
# JsonQuery.Uri.Punycode — labels of domain names in ASCII.

Punycode writes the ASCII characters of a label first.  Behind a hyphen it tells, in ascending order
of code points, at which place each other character stands: as a difference to the one before it,
in digits of base 36 whose thresholds follow the size of the differences.
-/
import JsonQuery.Text.Alphabetic
import JsonQuery.Text.Basic

namespace JsonQuery.Uri

open Text (isAsciiDigit isAsciiLetter charOfCodePoint?)

/-! ## Digits -/

/-- The digit of a value below 36. -/
def punycodeDigit (n : Nat) : Char := Char.ofNat (if n < 26 then 97 + n else 22 + n)

/-- The value of a digit. -/
def punycodeValue? (c : Char) : Option Nat :=
  if isAsciiLetter c then some (c.toLower.toNat - 97)
  else if isAsciiDigit c then some (c.toNat - 22)
  else none

/-- How the bias follows a difference. -/
def adaptBias (delta points : Nat) (first : Bool) : Nat :=
  go 16 0 (let d := if first then delta / 700 else delta / 2; d + d / points)
where
  go : Nat → Nat → Nat → Nat
    | 0, k, d => k + 36 * d / (d + 38)
    | fuel + 1, k, d => if 455 < d then go fuel (k + 36) (d / 35) else k + 36 * d / (d + 38)

/-- The threshold of a digit position. -/
def punycodeThreshold (k bias : Nat) : Nat := if k ≤ bias then 1 else min 26 (k - bias)

/-! ## Writing -/

/-- The digits of a difference. -/
def punycodeNumber (bias : Nat) : Nat → Nat → Nat → List Char
  | 0, _, q => [punycodeDigit (q % 36)]
  | fuel + 1, k, q =>
    let t := punycodeThreshold k bias
    if q < t then [punycodeDigit q]
    else
      punycodeDigit (t + (q - t) % (36 - t))
        :: punycodeNumber bias fuel (k + 36) ((q - t) / (36 - t))

/-- The state of an encoder: difference, bias, how many code points have been written, and the text,
last character first. -/
structure Punycoder where
  delta : Nat
  bias : Nat
  written : Nat
  text : List Char

/-- Writes the places of one code point. -/
def Punycoder.writePoint (basic n : Nat) (p : Punycoder) (c : Nat) : Punycoder :=
  if c < n then { p with delta := p.delta + 1 }
  else if c = n then
    { delta := 0
      bias := adaptBias p.delta (p.written + 1) (p.written = basic)
      written := p.written + 1
      text := (punycodeNumber p.bias 32 36 p.delta).reverse ++ p.text }
  else p

/-- Writes the code points from a bound on, in ascending order. -/
def Punycoder.writeFrom (basic : Nat) (points : List Nat) : Nat → Nat → Punycoder → Punycoder
  | 0, _, p => p
  | fuel + 1, n, p =>
    match (points.filter (n ≤ ·)).min? with
    | none => p
    | some m =>
      let p := { p with delta := p.delta + (m - n) * (p.written + 1) }
      let p := points.foldl (Punycoder.writePoint basic m) p
      writeFrom basic points fuel (m + 1) { p with delta := p.delta + 1 }

/-- The Punycode of a label. -/
def punycode (label : List Char) : List Char :=
  let basic := label.filter (·.toNat < 0x80)
  let front := if basic.isEmpty then [] else basic ++ ['-']
  let start : Punycoder := ⟨0, 72, basic.length, front.reverse⟩
  (start.writeFrom basic.length (label.map Char.toNat) label.length 0x80).text.reverse

/-! ## Reading -/

/-- The difference at the front of some digits, and the digits behind it. -/
def readDifference (bias : Nat) : Nat → Nat → Nat → List Char → Option (Nat × List Char)
  | _, _, _, [] => none
  | k, weight, sum, c :: rest => do
    let digit ← punycodeValue? c
    let sum := sum + digit * weight
    let t := punycodeThreshold k bias
    if digit < t then return (sum, rest)
    else readDifference bias (k + 36) (weight * (36 - t)) sum rest

/-- Puts characters between those of a label, at most as many as the fuel says: the next difference
counts from a place and a code point on. -/
def insertPoints : Nat → Nat → Nat → Nat → List Char → List Char → Option (List Char)
  | _, _, _, _, label, [] => some label
  | 0, _, _, _, _, _ :: _ => none
  | fuel + 1, bias, place, point, label, digits => do
    let (difference, rest) ← readDifference bias 36 1 0 digits
    let count := label.length + 1
    let bias := adaptBias difference count (place = 0)
    let point := point + (place + difference) / count
    let place := (place + difference) % count
    let c ← charOfCodePoint? point
    insertPoints fuel bias (place + 1) point (label.take place ++ c :: label.drop place) rest

/-- The label of a Punycode. -/
def ofPunycode? (text : List Char) : Option (List Char) :=
  let digits := (text.reverse.takeWhile (· != '-')).reverse
  let front := text.take (text.length - digits.length)
  if front = ['-'] then none
  else insertPoints digits.length 72 0 0x80 front.dropLast digits

end JsonQuery.Uri
