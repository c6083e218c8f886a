/-
# JsonQuery.Binary64 — binary floating-point numbers, and the rounding of a ratio to the nearest.

A finite number is a sign, a significand below 2^53 and a power of two from −1074 to 971; there are
two zeros, two infinities and one NaN.  Every operation of this library computes its exact result as
a ratio of natural numbers first and rounds it once, to the nearest number and a tie to the even
significand, so that no law about it depends on the machine.
-/

namespace JsonQuery

-- Powers are those of the numbers themselves, whatever else is in scope.
attribute [local instance (high)] instPowNat

/-- A binary64 number. -/
inductive Binary64 where
  | finite (negative : Bool) (significand : Nat) (exponent : Int)
  | infinite (negative : Bool)
  | nan
  deriving DecidableEq, Repr

namespace Binary64

/-- The least power of two of a significand. -/
def minExponent : Int := -1074

/-- The greatest power of two of a significand. -/
def maxExponent : Int := 971

/-- The significands of full precision start here. -/
def hiddenBit : Nat := 0x10000000000000

/-- Zero, with a sign. -/
def zero (negative : Bool) : Binary64 := .finite negative 0 minExponent

instance : Inhabited Binary64 := ⟨zero false⟩

/-! ## Rounding -/

/-- The natural number nearest to `num / den`, a tie going to the even one. -/
def roundHalfEven (num den : Nat) : Nat :=
  let q := num / den
  let r := num % den
  if 2 * r < den then q else if den < 2 * r then q + 1 else q + q % 2

/-- The greatest `e` with `2 ^ e ≤ num / den`, for positive `num` and `den`. -/
def ratioLog2 (num den : Nat) : Int :=
  let l : Int := (Nat.log2 num : Int) - Nat.log2 den
  if 0 ≤ l then (if num < den * 2 ^ l.toNat then l - 1 else l)
  else (if num * 2 ^ (-l).toNat < den then l - 1 else l)

/-- `num / (den * 2 ^ e)` as a numerator and a denominator. -/
def scaleRatio (num den : Nat) (e : Int) : Nat × Nat :=
  if 0 ≤ e then (num, den * 2 ^ e.toNat) else (num * 2 ^ (-e).toNat, den)

/-- The number nearest to `num / den` with the sign given; `den` is positive.  Past the greatest
finite number lies infinity. -/
def ofRatio (negative : Bool) (num den : Nat) : Binary64 :=
  if num = 0 then zero negative
  else
    let e := max (ratioLog2 num den - 52) minExponent
    let (n, d) := scaleRatio num den e
    let m := roundHalfEven n d
    let (m, e) := if m = 2 * hiddenBit then (hiddenBit, e + 1) else (m, e)
    if maxExponent < e then .infinite negative else .finite negative m e

/-- The number nearest to `n * 2 ^ e` with the sign given. -/
def ofScaled (negative : Bool) (n : Nat) (e : Int) : Binary64 :=
  if 0 ≤ e then ofRatio negative (n * 2 ^ e.toNat) 1 else ofRatio negative n (2 ^ (-e).toNat)

/-- The number nearest to a natural number. -/
def ofNat (n : Nat) : Binary64 := ofRatio false n 1

/-- The number nearest to `digits * 10 ^ e`, with the sign given. -/
def ofDecimal (negative : Bool) (digits : Nat) (e : Int) : Binary64 :=
  if 0 ≤ e then ofRatio negative (digits * 10 ^ e.toNat) 1
  else ofRatio negative digits (10 ^ (-e).toNat)

/-! ## Parts and tests -/

/-- The sign; a NaN has none and counts as positive. -/
def isNegative : Binary64 → Bool
  | .finite s _ _ => s
  | .infinite s => s
  | .nan => false

/-- Neither an infinity nor a NaN. -/
def isFinite : Binary64 → Bool
  | .finite .. => true
  | _ => false

/-- One of the two zeros. -/
def isZero : Binary64 → Bool
  | .finite _ m _ => m == 0
  | _ => false

/-- The number with the sign given; a NaN stays a NaN. -/
def withSign (negative : Bool) : Binary64 → Binary64
  | .finite _ m e => .finite negative m e
  | .infinite _ => .infinite negative
  | .nan => .nan

/-- The opposite number. -/
def neg (x : Binary64) : Binary64 := x.withSign (!x.isNegative)

/-- The absolute value. -/
def abs (x : Binary64) : Binary64 := x.withSign false

/-- The whole part of `m * 2 ^ e` and whether something was cut off. -/
def wholePart (m : Nat) (e : Int) : Nat × Bool :=
  if 0 ≤ e then (m * 2 ^ e.toNat, false)
  else (m / 2 ^ (-e).toNat, m % 2 ^ (-e).toNat != 0)

/-- A finite number without a fraction. -/
def isInteger : Binary64 → Bool
  | .finite _ m e => !(wholePart m e).2
  | _ => false

/-- The exact value of `±m * 2 ^ e` in units of `2 ^ unit`, for a unit not above `e`. -/
def inUnits (negative : Bool) (m : Nat) (e unit : Int) : Int :=
  let n : Int := m * 2 ^ (e - unit).toNat
  if negative then -n else n

/-- The order of two numbers; a NaN is not ordered, and the zeros are equal. -/
def compare : Binary64 → Binary64 → Option Ordering
  | .nan, _ => none
  | _, .nan => none
  | .infinite s, .infinite t =>
    some (if s == t then .eq else if s then .lt else .gt)
  | .infinite s, .finite .. => some (if s then .lt else .gt)
  | .finite .., .infinite t => some (if t then .gt else .lt)
  | .finite s m e, .finite t n f =>
    let unit := min e f
    let a := inUnits s m e unit
    let b := inUnits t n f unit
    some (if a < b then .lt else if b < a then .gt else .eq)

end Binary64

end JsonQuery
