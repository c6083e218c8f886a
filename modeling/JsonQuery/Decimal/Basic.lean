/-
# JsonQuery.Decimal — decimal numbers with a bounded coefficient.

A decimal is a coefficient of less than 96 bits over a power of ten with an exponent of at most 28.
Sums, differences and products are exact whenever the exact result is such a number; otherwise the
fewest digits that must go are rounded off, a half to the even neighbour, and a result too large for
every scale is none at all.
-/
import JsonQuery.Binary64.Basic

namespace JsonQuery

-- Powers are those of the numbers themselves, whatever else is in scope.
attribute [local instance (high)] instPowNat

/-- The number `coefficient / 10 ^ scale`. -/
structure Decimal where
  coefficient : Int
  scale : Nat
  deriving DecidableEq, Repr

namespace Decimal

/-- Coefficients lie strictly between the opposites of this bound. -/
def coefficientBound : Nat := 0x1000000000000000000000000

/-- The greatest number of digits after the point. -/
def maxScale : Nat := 28

/-- A whole number. -/
def ofInt (n : Int) : Decimal := ⟨n, 0⟩

instance : Inhabited Decimal := ⟨ofInt 0⟩

/-- Whether the number is zero. -/
def isZero (d : Decimal) : Bool := d.coefficient == 0

/-! ## Normal form -/

/-- Drops zeros at the end of the digits after the point, at most as many as the fuel says. -/
def stripZeros : Nat → Nat → Nat → Nat × Nat
  | 0, m, s => (m, s)
  | fuel + 1, m, s => if 0 < s ∧ m % 10 = 0 then stripZeros fuel (m / 10) (s - 1) else (m, s)

/-- The same number with the least scale. -/
def normalize (d : Decimal) : Decimal :=
  let (m, s) := stripZeros d.scale d.coefficient.natAbs d.scale
  ⟨if d.coefficient < 0 then -m else m, s⟩

/-- The plain text: all digits, and a point before the last `scale` of them. -/
def toText (d : Decimal) : String :=
  let sign := if d.coefficient < 0 then "-" else ""
  let digits := toString d.coefficient.natAbs
  if d.scale = 0 then sign ++ digits
  else
    let padded := String.ofList (List.replicate (d.scale + 1 - digits.length) '0') ++ digits
    let whole := padded.toList.take (padded.length - d.scale)
    let fraction := padded.toList.drop (padded.length - d.scale)
    sign ++ String.ofList whole ++ "." ++ String.ofList fraction

/-! ## Order -/

/-- The exact order of two decimals. -/
def compare (a b : Decimal) : Ordering :=
  let x := a.coefficient * 10 ^ b.scale
  let y := b.coefficient * 10 ^ a.scale
  if x < y then .lt else if y < x then .gt else .eq

/-! ## Arithmetic -/

/-- The first number of digits from `k` on, among `fuel` many, whose dropping makes the coefficient
and the scale fit, with the coefficient that is left. -/
def dropFrom (m scale : Nat) : Nat → Nat → Option (Nat × Nat)
  | 0, _ => none
  | fuel + 1, k =>
    let q := Binary64.roundHalfEven m (10 ^ k)
    if q < coefficientBound ∧ scale - k ≤ maxScale then some (q, k)
    else dropFrom m scale fuel (k + 1)

/-- The decimal nearest to `coefficient / 10 ^ scale`: the least number of digits is dropped for
which the coefficient and the scale fit, a half going to the even neighbour.  Only digits after the
point can be dropped. -/
def fit (coefficient : Int) (scale : Nat) : Option Decimal :=
  (dropFrom coefficient.natAbs scale (scale + 1) 0).map fun (q, k) =>
    ⟨if coefficient < 0 then -q else q, scale - k⟩

/-- The sum. -/
def add (a b : Decimal) : Option Decimal :=
  let scale := max a.scale b.scale
  fit (a.coefficient * 10 ^ (scale - a.scale) + b.coefficient * 10 ^ (scale - b.scale)) scale

/-- The opposite number. -/
def neg (d : Decimal) : Decimal := ⟨-d.coefficient, d.scale⟩

/-- The absolute value. -/
def abs (d : Decimal) : Decimal := ⟨d.coefficient.natAbs, d.scale⟩

/-- The difference. -/
def sub (a b : Decimal) : Option Decimal := a.add b.neg

/-- The product. -/
def mul (a b : Decimal) : Option Decimal :=
  if a.isZero || b.isZero then some (ofInt 0)
  else fit (a.coefficient * b.coefficient) (a.scale + b.scale)

/-- The rounded coefficient of `num / den` at the greatest scale not above `s` at which it fits,
with that scale. -/
def quotientFrom (num den : Nat) : Nat → Option (Nat × Nat)
  | 0 =>
    let q := Binary64.roundHalfEven num den
    if q < coefficientBound then some (q, 0) else none
  | s + 1 =>
    let q := Binary64.roundHalfEven (num * 10 ^ (s + 1)) den
    if q < coefficientBound then some (q, s + 1) else quotientFrom num den s

/-- The quotient at the greatest scale for which its rounded coefficient fits; none if the divisor
is zero or the quotient is too large. -/
def div (a b : Decimal) : Option Decimal :=
  if b.isZero then none
  else if a.isZero then some (ofInt 0)
  else
    let num := a.coefficient.natAbs * 10 ^ b.scale
    let den := b.coefficient.natAbs * 10 ^ a.scale
    let negative := (a.coefficient < 0) != (b.coefficient < 0)
    (quotientFrom num den maxScale).map fun (q, s) =>
      normalize ⟨if negative then -q else q, s⟩

/-- The remainder of the division that truncates; none if the divisor is zero. -/
def rem (a b : Decimal) : Option Decimal :=
  if b.isZero then none
  else
    let scale := max a.scale b.scale
    let x := a.coefficient * 10 ^ (scale - a.scale)
    let y := b.coefficient * 10 ^ (scale - b.scale)
    some ⟨x.tmod y, scale⟩

/-- The greatest whole number not above a decimal. -/
def floor (d : Decimal) : Decimal := ofInt (Int.fdiv d.coefficient (10 ^ d.scale))

/-- The least whole number not below a decimal. -/
def ceil (d : Decimal) : Decimal := ofInt (-(Int.fdiv (-d.coefficient) (10 ^ d.scale)))

/-- A decimal without a fraction. -/
def isInteger (d : Decimal) : Bool := d.coefficient % 10 ^ d.scale == 0

end Decimal

end JsonQuery
