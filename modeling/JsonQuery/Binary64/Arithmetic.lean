/-
# JsonQuery.Binary64.Arithmetic — sums, products, quotients and remainders.

Each operation is exact and then rounded once.  A sum of zeros is negative only if both are; the
sign of a product or quotient is the exclusive or of the signs; a remainder has the sign of the
dividend and is always exact.
-/
import JsonQuery.Binary64.Basic

namespace JsonQuery.Binary64

-- Powers are those of the numbers themselves, whatever else is in scope.
attribute [local instance (high)] instPowNat

/-- The sum. -/
def add : Binary64 → Binary64 → Binary64
  | .nan, _ => .nan
  | _, .nan => .nan
  | .infinite s, .infinite t => if s == t then .infinite s else .nan
  | .infinite s, .finite .. => .infinite s
  | .finite .., .infinite t => .infinite t
  | .finite s m e, .finite t n f =>
    let unit := min e f
    let sum := inUnits s m e unit + inUnits t n f unit
    if sum = 0 then zero (s && t) else ofScaled (sum < 0) sum.natAbs unit

/-- The difference. -/
def sub (x y : Binary64) : Binary64 := x.add y.neg

/-- The product. -/
def mul : Binary64 → Binary64 → Binary64
  | .nan, _ => .nan
  | _, .nan => .nan
  | .infinite s, .infinite t => .infinite (s != t)
  | .infinite s, .finite t n _ => if n = 0 then .nan else .infinite (s != t)
  | .finite s m _, .infinite t => if m = 0 then .nan else .infinite (s != t)
  | .finite s m e, .finite t n f => ofScaled (s != t) (m * n) (e + f)

/-- The quotient; a number divided by zero is infinite, zero divided by zero is no number. -/
def div : Binary64 → Binary64 → Binary64
  | .nan, _ => .nan
  | _, .nan => .nan
  | .infinite _, .infinite _ => .nan
  | .infinite s, .finite t _ _ => .infinite (s != t)
  | .finite s _ _, .infinite t => zero (s != t)
  | .finite s m e, .finite t n f =>
    if n = 0 then (if m = 0 then .nan else .infinite (s != t))
    else
      let shift := e - f
      if 0 ≤ shift then ofRatio (s != t) (m * 2 ^ shift.toNat) n
      else ofRatio (s != t) m (n * 2 ^ (-shift).toNat)

/-- The remainder of the division that truncates. -/
def rem : Binary64 → Binary64 → Binary64
  | .nan, _ => .nan
  | _, .nan => .nan
  | .infinite _, _ => .nan
  | x@(.finite ..), .infinite _ => x
  | .finite s m e, .finite _ n f =>
    if n = 0 then .nan
    else
      let unit := min e f
      let r := (m * 2 ^ (e - unit).toNat) % (n * 2 ^ (f - unit).toNat)
      ofScaled s r unit

/-- The greatest whole number not above a number. -/
def floor : Binary64 → Binary64
  | .finite s m e =>
    let (whole, cut) := wholePart m e
    ofRatio s (if s && cut then whole + 1 else whole) 1
  | x => x

/-- The least whole number not below a number. -/
def ceil : Binary64 → Binary64
  | .finite s m e =>
    let (whole, cut) := wholePart m e
    ofRatio s (if !s && cut then whole + 1 else whole) 1
  | x => x

/-- The nearest whole number; a half goes away from zero. -/
def round : Binary64 → Binary64
  | .finite s m e =>
    if 0 ≤ e then .finite s m e
    else ofRatio s ((2 * m + 2 ^ (-e).toNat) / (2 * 2 ^ (-e).toNat)) 1
  | x => x

/-- The power `base ^ n` by squaring: the result is multiplied by the current square for every bit
of `n` that is set, from the lowest bit up. -/
def powBySquaring (base : Binary64) (n : Nat) : Binary64 :=
  go n base (ofNat 1) n
where
  go : Nat → Binary64 → Binary64 → Nat → Binary64
    | 0, _, result, _ => result
    | fuel + 1, square, result, n =>
      let result := if n % 2 = 1 then result.mul square else result
      if n / 2 = 0 then result else go fuel (square.mul square) result (n / 2)

end JsonQuery.Binary64
