/-
# JsonQuery.Binary64.Shortest — the fewest digits that read back.

The text of a finite number has the fewest significant digits among the decimals that round to it,
and of those with as few the nearest.  The reals that round to `m * 2 ^ e` form an interval around
it, whose ends belong to it exactly when `m` is even; for one to seventeen digits the two decimals
next to the number are tried until one lies in the interval.
-/
import JsonQuery.Binary64.Basic

namespace JsonQuery.Binary64

-- Powers are those of the numbers themselves, whatever else is in scope.
attribute [local instance (high)] instPowNat

/-- A decimal `digits * 10 ^ exponent`. -/
structure Digits where
  digits : Nat
  exponent : Int
  deriving DecidableEq, Repr

/-- A positive finite number with its interval, all in units of one common fraction: the number is
`value / den`, its neighbours' midpoints are `low / den` and `high / den`. -/
structure Neighbourhood where
  low : Nat
  value : Nat
  high : Nat
  den : Nat
  closed : Bool

/-- The interval of the reals that round to `m * 2 ^ e`.  Below a power of two the next smaller
number is only half as far away. -/
def neighbourhood (m : Nat) (e : Int) : Neighbourhood :=
  let up := 2 ^ (e - 2).toNat
  let den := 2 ^ (2 - e).toNat
  let nearBelow := m == hiddenBit && minExponent < e
  { low := (4 * m - (if nearBelow then 1 else 2)) * up
    value := 4 * m * up
    high := (4 * m + 2) * up
    den := den
    closed := m % 2 == 0 }

namespace Neighbourhood

/-- Whether `d * 10 ^ k` lies in the interval. -/
def contains (r : Neighbourhood) (d : Nat) (k : Int) : Bool :=
  let x := d * 10 ^ k.toNat * r.den
  let scale := 10 ^ (-k).toNat
  if r.closed then r.low * scale ≤ x && x ≤ r.high * scale
  else r.low * scale < x && x < r.high * scale

/-- The two multiples of `10 ^ k` next to the number: the one not above it and its successor. -/
def gridBelow (r : Neighbourhood) (k : Int) : Nat :=
  r.value * 10 ^ (-k).toNat / (r.den * 10 ^ k.toNat)

/-- Twice the distance to `d * 10 ^ k` from below compared with that from above: whether the lower
neighbour `d` is nearer than `d + 1`. -/
def lowerIsNearer (r : Neighbourhood) (d : Nat) (k : Int) : Bool :=
  let v := 2 * r.value * 10 ^ (-k).toNat
  let mid := (2 * d + 1) * 10 ^ k.toNat * r.den
  if v = mid then d % 2 == 0 else v < mid

/-- The decimal on the grid `10 ^ k` that reads back, if one does. -/
def onGrid? (r : Neighbourhood) (k : Int) : Option Nat :=
  let d := r.gridBelow k
  match r.contains d k, r.contains (d + 1) k with
  | true, true => some (if r.lowerIsNearer d k then d else d + 1)
  | true, false => some d
  | false, true => some (d + 1)
  | false, false => none

end Neighbourhood

/-- The greatest `k` with `10 ^ k ≤ value / den`, searched downwards from an upper bound. -/
def decimalLog (value den : Nat) : Int :=
  let guess : Int := ((ratioLog2 value den + 1) * 30103) / 100000 + 1
  go 4 guess
where
  go : Nat → Int → Int
    | 0, k => k
    | fuel + 1, k =>
      if 10 ^ k.toNat * den ≤ value * 10 ^ (-k).toNat then k else go fuel (k - 1)

/-- Trailing zeros of the digits move into the exponent. -/
def dropZeros : Nat → Digits → Digits
  | 0, d => d
  | fuel + 1, d =>
    if d.digits % 10 = 0 && d.digits != 0 then dropZeros fuel ⟨d.digits / 10, d.exponent + 1⟩ else d

/-- The shortest digits of `m * 2 ^ e`, for positive `m`. -/
def shortest (m : Nat) (e : Int) : Digits :=
  let r := neighbourhood m e
  let top := decimalLog r.value r.den
  let rec go : Nat → Int → Digits
    | 0, k => ⟨r.gridBelow k, k⟩
    | fuel + 1, k =>
      match r.onGrid? k with
      | some d => dropZeros 20 ⟨d, k⟩
      | none => go fuel (k - 1)
  go 17 top

/-! ## Layout -/

/-- How digits are laid out as text: the decimal exponents of the first digit that are written
positionally. -/
structure Layout where
  minPositional : Int
  pastPositional : Int

/-- Numbers from 10^−5 up to 10^16 are written positionally, all others with an exponent. -/
def jsonLayout : Layout := ⟨-5, 16⟩

/-- The text of a decimal: a whole number keeps `.0`, and an exponent always has a sign. -/
def Digits.render (layout : Layout) (d : Digits) : String :=
  let text := toString d.digits
  let count : Int := text.length
  let first := d.exponent + count - 1
  if layout.minPositional ≤ first ∧ first < layout.pastPositional then
    if 0 ≤ d.exponent then text ++ String.ofList (List.replicate d.exponent.toNat '0') ++ ".0"
    else if first < 0 then
      "0." ++ String.ofList (List.replicate (-first - 1).toNat '0') ++ text
    else
      String.ofList (text.toList.take (first + 1).toNat) ++ "." ++
        String.ofList (text.toList.drop (first + 1).toNat)
  else
    let mantissa := match text.toList with
      | [] => ""
      | [c] => String.ofList [c]
      | c :: rest => String.ofList (c :: '.' :: rest)
    mantissa ++ "e" ++ (if first < 0 then "-" else "+") ++ toString first.natAbs

/-- The text of a number; an infinity or a NaN has a word for it, which JSON does not allow. -/
def toText : Binary64 → String
  | .nan => "NaN"
  | .infinite s => if s then "-inf" else "inf"
  | .finite s m e =>
    let sign := if s then "-" else ""
    if m = 0 then sign ++ "0.0" else sign ++ (shortest m e).render jsonLayout

end JsonQuery.Binary64
