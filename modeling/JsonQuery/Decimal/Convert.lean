/-
# JsonQuery.Decimal.Convert — decimals and binary floating-point numbers.

A binary number has a decimal form if a coefficient and a scale in range come close enough to it.
The conversion keeps 52 significant bits and no zeros at the end.  The way back is exact for whole
numbers; otherwise the whole part and the fraction are converted apart, added, and rounded to as
many places as the decimal has.
-/
import JsonQuery.Decimal.Basic
import JsonQuery.Binary64.Arithmetic

namespace JsonQuery.Decimal

-- Powers are those of the numbers themselves, whatever else is in scope.
attribute [local instance (high)] instPowNat

/-- A coefficient over a power of ten, while a power of two is traded for powers of ten. -/
structure Trade where
  coefficient : Nat
  exponent : Int

namespace Trade

/-- Divides by ten, a half going up. -/
def dropDigit (t : Trade) : Trade :=
  ⟨if 5 ≤ t.coefficient % 10 then t.coefficient / 10 + 1 else t.coefficient / 10, t.exponent + 1⟩

/-- Divides by two `n` times: an even coefficient is halved and the power of ten grows with it, an
odd one is multiplied by five if there is room and loses its last bit if not. -/
def halve : Nat → Trade → Trade
  | 0, t => t
  | n + 1, t =>
    if t.coefficient % 2 = 0 then halve n ⟨t.coefficient / 2, t.exponent + 1⟩
    else if t.coefficient * 5 < coefficientBound then halve n ⟨t.coefficient * 5, t.exponent⟩
    else halve n ⟨t.coefficient / 2, t.exponent + 1⟩

/-- Multiplies by five `n` times, counted against a power of ten: while there is room the
coefficient doubles and the power of ten shrinks, afterwards it is divided by five. -/
def double : Nat → Trade → Option Trade
  | 0, t => some t
  | n + 1, t =>
    if t.coefficient * 2 < coefficientBound then double n ⟨t.coefficient * 2, t.exponent - 1⟩
    else if (n + 1 : Int) < 2 * t.exponent then none
    else double n ⟨t.coefficient / 5, t.exponent⟩

/-- Multiplies a positive power of ten into the coefficient. -/
def expand : Nat → Trade → Option Trade
  | 0, t => some t
  | n + 1, t =>
    if t.coefficient * 10 < coefficientBound then expand n ⟨t.coefficient * 10, t.exponent - 1⟩
    else none

/-- Rounds digits off until the scale is in range; nothing is left of a number that is too small. -/
def shrink : Nat → Trade → Trade
  | 0, t => t
  | n + 1, t =>
    if t.coefficient / 10 = 0 then ⟨0, 0⟩ else shrink n t.dropDigit

/-- Rounds digits off the fraction until the coefficient has at most 52 bits. -/
def keepPrecision : Nat → Trade → Trade
  | 0, t => t
  | n + 1, t => if 0x10000000000000 ≤ t.coefficient then keepPrecision n t.dropDigit else t

/-- Drops zeros at the end of the fraction. -/
def dropZeros : Nat → Trade → Trade
  | 0, t => t
  | n + 1, t =>
    if t.coefficient % 10 = 0 then dropZeros n ⟨t.coefficient / 10, t.exponent + 1⟩ else t

end Trade

/-- The decimal form of a binary number, if it has one. -/
def ofBinary : Binary64 → Option Decimal
  | .infinite _ => none
  | .nan => none
  | .finite negative m e => do
    if m = 0 then return ofInt 0
    let t : Trade := ⟨m, e⟩
    let t := t.halve (-e).toNat
    let t ← t.double e.toNat
    let t ← t.expand t.exponent.toNat
    let t := t.shrink (-t.exponent - maxScale).toNat
    let t := t.keepPrecision (-t.exponent).toNat
    let t := t.dropZeros (-t.exponent).toNat
    return ⟨if negative then -t.coefficient else t.coefficient, (-t.exponent).toNat⟩

/-- The binary number of a decimal. -/
def toBinary (d : Decimal) : Binary64 :=
  let m := d.coefficient.natAbs
  let value :=
    if d.scale = 0 then Binary64.ofNat m
    else
      let power := 10 ^ d.scale
      let whole := Binary64.ofNat (m / power)
      let fraction := (Binary64.ofNat (m % power)).div (Binary64.ofNat power)
      if fraction.isZero then whole
      else
        let places := Binary64.powBySquaring (Binary64.ofNat 10) d.scale
        (((whole.add fraction).mul places).round).div places
  value.withSign (d.coefficient < 0)

end JsonQuery.Decimal
