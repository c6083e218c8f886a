/-
# JsonQuery.Proofs.Number.Rational — what decimals and binary numbers stand for.

Both representations stand for rational numbers, and their orders are the order of the rationals.
Neither writes a rational number in one way only: decimals can have zeros at the end, and a power of
two can be moved between significand and exponent.  The normal form of a decimal and the canonical
form of a binary number are the ways that count, and there equal numbers are the same.
-/
import JsonQuery.Number
import Mathlib.Algebra.Order.Field.Rat
import Mathlib.Algebra.Order.Field.Power
import Mathlib.Data.Nat.Cast.Order.Field
import Mathlib.Order.Compare
import Mathlib.Tactic.FieldSimp
import Mathlib.Tactic.Linarith
import Mathlib.Tactic.NormNum
import Mathlib.Tactic.Positivity
import Mathlib.Tactic.Ring

namespace JsonQuery

/-! ## Decimals -/

namespace Decimal

/-- The rational number that a decimal stands for. -/
def toRat (d : Decimal) : ℚ := (d.coefficient : ℚ) / 10 ^ d.scale

theorem crossed_lt_iff (a b : Decimal) :
    a.coefficient * 10 ^ b.scale < b.coefficient * 10 ^ a.scale ↔ a.toRat < b.toRat := by
  rw [toRat, toRat, div_lt_div_iff₀ (by positivity) (by positivity)]
  exact_mod_cast Iff.rfl

/-- Decimals are ordered as the numbers that they stand for. -/
theorem compare_eq_cmp (a b : Decimal) : a.compare b = cmp a.toRat b.toRat := by
  unfold Decimal.compare cmp cmpUsing
  simp only [crossed_lt_iff]

theorem compare_eq_eq_iff {a b : Decimal} : a.compare b = .eq ↔ a.toRat = b.toRat := by
  rw [compare_eq_cmp, cmp_eq_eq_iff]

/-- Without zeros at the end of the digits after the point. -/
def IsReduced (d : Decimal) : Prop := d.scale = 0 ∨ d.coefficient.natAbs % 10 ≠ 0

theorem stripZeros_spec {fuel m s : Nat} (h : s ≤ fuel) :
    ∃ k, (stripZeros fuel m s).2 + k = s ∧ (stripZeros fuel m s).1 * 10 ^ k = m
      ∧ ((stripZeros fuel m s).2 = 0 ∨ (stripZeros fuel m s).1 % 10 ≠ 0) := by
  induction fuel generalizing m s with
  | zero => exact ⟨0, by simp [stripZeros], by simp [stripZeros], .inl (by simpa [stripZeros] using h)⟩
  | succ fuel ih =>
      simp only [stripZeros]
      split
      next hzero =>
        obtain ⟨k, hscale, hvalue, hreduced⟩ := ih (m := m / 10) (s := s - 1) (by omega)
        refine ⟨k + 1, by omega, ?_, hreduced⟩
        rw [pow_succ, ← mul_assoc, hvalue]
        omega
      next hdone => exact ⟨0, rfl, by simp, by omega⟩

theorem normalize_isReduced (d : Decimal) : d.normalize.IsReduced := by
  obtain ⟨-, -, -, hreduced⟩ := stripZeros_spec (m := d.coefficient.natAbs) (le_refl d.scale)
  simp only [IsReduced, normalize]
  split <;> simpa using hreduced

/-- The normal form stands for the same number. -/
theorem toRat_normalize (d : Decimal) : d.normalize.toRat = d.toRat := by
  obtain ⟨k, hscale, hvalue, -⟩ := stripZeros_spec (m := d.coefficient.natAbs) (le_refl d.scale)
  have hcoefficient : d.coefficient = d.normalize.coefficient * 10 ^ k := by
    have habs : (d.coefficient.natAbs : ℤ)
        = (stripZeros d.scale d.coefficient.natAbs d.scale).1 * 10 ^ k := by exact_mod_cast hvalue.symm
    simp only [normalize]
    split
    · rw [neg_mul, ← habs]; omega
    · rw [← habs]; omega
  have hscale : d.scale = d.normalize.scale + k := hscale.symm
  rw [toRat, toRat, hscale, hcoefficient, pow_add]
  push_cast
  field_simp

/-- Two reduced decimals of one number are the same. -/
theorem eq_of_toRat_eq {a b : Decimal} (ha : a.IsReduced) (hb : b.IsReduced)
    (h : a.toRat = b.toRat) : a = b := by
  have hcrossed : a.coefficient * 10 ^ b.scale = b.coefficient * 10 ^ a.scale := by
    rw [toRat, toRat, div_eq_div_iff (by positivity) (by positivity)] at h
    exact_mod_cast h
  -- More digits after the point than needed end in a zero.
  have hle : ∀ {a b : Decimal}, b.IsReduced →
      a.coefficient * 10 ^ b.scale = b.coefficient * 10 ^ a.scale → b.scale ≤ a.scale := by
    intro a b hb hcrossed
    by_contra hlt
    obtain ⟨k, hk⟩ := Nat.exists_eq_add_of_lt (Nat.lt_of_not_le hlt)
    have hfactor : b.coefficient = a.coefficient * 10 ^ k * 10 := by
      have hpos : (10 : ℤ) ^ a.scale ≠ 0 := by positivity
      refine mul_right_cancel₀ hpos ?_
      rw [← hcrossed, hk, pow_succ, pow_add]
      ring
    rcases hb with hscale | hdigit
    · omega
    · exact hdigit (by rw [hfactor, Int.natAbs_mul]; omega)
  have hscale : a.scale = b.scale := le_antisymm (hle ha hcrossed.symm) (hle hb hcrossed)
  have hcoefficient : a.coefficient = b.coefficient := by
    rw [hscale] at hcrossed
    exact mul_right_cancel₀ (by positivity) hcrossed
  obtain ⟨ca, sa⟩ := a
  obtain ⟨cb, sb⟩ := b
  exact congrArg₂ Decimal.mk hcoefficient hscale

/-- **`normalize_eq_iff`** — the normal forms of two decimals are the same exactly if the decimals
stand for one number. -/
theorem normalize_eq_iff (a b : Decimal) : a.normalize = b.normalize ↔ a.toRat = b.toRat := by
  constructor
  · intro h
    rw [← toRat_normalize a, h, toRat_normalize]
  · intro h
    refine eq_of_toRat_eq a.normalize_isReduced b.normalize_isReduced ?_
    rw [toRat_normalize, toRat_normalize, h]

end Decimal

/-! ## Binary numbers -/

namespace Binary64

/-- The rational number that a finite binary number stands for; the others count as zero. -/
def toRat : Binary64 → ℚ
  | .finite negative m e => (if negative then -(m : ℚ) else m) * 2 ^ e
  | _ => 0

theorem inUnits_mul (negative : Bool) (m : Nat) {e unit : Int} (h : unit ≤ e) :
    (inUnits negative m e unit : ℚ) * 2 ^ unit = (finite negative m e).toRat := by
  have hsplit : (2 : ℚ) ^ e = 2 ^ (e - unit).toNat * 2 ^ unit := by
    rw [← zpow_natCast, ← zpow_add₀ two_ne_zero, Int.toNat_of_nonneg (by omega)]
    congr 1
    omega
  simp only [inUnits, toRat, hsplit]
  cases negative <;> simp <;> ring

/-- Finite numbers are ordered as the numbers that they stand for. -/
theorem compare_finite (s t : Bool) (m n : Nat) (e f : Int) :
    (finite s m e).compare (finite t n f)
      = some (cmp (finite s m e).toRat (finite t n f).toRat) := by
  have hpos : (0 : ℚ) < 2 ^ min e f := by positivity
  have hlt : ∀ a b : Int, a < b ↔ (a : ℚ) * 2 ^ min e f < b * 2 ^ min e f := by
    intro a b
    rw [mul_lt_mul_iff_left₀ hpos]
    exact Int.cast_lt.symm
  unfold cmp cmpUsing
  simp only [Binary64.compare, hlt, inUnits_mul s m (min_le_left e f),
    inUnits_mul t n (min_le_right e f)]

theorem compare_finite_eq_iff {s t : Bool} {m n : Nat} {e f : Int} :
    (finite s m e).compare (finite t n f) = some .eq
      ↔ (finite s m e).toRat = (finite t n f).toRat := by
  rw [compare_finite, Option.some_inj, cmp_eq_eq_iff]

/-- The form in which binary numbers are read and computed: a significand of full precision unless
the exponent is the least. -/
def isCanonical : Binary64 → Bool
  | .finite _ m e =>
    m < 2 * hiddenBit && minExponent ≤ e && e ≤ maxExponent && (e = minExponent || hiddenBit ≤ m)
  | _ => true

theorem isCanonical_finite {negative : Bool} {m : Nat} {e : Int}
    (h : (finite negative m e).isCanonical = true) :
    m < 2 * hiddenBit ∧ minExponent ≤ e ∧ e ≤ maxExponent ∧ (e = minExponent ∨ hiddenBit ≤ m) := by
  simpa [isCanonical, and_assoc] using h

theorem abs_toRat_finite (negative : Bool) (m : Nat) (e : Int) :
    |(finite negative m e).toRat| = m * 2 ^ e := by
  have hpos : (0 : ℚ) ≤ m * 2 ^ e := by positivity
  cases negative
  · exact abs_of_nonneg hpos
  · rw [toRat, if_pos rfl, neg_mul, abs_neg, abs_of_nonneg hpos]

/-- Equal canonical numbers have the same significand and exponent; only the signs of zero differ. -/
theorem eq_of_toRat_eq {s t : Bool} {m n : Nat} {e f : Int}
    (hx : (finite s m e).isCanonical = true) (hy : (finite t n f).isCanonical = true)
    (h : (finite s m e).toRat = (finite t n f).toRat) : m = n ∧ e = f ∧ (m = 0 ∨ s = t) := by
  obtain ⟨hmlt, hemin, -, hm⟩ := isCanonical_finite hx
  obtain ⟨hnlt, hfmin, -, hn⟩ := isCanonical_finite hy
  have habs : (m : ℚ) * 2 ^ e = n * 2 ^ f := by
    rw [← abs_toRat_finite s, ← abs_toRat_finite t, h]
  -- A greater exponent with full precision stands for more than any significand below.
  have hle : ∀ {m n : Nat} {e f : Int}, m < 2 * hiddenBit → minExponent ≤ e →
      (f = minExponent ∨ hiddenBit ≤ n) → (m : ℚ) * 2 ^ e = n * 2 ^ f → f ≤ e := by
    intro m n e f hmlt hemin hn habs
    by_contra hlt
    obtain ⟨k, hk⟩ := Int.exists_add_of_le (show e + 1 ≤ f by omega)
    have hfull : hiddenBit ≤ n := by omega
    have hfactor : (m : ℚ) = n * 2 ^ k * 2 := by
      refine mul_right_cancel₀ (show (2 : ℚ) ^ e ≠ 0 by positivity) ?_
      rw [habs, hk, zpow_add₀ two_ne_zero, zpow_add₀ two_ne_zero, zpow_one, zpow_natCast]
      ring
    have hnat : m = n * 2 ^ k * 2 := by exact_mod_cast hfactor
    have hone : 1 ≤ 2 ^ k := Nat.one_le_two_pow
    nlinarith
  have hexponent : e = f :=
    le_antisymm (hle hnlt hfmin hm habs.symm) (hle hmlt hemin hn habs)
  subst hexponent
  have hpower : (2 : ℚ) ^ e ≠ 0 := by positivity
  have hsignificand : m = n := by exact_mod_cast mul_right_cancel₀ hpower habs
  subst hsignificand
  refine ⟨rfl, rfl, or_iff_not_imp_left.mpr fun hm => ?_⟩
  have hsigned := mul_right_cancel₀ hpower h
  cases s <;> cases t
  case false.false | true.true => rfl
  case false.true | true.false => exact absurd (by simpa using hsigned) hm

end Binary64

end JsonQuery
