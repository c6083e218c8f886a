/-
# JsonQuery.Proofs.Number.Mark — equal numbers leave the same mark.

Numbers with a decimal form are equal if their decimals stand for one number, and then their normal
forms are the same.  A binary number without a decimal form is too large for the coefficients of
decimals, hence larger than every integer of a document, and its mark is the number itself.
Together this covers all numbers that documents hold.
-/
import JsonQuery.Proofs.Number.Rational
import JsonQuery.Value.Fingerprint

namespace JsonQuery

/-! ## Which binary numbers have a decimal form -/

namespace Decimal

theorem Trade.halve_exponent_le (n : Nat) (t : Trade) :
    (t.halve n).exponent ≤ t.exponent + n := by
  induction n generalizing t with
  | zero => simp [Trade.halve]
  | succ n ih =>
      simp only [Trade.halve]
      split_ifs
      · exact (ih _).trans (by push_cast; omega)
      · exact (ih _).trans (by push_cast; omega)
      · exact (ih _).trans (by push_cast; omega)

/-- While there is room, doubling goes all the way. -/
theorem Trade.double_of_lt {n : Nat} {t : Trade} (h : t.coefficient * 2 ^ n < coefficientBound) :
    t.double n = some ⟨t.coefficient * 2 ^ n, t.exponent - n⟩ := by
  induction n generalizing t with
  | zero => simp [Trade.double]
  | succ n ih =>
      have hone : 1 ≤ 2 ^ n := Nat.one_le_two_pow
      have hpow : t.coefficient * 2 ^ (n + 1) = t.coefficient * 2 * 2 ^ n := by ring
      have hroom : t.coefficient * 2 < coefficientBound := by
        refine lt_of_le_of_lt ?_ (hpow ▸ h)
        exact Nat.le_mul_of_pos_right _ (by omega)
      rw [Trade.double, if_pos hroom, ih (by simpa only [hpow] using h)]
      simp only [hpow]
      congr 2
      push_cast
      omega

/-- A binary number has a decimal form unless it is larger than every coefficient. -/
theorem isSome_ofBinary {negative : Bool} {m : Nat} {e : Int}
    (h : |(Binary64.finite negative m e).toRat| < coefficientBound) :
    (ofBinary (.finite negative m e)).isSome = true := by
  rw [Binary64.abs_toRat_finite] at h
  by_cases hm : m = 0
  · simp [ofBinary, hm]
  have hdouble : ∃ t : Trade, ((⟨m, e⟩ : Trade).halve (-e).toNat).double e.toNat = some t
      ∧ t.exponent ≤ 0 := by
    rcases le_total e 0 with he | he
    · refine ⟨(⟨m, e⟩ : Trade).halve (-e).toNat, ?_, ?_⟩
      · rw [Int.toNat_of_nonpos he]
        rfl
      · have hle := Trade.halve_exponent_le (-e).toNat ⟨m, e⟩
        simp only at hle
        omega
    · obtain ⟨n, rfl⟩ := Int.eq_ofNat_of_zero_le he
      have hroom : m * 2 ^ n < coefficientBound := by
        rw [zpow_natCast] at h
        exact_mod_cast h
      refine ⟨⟨m * 2 ^ n, n - n⟩, ?_, by simp⟩
      have hhalve : (-(n : Int)).toNat = 0 := by omega
      rw [hhalve, Int.toNat_natCast]
      exact Trade.double_of_lt (t := ⟨m, n⟩) hroom
  obtain ⟨t, ht, hexponent⟩ := hdouble
  simp [ofBinary, hm, ht, Int.toNat_of_nonpos hexponent, Trade.expand]

end Decimal

/-! ## How large the binary number of an integer can be -/

namespace Binary64

theorem roundHalfEven_le (num den : Nat) : roundHalfEven num den ≤ num / den + 1 := by
  simp only [roundHalfEven]
  split_ifs <;> omega

theorem ratioLog2_le {k l : Nat} (h : k < 2 ^ (l + 1)) : ratioLog2 k 1 ≤ l := by
  have hlog : k.log2 ≤ l := by
    by_cases hk : k = 0
    · simp [hk]
    · have := Nat.log2_self_le hk
      by_contra hlt
      have hpow : 2 ^ (l + 1) ≤ 2 ^ k.log2 := Nat.pow_le_pow_right (by decide) (by omega)
      omega
  have hone : Nat.log2 1 = 0 := by decide
  simp only [ratioLog2, hone]
  split_ifs <;> omega

/-- Rounding an integer to a multiple of a power of two adds at most that power. -/
theorem scaled_le (k : Nat) {e : Int} {l : Nat} (he : e ≤ l) :
    (roundHalfEven (scaleRatio k 1 e).1 (scaleRatio k 1 e).2 : ℚ) * 2 ^ e ≤ (k + 1) * 2 ^ l := by
  have hpower : (2 : ℚ) ^ e ≤ 2 ^ l := by
    rw [← zpow_natCast]
    exact zpow_le_zpow_right₀ (by norm_num) he
  by_cases hsign : 0 ≤ e
  · have hround : roundHalfEven (scaleRatio k 1 e).1 (scaleRatio k 1 e).2 ≤ k + 1 := by
      rw [scaleRatio, if_pos hsign]
      exact (roundHalfEven_le _ _).trans (Nat.succ_le_succ (Nat.div_le_self _ _))
    have hcast : (roundHalfEven (scaleRatio k 1 e).1 (scaleRatio k 1 e).2 : ℚ) ≤ k + 1 := by
      exact_mod_cast hround
    exact mul_le_mul hcast hpower (by positivity) (by positivity)
  · have hround : roundHalfEven (scaleRatio k 1 e).1 (scaleRatio k 1 e).2
        ≤ k * 2 ^ (-e).toNat + 1 := by
      rw [scaleRatio, if_neg hsign]
      exact (roundHalfEven_le _ _).trans (by rw [Nat.div_one])
    have hcast : (roundHalfEven (scaleRatio k 1 e).1 (scaleRatio k 1 e).2 : ℚ)
        ≤ k * 2 ^ (-e) + 1 := by
      have hexponent : (2 : ℚ) ^ (-e) = 2 ^ (-e).toNat := by
        rw [← zpow_natCast, Int.toNat_of_nonneg (by omega)]
      rw [hexponent]
      exact_mod_cast hround
    have hcancel : (2 : ℚ) ^ (-e) * 2 ^ e = 1 := by
      rw [← zpow_add₀ two_ne_zero, neg_add_cancel, zpow_zero]
    have hsmall : (2 : ℚ) ^ e ≤ 1 := by
      rw [← zpow_zero (2 : ℚ)]
      exact zpow_le_zpow_right₀ (by norm_num) (by omega)
    calc (roundHalfEven (scaleRatio k 1 e).1 (scaleRatio k 1 e).2 : ℚ) * 2 ^ e
        ≤ (k * 2 ^ (-e) + 1) * 2 ^ e := mul_le_mul_of_nonneg_right hcast (by positivity)
      _ = k + 2 ^ e := by rw [add_mul, mul_assoc, hcancel]; ring
      _ ≤ k + 1 := by linarith
      _ ≤ (k + 1) * 2 ^ l := le_mul_of_one_le_right (by positivity) (one_le_pow₀ (by norm_num))

/-- What is rounded to is what is stored, or else an infinity. -/
theorem abs_toRat_ofRatio_le (negative : Bool) (num den : Nat) {e : Int}
    (he : e = max (ratioLog2 num den - 52) minExponent) :
    |(ofRatio negative num den).toRat|
      ≤ roundHalfEven (scaleRatio num den e).1 (scaleRatio num den e).2 * 2 ^ e := by
  subst he
  have hpos : (0 : ℚ) ≤ roundHalfEven (scaleRatio num den (max (ratioLog2 num den - 52) minExponent)).1
      (scaleRatio num den (max (ratioLog2 num den - 52) minExponent)).2
        * 2 ^ max (ratioLog2 num den - 52) minExponent := by positivity
  simp only [ofRatio]
  split_ifs with hzero hcarry hinf hinf
  · simpa [zero, toRat] using hpos
  · simpa [toRat] using hpos
  · rw [abs_toRat_finite, hcarry, zpow_add₀ two_ne_zero]
    push_cast
    exact le_of_eq (by ring)
  · simpa [toRat] using hpos
  · rw [abs_toRat_finite]

/-- The binary number of an integer of a document stays far below the bound of coefficients. -/
theorem abs_toRat_ofNat_lt {k : Nat} (h : k ≤ 0x10000000000000000) :
    |(ofNat k).toRat| < Decimal.coefficientBound := by
  have hlog : ratioLog2 k 1 ≤ (64 : Nat) := ratioLog2_le (by omega)
  have hexponent : max (ratioLog2 k 1 - 52) minExponent ≤ (12 : Nat) := by
    simp only [minExponent]
    omega
  have hk : (k : ℚ) ≤ 0x10000000000000000 := by exact_mod_cast h
  calc |(ofNat k).toRat|
      ≤ _ := abs_toRat_ofRatio_le false k 1 rfl
    _ ≤ (k + 1) * 2 ^ 12 := scaled_le k hexponent
    _ < Decimal.coefficientBound := by norm_num [Decimal.coefficientBound]; linarith

theorem compare_eq_eq_comm (x y : Binary64) :
    x.compare y = some .eq ↔ y.compare x = some .eq := by
  cases x with
  | nan => cases y <;> simp [Binary64.compare]
  | infinite s =>
      cases y with
      | nan | finite => cases s <;> simp [Binary64.compare]
      | infinite t => cases s <;> cases t <;> simp [Binary64.compare]
  | finite s m e =>
      cases y with
      | nan => simp [Binary64.compare]
      | infinite t => cases t <;> simp [Binary64.compare]
      | finite t n f =>
          rw [compare_finite_eq_iff, compare_finite_eq_iff]
          exact eq_comm

theorem abs_toRat_withSign (negative : Bool) (x : Binary64) :
    |(x.withSign negative).toRat| = |x.toRat| := by
  cases x with
  | finite own m e => rw [withSign, abs_toRat_finite, abs_toRat_finite]
  | infinite | nan => rfl

end Binary64

/-! ## Marks -/

/-- The numbers that a document holds: integers in range, and finite binary numbers in canonical
form. -/
def Json.Numeral.isProper : Json.Numeral → Bool
  | .integer n => Json.inIntegerRange n
  | .float x => x.isFinite && x.isCanonical

namespace Number

open Value (numberMark)

/-- **`numberMark_eq_iff_of_decimal`** — numbers with a decimal form leave the same mark exactly if they
are equal. -/
theorem numberMark_eq_iff_of_decimal {a b : Number} (ha : a.decimal?.isSome = true)
    (hb : b.decimal?.isSome = true) : numberMark a = numberMark b ↔ a.same b = true := by
  obtain ⟨x, hx⟩ := Option.isSome_iff_exists.mp ha
  obtain ⟨y, hy⟩ := Option.isSome_iff_exists.mp hb
  simp only [numberMark, same, compare, hx, hy, Value.Mark.decimal.injEq, Decimal.normalize_eq_iff,
    beq_iff_eq, Option.some.injEq, Decimal.compare_eq_eq_iff]

/-- A binary number that equals an integer of a document has a decimal form. -/
theorem isSome_decimal?_of_same_ofInt {n : Int} (hn : Json.inIntegerRange n = true) {x : Binary64}
    (h : (ofInt n).same (.float x) = true) : (Number.float x).decimal?.isSome = true := by
  by_contra hnone
  have hnone : Decimal.ofBinary x = none := by simpa [decimal?] using hnone
  simp only [same, compare, decimal?, ofInt, hnone, binary?, Option.bind_eq_bind] at h
  cases x with
  | infinite | nan => simp [Binary64.isFinite] at h
  | finite negative m e =>
      simp only [Binary64.isFinite, if_true, Option.bind_some] at h
      -- The integer has a finite binary form, since infinities equal no finite number.
      have hnat : n.natAbs ≤ 0x10000000000000000 := by
        simp only [Json.inIntegerRange, Bool.and_eq_true, decide_eq_true_eq] at hn
        omega
      have hsmall : |((Decimal.ofInt n).toBinary).toRat| < Decimal.coefficientBound := by
        have hbinary : (Decimal.ofInt n).toBinary
            = (Binary64.ofNat n.natAbs).withSign (n < 0) := rfl
        rw [hbinary, Binary64.abs_toRat_withSign]
        exact Binary64.abs_toRat_ofNat_lt hnat
      cases hform : (Decimal.ofInt n).toBinary with
      | infinite s => cases s <;> simp [hform, Binary64.compare] at h
      | nan => simp [hform, Binary64.compare] at h
      | finite s k f =>
          rw [hform, beq_iff_eq] at h
          have heq : (Binary64.finite s k f).toRat = (Binary64.finite negative m e).toRat :=
            Binary64.compare_finite_eq_iff.mp h
          have hsome := Decimal.isSome_ofBinary (heq ▸ hform ▸ hsmall)
          simp [hnone] at hsome

theorem same_comm (a b : Number) : a.same b = b.same a := by
  have hbinary : (do (← a.binary?).compare (← b.binary?)) = some .eq
      ↔ (do (← b.binary?).compare (← a.binary?)) = some .eq := by
    cases a.binary? <;> cases b.binary? <;> simp [Binary64.compare_eq_eq_comm]
  rw [Bool.eq_iff_iff]
  simp only [same, compare, beq_iff_eq]
  cases a.decimal? with
  | none => cases b.decimal? <;> exact hbinary
  | some x =>
      cases b.decimal? with
      | none => exact hbinary
      | some y =>
          simp only [Option.some.injEq, Decimal.compare_eq_eq_iff]
          exact eq_comm

/-- Equality of finite binary numbers without a decimal form is the equality of what they stand
for. -/
theorem toRat_eq_of_same_float {x y : Binary64}
    (hnone : ¬((Number.float x).decimal?.isSome = true ∧ (Number.float y).decimal?.isSome = true))
    (hx : x.isFinite = true) (hy : y.isFinite = true)
    (h : (Number.float x).same (.float y) = true) : x.toRat = y.toRat := by
  have hbinary : (Number.float x).compare (.float y) = x.compare y := by
    simp only [compare, binary?, hx, hy, if_true]
    split
    next u v hu hv => exact absurd ⟨by simp [hu], by simp [hv]⟩ hnone
    next => rfl
  cases x with
  | infinite | nan => cases hx
  | finite s m e =>
      cases y with
      | infinite | nan => cases hy
      | finite t n f =>
          rw [same, hbinary, beq_iff_eq] at h
          exact Binary64.compare_finite_eq_iff.mp h

/-- Equal canonical binary numbers leave the same mark. -/
theorem numberMark_eq_of_same_float {x y : Binary64}
    (hx : (Json.Numeral.float x).isProper = true) (hy : (Json.Numeral.float y).isProper = true)
    (h : (Number.float x).same (.float y) = true) :
    numberMark (.float x) = numberMark (.float y) := by
  by_cases hsome : (Number.float x).decimal?.isSome = true ∧ (Number.float y).decimal?.isSome = true
  · exact (numberMark_eq_iff_of_decimal hsome.1 hsome.2).mpr h
  simp only [Json.Numeral.isProper, Bool.and_eq_true] at hx hy
  have heq := toRat_eq_of_same_float hsome hx.1 hy.1 h
  cases x with
  | infinite | nan => cases hx.1
  | finite s m e =>
      cases y with
      | infinite | nan => cases hy.1
      | finite t n f =>
          obtain ⟨rfl, rfl, hzero | rfl⟩ := Binary64.eq_of_toRat_eq hx.2 hy.2 heq
          · exact absurd (by simp [decimal?, Decimal.ofBinary, hzero]) hsome
          · rfl

/-- **`numberMark_eq_of_same`** — equal numbers of documents leave the same mark. -/
theorem numberMark_eq_of_same {a b : Json.Numeral} (ha : a.isProper = true) (hb : b.isProper = true)
    (h : (ofNumeral a).same (ofNumeral b) = true) :
    numberMark (ofNumeral a) = numberMark (ofNumeral b) := by
  have hinteger : ∀ n : Int, (ofInt n).decimal?.isSome = true := fun n => rfl
  cases a with
  | integer m =>
      cases b with
      | integer n => exact (numberMark_eq_iff_of_decimal (hinteger m) (hinteger n)).mpr h
      | float y =>
          exact (numberMark_eq_iff_of_decimal (hinteger m)
            (isSome_decimal?_of_same_ofInt ha h)).mpr h
  | float x =>
      cases b with
      | integer n =>
          have hsome := isSome_decimal?_of_same_ofInt hb (same_comm _ _ ▸ h)
          exact (numberMark_eq_iff_of_decimal hsome (hinteger n)).mpr h
      | float y => exact numberMark_eq_of_same_float ha hb h

end Number

end JsonQuery
