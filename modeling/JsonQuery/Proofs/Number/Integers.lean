/-
# JsonQuery.Proofs.Number.Integers — arithmetic on the integers of documents is exact.

The integers of documents have 64 bits, with or without a sign, and become decimals without digits after
the point.  The coefficient of a decimal has 96 bits: sums and differences of such integers fit, their
products fit as long as they are below that bound, and so do sums of less than 2^32 of them.

Division is another matter, because a quotient has to be rounded to the digits that fit, and flooring
comes after rounding.  It is exact all the same.  A quotient of two integers that is none itself keeps
away from the next integer by at least one over the divisor, and the digits that fit are so many that
half a unit of the last one is less than that.
-/
import JsonQuery.Function.Call
import JsonQuery.Proofs.Number.Rational
import JsonQuery.Proofs.Value.Document
import Mathlib.Data.Rat.Floor

namespace JsonQuery

/-! ## Rounding -/

/-- Rounding goes to a nearest number: it is off by half a unit at most. -/
theorem Binary64.roundHalfEven_nearest (num : Nat) {den : Nat} (hden : 0 < den) :
    2 * num ≤ 2 * (roundHalfEven num den * den) + den ∧
      2 * (roundHalfEven num den * den) ≤ 2 * num + den := by
  have hsplit : num / den * den + num % den = num := Nat.div_add_mod' num den
  have hrest : num % den < den := Nat.mod_lt num hden
  unfold roundHalfEven
  dsimp only
  split
  · omega
  · split
    · rw [Nat.add_mul, Nat.one_mul]
      omega
    · -- Half way between two numbers, either of them is near enough.
      rcases Nat.mod_two_eq_zero_or_one (num / den) with heven | hodd
      · rw [heven, Nat.add_zero]
        omega
      · rw [hodd, Nat.add_mul, Nat.one_mul]
        omega

namespace Decimal

/-- A numerator that is the denominator of one is not rounded. -/
theorem roundHalfEven_one (num : Nat) : Binary64.roundHalfEven num 1 = num := by
  have hnearest := Binary64.roundHalfEven_nearest num Nat.one_pos
  omega

/-- A coefficient with the sign of a number. -/
theorem signed_natAbs (n : Int) : (if n < 0 then -(n.natAbs : Int) else n.natAbs) = n := by
  split <;> omega

theorem toRat_ofInt (n : Int) : (ofInt n).toRat = n := by
  simp [toRat, ofInt]

/-- A whole number below the bound of coefficients fits as it is. -/
theorem fit_zero {n : Int} (h : n.natAbs < coefficientBound) : fit n 0 = some (ofInt n) := by
  have hround : Binary64.roundHalfEven n.natAbs (10 ^ 0) = n.natAbs := roundHalfEven_one _
  have hdrop : dropFrom n.natAbs 0 (0 + 1) 0 = some (n.natAbs, 0) := by
    rw [dropFrom, hround]
    exact if_pos ⟨h, Nat.zero_le _⟩
  rw [fit, hdrop, Option.map_some]
  dsimp only
  rw [signed_natAbs]
  rfl

variable {a b : Int}

/-! ## Sums, differences, products and remainders -/

theorem add_ofInt (h : (a + b).natAbs < coefficientBound) :
    (ofInt a).add (ofInt b) = some (ofInt (a + b)) := by
  have hone : a * 10 ^ 0 + b * 10 ^ 0 = a + b := by rw [pow_zero, Int.mul_one, Int.mul_one]
  show fit (a * 10 ^ 0 + b * 10 ^ 0) 0 = _
  rw [hone, fit_zero h]

theorem sub_ofInt (h : (a - b).natAbs < coefficientBound) :
    (ofInt a).sub (ofInt b) = some (ofInt (a - b)) := by
  show (ofInt a).add (ofInt (-b)) = _
  rw [Int.sub_eq_add_neg] at h ⊢
  exact add_ofInt h

theorem mul_ofInt (h : (a * b).natAbs < coefficientBound) :
    (ofInt a).mul (ofInt b) = some (ofInt (a * b)) := by
  rw [mul]
  split
  next hzero =>
    have hproduct : a * b = 0 := by
      rcases Bool.or_eq_true_iff.mp hzero with ha | hb
      · have ha : a = 0 := beq_iff_eq.mp ha
        rw [ha, Int.zero_mul]
      · have hb : b = 0 := beq_iff_eq.mp hb
        rw [hb, Int.mul_zero]
    rw [hproduct]
  next => exact fit_zero h

theorem isZero_ofInt (h : b ≠ 0) : (ofInt b).isZero = false :=
  beq_eq_false_iff_ne.mpr h

theorem rem_ofInt (h : b ≠ 0) : (ofInt a).rem (ofInt b) = some (ofInt (a.tmod b)) := by
  have hone : ∀ n : Int, n * 10 ^ 0 = n := fun n => by rw [pow_zero, Int.mul_one]
  rw [rem, isZero_ofInt h]
  show some (Decimal.mk ((a * 10 ^ 0).tmod (b * 10 ^ 0)) 0) = _
  rw [hone, hone]
  rfl

/-! ## Quotients -/

/-- A quotient that fits without digits after the point has one: it is rounded at a scale where it fits,
and it does not fit with one digit more, unless there may not be more digits. -/
theorem quotientFrom_spec {num den n : Nat} (h : Binary64.roundHalfEven num den < coefficientBound) :
    ∃ s ≤ n, quotientFrom num den n = some (Binary64.roundHalfEven (num * 10 ^ s) den, s) ∧
      (s = n ∨ coefficientBound ≤ Binary64.roundHalfEven (num * 10 ^ (s + 1)) den) := by
  induction n with
  | zero =>
      refine ⟨0, Nat.le_refl 0, ?_, .inl rfl⟩
      have hone : num * 10 ^ 0 = num := by rw [pow_zero, Nat.mul_one]
      rw [hone]
      exact if_pos h
  | succ n ih =>
      rw [quotientFrom]
      split
      next => exact ⟨n + 1, Nat.le_refl _, rfl, .inl rfl⟩
      next hlarge =>
        obtain ⟨s, hs, hquotient, hmore⟩ := ih
        refine ⟨s, Nat.le_succ_of_le hs, hquotient, .inr ?_⟩
        rcases hmore with rfl | hmore
        · exact Nat.le_of_not_lt hlarge
        · exact hmore

/-- The integers of 64 bits, with or without a sign, up to their sign. -/
theorem natAbs_lt_of_inIntegerRange {n : Int} (h : Json.inIntegerRange n = true) :
    n.natAbs < 0x10000000000000000 := by
  simp only [Json.inIntegerRange, Bool.and_eq_true, decide_eq_true_eq] at h
  omega

/-- So many digits of the quotient of 64-bit numbers fit that half a unit of the last one is less than
one over the divisor. -/
theorem den_lt_of_scale {num den s : Nat} (hnum : num < 0x10000000000000000)
    (hden : den < 0x10000000000000000) (hpos : 0 < den)
    (h : s = maxScale ∨ coefficientBound ≤ Binary64.roundHalfEven (num * 10 ^ (s + 1)) den) :
    den < 2 * 10 ^ s := by
  rcases h with rfl | hlarge
  · exact hden.trans (by decide)
  · obtain ⟨-, hnearest⟩ := Binary64.roundHalfEven_nearest (num * 10 ^ (s + 1)) hpos
    have hbound := Nat.mul_le_mul_right den hlarge
    have hpower : num * 10 ^ (s + 1) = 10 * (num * 10 ^ s) := by ring
    have hscale : num * 10 ^ s ≤ 0x10000000000000000 * 10 ^ s :=
      Nat.mul_le_mul_right _ (Nat.le_of_lt hnum)
    unfold coefficientBound at hbound
    omega

/-- A number that is nearer to a fraction than one over its denominator lies on the same side of every
integer. -/
theorem le_rounded_iff {num den q scale k : Int} (hnear : 2 * (num * scale) ≤ 2 * (q * den) + den)
    (hnear' : 2 * (q * den) ≤ 2 * (num * scale) + den) (hden : 0 < den) (hscale : 0 < scale)
    (hfine : den < 2 * scale) : k * scale ≤ q ↔ k * den ≤ num := by
  constructor
  · intro h
    by_contra hlt
    -- The fraction is below `k` by one over the denominator at least.
    have hgap : num + 1 ≤ k * den := by omega
    have hleft : (num + 1) * scale ≤ k * den * scale := Int.mul_le_mul_of_nonneg_right hgap hscale.le
    have hright : k * scale * den ≤ q * den := Int.mul_le_mul_of_nonneg_right h hden.le
    have hcomm : k * den * scale = k * scale * den := by ring
    rw [Int.add_mul, Int.one_mul] at hleft
    omega
  · intro h
    by_contra hlt
    have hgap : q + 1 ≤ k * scale := by omega
    have hleft : (q + 1) * den ≤ k * scale * den := Int.mul_le_mul_of_nonneg_right hgap hden.le
    have hright : k * den * scale ≤ num * scale := Int.mul_le_mul_of_nonneg_right h hscale.le
    have hcomm : k * den * scale = k * scale * den := by ring
    rw [Int.add_mul, Int.one_mul] at hleft
    omega

/-- Fractions that lie on the same side of every integer have the same whole part. -/
theorem floor_eq_of_forall {num den q scale : Int} (hden : 0 < den) (hscale : 0 < scale)
    (h : ∀ k : Int, k * scale ≤ q ↔ k * den ≤ num) : ⌊(q : ℚ) / scale⌋ = ⌊(num : ℚ) / den⌋ := by
  have hle : ∀ {x y : Int} (_ : 0 < y) (k : Int), k ≤ ⌊(x : ℚ) / y⌋ ↔ k * y ≤ x := by
    intro x y hy k
    have hy : (0 : ℚ) < y := by exact_mod_cast hy
    rw [Int.le_floor, le_div_iff₀ hy]
    exact_mod_cast Iff.rfl
  refine eq_of_forall_le_iff fun k => ?_
  rw [hle hscale, hle hden, h]

theorem floor_eq (d : Decimal) : d.floor = ofInt ⌊d.toRat⌋ := by
  have hpower : ((10 : ℚ) ^ d.scale) = ((10 ^ d.scale : Nat) : ℚ) := by norm_cast
  have hcast : ((10 : Int) ^ d.scale) = ((10 ^ d.scale : Nat) : Int) := by norm_cast
  rw [toRat, hpower, Rat.floor_intCast_div_natCast]
  show ofInt (Int.fdiv d.coefficient (10 ^ d.scale)) = _
  rw [hcast, Int.fdiv_eq_ediv_of_nonneg _ (Int.natCast_nonneg _)]

/-- The rounded quotient with its sign has the whole part of the quotient with its sign. -/
theorem floor_signed (negative : Bool) {num den q s : Nat} (hpos : 0 < den) (hfine : den < 2 * 10 ^ s)
    (hlow : 2 * (num * 10 ^ s) ≤ 2 * (q * den) + den)
    (hhigh : 2 * (q * den) ≤ 2 * (num * 10 ^ s) + den) :
    ⌊(⟨if negative then -q else q, s⟩ : Decimal).toRat⌋ =
      ⌊((if negative then -(num : Int) else num : Int) : ℚ) / ((den : Int) : ℚ)⌋ := by
  have hscale : (0 : Int) < 10 ^ s := by positivity
  have hden : (0 : Int) < den := by exact_mod_cast hpos
  have hfine : (den : Int) < 2 * 10 ^ s := by exact_mod_cast hfine
  have hlow : 2 * ((num : Int) * 10 ^ s) ≤ 2 * (q * den) + den := by exact_mod_cast hlow
  have hhigh : 2 * ((q : Int) * den) ≤ 2 * (num * 10 ^ s) + den := by exact_mod_cast hhigh
  have hpower : (10 : ℚ) ^ s = ((10 ^ s : Int) : ℚ) := by norm_cast
  rw [toRat, hpower]
  refine floor_eq_of_forall hden hscale fun k => ?_
  cases negative with
  | false => exact le_rounded_iff hlow hhigh hden hscale hfine
  | true =>
      refine le_rounded_iff ?_ ?_ hden hscale hfine
      · show 2 * (-(num : Int) * 10 ^ s) ≤ 2 * (-(q : Int) * den) + den
        rw [Int.neg_mul, Int.neg_mul]
        omega
      · show 2 * (-(q : Int) * den) ≤ 2 * (-(num : Int) * 10 ^ s) + den
        rw [Int.neg_mul, Int.neg_mul]
        omega

/-- The sign of a quotient goes to the numerator. -/
theorem div_eq_signed (hb : b ≠ 0) :
    ((a : ℚ) / b) =
      ((if (decide (a < 0)) != (decide (b < 0)) then -(a.natAbs : Int) else a.natAbs : Int) : ℚ)
        / ((b.natAbs : Int) : ℚ) := by
  rcases Int.lt_or_gt_of_ne hb with hneg | hpos
  · have hb' : ((b.natAbs : Int) : ℚ) = -b := by
      rw [show (b.natAbs : Int) = -b from by omega]
      push_cast
      rfl
    rw [hb', div_neg, ← neg_div]
    congr 1
    by_cases ha : a < 0
    · have ha' : (a.natAbs : Int) = -a := by omega
      simp [ha, hneg, ha']
    · have ha' : (a.natAbs : Int) = a := by omega
      simp [ha, hneg, ha']
  · have hb' : (b.natAbs : Int) = b := by omega
    have hnot : ¬ b < 0 := by omega
    rw [hb']
    congr 1
    by_cases ha : a < 0
    · have ha' : (a.natAbs : Int) = -a := by omega
      simp [ha, hnot, ha']
    · have ha' : (a.natAbs : Int) = a := by omega
      simp [ha, hnot, ha']

/-- **`div_floor_ofInt`** — the quotient of two integers of documents, rounded to the digits that fit and
then down, is the quotient rounded down. -/
theorem div_floor_ofInt (ha : Json.inIntegerRange a = true) (hb : Json.inIntegerRange b = true)
    (hzero : b ≠ 0) :
    ((ofInt a).div (ofInt b)).map floor = some (ofInt ⌊(a : ℚ) / b⌋) := by
  have hnum := natAbs_lt_of_inIntegerRange ha
  have hden := natAbs_lt_of_inIntegerRange hb
  have hpos : 0 < b.natAbs := Int.natAbs_pos.mpr hzero
  rw [div, isZero_ofInt hzero]
  by_cases haz : a = 0
  · subst haz
    show some (floor (ofInt 0)) = _
    rw [floor_eq, toRat_ofInt]
    simp
  · rw [isZero_ofInt haz]
    have hfits : Binary64.roundHalfEven a.natAbs b.natAbs < coefficientBound := by
      obtain ⟨-, hnearest⟩ := Binary64.roundHalfEven_nearest a.natAbs hpos
      have hle := Nat.le_mul_of_pos_right (Binary64.roundHalfEven a.natAbs b.natAbs) hpos
      unfold coefficientBound
      omega
    obtain ⟨s, -, hquotient, hmore⟩ := quotientFrom_spec (n := maxScale) hfits
    have hfine := den_lt_of_scale hnum hden hpos hmore
    obtain ⟨hlow, hhigh⟩ := Binary64.roundHalfEven_nearest (a.natAbs * 10 ^ s) hpos
    generalize Binary64.roundHalfEven (a.natAbs * 10 ^ s) b.natAbs = q at hquotient hlow hhigh
    have hone : ∀ n : Nat, n * 10 ^ 0 = n := fun n => by rw [pow_zero, Nat.mul_one]
    show Option.map floor ((quotientFrom (a.natAbs * 10 ^ 0) (b.natAbs * 10 ^ 0) maxScale).map _) = _
    rw [hone, hone, hquotient, Option.map_some, Option.map_some, floor_eq, toRat_normalize,
      div_eq_signed hzero]
    exact congrArg (fun n => some (ofInt n)) (floor_signed _ hpos hfine hlow hhigh)

end Decimal

namespace Number

variable {a b : Int}

/-- Where the exact operation has an integer for a result, it is the result. -/
theorem combine_ofInt {exact : Decimal → Decimal → Option Decimal}
    {inexact : Binary64 → Binary64 → Binary64} {n : Int}
    (h : exact (.ofInt a) (.ofInt b) = some (.ofInt n)) :
    combine exact inexact (ofInt a) (ofInt b) = some (ofInt n) := by
  have hexact : (do exact (← (ofInt a).decimal?) (← (ofInt b).decimal?)) = some (.ofInt n) := h
  rw [combine, hexact]
  rfl

theorem add_ofInt (h : (a + b).natAbs < Decimal.coefficientBound) :
    (ofInt a).add (ofInt b) = some (ofInt (a + b)) :=
  combine_ofInt (Decimal.add_ofInt h)

/-- Sums of integers of documents, from one that is there already: fewer than 2^32 of them stay below the
bound of coefficients on the way. -/
theorem foldlM_add {items : List Int} (hitems : ∀ n ∈ items, Json.inIntegerRange n = true)
    {start : Int} (hroom : start.natAbs + items.length * 0xffffffffffffffff <
      Decimal.coefficientBound) :
    (items.map ofInt).foldlM add (ofInt start) = some (ofInt (start + items.sum)) := by
  induction items generalizing start with
  | nil => rw [List.sum_nil, Int.add_zero]; rfl
  | cons n rest ih =>
      obtain ⟨hn, hrest⟩ := List.forall_mem_cons.mp hitems
      have hbound := Decimal.natAbs_lt_of_inIntegerRange hn
      have hsum := Int.natAbs_add_le start n
      rw [List.length_cons, Nat.add_mul] at hroom
      rw [List.map_cons, List.foldlM_cons, add_ofInt (by omega), Option.bind_eq_bind,
        Option.bind_some, ih hrest (by omega), List.sum_cons, Int.add_assoc]

theorem total_ofInt {items : List Int} (hitems : ∀ n ∈ items, Json.inIntegerRange n = true)
    (hlength : items.length < 0x100000000) :
    Builtin.total (items.map ofInt) = some (ofInt items.sum) := by
  have hroom : (0 : Int).natAbs + items.length * 0xffffffffffffffff < Decimal.coefficientBound := by
    unfold Decimal.coefficientBound
    omega
  rw [Builtin.total, foldlM_add hitems hroom, Int.zero_add]

theorem numbers?_map (numbers : List Number) :
    Builtin.numbers? (numbers.map Value.number) = some numbers := by
  induction numbers with
  | nil => rfl
  | cons n rest ih =>
      rw [Builtin.numbers?] at ih ⊢
      rw [List.map_cons, List.mapM_cons, ih]
      rfl

/-- The sum of an array of a document. -/
theorem call_sum (apply : Apply) {items : List Int}
    (hitems : ∀ n ∈ items, Json.inIntegerRange n = true) (hlength : items.length < 0x100000000)
    (c : Context) (p : Progress) :
    Builtin.call apply .sum [.ofJson (.array (items.map Json.ofInt))] c p =
      some (some (.number (ofInt items.sum)), p) := by
  have hvalues : Value.ofJson (.array (items.map Json.ofInt)) =
      .array ((items.map ofInt).map Value.number) := by
    rw [Value.ofJson, Value.ofItems_eq_map, List.map_map, List.map_map]
    refine congrArg Value.array (List.map_congr_left fun n _ => ?_)
    exact Value.ofJson.eq_3 _
  show some (Builtin.value? .sum [_], p) = _
  rw [hvalues, Builtin.value?, numbers?_map, Option.bind_eq_bind, Option.bind_some,
    total_ofInt hitems hlength]
  rfl

/-- **`integer_arithmetic`** — for two integers of a document, the sum and the difference are exact, and
so is the product below 2^96; for a divisor other than zero, the quotient rounded down is that of the
rational numbers, and the remainder is what is left of the quotient rounded towards zero.  The sum of an
array of less than 2^32 integers is their total.  All of these results stand for the integers that they
name, and those in the range of documents are written as such. -/
theorem integer_arithmetic (ha : Json.inIntegerRange a = true) (hb : Json.inIntegerRange b = true) :
    let x := ofNumeral (.integer a)
    let y := ofNumeral (.integer b)
    x.add y = some (ofInt (a + b)) ∧
    x.sub y = some (ofInt (a - b)) ∧
    (|a * b| < 2 ^ 96 → x.mul y = some (ofInt (a * b))) ∧
    (b ≠ 0 → x.divFloor y = some (ofInt ⌊(a : ℚ) / b⌋) ∧
      x.rem y = some (ofInt (a - b * a.tdiv b))) ∧
    (∀ items : List Int, (∀ n ∈ items, Json.inIntegerRange n = true) → items.length < 2 ^ 32 →
      ∀ apply c p, Builtin.call apply .sum [.ofJson (.array (items.map Json.ofInt))] c p =
        some (some (.number (ofInt items.sum)), p)) ∧
    (∀ n : Int, (ofInt n).decimal?.map Decimal.toRat = some (n : ℚ) ∧
      (Json.inIntegerRange n = true →
        (ofInt n).toJson = .number (.integer n) ∧ (ofInt n).toJson.compact = toString n)) := by
  have habs := Decimal.natAbs_lt_of_inIntegerRange ha
  have hbbs := Decimal.natAbs_lt_of_inIntegerRange hb
  intro x y
  refine ⟨?sum, ?difference, ?product, ?quotient, ?total, ?written⟩
  case sum =>
    refine add_ofInt ?_
    unfold Decimal.coefficientBound
    omega
  case difference =>
    refine combine_ofInt (Decimal.sub_ofInt ?_)
    unfold Decimal.coefficientBound
    omega
  case product =>
    intro hproduct
    refine combine_ofInt (Decimal.mul_ofInt ?_)
    rw [Int.abs_eq_natAbs] at hproduct
    unfold Decimal.coefficientBound
    omega
  case quotient =>
    intro hzero
    refine ⟨combine_ofInt ?_, combine_ofInt ?_⟩
    · exact Decimal.div_floor_ofInt ha hb hzero
    · rw [Decimal.rem_ofInt hzero, Int.tmod_def]
  case total =>
    intro items hitems hlength apply c p
    exact call_sum apply hitems (by omega) c p
  case written =>
    intro n
    refine ⟨congrArg some (Decimal.toRat_ofInt n), fun hn => ?_⟩
    have hjson := toJson_ofInt hn
    refine ⟨hjson, ?_⟩
    rw [hjson]
    rfl

/-- The greatest integer and the one below: their quotient is less than one by about a unit of the
twentieth digit, and twice the greatest is no integer of a document any more. -/
theorem integer_arithmetic_near_one :
    let greatest : Int := 0xffffffffffffffff
    let x := ofNumeral (.integer (greatest - 1))
    let y := ofNumeral (.integer greatest)
    x.divFloor y = some (ofInt 0) ∧
    x.rem y = some (ofInt (greatest - 1)) ∧
    x.add y = some (ofInt 0x1fffffffffffffffd) ∧
    Json.inIntegerRange 0x1fffffffffffffffd = false := by
  intro greatest x y
  obtain ⟨hsum, -, -, hquotient, -⟩ :=
    integer_arithmetic (a := greatest - 1) (b := greatest) (by decide) (by decide)
  obtain ⟨hfloor, hrem⟩ := hquotient (by decide)
  have hzero : ⌊((greatest - 1 : Int) : ℚ) / greatest⌋ = 0 := by
    rw [Int.floor_eq_zero_iff, Set.mem_Ico]
    norm_num [greatest]
  rw [hzero] at hfloor
  exact ⟨hfloor, hrem, hsum, by decide⟩

end Number

end JsonQuery
