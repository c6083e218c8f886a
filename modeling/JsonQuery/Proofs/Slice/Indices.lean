/-
# JsonQuery.Proofs.Slice.Indices — the places that a slice goes through.

A slice goes from its start in steps of equal size and stops before its end.  Its bounds have been
clamped before, so that no place is in front of the sequence: a slice that runs forward starts at
the first element or behind it, one that runs backward stops at the latest in front of the first.

What a slice of a sequence selects is said by Python in two steps.  Its bounds are resolved against the
length: a negative bound counts from the end once, and what is still outside goes to the nearest limit,
where the limits of a slice that runs backward are one place further down.  The resolved bounds and the
step then span a half-open range, whose element `k` is `start + step * k` as long as it has not reached
the stop.

`Slice.indices` counts the elements of this range first and works with integers of any size.  The other
reading is a loop over 64-bit integers that adds the step until it comes to the stop.  `Walk` is that
loop with every addition checked; it selects the same places, and the only sum that may fail to fit is
one that would have been behind the last place.
-/
import JsonQuery.Slice
import Mathlib.Data.List.Nodup

namespace JsonQuery.Slice

variable {s : Slice} {len k : Nat}

/-! ## Bounds -/

theorem clampForward_nonneg (len : Nat) (i : Int) : 0 ≤ clampForward len i := by
  unfold clampForward
  split <;> omega

theorem neg_one_le_clampBackward (len : Nat) (i : Int) : -1 ≤ clampBackward len i := by
  unfold clampBackward
  split <;> omega

/-- A slice that runs forward starts at an element. -/
theorem start_nonneg (hstep : 0 < s.step) : 0 ≤ (s.bounds len).1 := by
  rw [bounds, if_pos hstep]
  cases s.start with
  | none => exact Int.le_refl 0
  | some i => exact clampForward_nonneg len i

/-- A slice that runs backward does not stop further down than in front of the first element. -/
theorem neg_one_le_stop (hstep : ¬ 0 < s.step) : -1 ≤ (s.bounds len).2 := by
  rw [bounds, if_neg hstep]
  cases s.stop with
  | none => exact Int.le_refl (-1)
  | some i => exact neg_one_le_clampBackward len i

/-! ## Places -/

/-- The place of a slice after so many steps. -/
def place (s : Slice) (len k : Nat) : Int := (s.bounds len).1 + k * s.step

/-- How many places a slice goes through. -/
def places (s : Slice) (len : Nat) : Nat := count (s.bounds len).1 (s.bounds len).2 s.step

theorem indices_eq (s : Slice) (len : Nat) :
    s.indices len = (List.range (s.places len)).map fun k => (s.place len k).toNat := rfl

/-- A step of zero leads nowhere. -/
theorem places_of_zero (hstep : s.step = 0) : s.places len = 0 := by
  rw [places, count, hstep, if_neg (Int.lt_irrefl 0), Int.neg_zero, Int.ediv_zero]
  rfl

/-- Running backward, a slice is still behind its stop. -/
theorem stop_lt_place (hstep : s.step < 0) (hk : k < s.places len) :
    (s.bounds len).2 < s.place len k := by
  rw [places, count, if_neg (by omega), Int.lt_toNat] at hk
  have hroom : ((k : Int) + 1) * -s.step ≤ (s.bounds len).1 - (s.bounds len).2 - s.step - 1 :=
    Int.le_trans (Int.mul_le_mul_of_nonneg_right hk (by omega)) (Int.ediv_mul_le _ (by omega))
  rw [Int.add_mul, Int.one_mul, Int.mul_neg] at hroom
  rw [place]
  omega

/-- No place is in front of the sequence. -/
theorem place_nonneg (hk : k < s.places len) : 0 ≤ s.place len k := by
  rcases Int.lt_trichotomy s.step 0 with hback | hzero | hforward
  · have hstop : -1 ≤ (s.bounds len).2 := neg_one_le_stop (by omega)
    have hbehind : (s.bounds len).2 < s.place len k := stop_lt_place hback hk
    omega
  · rw [places_of_zero hzero] at hk
    exact absurd hk (Nat.not_lt_zero k)
  · exact Int.add_nonneg (start_nonneg hforward)
      (Int.mul_nonneg (Int.natCast_nonneg k) (Int.le_of_lt hforward))

/-- **`nodup_indices`** — a slice comes by no place twice. -/
theorem nodup_indices (s : Slice) (len : Nat) : (s.indices len).Nodup := by
  rw [indices_eq]
  refine List.Nodup.map_on (fun j hj k hk hsame => ?_) List.nodup_range
  rw [List.mem_range] at hj hk
  have hplace : s.place len j = s.place len k := by
    have hjPlace := place_nonneg hj
    have hkPlace := place_nonneg hk
    omega
  by_cases hstep : s.step = 0
  · rw [places_of_zero hstep] at hj
    exact absurd hj (Nat.not_lt_zero j)
  · have hsteps : (j : Int) * s.step = k * s.step := Int.add_left_cancel hplace
    exact Int.ofNat.inj (Int.eq_of_mul_eq_mul_right hstep hsteps)

/-! ## The range of a slice -/

/-- A bound that is written: from the end if it is negative, and inside the limits. -/
def resolveBound (len lower upper i : Int) : Int :=
  if i < 0 then max (i + len) lower else min i upper

/-- The limits of bounds: a slice that runs backward may stop in front of the first element. -/
def limits (s : Slice) (len : Int) : Int × Int :=
  if s.step < 0 then (-1, len - 1) else (0, len)

/-- Where the range starts: at a written bound, or else at the end that the step leads away from. -/
def rangeStart (s : Slice) (len : Int) : Int :=
  let (lower, upper) := s.limits len
  match s.start with
  | some i => resolveBound len lower upper i
  | none => if s.step < 0 then upper else lower

/-- Where the range stops: at a written bound, or else at the end that the step leads to. -/
def rangeStop (s : Slice) (len : Int) : Int :=
  let (lower, upper) := s.limits len
  match s.stop with
  | some i => resolveBound len lower upper i
  | none => if s.step < 0 then lower else upper

/-- **`Before step stop i`** — a range with this step has not reached its stop at `i`. -/
def Before (step stop i : Int) : Prop := 0 < step ∧ i < stop ∨ step < 0 ∧ stop < i

instance (step stop i : Int) : Decidable (Before step stop i) :=
  inferInstanceAs (Decidable (_ ∨ _))

/-- **`RangeAt start stop step k v`** — `v` is element `k` of the range. -/
def RangeAt (start stop step : Int) (k : Nat) (v : Int) : Prop :=
  v = start + step * k ∧ Before step stop v

/-! ## The same in 64 bits -/

/-- The integers of 64 bits with a sign. -/
def fitsWord (n : Int) : Bool := -0x8000000000000000 ≤ n && n < 0x8000000000000000

/-- A sum that fits. -/
def checkedAdd (a b : Int) : Option Int := if fitsWord (a + b) then some (a + b) else none

/-- A written bound, with its addition checked. -/
def checkedBound (len lower upper i : Int) : Option Int :=
  if i < 0 then (checkedAdd i len).map (max · lower) else some (min i upper)

/-- The bounds of a slice, with all additions checked; a sum that does not fit leaves none. -/
def checkedBounds (s : Slice) (len : Int) : Option (Int × Int) :=
  if 0 < s.step then do
    let start ← s.start.elim (some 0) (checkedBound len 0 len)
    let stop ← s.stop.elim (some len) (checkedBound len 0 len)
    return (start, stop)
  else do
    let last ← checkedAdd len (-1)
    let start ← s.start.elim (some last) (checkedBound len (-1) last)
    let stop ← s.stop.elim (some (-1)) (checkedBound len (-1) last)
    return (start, stop)

/-- **`Walk step stop i places`** — the loop that starts at `i` ends and has come by `places`.  It ends at
the stop, and where the next sum does not fit. -/
inductive Walk (step stop : Int) : Int → List Int → Prop where
  | done {i : Int} : ¬ Before step stop i → Walk step stop i []
  | last {i : Int} : Before step stop i → checkedAdd i step = none → Walk step stop i [i]
  | next {i j : Int} {places : List Int} : Before step stop i → checkedAdd i step = some j →
      Walk step stop j places → Walk step stop i (i :: places)

/-- The loop has one course. -/
theorem Walk.unique {step stop i : Int} {places others : List Int} (h : Walk step stop i places)
    (h' : Walk step stop i others) : places = others := by
  induction h generalizing others with
  | done hend =>
      cases h' with
      | done => rfl
      | last hbefore => exact absurd hbefore hend
      | next hbefore => exact absurd hbefore hend
  | last hbefore hsum =>
      cases h' with
      | done hend => exact absurd hbefore hend
      | last => rfl
      | next _ hsum' => rw [hsum] at hsum'; cases hsum'
  | next hbefore hsum _ ih =>
      cases h' with
      | done hend => exact absurd hbefore hend
      | last _ hsum' => rw [hsum] at hsum'; cases hsum'
      | next _ hsum' hrest =>
          rw [hsum] at hsum'
          obtain rfl := Option.some.inj hsum'
          rw [ih hrest]

/-! ## Bounds -/

theorem checkedAdd_eq {a b : Int} (h : fitsWord (a + b) = true) : checkedAdd a b = some (a + b) :=
  if_pos h

theorem fitsWord_iff {n : Int} :
    fitsWord n = true ↔ -0x8000000000000000 ≤ n ∧ n < 0x8000000000000000 := by
  simp [fitsWord]

/-- The bounds that `indices` works with are those of the range. -/
theorem bounds_eq (hstep : s.step ≠ 0) : s.bounds len = (s.rangeStart len, s.rangeStop len) := by
  rcases Int.lt_or_gt_of_ne hstep with hback | hforward
  · have hnot : ¬ 0 < s.step := by omega
    rw [bounds, if_neg hnot]
    unfold rangeStart rangeStop limits
    cases s.start <;> cases s.stop <;> simp [hback, resolveBound, clampBackward]
  · have hnot : ¬ s.step < 0 := by omega
    rw [bounds, if_pos hforward]
    unfold rangeStart rangeStop limits
    cases s.start <;> cases s.stop <;> simp [hnot, resolveBound, clampForward]

/-- A negative number and a length have a sum that fits. -/
theorem checkedBound_eq {lower upper i : Int} (hi : fitsWord i = true)
    (hlen : len < 0x8000000000000000) :
    checkedBound len lower upper i = some (resolveBound len lower upper i) := by
  rw [fitsWord_iff] at hi
  unfold checkedBound resolveBound
  by_cases hneg : i < 0
  · have hsum : fitsWord (i + len) = true := by
      rw [fitsWord_iff]
      omega
    rw [if_pos hneg, if_pos hneg, checkedAdd_eq hsum]
    rfl
  · rw [if_neg hneg, if_neg hneg]

/-- No addition that resolves the bounds fails to fit. -/
theorem checkedBounds_eq (hstart : ∀ i ∈ s.start, fitsWord i = true)
    (hstop : ∀ i ∈ s.stop, fitsWord i = true) (hstep : s.step ≠ 0)
    (hlen : len < 0x8000000000000000) :
    s.checkedBounds len = some (s.rangeStart len, s.rangeStop len) := by
  have hwritten : ∀ {bound : Option Int} {default lower upper : Int},
      (∀ i ∈ bound, fitsWord i = true) →
      bound.elim (some default) (checkedBound len lower upper) =
        some (bound.elim default (resolveBound len lower upper)) := by
    intro bound default lower upper hbound
    cases bound with
    | none => rfl
    | some i => exact checkedBound_eq (hbound i rfl) hlen
  rcases Int.lt_or_gt_of_ne hstep with hback | hforward
  · have hnot : ¬ 0 < s.step := by omega
    have hlast : checkedAdd (len : Int) (-1) = some ((len : Int) - 1) := by
      refine checkedAdd_eq ?_
      rw [fitsWord_iff]
      omega
    rw [checkedBounds, if_neg hnot, hlast, Option.bind_eq_bind, Option.bind_some, hwritten hstart,
      hwritten hstop]
    unfold rangeStart rangeStop limits
    rw [if_pos hback]
    cases s.start <;> cases s.stop <;> simp [hback]
  · have hnot : ¬ s.step < 0 := by omega
    rw [checkedBounds, if_pos hforward, hwritten hstart, hwritten hstop]
    unfold rangeStart rangeStop limits
    rw [if_neg hnot]
    cases s.start <;> cases s.stop <;> simp [hnot]

/-! ## Places -/

/-- As many places are counted as are in front of the stop. -/
theorem lt_places_iff (hstep : s.step ≠ 0) :
    k < s.places len ↔ Before s.step (s.bounds len).2 (s.place len k) := by
  unfold places count place Before
  rcases Int.lt_or_gt_of_ne hstep with hback | hforward
  · rw [if_neg (by omega), Int.lt_toNat, Int.lt_iff_add_one_le, Int.le_ediv_iff_mul_le (by omega),
      Int.add_mul, Int.mul_neg]
    omega
  · rw [if_pos hforward, Int.lt_toNat, Int.lt_iff_add_one_le, Int.le_ediv_iff_mul_le hforward,
      Int.add_mul]
    omega

/-- A range stays between its limits, so that no place is behind the sequence. -/
theorem place_lt (hk : k < s.places len) : s.place len k < len := by
  have hstep : s.step ≠ 0 := by
    intro hzero
    rw [places_of_zero hzero] at hk
    exact Nat.not_lt_zero k hk
  rcases (lt_places_iff hstep).mp hk with ⟨hforward, hbefore⟩ | ⟨hback, -⟩
  · -- Running forward, the stop is at most the length.
    have hstop : (s.bounds len).2 ≤ len := by
      rw [bounds, if_pos hforward]
      cases s.stop with
      | none => exact Int.le_refl _
      | some i =>
          show clampForward len i ≤ len
          unfold clampForward
          split <;> omega
    omega
  · -- Running backward, no place is above the start, which is at most the last element.
    have hstart : (s.bounds len).1 ≤ len - 1 := by
      rw [bounds, if_neg (by omega)]
      cases s.start with
      | none => exact Int.le_refl _
      | some i =>
          show clampBackward len i ≤ len - 1
          unfold clampBackward
          split <;> omega
    have hdown : (k : Int) * s.step ≤ 0 :=
      Int.mul_nonpos_of_nonneg_of_nonpos (Int.natCast_nonneg k) (by omega)
    show (s.bounds len).1 + k * s.step < len
    omega

theorem map_indices (s : Slice) (len : Nat) :
    (s.indices len).map (fun i : Nat => (i : Int)) = (List.range (s.places len)).map (s.place len) := by
  rw [indices_eq, List.map_map]
  refine List.map_congr_left fun k hk => ?_
  exact Int.toNat_of_nonneg (place_nonneg (List.mem_range.mp hk))

/-- The element at a place of the selection is the one of the range. -/
theorem getElem?_indices (hstep : s.step ≠ 0) (k : Nat) (v : Int) :
    ((s.indices len).map fun i : Nat => (i : Int))[k]? = some v ↔
      RangeAt (s.rangeStart len) (s.rangeStop len) s.step k v := by
  have hplace : s.place len k = s.rangeStart len + s.step * k := by
    rw [place, bounds_eq hstep, Int.mul_comm]
  have hcount : k < s.places len ↔ Before s.step (s.rangeStop len) (s.place len k) := by
    rw [lt_places_iff hstep, bounds_eq hstep]
  rw [map_indices, List.getElem?_map, Option.map_eq_some_iff, RangeAt, ← hplace]
  constructor
  · rintro ⟨j, hj, hv⟩
    obtain ⟨hlt, rfl⟩ := List.getElem?_eq_some_iff.mp hj
    rw [List.length_range] at hlt
    rw [List.getElem_range] at hv
    exact ⟨hv.symm, hv ▸ hcount.mp hlt⟩
  · rintro ⟨hv, hbefore⟩
    rw [hv] at hbefore
    exact ⟨k, List.getElem?_range (hcount.mpr hbefore), hv.symm⟩

/-! ## Order -/

/-- Places follow one another in the direction of the step. -/
theorem place_lt_place (hstep : 0 < s.step) {j : Nat} (hjk : j < k) :
    s.place len j < s.place len k := by
  have hmul : (j : Int) * s.step < k * s.step := Int.mul_lt_mul_of_pos_right (by omega) hstep
  unfold place
  omega

theorem place_gt_place (hstep : s.step < 0) {j : Nat} (hjk : j < k) :
    s.place len k < s.place len j := by
  have hmul : (k : Int) * s.step < j * s.step := Int.mul_lt_mul_of_neg_right (by omega) hstep
  unfold place
  omega

/-- A relation of places that follow one another holds throughout the selection. -/
theorem pairwise_indices {R : Int → Int → Prop}
    (h : ∀ j k, j < k → R (s.place len j) (s.place len k)) :
    (s.indices len).Pairwise fun i j : Nat => R i j := by
  rw [← List.pairwise_map (f := fun i : Nat => (i : Int)), map_indices, List.pairwise_map]
  exact List.pairwise_lt_range.imp fun hlt => h _ _ hlt

/-! ## The loop -/

/-- From place `k` on, the loop comes by all places that are left.  A sum that does not fit cannot be
one of them, because these are indices of a sequence. -/
theorem walk_place (hstep : s.step ≠ 0) (hlen : len < 0x8000000000000000) {left : Nat}
    (hleft : k + left = s.places len) :
    Walk s.step (s.bounds len).2 (s.place len k) ((List.range' k left).map (s.place len)) := by
  have hsum : s.place len k + s.step = s.place len (k + 1) := by
    unfold place
    rw [Int.natCast_add, Int.add_mul]
    omega
  induction left generalizing k with
  | zero =>
      refine .done fun hbefore => ?_
      have hk := (lt_places_iff hstep).mpr hbefore
      omega
  | succ left ih =>
      have hbefore : Before s.step (s.bounds len).2 (s.place len k) :=
        (lt_places_iff hstep).mp (by omega)
      rw [List.range'_succ, List.map_cons]
      by_cases hfits : fitsWord (s.place len (k + 1)) = true
      · have hadd : checkedAdd (s.place len k) s.step = some (s.place len (k + 1)) := by
          rw [checkedAdd, hsum, if_pos hfits]
        refine .next hbefore hadd (ih (by omega) ?_)
        unfold place
        rw [Int.natCast_add (k + 1) 1, Int.add_mul]
        omega
      · have hadd : checkedAdd (s.place len k) s.step = none := by
          rw [checkedAdd, hsum, if_neg hfits]
        have hnone : left = 0 := by
          by_contra hmore
          have hk : k + 1 < s.places len := by omega
          have hlow := place_nonneg hk
          have hhigh := place_lt hk
          exact hfits (fitsWord_iff.mpr (by omega))
        subst hnone
        exact .last hbefore hadd

/-- **`indices_eq_range`** — a slice with 64-bit bounds and any step that is not zero selects from a
sequence of less than 2^63 elements the elements of its range, in their order.  All of them are places of
the sequence; they ascend if the step is positive and descend if it is negative.  In 64 bits, no addition
that resolves the bounds fails to fit, and the loop over the places ends having come by just these. -/
theorem indices_eq_range (s : Slice) (len : Nat) (hstart : ∀ i ∈ s.start, fitsWord i = true)
    (hstop : ∀ i ∈ s.stop, fitsWord i = true) (hstep : s.step ≠ 0)
    (hlen : len < 0x8000000000000000) :
    (∀ (k : Nat) (v : Int), ((s.indices len).map fun i : Nat => (i : Int))[k]? = some v ↔
      RangeAt (s.rangeStart len) (s.rangeStop len) s.step k v) ∧
    (∀ i ∈ s.indices len, i < len) ∧
    (0 < s.step → (s.indices len).Pairwise (· < ·)) ∧
    (s.step < 0 → (s.indices len).Pairwise (· > ·)) ∧
    (∃ start stop, s.checkedBounds len = some (start, stop) ∧
      ∀ places : List Int, Walk s.step stop start places ↔
        places = (s.indices len).map fun i : Nat => (i : Int)) := by
  refine ⟨getElem?_indices hstep, ?inside, ?ascending, ?descending, ?loop⟩
  case inside =>
    intro i hi
    rw [indices_eq] at hi
    obtain ⟨k, hk, rfl⟩ := List.mem_map.mp hi
    have hlow := place_nonneg (List.mem_range.mp hk)
    have hhigh := place_lt (List.mem_range.mp hk)
    omega
  case ascending =>
    intro hforward
    have hpairs : (s.indices len).Pairwise fun i j : Nat => (i : Int) < j :=
      pairwise_indices fun j k => place_lt_place hforward
    exact hpairs.imp Int.ofNat_lt.mp
  case descending =>
    intro hback
    have hpairs : (s.indices len).Pairwise fun i j : Nat => (j : Int) < i :=
      pairwise_indices (R := (· > ·)) fun j k => place_gt_place hback
    exact hpairs.imp Int.ofNat_lt.mp
  case loop =>
    have hwalk := walk_place (k := 0) hstep hlen (Nat.zero_add _)
    have hfirst : s.place len 0 = s.rangeStart len := by
      rw [place, bounds_eq hstep]
      omega
    rw [hfirst, ← List.range_eq_range', ← map_indices, bounds_eq hstep] at hwalk
    refine ⟨_, _, checkedBounds_eq hstart hstop hstep hlen, fun places => ⟨?_, ?_⟩⟩
    · intro h
      exact h.unique hwalk
    · rintro rfl
      exact hwalk

/-- From the second element on with the greatest step: the sum with the first place does not fit. -/
theorem indices_eq_range_overflow :
    let s : Slice := ⟨some (-2), none, 0x7fffffffffffffff⟩
    s.indices 3 = [1] ∧ checkedAdd 1 s.step = none ∧
    ∃ start stop, s.checkedBounds 3 = some (start, stop) ∧
      ∀ places : List Int, Walk s.step stop start places ↔ places = [1] := by
  intro s
  obtain ⟨-, -, -, -, hloop⟩ :=
    indices_eq_range s 3 (by decide) (by decide) (by decide) (by decide)
  exact ⟨by decide, by decide, hloop⟩

end JsonQuery.Slice
