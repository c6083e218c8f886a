/-
# JsonQuery.Proofs.Schema.Repetition — repeated items are found at any depth.

The items of an array are collected in a hash set, and fingerprints look at values to a limited depth
only.  Values that differ below it have one fingerprint, which costs a comparison; a repetition would be
lost only if equal values had different ones.  They have not, however the entries are ordered, however
the numbers are written and wherever the depth cuts them off.
-/
import JsonQuery.Proofs.Value.Equality
import JsonQuery.Schema.Validate

namespace JsonQuery.Schema

open Number (HasDecimal)
open Value (OfDocument)

/-- **`Repeats items`** — two items at different places are equal as values. -/
def Repeats (items : List Json) : Prop :=
  ∃ (i j : Nat) (hi : i < items.length) (hj : j < items.length),
    i ≠ j ∧ sameJson items[i] items[j] = true

theorem sameJson_comm (a b : Json) : sameJson a b = sameJson b a :=
  Value.same_comm _ _

theorem not_repeats_iff {items : List Json} :
    ¬ Repeats items ↔ items.Pairwise fun earlier later => sameJson later earlier = false := by
  rw [List.pairwise_iff_getElem]
  constructor
  · intro h i j hi hj hlt
    rw [← Bool.not_eq_true]
    intro hsame
    exact h ⟨j, i, hj, hi, hlt.ne', hsame⟩
  · rintro h ⟨i, j, hi, hj, hne, hsame⟩
    rcases Nat.lt_or_gt_of_ne hne with hlt | hlt
    · rw [sameJson_comm, h i j hi hj hlt] at hsame
      cases hsame
    · rw [h j i hj hi hlt] at hsame
      cases hsame

section

variable {items : List Json} (hitems : ∀ item ∈ items, (Value.ofJson item).NumbersIn OfDocument)

include hitems

theorem allDistinct_iff_not_repeats :
    Value.allDistinct (items.map Value.ofJson) = true ↔ ¬ Repeats items := by
  have hnumbers : ∀ v ∈ items.map Value.ofJson, v.NumbersIn OfDocument := by
    rw [List.forall_mem_map]
    exact hitems
  rw [Value.allDistinct_iff Value.marksAgree_ofDocument hnumbers, List.pairwise_map, not_repeats_iff]
  rfl

theorem errors_uniqueItems_of_repeats (check : Check) (location : Location) (h : Repeats items) :
    Keyword.uniqueItems.errors check (.array items) location = [⟨location, .repeatedItems⟩] := by
  have hfound : ¬ Value.allDistinct (items.map Value.ofJson) = true := by
    rw [allDistinct_iff_not_repeats hitems]
    exact not_not_intro h
  exact if_neg hfound

theorem errors_uniqueItems_of_not_repeats (check : Check) (location : Location)
    (h : ¬ Repeats items) : Keyword.uniqueItems.errors check (.array items) location = [] :=
  if_pos ((allDistinct_iff_not_repeats hitems).mpr h)

end

/-- **`fingerprints_find_repetitions`** — equal values have equal fingerprints at every depth, as far as
their numbers have decimal forms.  So an array of a document has an error for repeated items exactly if
two of them are equal, however long it is and however deep they are nested. -/
theorem fingerprints_find_repetitions :
    (∀ v w : Value, v.NumbersIn HasDecimal → w.NumbersIn HasDecimal → v.same w = true →
      ∀ depth, v.fingerprint depth = w.fingerprint depth) ∧
    ∀ (check : Check) (location : Location) (items : List Json),
      (∀ item ∈ items, (Value.ofJson item).NumbersIn OfDocument) →
      (Repeats items →
        Keyword.uniqueItems.errors check (.array items) location = [⟨location, .repeatedItems⟩]) ∧
      (¬ Repeats items → Keyword.uniqueItems.errors check (.array items) location = []) := by
  refine ⟨?fingerprints, ?items⟩
  case fingerprints =>
    intro v w hv hw hsame depth
    have hmarks : Value.MarksAgree HasDecimal := by
      intro a b ha hb
      exact (Number.numberMark_eq_iff_of_decimal ha hb).mpr
    exact Value.fingerprint_eq_of_same hmarks hv hw hsame depth
  case items =>
    intro check location items hitems
    exact ⟨errors_uniqueItems_of_repeats hitems check location,
      errors_uniqueItems_of_not_repeats hitems check location⟩

/-- An integer and a binary number that are equal, far below the depth of fingerprints. -/
theorem fingerprints_find_repetitions_deep :
    let buried (n : Json.Numeral) : Json := (fun json => .array [json])^[70] (.number n)
    let one := buried (.integer 1)
    let other := buried (.float (.finite false 0x10000000000000 (-52)))
    (Value.ofJson one).NumbersIn HasDecimal ∧ (Value.ofJson other).NumbersIn HasDecimal ∧
    (Value.ofJson one).fingerprint 80 = (Value.ofJson other).fingerprint 80 ∧
    (∀ item ∈ [one, .null, other], (Value.ofJson item).NumbersIn OfDocument) ∧
    Keyword.uniqueItems.errors (fun _ _ _ => []) (.array [one, .null, other]) []
      = [⟨[], .repeatedItems⟩] := by
  intro buried one other
  have hburied : ∀ (P : Number → Prop) (n : Json.Numeral), P (.ofNumeral n) →
      (Value.ofJson (buried n)).NumbersIn P := by
    intro P n h
    show (Value.ofJson ((fun json => .array [json])^[70] (.number n))).NumbersIn P
    generalize 70 = levels
    induction levels with
    | zero => exact .number h
    | succ levels ih =>
        rw [Function.iterate_succ_apply', Value.ofJson, Value.ofItems_eq_map, Value.numbersIn_array]
        simpa using ih
  have hone : (Value.ofJson one).NumbersIn HasDecimal := hburied HasDecimal _ rfl
  have hother : (Value.ofJson other).NumbersIn HasDecimal := hburied HasDecimal _ rfl
  have hsame : sameJson one other = true := by decide +kernel
  have hitems : ∀ item ∈ [one, .null, other], (Value.ofJson item).NumbersIn OfDocument := by
    intro item hitem
    simp only [List.mem_cons, List.not_mem_nil, or_false] at hitem
    rcases hitem with rfl | rfl | rfl
    · exact hburied OfDocument _ ⟨_, by decide, rfl⟩
    · exact .null
    · exact hburied OfDocument _ ⟨_, by decide, rfl⟩
  have hfingerprints := fingerprints_find_repetitions.1 _ _ hone hother hsame 80
  have herrors := (fingerprints_find_repetitions.2 (fun _ _ _ => []) [] _ hitems).1
    ⟨0, 2, by decide, by decide, by decide, hsame⟩
  exact ⟨hone, hother, hfingerprints, hitems, herrors⟩

end JsonQuery.Schema
