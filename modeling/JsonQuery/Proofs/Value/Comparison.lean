/-
# JsonQuery.Proofs.Value.Comparison — comparison of values is a linear order of each kind.

Only strings and numbers are ordered, and never one with the other.  Every string has a place among the
lists of code units, and every number with a decimal form a place among the rational numbers; comparison
is the order of the places, and equality means the same place.  So everything that is known of linear
orders holds of comparison, and of the operators that rest on it.  Binary numbers without a decimal form
are left out: they are compared after rounding, and not even equality is transitive there.
-/
import JsonQuery.Proofs.Text.Utf16
import JsonQuery.Proofs.Value.Equality
import JsonQuery.Value.Operation
import Mathlib.Data.Sum.Order

namespace JsonQuery

/-! ## Places -/

/-- The rational number that the decimal form stands for, zero if there is none. -/
def Number.toRat (n : Number) : ℚ := (n.decimal?.map Decimal.toRat).getD 0

namespace Value

open Number (HasDecimal)

/-- **`v.Ordered w`** — two values of one ordered kind: strings, or numbers with a decimal form. -/
inductive Ordered : Value → Value → Prop where
  | strings (s t : String) : Ordered (.string s) (.string t)
  | numbers {m n : Number} : m.HasDecimal → n.HasDecimal → Ordered (.number m) (.number n)

/-- The place of a value in the order of its kind, strings before numbers. -/
def place : Value → List ℕ ⊕ₗ ℚ
  | .string s => Sum.inlₗ (Text.utf16 s)
  | .number n => Sum.inrₗ n.toRat
  | _ => Sum.inrₗ 0

variable {u v w : Value}

theorem Ordered.symm (h : v.Ordered w) : w.Ordered v := by
  cases h with
  | strings s t => exact .strings t s
  | numbers hm hn => exact .numbers hn hm

theorem Ordered.trans (huv : u.Ordered v) (hvw : v.Ordered w) : u.Ordered w := by
  cases huv with
  | strings s t =>
      cases hvw
      exact .strings s _
  | numbers hm hn =>
      cases hvw with
      | numbers _ hk => exact .numbers hm hk

/-- **`Ordered.compare_eq`** — values of one ordered kind are compared as their places are. -/
theorem Ordered.compare_eq (h : v.Ordered w) : v.compare w = some (cmp v.place w.place) := by
  cases h with
  | strings s t =>
      have hunits := Text.compareUnits_compares (Text.utf16 s) (Text.utf16 t)
      have hmono : StrictMono fun units => (Sum.inlₗ units : List ℕ ⊕ₗ ℚ) := Sum.Lex.inl_strictMono
      exact congrArg some ((hmono.compares.mpr hunits).inj (cmp_compares _ _))
  | @numbers m n hm hn =>
      obtain ⟨x, hx⟩ := Option.isSome_iff_exists.mp hm
      obtain ⟨y, hy⟩ := Option.isSome_iff_exists.mp hn
      have hcompare : (Value.number m).compare (.number n) = some (x.compare y) := by
        simp only [Value.compare, Number.compare, hx, hy]
      have hplaces : (Value.number m).place = Sum.inrₗ x.toRat ∧
          (Value.number n).place = Sum.inrₗ y.toRat := by
        simp only [place, Number.toRat, hx, hy, Option.map_some, Option.getD_some, and_self]
      rw [hcompare, hplaces.1, hplaces.2, Decimal.compare_eq_cmp]
      have hmono : StrictMono fun q => (Sum.inrₗ q : List ℕ ⊕ₗ ℚ) := Sum.Lex.inr_strictMono
      exact congrArg some (hmono.cmp_map_eq x.toRat y.toRat).symm

/-- Values of one ordered kind are equal if comparison finds no difference. -/
theorem Ordered.same_iff (h : v.Ordered w) : v.same w = true ↔ v.compare w = some .eq := by
  cases h with
  | strings s t =>
      have hsame : (Value.string s).same (.string t) = (s == t) := by simp [same, sorted, agrees]
      have hplace : (Value.string s).place = (Value.string t).place ↔ s = t :=
        ⟨fun h => Text.utf16_injective (Sum.inl_injective (toLex.injective h)), fun h => h ▸ rfl⟩
      rw [hsame, beq_iff_eq, (Ordered.strings s t).compare_eq, Option.some.injEq, cmp_eq_eq_iff,
        hplace]
  | @numbers m n hm hn =>
      have hsame : (Value.number m).same (.number n) = m.same n := by simp [same, sorted, agrees]
      rw [hsame, Number.same, beq_iff_eq, Value.compare]

/-! ## Operators -/

/-- What the operators make of a comparison; an operator that takes in equality is the negation of the
opposite one. -/
theorem apply_of_compare {o : Ordering} (h : v.compare w = some o) :
    BinaryOperator.apply .lessThan v w = some (.bool (o == .lt)) ∧
    BinaryOperator.apply .greaterThan v w = some (.bool (o == .gt)) ∧
    BinaryOperator.apply .lessEqual v w = some (.bool (!(o == .gt))) ∧
    BinaryOperator.apply .greaterEqual v w = some (.bool (!(o == .lt))) := by
  simp only [BinaryOperator.apply, BinaryOperator.compareValues, h]
  exact ⟨rfl, rfl, rfl, rfl⟩

/-- Exactly one of the operators accepts a comparison that tells whether the values are equal. -/
theorem existsUnique_apply {o : Ordering} (h : v.compare w = some o)
    (hequal : o = .eq ↔ v.same w = true) :
    ∃! op : BinaryOperator, op ∈ [.lessThan, .equal, .greaterThan] ∧
      op.apply v w = some (.bool true) := by
  obtain ⟨hless, hgreater, -, -⟩ := apply_of_compare h
  have hsame : BinaryOperator.apply .equal v w = some (.bool (o == .eq)) := by
    rw [BinaryOperator.apply, Bool.eq_iff_iff.mpr (hequal.symm.trans beq_iff_eq.symm)]
  have hunique : ∀ op : BinaryOperator, op ∈ [.lessThan, .equal, .greaterThan] ∧
      op.apply v w = some (.bool true) →
        op = match o with | .lt => .lessThan | .eq => .equal | .gt => .greaterThan := by
    rintro op ⟨hop, happly⟩
    simp only [List.mem_cons, List.not_mem_nil, or_false] at hop
    rcases hop with rfl | rfl | rfl
    · rw [hless] at happly
      cases o <;> cases happly
      rfl
    · rw [hsame] at happly
      cases o <;> cases happly
      rfl
    · rw [hgreater] at happly
      cases o <;> cases happly
      rfl
  refine ⟨_, ⟨?_, ?_⟩, hunique⟩
  · cases o <;> simp
  · cases o with
    | lt => exact hless
    | eq => exact hsame
    | gt => exact hgreater

/-! ## The order -/

/-- **`compare_linear`** — comparison of strings, and of numbers with a decimal form, is a linear order
up to equality: it always answers, the opposite way round when the values are exchanged; it finds no
difference exactly between equal values; and it is transitive.  So exactly one of `<`, `==` and `>`
holds of two such values, and `<=` and `>=` are the negations of `>` and `<`. -/
theorem compare_linear :
    (∀ v w : Value, v.Ordered w → ∃ o, v.compare w = some o ∧ w.compare v = some o.swap ∧
      (o = .eq ↔ v.same w = true)) ∧
    (∀ u v w : Value, u.Ordered v → v.Ordered w →
      u.compare v ≠ some .gt → v.compare w ≠ some .gt → u.compare w ≠ some .gt) ∧
    (∀ v w : Value, v.Ordered w →
      (∃! op : BinaryOperator, op ∈ [.lessThan, .equal, .greaterThan] ∧
        op.apply v w = some (.bool true)) ∧
      ∃ below above : Bool,
        BinaryOperator.apply .lessThan v w = some (.bool below) ∧
        BinaryOperator.apply .greaterThan v w = some (.bool above) ∧
        BinaryOperator.apply .lessEqual v w = some (.bool (!above)) ∧
        BinaryOperator.apply .greaterEqual v w = some (.bool (!below))) := by
  have hequal : ∀ {v w : Value}, v.Ordered w →
      (cmp v.place w.place = .eq ↔ v.same w = true) := by
    intro v w h
    rw [h.same_iff, h.compare_eq, Option.some.injEq]
  refine ⟨?answers, ?transitive, ?operators⟩
  case answers =>
    intro v w h
    refine ⟨_, h.compare_eq, ?_, hequal h⟩
    rw [cmp_swap]
    exact h.symm.compare_eq
  case transitive =>
    intro u v w huv hvw hleft hright
    rw [huv.compare_eq, ne_eq, Option.some.injEq, cmp_eq_gt_iff, not_lt] at hleft
    rw [hvw.compare_eq, ne_eq, Option.some.injEq, cmp_eq_gt_iff, not_lt] at hright
    rw [(huv.trans hvw).compare_eq, ne_eq, Option.some.injEq, cmp_eq_gt_iff, not_lt]
    exact hleft.trans hright
  case operators =>
    intro v w h
    exact ⟨existsUnique_apply h.compare_eq (hequal h), cmp v.place w.place == .lt,
      cmp v.place w.place == .gt, apply_of_compare h.compare_eq⟩

/-- A decimal, a binary number and an integer, and two strings that code points would order the other
way. -/
theorem compare_linear_mixed :
    let most : Value := .number (.decimal ⟨99, 2⟩)
    let one : Value := .number (.float (.finite false 0x10000000000000 (-52)))
    let two : Value := .number (.ofInt 2)
    (most.Ordered one ∧ one.Ordered two ∧ most.compare one ≠ some .gt ∧ one.compare two ≠ some .gt ∧
      most.compare two ≠ some .gt) ∧
    (Value.string "\uff61").Ordered (.string "😀") ∧
    (Value.string "\uff61").compare (.string "😀") = some .gt ∧
    ∃ o, (Value.string "\uff61").compare (.string "😀") = some o ∧
      (Value.string "😀").compare (.string "\uff61") = some o.swap ∧
      (o = .eq ↔ (Value.string "\uff61").same (.string "😀") = true) := by
  intro most one two
  have hmost : most.Ordered one := .numbers rfl rfl
  have hone : one.Ordered two := .numbers rfl rfl
  have hstrings : (Value.string "\uff61").Ordered (.string "😀") := .strings _ _
  have hleft : most.compare one ≠ some .gt := by decide
  have hright : one.compare two ≠ some .gt := by decide
  exact ⟨⟨hmost, hone, hleft, hright, compare_linear.2.1 _ _ _ hmost hone hleft hright⟩, hstrings,
    by decide, compare_linear.1 _ _ hstrings⟩

end Value

end JsonQuery
