/-
# JsonQuery.Proofs.Function.Sorting — what sorting and choosing by keys find.

Keys are computed first, one for each item from left to right, and then compared in pairs with their
items.  Comparison alone decides nothing between items with equal keys, so it is said with the places in
the array what becomes of them: sorting keeps their order, and the best item is the first of the best.
All of this rests on the comparison of keys being a linear order, which it is for keys of one ordered
kind.
-/
import JsonQuery.Proofs.Evaluation.Depth
import JsonQuery.Proofs.Value.Comparison
import Mathlib.Data.List.Induction

namespace JsonQuery

open Evaluation (allOrNone)

/-! ## Keys -/

/-- Every item has one key. -/
theorem Evaluation.length_of_allOrNone {α : Type} {f : α → Evaluation (Option Value)} {xs : List α}
    {values : List Value} {c : Context} {p q : Progress}
    (h : allOrNone f xs c p = some (some values, q)) : values.length = xs.length := by
  induction xs generalizing values p q with
  | nil =>
      cases h
      rfl
  | cons x xs ih =>
      obtain ⟨found, p', -, h⟩ := bind_eq_some.mp h
      cases found with
      | none => cases h
      | some y =>
          obtain ⟨rest, p'', hrest, h⟩ := bind_eq_some.mp h
          cases rest with
          | none => cases h
          | some ys =>
              cases h
              exact congrArg Nat.succ (ih hrest)

namespace Builtin

open Number (HasDecimal)

/-- **`Comparable keys`** — all keys are strings, or all are numbers with a decimal form. -/
def Comparable (keys : List Value) : Prop :=
  (∀ k ∈ keys, ∃ s, k = .string s) ∨ ∀ k ∈ keys, ∃ n : Number, k = .number n ∧ n.HasDecimal

theorem Comparable.ordered {keys : List Value} (h : Comparable keys) {k l : Value} (hk : k ∈ keys)
    (hl : l ∈ keys) : k.Ordered l := by
  rcases h with h | h
  · obtain ⟨s, rfl⟩ := h k hk
    obtain ⟨t, rfl⟩ := h l hl
    exact .strings s t
  · obtain ⟨m, rfl, hm⟩ := h k hk
    obtain ⟨n, rfl, hn⟩ := h l hl
    exact .numbers hm hn

/-- Values can be sorted if they are all of one kind, and that kind is ordered. -/
theorem sortable_iff {values : List Value} : sortable values = true ↔
    (∀ v ∈ values, v.kind = .number ∨ v.kind = .string) ∧
      ∀ v ∈ values, ∀ w ∈ values, v.kind = w.kind := by
  cases values with
  | nil => simp [sortable]
  | cons first rest =>
      simp only [sortable, Bool.and_eq_true, Bool.or_eq_true, beq_iff_eq, List.all_eq_true]
      constructor
      · rintro ⟨hfirst, hrest⟩
        have hall : ∀ v ∈ first :: rest, v.kind = first.kind :=
          List.forall_mem_cons.mpr ⟨rfl, hrest⟩
        exact ⟨fun v hv => hall v hv ▸ hfirst, fun v hv w hw => (hall v hv).trans (hall w hw).symm⟩
      · rintro ⟨hordered, hsame⟩
        exact ⟨hordered first List.mem_cons_self,
          fun v hv => hsame v (List.mem_cons_of_mem _ hv) first List.mem_cons_self⟩

theorem Comparable.subset {keys others : List Value} (h : Comparable keys) (hsub : others ⊆ keys) :
    Comparable others :=
  h.imp (fun h k hk => h k (hsub hk)) (fun h k hk => h k (hsub hk))

theorem Comparable.sortable {keys : List Value} (h : Comparable keys) : sortable keys = true := by
  refine sortable_iff.mpr ⟨?_, ?_⟩
  · intro k hk
    cases h.ordered hk hk with
    | strings => exact .inr rfl
    | numbers => exact .inl rfl
  · intro k hk l hl
    cases h.ordered hk hl <;> rfl

/-! ## Sorting -/

/-- **`Arranges keyed arranged`** — the keyed values with their places, all of them, in the order of
their keys, and those with equal keys in the order of their places. -/
def Arranges (keyed : List (Value × Value)) (arranged : List ((Value × Value) × Nat)) : Prop :=
  arranged.Perm keyed.zipIdx ∧ arranged.Pairwise fun a b =>
    a.1.1.compare b.1.1 = some .lt ∨ a.1.1.compare b.1.1 = some .eq ∧ a.2 < b.2

variable {keyed : List (Value × Value)}

/-- **`exists_stable`** — a merge sort by an order that is total and transitive on what it sorts leaves
nothing before what is below it, and what is equal in the order in which it stood. -/
theorem exists_stable {α : Type} (le : α → α → Bool) (xs : List α)
    (htrans : ∀ a ∈ xs, ∀ b ∈ xs, ∀ c ∈ xs, le a b = true → le b c = true → le a c = true)
    (htotal : ∀ a ∈ xs, ∀ b ∈ xs, (le a b || le b a) = true) :
    ∃ arranged : List (α × Nat), arranged.Perm xs.zipIdx ∧
      (arranged.Pairwise fun a b => le a.1 b.1 = true ∧ (le b.1 a.1 = true → a.2 < b.2)) ∧
      xs.mergeSort le = arranged.map (·.1) := by
  -- The order is one of all elements of the subtype, and that is what is known of merge sorts.
  let own : {x // x ∈ xs} → {x // x ∈ xs} → Bool := fun a b => le a.1 b.1
  let sorted := xs.attach.zipIdx.mergeSort (List.zipIdxLE own)
  have hperm : sorted.Perm xs.attach.zipIdx := List.mergeSort_perm _ _
  have hpairwise : sorted.Pairwise fun a b => List.zipIdxLE own a b = true := by
    apply List.pairwise_mergeSort
    · apply List.zipIdxLE_trans
      intro a b c hab hbc
      exact htrans a.1 a.2 b.1 b.2 c.1 c.2 hab hbc
    · apply List.zipIdxLE_total
      intro a b
      exact htotal a.1 a.2 b.1 b.2
  -- No place occurs twice, so that a tie leaves one of two places before the other.
  have hplaces : sorted.Pairwise fun a b => a.2 ≠ b.2 := by
    apply List.pairwise_map.mp
    apply (hperm.map Prod.snd).nodup_iff.mpr
    rw [List.zipIdx_map_snd]
    exact List.nodup_range'
  refine ⟨sorted.map fun entry => (entry.1.1, entry.2), ?perm, ?pairwise, ?sorts⟩
  case perm =>
    have hzip : xs.zipIdx = xs.attach.zipIdx.map fun entry => (entry.1.1, entry.2) := by
      conv_lhs => rw [← List.attach_map_subtype_val xs]
      rw [List.zipIdx_map]
      rfl
    rw [hzip]
    exact hperm.map _
  case pairwise =>
    refine List.pairwise_map.mpr ((hpairwise.and hplaces).imp ?_)
    rintro a b ⟨hle, hne⟩
    simp only [List.zipIdxLE, own] at hle
    split at hle
    next hab => exact ⟨hab, fun hba => by rw [if_pos hba, decide_eq_true_eq] at hle; omega⟩
    next => cases hle
  case sorts =>
    have hsort : (xs.attach.mergeSort own).map Subtype.val = xs.mergeSort le := by
      have hmap := List.map_mergeSort (r := own) (s := le) (f := Subtype.val) (l := xs.attach)
        fun a _ b _ => rfl
      rwa [List.attach_map_subtype_val] at hmap
    rw [← hsort, ← List.mergeSort_zipIdx, List.map_map, List.map_map]
    rfl

/-- **`arranges_sortOn`** — sorting by keys arranges the keyed values. -/
theorem arranges_sortOn (h : Comparable (keyed.map (·.1))) :
    ∃ arranged, Arranges keyed arranged ∧ sortOn keyed = arranged.map (·.1) := by
  have hordered : ∀ a ∈ keyed, ∀ b ∈ keyed, a.1.compare b.1 = some (cmp a.1.place b.1.place) :=
    fun a ha b hb => (h.ordered (List.mem_map_of_mem ha) (List.mem_map_of_mem hb)).compare_eq
  have hle : ∀ a ∈ keyed, ∀ b ∈ keyed,
      (ordering a.1 b.1 != .gt) = true ↔ a.1.place ≤ b.1.place := by
    intro a ha b hb
    rw [ordering, hordered a ha b hb, Option.getD_some, bne_iff_ne, ne_eq, cmp_eq_gt_iff, not_lt]
  obtain ⟨arranged, hperm, hpairwise, hsort⟩ := exists_stable
    (fun a b => ordering a.1 b.1 != .gt) keyed
    (fun a ha b hb c hc hab hbc => (hle a ha c hc).mpr
      (((hle a ha b hb).mp hab).trans ((hle b hb c hc).mp hbc)))
    (fun a ha b hb => by
      rw [Bool.or_eq_true, hle a ha b hb, hle b hb a ha]
      exact le_total _ _)
  refine ⟨arranged, ⟨hperm, hpairwise.imp_of_mem ?_⟩, hsort⟩
  rintro a b ha hb ⟨hab, htie⟩
  have hmem : ∀ entry ∈ arranged, entry.1 ∈ keyed := fun entry hentry =>
    List.fst_mem_of_mem_zipIdx (hperm.mem_iff.mp hentry)
  rw [hordered _ (hmem a ha) _ (hmem b hb), Option.some.injEq, Option.some.injEq, cmp_eq_lt_iff,
    cmp_eq_eq_iff]
  rcases lt_or_eq_of_le ((hle _ (hmem a ha) _ (hmem b hb)).mp hab) with hlt | heq
  · exact .inl hlt
  · exact .inr ⟨heq, htie ((hle _ (hmem b hb) _ (hmem a ha)).mpr heq.ge)⟩

/-! ## Choosing -/

/-- **`FirstBest wanted keyed best`** — no key has the order `wanted` against that of `best`, which stands
first among such values: its key has the order `wanted` against the key of every value before.  Among no
values there is only `null`. -/
inductive FirstBest (wanted : Ordering) : List (Value × Value) → Value → Prop where
  | none : FirstBest wanted [] .null
  | some {before after : List (Value × Value)} {key best : Value} :
      (∀ other ∈ before ++ (key, best) :: after, other.1.compare key ≠ .some wanted) →
      (∀ other ∈ before, key.compare other.1 = .some wanted) →
      FirstBest wanted (before ++ (key, best) :: after) best

/-- What beats the best so far beats all that do not beat it. -/
theorem cmp_eq_of_beats {α : Type} [LinearOrder α] {wanted : Ordering} (hwanted : wanted ≠ .eq)
    {other best next : α} (hother : cmp other best ≠ wanted) (hnext : cmp next best = wanted) :
    cmp next other = wanted := by
  cases wanted with
  | lt =>
      rw [ne_eq, cmp_eq_lt_iff, not_lt] at hother
      exact (cmp_eq_lt_iff _ _).mpr (((cmp_eq_lt_iff _ _).mp hnext).trans_le hother)
  | gt =>
      rw [ne_eq, cmp_eq_gt_iff, not_lt] at hother
      exact (cmp_eq_gt_iff _ _).mpr (hother.trans_lt ((cmp_eq_gt_iff _ _).mp hnext))
  | eq => exact absurd rfl hwanted

/-- **`Foremost wanted keyed best`** — no key beats that of `best`, and it beats all keys before. -/
def Foremost (wanted : Ordering) (keyed : List (Value × Value)) (best : Value × Value) : Prop :=
  ∃ before after, keyed = before ++ best :: after ∧
    (∀ other ∈ keyed, cmp other.1.place best.1.place ≠ wanted) ∧
    ∀ other ∈ before, cmp best.1.place other.1.place = wanted

/-- With one value more the best so far stays, unless the new one beats it. -/
theorem Foremost.concat {wanted : Ordering} (hwanted : wanted ≠ .eq) {best : Value × Value}
    (h : Foremost wanted keyed best) (next : Value × Value) :
    Foremost wanted (keyed ++ [next])
      (if cmp next.1.place best.1.place != wanted then best else next) := by
  obtain ⟨before, after, heq, hall, hbefore⟩ := h
  by_cases hbeats : cmp next.1.place best.1.place = wanted
  · rw [if_neg (bne_iff_ne.not.mpr (not_not.mpr hbeats))]
    have hnext : ∀ other ∈ keyed, cmp next.1.place other.1.place = wanted :=
      fun other hother => cmp_eq_of_beats hwanted (hall other hother) hbeats
    refine ⟨keyed, [], rfl, List.forall_mem_append.mpr ⟨?_, ?_⟩, hnext⟩
    · intro other hother
      rw [← cmp_swap, hnext other hother]
      cases wanted <;> simp at hwanted ⊢
    · rw [List.forall_mem_singleton, cmp_self_eq_eq]
      exact hwanted.symm
  · rw [if_pos (bne_iff_ne.mpr hbeats)]
    refine ⟨before, after ++ [next], by rw [heq]; simp, ?_, hbefore⟩
    exact List.forall_mem_append.mpr ⟨hall, List.forall_mem_singleton.mpr hbeats⟩

/-- From left to right the foremost value is found. -/
theorem exists_bestOn {wanted : Ordering} (hwanted : wanted ≠ .eq)
    (h : Comparable (keyed.map (·.1))) (hne : keyed ≠ []) :
    ∃ best, bestOn wanted keyed = some best ∧ Foremost wanted keyed best := by
  induction keyed using List.reverseRecOn with
  | nil => exact absurd rfl hne
  | append_singleton keyed next ih =>
      have hstep : bestOn wanted (keyed ++ [next]) = better wanted (bestOn wanted keyed) next := by
        rw [bestOn, List.foldl_append]
        rfl
      by_cases hnil : keyed = []
      · subst hnil
        refine ⟨next, hstep, [], [], rfl, ?_, List.forall_mem_nil _⟩
        rw [List.nil_append, List.forall_mem_singleton, cmp_self_eq_eq]
        exact hwanted.symm
      · obtain ⟨best, hbest, hforemost⟩ :=
          ih (h.subset (List.map_subset _ (List.subset_append_left keyed [next]))) hnil
        have hordering : ordering next.1 best.1 = cmp next.1.place best.1.place := by
          obtain ⟨before, after, heq, -⟩ := hforemost
          have hnext : next.1 ∈ (keyed ++ [next]).map (·.1) := by simp
          have hkey : best.1 ∈ (keyed ++ [next]).map (·.1) := by simp [heq]
          rw [ordering, (h.ordered hnext hkey).compare_eq, Option.getD_some]
        refine ⟨_, ?_, hforemost.concat hwanted next⟩
        rw [hstep, hbest, better, hordering, ← apply_ite some]

/-- **`firstBest_bestValue`** — the best value is the first of the best. -/
theorem firstBest_bestValue {wanted : Ordering} (hwanted : wanted ≠ .eq)
    (h : Comparable (keyed.map (·.1))) : FirstBest wanted keyed (bestValue wanted keyed) := by
  by_cases hne : keyed = []
  · subst hne
    exact .none
  · obtain ⟨best, hbest, before, after, rfl, hall, hbefore⟩ := exists_bestOn hwanted h hne
    have hordered : ∀ other ∈ before ++ best :: after, other.1.Ordered best.1 := by
      intro other hother
      exact h.ordered (List.mem_map_of_mem hother) (by simp)
    rw [bestValue, hbest]
    refine .some ?_ ?_
    · intro other hother
      rw [(hordered other hother).compare_eq, ne_eq, Option.some.injEq]
      exact hall other hother
    · intro other hother
      rw [(hordered other (List.mem_append_left _ hother)).symm.compare_eq, Option.some.injEq]
      exact hbefore other hother

/-! ## Calls -/

variable {apply : Apply} {body : Expr} {id : Nat} {items keys : List Value} {c : Context}
  {p q : Progress}

/-- Items with keys come to what is made of them, if the keys can be sorted, and to no value if not. -/
theorem keyedBy_apply {results : Option (List Value)}
    (h : allOrNone (apply body) items c p = some (results, q))
    (result : List (Value × Value) → Value) :
    (do return (← keyedBy apply body items).map result : Evaluation (Option Value)) c p =
      some (results.bind fun keys =>
        if Builtin.sortable keys then some (result (keys.zip items)) else none, q) := by
  have hkeyed : keyedBy apply body items c p =
      some (results.bind fun keys => (ensureSortable keys).map (·.zip items), q) := by
    rw [keyedBy, Evaluation.bind_apply, h]
    cases results <;> rfl
  rw [Evaluation.bind_apply, hkeyed, Option.bind_some]
  cases results with
  | none => rfl
  | some keys =>
      rw [Option.bind_some, Option.bind_some, ensureSortable]
      cases Builtin.sortable keys <;> rfl

/-- **`call_keyed`** — where an expression has keys for all items and the keys are of one ordered kind,
`sort_by` finds the items in the order of their keys, those with equal keys in their own order, and
`max_by` and `min_by` find the first item whose key is not below, not above, any other one, or `null` if
there is none.  If a key is of another kind than numbers and strings, or two keys are of different kinds,
none of them has a value. -/
theorem call_keyed (hkeys : allOrNone (apply body) items c p = some (some keys, q)) :
    keys.length = items.length ∧
    (Comparable keys →
      (∃ arranged, Arranges (keys.zip items) arranged ∧
        call apply .sortBy [.array items, .reference id body] c p =
          some (some (.array (arranged.map (·.1.2))), q)) ∧
      (∃ most, FirstBest .gt (keys.zip items) most ∧
        call apply .maxBy [.array items, .reference id body] c p = some (some most, q)) ∧
      ∃ least, FirstBest .lt (keys.zip items) least ∧
        call apply .minBy [.array items, .reference id body] c p = some (some least, q)) ∧
    ((∃ k ∈ keys, k.kind ≠ .number ∧ k.kind ≠ .string) ∨
        (∃ k ∈ keys, ∃ l ∈ keys, k.kind ≠ l.kind) →
      ∀ b ∈ [Builtin.sortBy, .maxBy, .minBy],
        call apply b [.array items, .reference id body] c p = some (none, q)) := by
  have hlength := Evaluation.length_of_allOrNone hkeys
  refine ⟨hlength, ?comparable, ?other⟩
  case comparable =>
    intro hcomparable
    have hfirst : Comparable ((keys.zip items).map (·.1)) := by
      rwa [List.map_fst_zip hlength.le]
    have hcall := keyedBy_apply hkeys
    simp only [Option.bind_some, if_pos hcomparable.sortable] at hcall
    refine ⟨?_, ⟨_, firstBest_bestValue nofun hfirst, hcall _⟩,
      ⟨_, firstBest_bestValue nofun hfirst, hcall _⟩⟩
    obtain ⟨arranged, harranges, hsorted⟩ := arranges_sortOn hfirst
    refine ⟨arranged, harranges, (hcall sortedValues).trans ?_⟩
    rw [sortedValues, hsorted, List.map_map]
    rfl
  case other =>
    intro hother b hb
    have hsortable : ¬ Builtin.sortable keys = true := by
      rw [sortable_iff]
      rintro ⟨hordered, hsame⟩
      rcases hother with ⟨k, hk, hnumber, hstring⟩ | ⟨k, hk, l, hl, hne⟩
      · exact (hordered k hk).elim hnumber hstring
      · exact hne (hsame k hk l hl)
    have hcall := keyedBy_apply hkeys
    simp only [Option.bind_some, if_neg hsortable] at hcall
    simp only [List.mem_cons, List.not_mem_nil, or_false] at hb
    rcases hb with rfl | rfl | rfl
    · exact hcall sortedValues
    · exact hcall (bestValue .gt)
    · exact hcall (bestValue .lt)

/-- Two items whose keys are equal in different representations stand behind one with a greater key;
a string among the keys leaves no value. -/
theorem call_keyed_ties :
    let x : Value := .object [("a", .number (.ofInt 2)), ("b", .string "x")]
    let y : Value := .object [("a", .number (.float (.finite false 0x10000000000000 (-52))))]
    let z : Value := .object [("a", .number (.decimal ⟨100, 2⟩)), ("b", .string "z")]
    let keys : List Value := [.number (.ofInt 2), .number (.float (.finite false 0x10000000000000 (-52))),
      .number (.decimal ⟨100, 2⟩)]
    let byMember : Value := .reference 0 (.field "a")
    let c : Context := ⟨.null, {}⟩
    (allOrNone (Expr.evalAt 1 (.field "a")) [x, y, z] c {} = some (some keys, ⟨3, []⟩) ∧
      Comparable keys ∧
      (∃ arranged, Arranges (keys.zip [x, y, z]) arranged ∧
        call (Expr.evalAt 1) .sortBy [.array [x, y, z], byMember] c {} =
          some (some (.array (arranged.map (·.1.2))), ⟨3, []⟩)) ∧
      ∃ least, FirstBest .lt (keys.zip [x, y, z]) least ∧
        call (Expr.evalAt 1) .minBy [.array [x, y, z], byMember] c {} =
          some (some least, ⟨3, []⟩)) ∧
    call (Expr.evalAt 1) .maxBy [.array [x, .object [("a", .string "z")]], byMember] c {} =
      some (none, ⟨2, []⟩) := by
  intro x y z keys byMember c
  have hkeys : allOrNone (Expr.evalAt 1 (.field "a")) [x, y, z] c {} =
      some (some keys, ⟨3, []⟩) := rfl
  have hmixed : allOrNone (Expr.evalAt 1 (.field "a")) [x, .object [("a", .string "z")]] c {} =
      some (some [.number (.ofInt 2), .string "z"], ⟨2, []⟩) := rfl
  have hcomparable : Comparable keys := by
    right
    intro k hk
    simp only [keys, List.mem_cons, List.not_mem_nil, or_false] at hk
    rcases hk with rfl | rfl | rfl <;> exact ⟨_, rfl, rfl⟩
  obtain ⟨hsort, -, hleast⟩ := (call_keyed hkeys).2.1 hcomparable
  have hkinds : ∃ k ∈ [Value.number (.ofInt 2), .string "z"],
      ∃ l ∈ [Value.number (.ofInt 2), .string "z"], k.kind ≠ l.kind :=
    ⟨_, List.mem_cons_self, .string "z", by simp, by decide⟩
  exact ⟨⟨hkeys, hcomparable, hsort, hleast⟩,
    (call_keyed hmixed).2.2 (.inr hkinds) .maxBy (by simp)⟩

end Builtin

end JsonQuery
