/-
# JsonQuery.Proofs.Function.SelfKeyed — values that are their own keys.

`sort`, `max` and `min` compare the items of an array themselves, `sort_by`, `max_by` and `min_by` the
keys of items.  Where the key of every item is the item both come to the same.  The extrema ask nothing
of comparison, which is no order for all numbers: a number without a decimal form can be equal to two
decimals of which one is below the other.  Sorting does ask for one.  A sorting routine promises a
stable arrangement where comparison ranks the items and promises nothing where it does not, so what is
said of sorting is that there is a single arrangement to come to, and that both forms come to it.

Only the keyed forms take steps, one for each item, and may spend the budget by that.
-/
import JsonQuery.Proofs.Function.Sorting

namespace JsonQuery

open Evaluation (allOrNone bind_eq_some)

namespace Builtin

variable {items : List Value} {c : Context} {p : Progress}

/-- **`Ranked items`** — comparison is a total preorder of the items: turned round it gives the opposite,
and what is not above an item is not above what that item is not above. -/
structure Ranked (items : List Value) : Prop where
  swap : ∀ a ∈ items, ∀ b ∈ items, ordering b a = (ordering a b).swap
  trans : ∀ a ∈ items, ∀ b ∈ items, ∀ c ∈ items,
    ordering a b ≠ .gt → ordering b c ≠ .gt → ordering a c ≠ .gt

/-- **`InOrder items sorted`** — the items with their places, all of them, each below all that stand
after it or equal to them and from a place before theirs. -/
def InOrder (items : List Value) (sorted : List (Value × Nat)) : Prop :=
  sorted.Perm items.zipIdx ∧ sorted.Pairwise fun a b =>
    ordering a.1 b.1 = .lt ∨ ordering a.1 b.1 = .eq ∧ a.2 < b.2

/-- **`InOrder.unique`** — ranked items have one arrangement. -/
theorem InOrder.unique (h : Ranked items) {sorted other : List (Value × Nat)}
    (hsorted : InOrder items sorted) (hother : InOrder items other) : other = sorted := by
  obtain ⟨hperm, hpairwise⟩ := hsorted
  obtain ⟨hperm', hpairwise'⟩ := hother
  refine List.Perm.eq_of_pairwise ?_ hpairwise' hpairwise (hperm'.trans hperm.symm)
  -- No two entries stand before each other.
  intro a b ha hb hab hba
  have hmem : ∀ entry ∈ items.zipIdx, entry.1 ∈ items :=
    fun entry hentry => List.fst_mem_of_mem_zipIdx hentry
  have hswap := h.swap a.1 (hmem a (hperm'.mem_iff.mp ha)) b.1 (hmem b (hperm.mem_iff.mp hb))
  rcases hab with hlt | ⟨heq, hplace⟩
  · simp [hswap, hlt] at hba
  · simp [hswap, heq] at hba
    omega

end Builtin

end JsonQuery
