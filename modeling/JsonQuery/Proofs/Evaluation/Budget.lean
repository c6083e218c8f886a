/-
# JsonQuery.Proofs.Evaluation.Budget — what a step budget changes.

A budget is only looked at by `tick`, which counts a step and then tells whether too many have been
taken.  Steps are never given back.  So an evaluation that has not spent its budget at the end has
not spent it anywhere, and then it was the evaluation without a budget (`Metered`).  An evaluation
that does spend it goes on with wrong values, but `complete` looks at the count once more and drops
the result.
-/
import JsonQuery.Proofs.Evaluation.Depth

namespace JsonQuery

open Evaluation

namespace Evaluation

variable {α β : Type} {root : Value} {maxDepth budget : Nat}

/-- **`Metered f`** — `f` gives no steps back, and where it ends within a budget it does what it does
without one. -/
structure Metered (f : Evaluation α) : Prop where
  steps_le : ∀ {c p a q}, f c p = some (a, q) → p.steps ≤ q.steps
  within_iff : ∀ {root maxDepth budget p a q}, q.steps ≤ budget →
    (f ⟨root, ⟨maxDepth, some budget⟩⟩ p = some (a, q) ↔
      f ⟨root, ⟨maxDepth, none⟩⟩ p = some (a, q))

namespace Metered

theorem pure (a : α) : Metered (Pure.pure a : Evaluation α) where
  steps_le h := by
    obtain ⟨-, rfl⟩ := Prod.mk.inj (Option.some.inj h)
    exact Nat.le_refl _
  within_iff _ := Iff.rfl

theorem bind {f : Evaluation α} {g : α → Evaluation β} (hf : Metered f)
    (hg : ∀ a, Metered (g a)) : Metered (f >>= g) where
  steps_le h := by
    obtain ⟨a, p', ha, hb⟩ := bind_eq_some.mp h
    exact Nat.le_trans (hf.steps_le ha) ((hg a).steps_le hb)
  within_iff hq := by
    -- The count at the end bounds the count in between, so both parts stay within the budget.
    simp only [bind_eq_some]
    constructor
    · rintro ⟨a, p', ha, hb⟩
      have hp' := Nat.le_trans ((hg a).steps_le hb) hq
      exact ⟨a, p', (hf.within_iff hp').mp ha, ((hg a).within_iff hq).mp hb⟩
    · rintro ⟨a, p', ha, hb⟩
      have hp' := Nat.le_trans ((hg a).steps_le hb) hq
      exact ⟨a, p', (hf.within_iff hp').mpr ha, ((hg a).within_iff hq).mpr hb⟩

theorem tick : Metered Evaluation.tick where
  steps_le h := by
    obtain ⟨-, rfl⟩ := Prod.mk.inj (Option.some.inj h)
    exact Nat.le_succ _
  within_iff {root maxDepth budget p a q} hq := by
    simp only [Evaluation.tick, Progress.isExhausted, Option.some.injEq, Prod.mk.injEq]
    constructor
    · rintro ⟨rfl, rfl⟩
      simp only [and_true]
      simpa using hq
    · rintro ⟨rfl, rfl⟩
      simp only [and_true]
      simpa using hq

theorem guard {missing : α} {f : Evaluation α} (hf : Metered f) :
    Metered (do if !(← Evaluation.tick) then return missing else f) := by
  refine tick.bind fun go => ?_
  cases go with
  | false => exact pure missing
  | true => exact hf

end Metered

theorem coupling_metered : Coupling fun _ {_} f _ => Metered f where
  pure := Metered.pure
  bind := Metered.bind
  later h := h
  guard := Metered.guard

/-- **`EndsFrom k f`** — within the budget, `f` ends whenever `k` steps have been taken before. -/
def EndsFrom (root : Value) (maxDepth budget k : Nat) (f : Evaluation α) : Prop :=
  ∀ p, k ≤ p.steps → ∃ a q, f ⟨root, ⟨maxDepth, some budget⟩⟩ p = some (a, q)

theorem EndsFrom.bind {k : Nat} {f : Evaluation α} {g : α → Evaluation β} (hf : Metered f)
    (hfk : EndsFrom root maxDepth budget k f) (hgk : ∀ a, EndsFrom root maxDepth budget k (g a)) :
    EndsFrom root maxDepth budget k (f >>= g) := by
  intro p hp
  obtain ⟨a, p', ha⟩ := hfk p hp
  obtain ⟨b, q, hb⟩ := hgk a p' (Nat.le_trans hp (hf.steps_le ha))
  exact ⟨b, q, bind_eq_some.mpr ⟨a, p', ha, hb⟩⟩

/-- What an evaluation that ends within a budget comes to on a document. -/
theorem complete_within {e : Evaluation α} {document : Json} {a : α} {p : Progress}
    (h : e ⟨.ofJson document, ⟨maxDepth, some budget⟩⟩ {} = some (a, p)) :
    e.complete document ⟨maxDepth, some budget⟩ =
      if budget < p.steps then .error (.budgetExhausted budget) else .ok (a, p) := by
  simp only [complete, h]

theorem coupling_endsFrom (root : Value) (maxDepth budget : Nat) :
    Coupling fun k {_} f _ => Metered f ∧ EndsFrom root maxDepth budget k f where
  pure a := ⟨.pure a, fun p _ => ⟨a, p, rfl⟩⟩
  bind hf hg := ⟨hf.1.bind fun a => (hg a).1, .bind hf.1 hf.2 fun a => (hg a).2⟩
  later h := ⟨h.1, fun p hp => h.2 p (by omega)⟩
  guard {k _ missing f _} hf := by
    refine ⟨hf.1.guard, fun p hp => ?_⟩
    simp only [bind_apply, tick, Option.bind_some]
    cases (Progress.isExhausted { p with steps := p.steps + 1 } ⟨maxDepth, some budget⟩) with
    | true => exact ⟨missing, _, rfl⟩
    | false => exact hf.2 { p with steps := p.steps + 1 } (by simpa using hp)

end Evaluation

namespace Expr

/-- Once the budget is spent, a node counts one more step and has no value, whatever it is. -/
theorem eval_exhausted (apply : Apply) (e : Expr) (v root : Value) {maxDepth budget : Nat}
    {p : Progress} (hp : budget ≤ p.steps) :
    e.eval apply v ⟨root, ⟨maxDepth, some budget⟩⟩ p =
      some (none, { p with steps := p.steps + 1 }) := by
  have hexhausted : budget < p.steps + 1 := Nat.lt_succ_of_le hp
  cases e <;>
    simp only [Expr.eval, bind_apply, tick, Progress.isExhausted, hexhausted, decide_true,
      Bool.not_true, Bool.not_false, if_true, Option.bind_some, pure_apply]

theorem metered_evalAt (n : Nat) (e : Expr) (v : Value) : Metered (evalAt n e v) := by
  induction n generalizing e v with
  | zero =>
      refine ⟨?_, fun _ => ⟨?_, ?_⟩⟩ <;> exact fun h => nomatch h
  | succ n ih => exact coupling_metered.eval_self (k := 0) ih e v

/-- A budget bounds the nesting of references: every application in an application takes a step. -/
theorem endsFrom_evalAt (root : Value) (maxDepth budget n : Nat) (e : Expr) (v : Value) :
    EndsFrom root maxDepth budget (budget - n) (evalAt (n + 1) e v) := by
  induction n generalizing e v with
  | zero => exact fun p hp => ⟨none, _, eval_exhausted (evalAt 0) e v root hp⟩
  | succ n ih =>
      have happly : ∀ e v, Metered (evalAt (n + 1) e v) ∧
          EndsFrom root maxDepth budget (budget - (n + 1) + 1) (evalAt (n + 1) e v) :=
        fun e v => ⟨metered_evalAt _ e v, fun p hp => ih e v p (by omega)⟩
      exact ((coupling_endsFrom root maxDepth budget).eval_self happly e v).2

end Expr

namespace Query

variable {q : Query} {document : Json} {maxDepth budget : Nat}

/-- Within a budget, an evaluation that ends in time gives its outcome and any other one spends the
budget. -/
theorem evaluate_budget (q : Query) (document : Json) (maxDepth budget : Nat) :
    (∃ value progress, q.EndsWith document maxDepth value progress ∧ progress.steps ≤ budget ∧
        q.evaluate document ⟨maxDepth, some budget⟩ = .ok (value, progress)) ∨
      ((∀ value progress, q.EndsWith document maxDepth value progress →
          budget < progress.steps) ∧
        q.evaluate document ⟨maxDepth, some budget⟩ = .error (.budgetExhausted budget)) := by
  obtain ⟨value, progress, hrun⟩ := Expr.endsFrom_evalAt (.ofJson document) maxDepth budget
    (budget + 1) q.expr (.ofJson document) {} (by simp)
  have hcomplete := Evaluation.complete_within (e := do q.expr.run (← root)) hrun
  by_cases hspent : budget < progress.steps
  · refine .inr ⟨fun value' progress' ⟨n, hfree⟩ => ?_, hcomplete.trans (if_pos hspent)⟩
    -- Had it ended in time, the two runs within the budget would have ended alike.
    refine Nat.lt_of_not_le fun hle => ?_
    have hwithin := ((Expr.metered_evalAt n _ _).within_iff hle).mpr hfree
    obtain ⟨-, rfl⟩ := Prod.mk.inj (Expr.evalAt_unique hrun hwithin)
    exact Nat.not_lt_of_le hle hspent
  · have hle := Nat.le_of_not_lt hspent
    have hfree := ((Expr.metered_evalAt (budget + 2) _ _).within_iff hle).mp hrun
    exact .inl ⟨value, progress, ⟨budget + 2, hfree⟩, hle, hcomplete.trans (if_neg hspent)⟩

end Query

end JsonQuery
