/-
# JsonQuery.Proofs.Path.Budget — step budgets of paths and expressions.

A path has no references, so its selection ends on every document.  Like the evaluation of an
expression it looks at the budget only when it counts a step (`Settled` adds to `Metered` that there
is an outcome).  The last section puts paths and expressions together.
-/
import JsonQuery.Proofs.Evaluation.Budget
import JsonQuery.Proofs.Evaluation.Ending
import JsonQuery.Path.Query

namespace JsonQuery

open Evaluation

namespace Evaluation

variable {α β : Type}

/-- **`Settled f`** — `f` is metered and always has an outcome. -/
structure Settled (f : Evaluation α) : Prop extends Metered f where
  ends : ∀ c p, ∃ a q, f c p = some (a, q)

namespace Settled

theorem pure (a : α) : Settled (Pure.pure a : Evaluation α) :=
  ⟨.pure a, fun _ p => ⟨a, p, rfl⟩⟩

theorem bind {f : Evaluation α} {g : α → Evaluation β} (hf : Settled f)
    (hg : ∀ a, Settled (g a)) : Settled (f >>= g) := by
  refine ⟨hf.toMetered.bind fun a => (hg a).toMetered, fun c p => ?_⟩
  obtain ⟨a, p', ha⟩ := hf.ends c p
  obtain ⟨b, q, hb⟩ := (hg a).ends c p'
  exact ⟨b, q, bind_eq_some.mpr ⟨a, p', ha, hb⟩⟩

theorem tick : Settled Evaluation.tick := ⟨.tick, fun _ _ => ⟨_, _, rfl⟩⟩

theorem guard {missing : α} {f : Evaluation α} (hf : Settled f) :
    Settled (do if !(← Evaluation.tick) then return missing else f) := by
  refine tick.bind fun go => ?_
  cases go with
  | false => exact pure missing
  | true => exact hf

/-- What does not look at the budget in the context may look at the rest of it. -/
theorem read {g : Context → Evaluation β} (hg : ∀ c, Settled (g c))
    (hbudget : ∀ root maxDepth b b', g ⟨root, ⟨maxDepth, b⟩⟩ = g ⟨root, ⟨maxDepth, b'⟩⟩) :
    Settled (MonadReader.read >>= g) where
  steps_le h := (hg _).steps_le h
  within_iff {root maxDepth budget p a q} hq := by
    show g _ _ _ = _ ↔ g _ _ _ = _
    rw [hbudget root maxDepth (some budget) none]
    exact (hg _).within_iff hq
  ends c p := (hg c).ends c p

theorem root : Settled Evaluation.root where
  steps_le h := by
    obtain ⟨-, rfl⟩ := Prod.mk.inj (Option.some.inj h)
    exact Nat.le_refl _
  within_iff _ := Iff.rfl
  ends _ _ := ⟨_, _, rfl⟩

theorem cachedRoot (id : Nat) : Settled (Evaluation.cachedRoot id) where
  steps_le h := by
    obtain ⟨-, rfl⟩ := Prod.mk.inj (Option.some.inj h)
    exact Nat.le_refl _
  within_iff _ := Iff.rfl
  ends _ _ := ⟨_, _, rfl⟩

theorem cacheRoot (id : Nat) (v : Value) : Settled (Evaluation.cacheRoot id v) where
  steps_le h := by
    obtain ⟨-, rfl⟩ := Prod.mk.inj (Option.some.inj h)
    exact Nat.le_refl _
  within_iff _ := Iff.rfl
  ends _ _ := ⟨_, _, rfl⟩

theorem forEach {f : α → Evaluation β} (hf : ∀ x, Settled (f x)) (xs : List α) :
    Settled (Evaluation.forEach f xs) := by
  induction xs with
  | nil => exact pure []
  | cons x xs ih => exact (hf x).bind fun y => ih.bind fun ys => pure _

end Settled

end Evaluation

namespace Path

theorem settled_gather {action : Node → Evaluation (List Node)} (h : ∀ n, Settled (action n))
    (nodes : List Node) : Settled (gather action nodes) :=
  (Settled.forEach h nodes).bind fun _ => .pure _

/-- What a step leads to does not depend on the budget. -/
theorem Step.targets_budget (step : Step) (n : Node) (root : Value) (maxDepth : Nat)
    (b b' : Option Nat) :
    step.targets ⟨root, ⟨maxDepth, b⟩⟩ n = step.targets ⟨root, ⟨maxDepth, b'⟩⟩ n := by
  cases step <;> rfl

mutual

theorem settled_select (steps : List Step) (n : Node) : Settled (select steps n) := by
  cases steps with
  | nil => simpa only [select] using .pure [n]
  | cons step rest =>
      simp only [select]
      exact settled_follow step (settled_select rest) n

theorem settled_follow (step : Step) {action : Node → Evaluation (List Node)}
    (h : ∀ n, Settled (action n)) (n : Node) : Settled (step.follow action n) := by
  cases step with
  | filter f =>
      simp only [Step.follow]
      refine .guard (settled_gather (fun child => ?_) n.children)
      refine (settled_filter f child.value).bind fun v => ?_
      split
      · exact h child
      · exact .pure []
  | union branches =>
      simp only [Step.follow]
      exact .guard ((settled_branches branches n).bind fun nodes => settled_gather h nodes)
  | root | current | parent | name | index | slice | wildcard | descend =>
      simp only [Step.follow]
      refine .guard (.read (fun c => settled_gather h _) fun root maxDepth b b' => ?_)
      rw [Step.targets_budget _ n root maxDepth b b']

theorem settled_branches (branches : List Step) (n : Node) :
    Settled (selectBranches branches n) := by
  cases branches with
  | nil => simpa only [selectBranches] using .pure []
  | cons branch rest =>
      simp only [selectBranches]
      exact (settled_follow branch (fun hit => .pure [hit]) n).bind fun nodes =>
        (settled_branches rest n).bind fun found => .pure _

theorem settled_filter (f : Filter) (current : Value) : Settled (f.eval current) := by
  cases f with
  | literal =>
      simp only [Filter.eval]
      exact .guard (.pure _)
  | path steps =>
      simp only [Filter.eval]
      refine .guard ?_
      -- What an absolute path comes to is kept, and neither keeping it nor finding it counts a step.
      cases rootId? steps with
      | none => exact (settled_select steps _).bind fun nodes => .pure _
      | some id =>
          refine (Settled.cachedRoot id).bind fun cached => ?_
          cases cached with
          | some v => exact .pure _
          | none =>
              refine (settled_select steps _).bind fun nodes => ?_
              split
              · exact .pure _
              · exact (Settled.cacheRoot id _).bind fun _ => .pure _
  | call function args =>
      simp only [Filter.eval]
      refine .guard ((settled_filterArgs args current).bind fun values => ?_)
      cases values <;> exact .pure _
  | binary op left right =>
      simp only [Filter.eval]
      refine .guard ?_
      split
      · refine (settled_filter left current).bind fun a => ?_
        split
        · exact .pure _
        · exact (settled_filter right current).bind fun b => .pure _
      · refine (settled_filter left current).bind fun a => ?_
        cases a with
        | none => exact .pure _
        | some a =>
            refine (settled_filter right current).bind fun b => ?_
            cases b <;> exact .pure _
  | unary op operand =>
      cases op <;> simp only [Filter.eval] <;>
        exact .guard ((settled_filter operand current).bind fun v => .pure _)
  | matching pattern operand =>
      simp only [Filter.eval]
      exact .guard ((settled_filter operand current).bind fun v => .pure _)

theorem settled_filterArgs (args : List Filter) (current : Value) :
    Settled (Filter.evalArgs args current) := by
  cases args with
  | nil => simpa only [Filter.evalArgs] using .pure _
  | cons arg rest =>
      simp only [Filter.evalArgs]
      refine (settled_filter arg current).bind fun v => ?_
      cases v with
      | none => exact .pure _
      | some v =>
          refine (settled_filterArgs rest current).bind fun vs => ?_
          cases vs <;> exact .pure _

end

/-- The selection of a path on a document. -/
theorem settled_evaluate (path : Path) :
    Settled (do select path.steps ⟨[], ← Evaluation.root⟩) :=
  Settled.root.bind fun root => settled_select path.steps ⟨[], root⟩

end Path

/-! ## Budgets of both languages -/

/-- **`cutOff budget outcome`** — what a budget makes of an evaluation that ends with an outcome: the
outcome if it takes no more steps than the budget, and otherwise nothing of it. -/
def Evaluation.cutOff {α : Type} (budget : Nat) (outcome : α × Progress) :
    Except EvalError (α × Progress) :=
  if outcome.2.steps ≤ budget then .ok outcome else .error (.budgetExhausted budget)

/-- What an evaluation that always ends comes to with a budget and without one. -/
theorem Evaluation.Settled.complete_cutOff {α : Type} {e : Evaluation α} (he : Settled e)
    (document : Json) (maxDepth budget : Nat) :
    ∃ outcome, e.complete document ⟨maxDepth, none⟩ = .ok outcome ∧
      e.complete document ⟨maxDepth, some budget⟩ = cutOff budget outcome := by
  obtain ⟨a, p, hfree⟩ := he.ends ⟨.ofJson document, ⟨maxDepth, none⟩⟩ {}
  obtain ⟨b, q, hbudget⟩ := he.ends ⟨.ofJson document, ⟨maxDepth, some budget⟩⟩ {}
  refine ⟨(a, p), by simp only [complete, hfree], ?_⟩
  rw [complete_within hbudget, cutOff]
  by_cases hp : p.steps ≤ budget
  · -- In time without a budget: then the run with it is the same run.
    obtain ⟨rfl, rfl⟩ := Prod.mk.inj
      (Option.some.inj (((he.within_iff hp).mpr hfree).symm.trans hbudget))
    rw [if_neg (Nat.not_lt_of_le hp), if_pos hp]
  · -- Not in time: had the run with the budget stayed within it, it would be the same run.
    rw [if_neg hp, if_pos]
    refine Nat.lt_of_not_le fun hq => hp ?_
    obtain ⟨-, rfl⟩ := Prod.mk.inj
      (Option.some.inj (((he.within_iff hq).mp hbudget).symm.trans hfree))
    exact hq

theorem Query.evaluate_cutOff {q : Query} {document : Json} {maxDepth : Nat} {value : Option Value}
    {progress : Progress} (h : q.EndsWith document maxDepth value progress) (budget : Nat) :
    q.evaluate document ⟨maxDepth, some budget⟩ = Evaluation.cutOff budget (value, progress) := by
  rcases q.evaluate_budget document maxDepth budget with
    ⟨value', progress', hends, hle, heval⟩ | ⟨hspent, heval⟩
  · -- Both ends are ends of one evaluation.
    obtain ⟨n, hn⟩ := h
    obtain ⟨m, hm⟩ := hends
    obtain ⟨rfl, rfl⟩ := Prod.mk.inj (Expr.evalAt_unique hn hm)
    rw [heval, Evaluation.cutOff, if_pos hle]
  · rw [heval, Evaluation.cutOff, if_neg (Nat.not_le_of_lt (hspent value progress h))]

theorem Query.evaluate_of_not_ends {q : Query} {document : Json} {maxDepth : Nat}
    (h : ¬ q.Ends document maxDepth) (budget : Nat) :
    q.evaluate document ⟨maxDepth, some budget⟩ = .error (.budgetExhausted budget) := by
  rcases q.evaluate_budget document maxDepth budget with
    ⟨value, progress, hends, -, -⟩ | ⟨-, heval⟩
  · exact absurd ⟨value, progress, hends⟩ h
  · exact heval

/-- A result that comes without a budget is the end of the evaluation. -/
theorem Query.endsWith_of_evaluate {q : Query} {document : Json} {maxDepth : Nat}
    {value : Option Value} {progress : Progress}
    (h : q.evaluate document ⟨maxDepth, none⟩ = .ok (value, progress)) :
    q.EndsWith document maxDepth value progress := by
  simp only [evaluate, Evaluation.complete] at h
  split at h
  · simp at h
  · rename_i hrun
    obtain ⟨rfl, rfl⟩ := Prod.mk.inj (Except.ok.inj h)
    exact ⟨_, hrun⟩

/-- **`budget_cuts_off`** — with a step budget, a query and a path end on every document: with the
result that they have without it if that takes no more steps, and with nothing but the exhausted
budget if it takes more or never ends. -/
theorem budget_cuts_off (q : Query) (path : Path) (document : Json) (maxDepth budget : Nat) :
    (∀ value progress, q.EndsWith document maxDepth value progress →
      q.evaluate document ⟨maxDepth, some budget⟩ = Evaluation.cutOff budget (value, progress) ∧
      q.search document ⟨maxDepth, some budget⟩ =
        (Evaluation.cutOff budget (value, progress)).map fun outcome =>
          (outcome.1.map Value.toJson).getD .null) ∧
    (¬ q.Ends document maxDepth →
      q.evaluate document ⟨maxDepth, some budget⟩ = .error (.budgetExhausted budget) ∧
      q.search document ⟨maxDepth, some budget⟩ = .error (.budgetExhausted budget)) ∧
    (∀ value progress, q.evaluate document ⟨maxDepth, none⟩ = .ok (value, progress) →
      q.EndsWith document maxDepth value progress) ∧
    ∃ nodes progress, path.evaluate document ⟨maxDepth, none⟩ = .ok (nodes, progress) ∧
      path.evaluate document ⟨maxDepth, some budget⟩ =
        Evaluation.cutOff budget (nodes, progress) ∧
      path.nodes document ⟨maxDepth, some budget⟩ =
        (Evaluation.cutOff budget (nodes, progress)).map (·.1) := by
  refine ⟨fun value progress h => ⟨q.evaluate_cutOff h budget, ?_⟩, fun h => ?_, fun _ _ h => ?_, ?_⟩
  · rw [Query.search, Query.evaluate_cutOff h budget]
    rfl
  · have heval := Query.evaluate_of_not_ends h budget
    refine ⟨heval, ?_⟩
    rw [Query.search, heval]
    rfl
  · exact Query.endsWith_of_evaluate h
  · obtain ⟨⟨nodes, progress⟩, hfree, hbudget⟩ :=
      path.settled_evaluate.complete_cutOff document maxDepth budget
    have heval : path.evaluate document ⟨maxDepth, some budget⟩ =
        Evaluation.cutOff budget (nodes, progress) := hbudget
    refine ⟨nodes, progress, hfree, heval, ?_⟩
    rw [Path.nodes, heval]
    rfl

/-- A budget that is just enough, one that is too small, and one for what never ends. -/
theorem budget_cuts_off_current :
    (⟨"@", .current⟩ : Query).search .null ⟨100, some 1⟩ = .ok .null ∧
    (⟨"@", .current⟩ : Query).search .null ⟨100, some 0⟩ = .error (.budgetExhausted 0) ∧
    Query.endless.search .null ⟨100, some 7⟩ = .error (.budgetExhausted 7) :=
  have hends : (⟨"@", .current⟩ : Query).EndsWith .null 100 (some .null) ⟨1, []⟩ := ⟨1, rfl⟩
  ⟨((budget_cuts_off _ ⟨"$", []⟩ .null 100 1).1 _ _ hends).2,
    ((budget_cuts_off _ ⟨"$", []⟩ .null 100 0).1 _ _ hends).2,
    ((budget_cuts_off _ ⟨"$", []⟩ .null 100 7).2.1 (Query.not_ends_endless .null 100)).2⟩

end JsonQuery
