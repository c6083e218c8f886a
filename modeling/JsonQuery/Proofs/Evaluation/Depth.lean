/-
# JsonQuery.Proofs.Evaluation.Depth — evaluation with references nested ever deeper.

`Expr.evalAt n` lets references nest `n` deep and has no outcome past that.  A greater depth never
changes an outcome, so all depths together describe one evaluation without a limit: it ends if some
depth suffices, and then its outcome does not depend on which.
-/
import JsonQuery.Proofs.Evaluation.Coupling
import JsonQuery.Query

namespace JsonQuery

open Evaluation

namespace Evaluation

variable {α β : Type}

theorem pure_apply (a : α) (c : Context) (p : Progress) :
    (pure a : Evaluation α) c p = some (a, p) := rfl

theorem bind_apply (f : Evaluation α) (g : α → Evaluation β) (c : Context) (p : Progress) :
    (f >>= g) c p = (f c p).bind fun r => g r.1 c r.2 := rfl

/-- A sequence has an outcome exactly when its first part has one from which the second part has
one. -/
theorem bind_eq_some {f : Evaluation α} {g : α → Evaluation β} {c : Context} {p q : Progress}
    {b : β} : (f >>= g) c p = some (b, q) ↔
      ∃ a p', f c p = some (a, p') ∧ g a c p' = some (b, q) := by
  simp only [bind_apply, Option.bind_eq_some_iff, Prod.exists]

/-- **`Below f g`** — wherever `f` has an outcome, `g` has the same. -/
def Below (f g : Evaluation α) : Prop := ∀ c p r, f c p = some r → g c p = some r

theorem coupling_below : Coupling fun _ {_} f g => Below f g where
  pure _ := fun _ _ _ h => h
  bind hf hg := by
    rintro c p ⟨b, q⟩ h
    obtain ⟨a, p', ha, hb⟩ := bind_eq_some.mp h
    exact bind_eq_some.mpr ⟨a, p', hf c p _ ha, hg a c p' _ hb⟩
  later h := h
  guard hf := by
    rintro c p ⟨b, q⟩ h
    obtain ⟨go, p', hgo, hb⟩ := bind_eq_some.mp h
    refine bind_eq_some.mpr ⟨go, p', hgo, ?_⟩
    cases go with
    | false => exact hb
    | true => exact hf c p' _ hb

end Evaluation

namespace Expr

theorem evalAt_succ (n : Nat) (e : Expr) (v : Value) : evalAt (n + 1) e v = e.eval (evalAt n) v :=
  rfl

theorem evalAt_below_succ (n : Nat) (e : Expr) (v : Value) :
    Below (evalAt n e v) (evalAt (n + 1) e v) := by
  induction n generalizing e v with
  | zero => exact fun _ _ _ h => nomatch h
  | succ n ih => exact coupling_below.eval (k := 0) ih e v

/-- A greater depth keeps every outcome. -/
theorem evalAt_mono {n m : Nat} (hnm : n ≤ m) (e : Expr) (v : Value) :
    Below (evalAt n e v) (evalAt m e v) := by
  induction hnm with
  | refl => exact fun _ _ _ h => h
  | step _ ih => exact fun c p r h => evalAt_below_succ _ e v c p r (ih c p r h)

/-- Two depths that both suffice give the same outcome. -/
theorem evalAt_unique {n m : Nat} {e : Expr} {v : Value} {c : Context} {p : Progress}
    {r s : Option Value × Progress} (hr : evalAt n e v c p = some r)
    (hs : evalAt m e v c p = some s) : r = s := by
  have hr' := evalAt_mono (Nat.le_max_left n m) e v c p r hr
  have hs' := evalAt_mono (Nat.le_max_right n m) e v c p s hs
  exact Option.some.inj (hr'.symm.trans hs')

end Expr

/-- **`q.EndsWith document maxDepth value progress`** — the evaluation of a query on a document
without a step budget and without a limit on references ends with a value, if it has one, after some
progress. -/
def Query.EndsWith (q : Query) (document : Json) (maxDepth : Nat) (value : Option Value)
    (progress : Progress) : Prop :=
  ∃ n, Expr.evalAt n q.expr (.ofJson document) ⟨.ofJson document, ⟨maxDepth, none⟩⟩ {} =
    some (value, progress)

/-- **`q.Ends document maxDepth`** — the evaluation of a query on a document without a step budget
and without a limit on references ends. -/
def Query.Ends (q : Query) (document : Json) (maxDepth : Nat) : Prop :=
  ∃ value progress, q.EndsWith document maxDepth value progress

end JsonQuery
