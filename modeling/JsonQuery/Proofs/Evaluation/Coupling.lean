/-
# JsonQuery.Proofs.Evaluation.Coupling — evaluators that differ in how they apply references.

`Expr.eval` is given the application of references.  Two applications that are related make two
evaluators that are related, for every relation of evaluations that sequencing keeps.  The relation
may depend on how many steps have been taken: every node counts one before it looks at its parts, so
what is asked of an application is asked one step later.
-/
import JsonQuery.Expr.Eval

namespace JsonQuery

open Evaluation

/-- **`Coupling R`** — a relation of evaluations from `k` steps on that sequencing and counting
keep. -/
structure Coupling (R : Nat → {α : Type} → Evaluation α → Evaluation α → Prop) : Prop where
  pure : ∀ {k : Nat} {α : Type} (a : α), R k (pure a) (pure a)
  bind : ∀ {k : Nat} {α β : Type} {f f' : Evaluation α} {g g' : α → Evaluation β},
    R k f f' → (∀ a, R k (g a) (g' a)) → R k (f >>= g) (f' >>= g')
  later : ∀ {k : Nat} {α : Type} {f f' : Evaluation α}, R k f f' → R (k + 1) f f'
  guard : ∀ {k : Nat} {α : Type} {missing : α} {f f' : Evaluation α}, R (k + 1) f f' →
    R k (do if !(← tick) then return missing else f) (do if !(← tick) then return missing else f')

namespace Coupling

variable {R : Nat → {α : Type} → Evaluation α → Evaluation α → Prop} {k : Nat} {α β : Type}

/-! ## Walks over elements -/

theorem forEach (h : Coupling R) {f f' : α → Evaluation β} (hf : ∀ x, R k (f x) (f' x))
    (xs : List α) : R k (forEach f xs) (Evaluation.forEach f' xs) := by
  induction xs with
  | nil => exact h.pure _
  | cons x xs ih => exact h.bind (hf x) fun y => h.bind ih fun ys => h.pure _

theorem allOrNone (h : Coupling R) {f f' : α → Evaluation (Option Value)}
    (hf : ∀ x, R k (f x) (f' x)) (xs : List α) :
    R k (allOrNone f xs) (Evaluation.allOrNone f' xs) := by
  induction xs with
  | nil => exact h.pure _
  | cons x xs ih =>
      refine h.bind (hf x) fun y => ?_
      cases y with
      | none => exact h.pure _
      | some y =>
          refine h.bind ih fun ys => ?_
          cases ys with
          | none => exact h.pure _
          | some ys => exact h.pure _

theorem keepWhere (h : Coupling R) {f f' : α → Evaluation Bool} (hf : ∀ x, R k (f x) (f' x))
    (xs : List α) : R k (keepWhere f xs) (Evaluation.keepWhere f' xs) := by
  induction xs with
  | nil => exact h.pure _
  | cons x xs ih => exact h.bind (hf x) fun keep => h.bind ih fun rest => h.pure _

/-! ## Calls -/

variable {apply apply' : Apply}

theorem keyedBy (h : Coupling R) (happly : ∀ e v, R k (apply e v) (apply' e v)) (body : Expr)
    (items : List Value) : R k (Builtin.keyedBy apply body items)
      (Builtin.keyedBy apply' body items) := by
  refine h.bind (h.allOrNone (happly body) items) fun results => ?_
  cases results with
  | none => exact h.pure _
  | some results => exact h.pure _

theorem call (h : Coupling R) (happly : ∀ e v, R k (apply e v) (apply' e v)) (b : Builtin)
    (args : List Value) : R k (b.call apply args) (b.call apply' args) := by
  fun_cases Builtin.call apply b args with
  | case1 id body items =>
      exact h.bind (h.allOrNone (happly body) items) fun results => h.pure _
  | case2 items id body => exact h.bind (h.keyedBy happly body items) fun keyed => h.pure _
  | case3 items id body => exact h.bind (h.keyedBy happly body items) fun keyed => h.pure _
  | case4 items id body => exact h.bind (h.keyedBy happly body items) fun keyed => h.pure _
  | case5 b args hmap hsort hmax hmin =>
      rw [Builtin.call]
      exact h.pure _
      all_goals assumption

/-! ## Nodes -/

mutual

/-- **`eval`** — evaluators are related from `k` steps on if the applications they are given are
related one step later. -/
theorem eval (h : Coupling R) (happly : ∀ e v, R (k + 1) (apply e v) (apply' e v)) (e : Expr)
    (current : Value) : R k (e.eval apply current) (e.eval apply' current) := by
  cases e with
  | current | field | index | literal | reference =>
      simp only [Expr.eval]
      exact h.guard (h.pure _)
  | slice s =>
      simp only [Expr.eval]
      refine h.guard ?_
      cases current.items? <;> exact h.pure _
  | chain left right =>
      simp only [Expr.eval]
      refine h.guard (h.bind (h.later (h.eval happly left current)) fun base => ?_)
      cases base with
      | none => exact h.pure _
      | some base => exact h.later (h.eval happly right base)
  | project kind left right =>
      simp only [Expr.eval]
      refine h.guard (h.bind (h.later (h.eval happly left current)) fun base => ?_)
      cases base with
      | none => exact h.pure _
      | some base =>
          refine h.bind (h.later (h.elements happly kind base)) fun elements => ?_
          cases elements with
          | none => exact h.pure _
          | some elements =>
              exact h.bind (h.forEach (fun v => h.later (h.eval happly right v)) elements)
                fun results => h.pure _
  | list items =>
      simp only [Expr.eval]
      refine h.guard ?_
      split
      · exact h.pure _
      · exact h.bind (h.later (h.evalItems happly items current)) fun values => h.pure _
  | hash entries =>
      simp only [Expr.eval]
      refine h.guard ?_
      split
      · exact h.pure _
      · exact h.bind (h.later (h.evalEntries happly entries current)) fun values => h.pure _
  | binary op left right =>
      simp only [Expr.eval]
      refine h.guard (h.bind (h.later (h.eval happly left current)) fun a => ?_)
      cases a with
      | none => exact h.pure _
      | some a =>
          simp only
          split
          · exact h.pure _
          · refine h.bind (h.later (h.eval happly right current)) fun b => ?_
            cases b <;> exact h.pure _
  | unary op operand =>
      simp only [Expr.eval]
      refine h.guard (h.bind (h.later (h.eval happly operand current)) fun a => ?_)
      cases a <;> exact h.pure _
  | pipe left right =>
      simp only [Expr.eval]
      exact h.guard (h.bind (h.later (h.eval happly left current)) fun base =>
        h.later (h.eval happly right _))
  | call function args =>
      simp only [Expr.eval]
      refine h.guard (h.bind (h.later (h.evalArgs happly args current)) fun values => ?_)
      cases values with
      | none => exact h.pure _
      | some values => exact h.call happly function.body values

theorem elements (h : Coupling R) (happly : ∀ e v, R (k + 1) (apply e v) (apply' e v))
    (kind : Projection) (base : Value) :
    R k (kind.elements apply base) (kind.elements apply' base) := by
  cases kind with
  | list | object | flatten =>
      simp only [Projection.elements]
      exact h.pure _
  | filter predicate =>
      simp only [Projection.elements]
      cases base.items? with
      | none => exact h.pure _
      | some items =>
          exact h.bind (h.keepWhere (fun item => h.bind (h.eval happly predicate item)
            fun v => h.pure _) items) fun kept => h.pure _

theorem evalItems (h : Coupling R) (happly : ∀ e v, R (k + 1) (apply e v) (apply' e v))
    (items : List Expr) (current : Value) :
    R k (Expr.evalItems apply items current) (Expr.evalItems apply' items current) := by
  cases items with
  | nil => simpa only [Expr.evalItems] using h.pure _
  | cons item rest =>
      simp only [Expr.evalItems]
      exact h.bind (h.eval happly item current) fun v =>
        h.bind (h.evalItems happly rest current) fun vs => h.pure _

theorem evalEntries (h : Coupling R) (happly : ∀ e v, R (k + 1) (apply e v) (apply' e v))
    (entries : List (String × Expr)) (current : Value) :
    R k (Expr.evalEntries apply entries current) (Expr.evalEntries apply' entries current) := by
  match entries with
  | [] => simpa only [Expr.evalEntries] using h.pure _
  | (name, item) :: rest =>
      simp only [Expr.evalEntries]
      exact h.bind (h.eval happly item current) fun v =>
        h.bind (h.evalEntries happly rest current) fun vs => h.pure _

theorem evalArgs (h : Coupling R) (happly : ∀ e v, R (k + 1) (apply e v) (apply' e v))
    (args : List Expr) (current : Value) :
    R k (Expr.evalArgs apply args current) (Expr.evalArgs apply' args current) := by
  cases args with
  | nil => simpa only [Expr.evalArgs] using h.pure _
  | cons arg rest =>
      simp only [Expr.evalArgs]
      refine h.bind (h.eval happly arg current) fun v => ?_
      cases v with
      | none => exact h.pure _
      | some v =>
          refine h.bind (h.evalArgs happly rest current) fun vs => ?_
          cases vs <;> exact h.pure _

end

/-- The case of one application, for relations that are properties of one evaluation. -/
theorem eval_self (h : Coupling R) (happly : ∀ e v, R (k + 1) (apply e v) (apply e v)) (e : Expr)
    (current : Value) : R k (e.eval apply current) (e.eval apply current) :=
  h.eval happly e current

end Coupling

end JsonQuery
