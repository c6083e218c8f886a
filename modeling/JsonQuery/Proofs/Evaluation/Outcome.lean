/-
# JsonQuery.Proofs.Evaluation.Outcome — evaluation without a step budget, as a function of the value.

Without a budget the count of steps decides nothing, so what an expression comes to does not depend
on the steps taken before.  Its `outcome` then is a function of the current value alone, and the
outcome of a node follows from those of its parts by equations without any state.
-/
import JsonQuery.Proofs.Evaluation.Depth

namespace JsonQuery

open Evaluation

namespace Evaluation

variable {α β : Type} {c : Context}

/-- **`Alike f g`** — without a step budget `f` and `g` come to the same, whatever progress has been
made before each. -/
def Alike (f g : Evaluation α) : Prop :=
  ∀ c : Context, c.options.stepBudget = none → ∀ p q, (f c p).map (·.1) = (g c q).map (·.1)

/-- Without a budget no step fails. -/
theorem tick_of_unbounded (hc : c.options.stepBudget = none) (p : Progress) :
    tick c p = some (true, { p with steps := p.steps + 1 }) := by
  simp [tick, Progress.isExhausted, hc]

theorem map_bind_apply (f : Evaluation α) (g : α → Evaluation β) (p : Progress) :
    ((f >>= g) c p).map (·.1) = (f c p).bind fun r => (g r.1 c r.2).map (·.1) := by
  rw [bind_apply]
  cases f c p <;> rfl

theorem coupling_alike : Coupling fun _ {_} f g => Alike f g where
  pure _ := fun _ _ _ _ => rfl
  bind {k α β f f' g g'} hf hg := by
    intro c hc p q
    have hfirst := hf c hc p q
    rw [map_bind_apply, map_bind_apply]
    cases hp : f c p with
    | none =>
        rw [hp] at hfirst
        rw [Option.map_eq_none_iff.mp hfirst.symm]
        rfl
    | some r =>
        rw [hp] at hfirst
        obtain ⟨r', hr', heq⟩ := Option.map_eq_some_iff.mp hfirst.symm
        rw [hr', Option.bind_some, Option.bind_some, heq]
        exact hg r.1 c hc _ _
  later h := h
  guard hf := by
    intro c hc p q
    rw [map_bind_apply, map_bind_apply, tick_of_unbounded hc, tick_of_unbounded hc]
    exact hf c hc _ _

/-- **`Steady f`** — without a step budget, what `f` comes to does not depend on the progress made
before. -/
def Steady (f : Evaluation α) : Prop := Alike f f

namespace Steady

theorem pure (a : α) : Steady (Pure.pure a : Evaluation α) := coupling_alike.pure (k := 0) a

theorem bind {f : Evaluation α} {g : α → Evaluation β} (hf : Steady f) (hg : ∀ a, Steady (g a)) :
    Steady (f >>= g) :=
  coupling_alike.bind (k := 0) hf hg

theorem forEach {f : α → Evaluation β} (hf : ∀ x, Steady (f x)) (xs : List α) :
    Steady (forEach f xs) :=
  coupling_alike.forEach (k := 0) hf xs

theorem keepWhere {test : α → Evaluation Bool} (htest : ∀ x, Steady (test x)) (xs : List α) :
    Steady (keepWhere test xs) :=
  coupling_alike.keepWhere (k := 0) htest xs

end Steady

/-! ## Outcomes of sequences -/

/-- What an evaluation comes to, from its start. -/
def outcome (c : Context) (f : Evaluation α) : Option α := (f c {}).map (·.1)

theorem outcome_pure (a : α) : outcome c (pure a) = some a := rfl

theorem outcome_bind (hc : c.options.stepBudget = none) (f : Evaluation α) {g : α → Evaluation β}
    (hg : ∀ a, Steady (g a)) :
    outcome c (f >>= g) = (outcome c f).bind fun a => outcome c (g a) := by
  rw [outcome, map_bind_apply, outcome, Option.bind_map]
  exact Option.bind_congr fun r _ => hg r.1 c hc r.2 {}

theorem outcome_map (f : Evaluation α) (g : α → β) :
    outcome c (f >>= fun a => pure (g a)) = (outcome c f).map g := by
  rw [outcome, map_bind_apply, outcome]
  cases f c {} <;> rfl

theorem outcome_guard (hc : c.options.stepBudget = none) {missing : α} {f : Evaluation α}
    (hf : Steady f) : outcome c (do if !(← tick) then return missing else f) = outcome c f := by
  rw [outcome, map_bind_apply, tick_of_unbounded hc]
  exact hf c hc _ {}

/-- A node that starts with one of its parts. -/
theorem outcome_node (hc : c.options.stepBudget = none) {missing : β} {f : Evaluation α}
    {g : α → Evaluation β} (hf : Steady f) (hg : ∀ a, Steady (g a)) :
    outcome c (do if !(← tick) then return missing else f >>= g)
      = (outcome c f).bind fun a => outcome c (g a) := by
  rw [outcome_guard hc (hf.bind hg), outcome_bind hc f hg]

theorem outcome_forEach (hc : c.options.stepBudget = none) {f : α → Evaluation β}
    (hf : ∀ x, Steady (f x)) (xs : List α) :
    outcome c (forEach f xs) = xs.mapM fun x => outcome c (f x) := by
  induction xs with
  | nil => rfl
  | cons x xs ih =>
      rw [List.mapM_cons, forEach,
        outcome_bind hc _ fun y => (Steady.forEach hf xs).bind fun ys => .pure _]
      simp only [outcome_map, ih, Option.map_eq_bind]
      rfl

/-- The elements that pass a test, as far as it can be decided. -/
def passing (test : α → Option Bool) : List α → Option (List α)
  | [] => some []
  | x :: xs => do
    let keep ← test x
    let rest ← passing test xs
    return if keep then x :: rest else rest

theorem outcome_keepWhere (hc : c.options.stepBudget = none) {test : α → Evaluation Bool}
    (htest : ∀ x, Steady (test x)) (xs : List α) :
    outcome c (keepWhere test xs) = passing (fun x => outcome c (test x)) xs := by
  induction xs with
  | nil => rfl
  | cons x xs ih =>
      rw [passing, keepWhere,
        outcome_bind hc _ fun keep => (Steady.keepWhere htest xs).bind fun rest => .pure _]
      simp only [outcome_map, ih, Option.map_eq_bind]
      rfl

end Evaluation

/-! ## Outcomes of expressions -/

namespace Expr

variable {c : Context}

theorem steady_evalAt (n : Nat) (e : Expr) (v : Value) : Steady (evalAt n e v) := by
  induction n generalizing e v with
  | zero => exact fun _ _ _ _ => rfl
  | succ n ih => exact coupling_alike.eval (k := 0) ih e v

theorem steady_eval (n : Nat) (e : Expr) (v : Value) : Steady (e.eval (evalAt n) v) :=
  steady_evalAt (n + 1) e v

/-- What an expression comes to on a value: a value or none, unless references nest too deep. -/
def outcome (c : Context) (e : Expr) (v : Value) : Option (Option Value) :=
  Evaluation.outcome c (e.run v)

/-- Some references may nest in every context. -/
theorem exists_referenceDepth (c : Context) : ∃ n, c.referenceDepth = n + 1 := by
  unfold Context.referenceDepth
  cases c.options.stepBudget with
  | none => exact ⟨0xFFFFF, rfl⟩
  | some budget => exact ⟨budget + 1, rfl⟩

/-- All parts of an expression are evaluated at the depth of the whole. -/
theorem exists_eval (c : Context) : ∃ n, ∀ e v,
    e.outcome c v = Evaluation.outcome c (Expr.eval (evalAt n) e v) := by
  obtain ⟨n, hn⟩ := exists_referenceDepth c
  refine ⟨n, fun e v => ?_⟩
  show Evaluation.outcome c (evalAt c.referenceDepth e v) = _
  rw [hn]
  rfl

/-- How an outcome goes on from a value; where there is none, it stays so. -/
def onward (f : Value → Option (Option Value)) : Option Value → Option (Option Value)
  | none => some none
  | some base => f base

theorem onward_congr {f g : Value → Option (Option Value)} (h : ∀ base, f base = g base) :
    onward f = onward g :=
  congrArg onward (funext h)

/-- Two parts that follow one another, as one. -/
theorem bind_onward {f g h : Value → Option (Option Value)}
    (hh : ∀ base, (f base).bind (onward g) = h base) (found : Option (Option Value)) :
    (found.bind (onward f)).bind (onward g) = found.bind (onward h) := by
  rw [Option.bind_assoc]
  refine Option.bind_congr fun base _ => ?_
  cases base with
  | none => rfl
  | some base => exact hh base

variable (hc : c.options.stepBudget = none) (v : Value)
include hc

theorem outcome_current : Expr.outcome c .current v = some (some v) := by
  obtain ⟨n, hn⟩ := exists_eval c
  rw [hn, Expr.eval, outcome_guard hc (.pure _), outcome_pure]

theorem outcome_field (name : String) :
    Expr.outcome c (.field name) v = some (some ((v.get? name).getD .null)) := by
  obtain ⟨n, hn⟩ := exists_eval c
  rw [hn, Expr.eval, outcome_guard hc (.pure _), outcome_pure]

theorem outcome_index (i : Int) :
    Expr.outcome c (.index i) v = some (some ((do
      let items ← v.items?
      items[← normalizeIndex i items.length]?).getD .null)) := by
  obtain ⟨n, hn⟩ := exists_eval c
  rw [hn, Expr.eval, outcome_guard hc (.pure _), outcome_pure]

theorem outcome_slice (s : Slice) :
    Expr.outcome c (.slice s) v = some (some ((v.items?.map fun items =>
      .array ((s.indices items.length).filterMap (items[·]?))).getD .null)) := by
  obtain ⟨n, hn⟩ := exists_eval c
  rw [hn, Expr.eval]
  cases v.items? with
  | none => rw [outcome_guard hc (.pure _)]; rfl
  | some items => rw [outcome_guard hc (.pure _)]; rfl

theorem outcome_chain (left right : Expr) :
    Expr.outcome c (.chain left right) v
      = (left.outcome c v).bind (onward (right.outcome c)) := by
  obtain ⟨n, hn⟩ := exists_eval c
  rw [hn, Expr.eval]
  refine (outcome_node hc (steady_eval n left v) fun base => ?_).trans ?_
  · cases base with
    | none => exact .pure _
    | some base => exact steady_eval n right base
  · rw [hn]
    refine Option.bind_congr fun base _ => ?_
    cases base with
    | none => rfl
    | some base => exact (hn right base).symm

/-- Whether a value passes a filter: a predicate without a value counts as false. -/
def passes (c : Context) (predicate : Expr) (v : Value) : Option Bool :=
  (predicate.outcome c v).map fun result => (result.map Value.isTruthy).getD false

/-- The elements that a projection goes through, as far as its filter can be decided. -/
def elements (c : Context) (kind : Projection) (base : Value) : Option (Option (List Value)) :=
  match kind with
  | .list => some base.items?
  | .object => some (base.entries?.map fun entries => entries.map (·.2))
  | .flatten => some (base.items?.map Value.flatten)
  | .filter predicate =>
    match base.items? with
    | none => some none
    | some items => (passing (predicate.passes c) items).map some

omit hc in
theorem steady_elements (n : Nat) (kind : Projection) : Steady (kind.elements (evalAt n) v) :=
  coupling_alike.elements (k := 0) (steady_evalAt n) kind v

theorem outcome_elements {n : Nat}
    (hn : ∀ e v, Expr.outcome c e v = Evaluation.outcome c (Expr.eval (evalAt n) e v))
    (kind : Projection) :
    Evaluation.outcome c (kind.elements (evalAt n) v) = elements c kind v := by
  cases kind with
  | list | object | flatten =>
      rw [Projection.elements]
      rfl
  | filter predicate =>
      rw [Projection.elements, elements]
      cases v.items? with
      | none => rfl
      | some items =>
          have hpasses : (fun item => Evaluation.outcome c (do
              return ((← predicate.eval (evalAt n) item).map Value.isTruthy).getD false))
                = predicate.passes c := by
            funext item
            rw [outcome_map, ← hn, passes]
          refine (outcome_map _ _).trans ?_
          rw [outcome_keepWhere hc fun item => (steady_eval n predicate item).bind fun _ => .pure _,
            hpasses]

theorem outcome_project (kind : Projection) (left right : Expr) :
    Expr.outcome c (.project kind left right) v
      = (left.outcome c v).bind (onward fun base =>
          (elements c kind base).bind fun found => found.elim (some (some .null)) fun found =>
            (found.mapM (right.outcome c)).map fun results =>
              some (.array (Value.present results))) := by
  obtain ⟨n, hn⟩ := exists_eval c
  have hright : ∀ item, Steady (right.eval (evalAt n) item) := steady_eval n right
  rw [hn, Expr.eval]
  refine (outcome_node hc (steady_eval n left v) fun base => ?_).trans ?_
  · cases base with
    | none => exact .pure _
    | some base =>
        refine Steady.bind (steady_elements base n kind) fun found => ?_
        cases found with
        | none => exact .pure _
        | some found => exact (Steady.forEach hright found).bind fun _ => .pure _
  · rw [hn]
    refine Option.bind_congr fun base _ => ?_
    cases base with
    | none => rfl
    | some base =>
        refine (outcome_bind hc _ fun found => ?_).trans ?_
        · cases found with
          | none => exact .pure _
          | some found => exact (Steady.forEach hright found).bind fun _ => .pure _
        · rw [outcome_elements hc base hn]
          refine Option.bind_congr fun found _ => ?_
          cases found with
          | none => rfl
          | some found =>
              refine (outcome_map _ _).trans ?_
              simp only [outcome_forEach hc hright, ← hn, Option.elim_some]

end Expr

/-! ## Searching without a step budget -/

/-- What an evaluation on a document reads where it has no step budget. -/
def Context.unbounded (document : Json) (maxDepth : Nat) : Context :=
  ⟨.ofJson document, ⟨maxDepth, none⟩⟩

namespace Query

variable {q : Query} {document : Json} {maxDepth : Nat}

theorem evaluate_unbounded (q : Query) (document : Json) (maxDepth : Nat) :
    (q.evaluate document ⟨maxDepth, none⟩).map (·.1)
      = (q.expr.outcome (.unbounded document maxDepth) (.ofJson document)).elim
          (.error .referencesTooDeep) .ok := by
  have hrun : (do q.expr.run (← Evaluation.root)) ⟨.ofJson document, ⟨maxDepth, none⟩⟩ {}
      = q.expr.run (.ofJson document) (.unbounded document maxDepth) {} := rfl
  unfold evaluate Evaluation.complete Expr.outcome Evaluation.outcome
  rw [hrun]
  cases q.expr.run (.ofJson document) (.unbounded document maxDepth) {} <;> rfl

/-- A value that was found is the outcome of the expression. -/
theorem outcome_of_evaluate {value : Option Value} {progress : Progress}
    (h : q.evaluate document ⟨maxDepth, none⟩ = .ok (value, progress)) :
    q.expr.outcome (.unbounded document maxDepth) (.ofJson document) = some value := by
  have hmap := q.evaluate_unbounded document maxDepth
  rw [h] at hmap
  cases hout : q.expr.outcome (.unbounded document maxDepth) (.ofJson document) with
  | none =>
      rw [hout] at hmap
      cases hmap
  | some found =>
      rw [hout] at hmap
      exact congrArg some (Except.ok.inj hmap).symm

theorem search_unbounded (q : Query) (document : Json) (maxDepth : Nat) :
    q.search document ⟨maxDepth, none⟩
      = (q.expr.outcome (.unbounded document maxDepth) (.ofJson document)).elim
          (.error .referencesTooDeep) fun value => .ok ((value.map Value.toJson).getD .null) := by
  have hmap : q.search document ⟨maxDepth, none⟩
      = ((q.evaluate document ⟨maxDepth, none⟩).map (·.1)).map fun value =>
          (value.map Value.toJson).getD .null := by
    unfold search
    cases q.evaluate document ⟨maxDepth, none⟩ <;> rfl
  rw [hmap, evaluate_unbounded]
  cases q.expr.outcome (.unbounded document maxDepth) (.ofJson document) <;> rfl

end Query

end JsonQuery
