/-
# JsonQuery.Proofs.Evaluation.MemberOrder — the order of members does not get into results.

A query without object wildcards, and without calls that show the order of entries, is asked of two
documents that differ in the order of the members of objects alone.  Its evaluation takes the same
steps on both, and what it finds differs in the order of members again, if it finds anything.
-/
import JsonQuery.Proofs.Evaluation.Depth
import JsonQuery.Proofs.Evaluation.Mirroring
import JsonQuery.Proofs.Value.Reordered

namespace JsonQuery

open Evaluation
open Value (Akin)

/-- **`Rewritten value other`** — two results are written as documents that differ in the order of
members alone, or there is neither. -/
abbrev Value.Rewritten (value other : Option Value) : Prop :=
  Option.Rel (fun v w => v.toJson.Reordered w.toJson) value other

theorem Value.rewritten_of_akin {value other : Option Value} (h : Option.Rel Akin value other) :
    Value.Rewritten value other := by
  cases h with
  | none => exact .none
  | some hakin => exact .some (Value.reordered_toJson _ hakin)

theorem Value.reordered_of_rewritten {value other : Option Value} (h : Value.Rewritten value other) :
    ((value.map Value.toJson).getD .null).Reordered ((other.map Value.toJson).getD .null) := by
  cases h with
  | none => exact .refl _
  | some hreordered => exact hreordered

/-! ## Evaluations asked of two documents -/

/-- Evaluations that mirror each other spend the same budget, or come to related results after the same
progress. -/
theorem Evaluation.Mirrors.complete {α : Type} {R : α → α → Prop} {f g : Evaluation α}
    (h : Mirrors R f g) (d d' : Json) (options : Options) :
    (∃ error, f.complete d options = .error error ∧ g.complete d' options = .error error) ∨
      ∃ a b p, f.complete d options = .ok (a, p) ∧ g.complete d' options = .ok (b, p) ∧ R a b := by
  have hrun := @h ⟨.ofJson d, options⟩ ⟨.ofJson d', options⟩ {} rfl
  unfold Evaluation.complete
  obtain ⟨hf, hg⟩ | ⟨a, b, p, hf, hg, hab⟩ := hrun
  · rw [hf, hg]
    exact .inl ⟨_, rfl, rfl⟩
  · rw [hf, hg]
    -- The budget is compared with the steps, and these are the same.
    cases options.stepBudget with
    | none => exact .inr ⟨a, b, p, rfl, rfl, hab⟩
    | some budget =>
        by_cases hspent : budget < p.steps
        · exact .inl ⟨_, if_pos hspent, if_pos hspent⟩
        · exact .inr ⟨a, b, p, if_neg hspent, if_neg hspent, hab⟩

variable {d d' : Json}

/-- At every depth of references, an expression is evaluated alike on documents that are reordered. -/
theorem Expr.mirrors_evalAt (n : Nat) {e : Expr} (he : e.Everywhere Expr.OrderBlind)
    (hd : d.hasUniqueNames = true) (h : d.Reordered d') :
    Mirrors (Option.Rel Akin) (evalAt n e (.ofJson d)) (evalAt n e (.ofJson d')) :=
  (attends_evalAt n).mirrors e (.ofJson d) (.ofJson d') he (h.akin hd) (Value.refersOnly_ofJson d)

namespace Query

/-- **`evaluate_reordered`** — a query that nowhere has an object wildcard or a call of `keys`, `values`
or `to_string` is asked of two documents that differ in the order of members alone, and that repeat no
name in an object, as no document does that is read from a text.  If it ends on one of them, it ends on
the other after the same steps, with a result that differs in the order of members alone, or with none
on either.  The same holds within the limits of a search, which fails on both documents for the same
reason or on neither. -/
theorem evaluate_reordered (q : Query) (hq : q.expr.Everywhere Expr.OrderBlind)
    (hd : d.hasUniqueNames = true) (h : d.Reordered d') :
    (∀ maxDepth value progress, q.EndsWith d maxDepth value progress →
      ∃ other, q.EndsWith d' maxDepth other progress ∧ Value.Rewritten value other) ∧
    (∀ options,
      (∃ error, q.evaluate d options = .error error ∧ q.evaluate d' options = .error error) ∨
      ∃ value other progress, q.evaluate d options = .ok (value, progress) ∧
        q.evaluate d' options = .ok (other, progress) ∧ Value.Rewritten value other) ∧
    ∀ options,
      (∃ error, q.search d options = .error error ∧ q.search d' options = .error error) ∨
      ∃ found found', q.search d options = .ok found ∧ q.search d' options = .ok found' ∧
        found.Reordered found' := by
  have hevaluate : ∀ options,
      (∃ error, q.evaluate d options = .error error ∧ q.evaluate d' options = .error error) ∨
      ∃ value other progress, q.evaluate d options = .ok (value, progress) ∧
        q.evaluate d' options = .ok (other, progress) ∧ Value.Rewritten value other := by
    intro options
    -- The depth of references that a search allows does not depend on the document.
    let depth := Context.referenceDepth ⟨.null, options⟩
    have hdepth : ∀ document, q.evaluate document options =
        Evaluation.complete (Expr.evalAt depth q.expr (.ofJson document)) document options :=
      fun document => rfl
    rw [hdepth, hdepth]
    obtain herror | ⟨value, other, progress, hvalue, hother, hakin⟩ :=
      (Expr.mirrors_evalAt depth hq hd h).complete d d' options
    · exact .inl herror
    · exact .inr ⟨value, other, progress, hvalue, hother, Value.rewritten_of_akin hakin⟩
  refine ⟨?ending, hevaluate, ?searching⟩
  case ending =>
    rintro maxDepth value progress ⟨n, hrun⟩
    have hmirrors := Expr.mirrors_evalAt n hq hd h
    obtain ⟨hnone, -⟩ | ⟨value', other, progress', hvalue, hother, hakin⟩ :=
      @hmirrors ⟨.ofJson d, maxDepth, none⟩ ⟨.ofJson d', maxDepth, none⟩ {} rfl
    · rw [hnone] at hrun
      cases hrun
    · rw [hvalue] at hrun
      cases hrun
      exact ⟨other, ⟨n, hother⟩, Value.rewritten_of_akin hakin⟩
  case searching =>
    intro options
    obtain ⟨error, hleft, hright⟩ | ⟨value, other, progress, hleft, hright, hrewritten⟩ :=
      hevaluate options
    · refine .inl ⟨error, ?_, ?_⟩
      · rw [search, hleft]
        rfl
      · rw [search, hright]
        rfl
    · refine .inr ⟨_, _, ?_, ?_, Value.reordered_of_rewritten hrewritten⟩
      · rw [search, hleft]
        rfl
      · rw [search, hright]
        rfl

/-- A merged object and the greatest member by what a reference finds, in a document whose objects are
turned round at two levels. -/
theorem evaluate_reordered_merged :
    let q : Query := ⟨"[merge(a, @), max_by(b, &y)]",
      .list [.call (.ofBuiltin .merge) [.field "a", .current],
        .call (.ofBuiltin .maxBy) [.field "b", .reference 1 (.field "y")]]⟩
    let inner : Json := .object [("x", .null), ("y", .string "z")]
    let turned : Json := .object [("y", .string "z"), ("x", .null)]
    let document : Json := .object [("a", inner), ("b", .array [inner])]
    let other : Json := .object [("b", .array [inner]), ("a", turned)]
    q.expr.Everywhere Expr.OrderBlind ∧ document.hasUniqueNames = true ∧ document.Reordered other ∧
      Json.Reordered
        (.array [.object [("x", .null), ("y", .string "z"), ("a", inner), ("b", .array [inner])], inner])
        (.array [.object [("y", .string "z"), ("x", .null), ("b", .array [inner]), ("a", turned)],
          inner]) := by
  intro q inner turned document other
  have hq : q.expr.Everywhere Expr.OrderBlind := by
    have hleaf := fun e => Expr.everywhere_leaf (Q := Expr.OrderBlind) e
    have hreference : (Expr.reference 1 (.field "y")).Everywhere Expr.OrderBlind :=
      Expr.everywhere_iff.mpr ⟨trivial, by simpa [Expr.children] using hleaf (.field "y") trivial rfl⟩
    have hmerge : (Expr.call (.ofBuiltin .merge) [.field "a", .current]).Everywhere Expr.OrderBlind :=
      Expr.everywhere_iff.mpr ⟨rfl, by
        simpa [Expr.children] using ⟨hleaf (.field "a") trivial rfl, hleaf .current trivial rfl⟩⟩
    have hmax : (Expr.call (.ofBuiltin .maxBy) [.field "b", .reference 1 (.field "y")]).Everywhere
        Expr.OrderBlind :=
      Expr.everywhere_iff.mpr ⟨rfl, by
        simpa [Expr.children] using ⟨hleaf (.field "b") trivial rfl, hreference⟩⟩
    exact Expr.everywhere_iff.mpr ⟨trivial, by simpa [q, Expr.children] using ⟨hmerge, hmax⟩⟩
  have hunique : document.hasUniqueNames = true := by decide
  have hother : document.Reordered other := by
    have hinner : inner.Reordered turned := .members (.swap _ _ _)
    have hmember := Json.Reordered.member "a" [] [("b", .array [inner])] hinner
    exact hmember.trans (.members (.swap _ _ _))
  obtain ⟨-, -, hsearch⟩ := q.evaluate_reordered hq hunique hother
  have hfirst : q.search document = .ok (.array [.object [("x", .null), ("y", .string "z"),
      ("a", inner), ("b", .array [inner])], inner]) := by
    rfl
  have hsecond : q.search other = .ok (.array [.object [("y", .string "z"), ("x", .null),
      ("b", .array [inner]), ("a", turned)], inner]) := by
    rfl
  refine ⟨hq, hunique, hother, ?_⟩
  obtain ⟨error, hfails, -⟩ | ⟨found, found', hfound, hfound', hreordered⟩ := hsearch {}
  · rw [hfirst] at hfails
    cases hfails
  · rw [hfirst] at hfound
    rw [hsecond] at hfound'
    cases hfound
    cases hfound'
    exact hreordered

end Query

end JsonQuery
