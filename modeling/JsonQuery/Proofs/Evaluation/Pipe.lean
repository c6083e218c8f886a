/-
# JsonQuery.Proofs.Evaluation.Pipe — a pipe composes searches.

The right side of a pipe is evaluated on what the left side came to, under the root of the document
that the left side was evaluated on, and after the steps that it took.  Neither matters: no
expression looks at the root, and without a budget the steps decide nothing.  What the left side came to
is a mix of views of the document and of what was computed, where a search of its own has the view of one
document, the one that is written for it.  That does not matter either, since both show the same value,
as far as it is read back from what is written.
-/
import JsonQuery.Proofs.Evaluation.Outcome
import JsonQuery.Proofs.Held.Evaluation

namespace JsonQuery

open Evaluation

/-! ## The root is not looked at -/

/-- Evaluators that take the same course in two contexts; only the limits of a context are read. -/
theorem coupling_contexts {c c' : Context} (hoptions : c.options = c'.options) :
    Coupling fun _ {_} f g => ∀ p, f c p = g c' p where
  pure _ := fun _ => rfl
  bind hf hg := by
    intro p
    rw [bind_apply, bind_apply, hf p]
    exact Option.bind_congr fun r _ => hg r.1 r.2
  later h := h
  guard hf := by
    intro p
    have htick : tick c p = tick c' p := by rw [tick, tick, hoptions]
    rw [bind_apply, bind_apply, htick]
    refine Option.bind_congr fun r _ => ?_
    cases r.1 with
    | false => rfl
    | true => exact hf r.2

/-- Whatever the budget, an expression takes the same course below every root. -/
theorem Expr.evalAt_congr_root (n : Nat) (e : Expr) (v root root' : Value) (options : Options)
    (p : Progress) : evalAt n e v ⟨root, options⟩ p = evalAt n e v ⟨root', options⟩ p := by
  induction n generalizing e v p with
  | zero => rfl
  | succ n ih =>
      have hcoupling : Coupling fun _ {_} f g =>
          ∀ p, f ⟨root, options⟩ p = g ⟨root', options⟩ p := coupling_contexts rfl
      exact hcoupling.eval (k := 0) ih e v p

/-! ## Pipes -/

namespace Expr

variable {n m : Nat}

/-- A greater depth keeps what an expression comes to. -/
theorem outcome_evalAt_mono {c : Context} (hnm : n ≤ m) {e : Expr} {v : Value}
    {found : Option Value} (h : Evaluation.outcome c (evalAt n e v) = some found) :
    Evaluation.outcome c (evalAt m e v) = some found := by
  obtain ⟨r, hrun, rfl⟩ := Option.map_eq_some_iff.mp h
  rw [Evaluation.outcome, evalAt_mono hnm e v c {} r hrun]
  rfl

/-- Two depths that both suffice come to the same. -/
theorem outcome_evalAt_unique {c : Context} {e : Expr} {v : Value} {found other : Option Value}
    (hfound : Evaluation.outcome c (evalAt n e v) = some found)
    (hother : Evaluation.outcome c (evalAt m e v) = some other) : found = other := by
  have hleft := outcome_evalAt_mono (Nat.le_max_left n m) hfound
  have hright := outcome_evalAt_mono (Nat.le_max_right n m) hother
  exact Option.some.inj (hleft.symm.trans hright)

/-- At every depth of references, the right side goes on from the value of the left side, from
`null` if there is none. -/
theorem outcome_evalAt_pipe {c : Context} (hc : c.options.stepBudget = none) (n : Nat)
    (left right : Expr) (v : Value) : Evaluation.outcome c (evalAt n (.pipe left right) v)
      = (Evaluation.outcome c (evalAt n left v)).bind fun base =>
          Evaluation.outcome c (evalAt n right (base.getD .null)) := by
  cases n with
  | zero => rfl
  | succ n =>
      rw [evalAt_succ, Expr.eval]
      exact outcome_node hc (steady_eval n left v) fun base => steady_eval n right (base.getD .null)

/-- On a kept value an expression comes to the same as on the document that is written for it. -/
theorem outcome_evalAt_written (n : Nat) (e : Expr) {v : Value} (hkept : v.isKept = true)
    (document : Json) (maxDepth : Nat) :
    Evaluation.outcome (.unbounded document maxDepth) (evalAt n e v)
      = Evaluation.outcome (.unbounded v.toJson maxDepth) (evalAt n e (.ofJson v.toJson)) := by
  rw [Value.ofJson_toJson v hkept]
  exact congrArg (Option.map (·.1)) (evalAt_congr_root n e v _ _ _ {})

/-- What a pipe comes to within the depth that a search allows. -/
theorem outcome_pipe {c : Context} (hc : c.options.stepBudget = none) (left right : Expr)
    (v : Value) : (Expr.pipe left right).outcome c v
      = (left.outcome c v).bind fun base => right.outcome c (base.getD .null) :=
  outcome_evalAt_pipe hc c.referenceDepth left right v

theorem outcome_written (e : Expr) {v : Value} (hkept : v.isKept = true) (document : Json)
    (maxDepth : Nat) : e.outcome (.unbounded document maxDepth) v
      = e.outcome (.unbounded v.toJson maxDepth) (.ofJson v.toJson) :=
  outcome_evalAt_written (Context.referenceDepth _) e hkept document maxDepth

end Expr

namespace Query

variable {q : Query} {source : String} {left : Expr} {document : Json} {maxDepth : Nat}
  {value : Option Value} {progress : Progress}

/-- A search ends with a value if some depth of references suffices for it. -/
theorem endsWith_iff : (∃ progress, q.EndsWith document maxDepth value progress) ↔
    ∃ n, Evaluation.outcome (.unbounded document maxDepth)
      (Expr.evalAt n q.expr (.ofJson document)) = some value := by
  constructor
  · rintro ⟨progress, n, hrun⟩
    refine ⟨n, ?_⟩
    rw [Evaluation.outcome, Context.unbounded, hrun]
    rfl
  · rintro ⟨n, houtcome⟩
    obtain ⟨⟨_, progress⟩, hrun, rfl⟩ := Option.map_eq_some_iff.mp houtcome
    exact ⟨progress, n, hrun⟩

/-- On values, the right side goes on from the value of the left side as it does on the document that is
written for it. -/
theorem search_pipe (hleft : Query.EndsWith ⟨source, left⟩ document maxDepth value progress)
    (hkept : (value.getD .null).isKept = true) (right : Expr) (whole other : String) :
    (∀ result,
      (∃ progress, Query.EndsWith ⟨whole, .pipe left right⟩ document maxDepth result progress)
        ↔ ∃ progress,
            Query.EndsWith ⟨other, right⟩ (value.getD .null).toJson maxDepth result progress)
    ∧ ((∃ ended, Query.evaluate ⟨source, left⟩ document ⟨maxDepth, none⟩ = .ok ended) →
        Query.search ⟨whole, .pipe left right⟩ document ⟨maxDepth, none⟩
          = Query.search ⟨other, right⟩ (value.getD .null).toJson ⟨maxDepth, none⟩) := by
  obtain ⟨depth, hdepth⟩ := endsWith_iff.mp ⟨progress, hleft⟩
  constructor
  · intro result
    rw [endsWith_iff, endsWith_iff]
    constructor
    · rintro ⟨n, hpipe⟩
      rw [Expr.outcome_evalAt_pipe rfl, Option.bind_eq_some_iff] at hpipe
      obtain ⟨base, hbase, hright⟩ := hpipe
      obtain rfl := Expr.outcome_evalAt_unique hbase hdepth
      rw [Expr.outcome_evalAt_written n right hkept] at hright
      exact ⟨n, hright⟩
    · rintro ⟨n, hright⟩
      rw [← Expr.outcome_evalAt_written n right hkept document] at hright
      have hbase := Expr.outcome_evalAt_mono (Nat.le_max_right n depth) hdepth
      refine ⟨max n depth, ?_⟩
      rw [Expr.outcome_evalAt_pipe rfl, hbase, Option.bind_some]
      exact Expr.outcome_evalAt_mono (Nat.le_max_left n depth) hright
  · rintro ⟨⟨reached, steps⟩, hevaluate⟩
    have hbase := outcome_of_evaluate hevaluate
    obtain rfl := Expr.outcome_evalAt_unique hbase hdepth
    rw [search_unbounded, search_unbounded, Expr.outcome_pipe rfl, hbase, Option.bind_some,
      Expr.outcome_written right hkept document]

end Query

/-! ## Searches on views -/

namespace Query

variable {q : Query} {source : String} {left right : Expr} {document found : Json} {maxDepth : Nat}
  {held : Option Held} {progress : Progress}

/-- **`q.EndsHolding document maxDepth held progress`** — the search of a query in a document that it
views ends, without a step budget and without a limit on references, after some progress: what it holds
then is what it found, if there is something. -/
def EndsHolding (q : Query) (document : Json) (maxDepth : Nat) (held : Option Held)
    (progress : Progress) : Prop :=
  ∃ n, Expr.interpretAt n q.expr (.ofJson document) ⟨.ofJson document, ⟨maxDepth, none⟩⟩ {} =
    some (held, progress)

/-- **`q.EndsFinding document maxDepth found`** — such a search ends, and `found` is written for what it
holds then, `null` if there is nothing. -/
def EndsFinding (q : Query) (document : Json) (maxDepth : Nat) (found : Json) : Prop :=
  ∃ held progress, q.EndsHolding document maxDepth held progress ∧
    (held.map Held.toJson).getD .null = found

/-- What a search holds shows what the evaluation on values ends with. -/
theorem EndsHolding.endsWith (h : q.EndsHolding document maxDepth held progress)
    (hdocument : document.IsRestored) (hq : q.expr.Everywhere Expr.RestoredLiteral) :
    ∃ value, q.EndsWith document maxDepth value progress ∧ Option.Rel Held.Shows held value := by
  obtain ⟨n, hrun⟩ := h
  obtain ⟨hnone, -⟩ | ⟨found, value, q', hfound, hvalue, hshows⟩ :=
    Expr.interpretAt_evalAt n _ hdocument hq
  · cases hnone.symm.trans hrun
  · cases hfound.symm.trans hrun
    exact ⟨value, ⟨n, hvalue⟩, hshows⟩

theorem endsFinding_iff (hdocument : document.IsRestored)
    (hq : q.expr.Everywhere Expr.RestoredLiteral) :
    q.EndsFinding document maxDepth found ↔ ∃ value, (value.map Value.toJson).getD .null = found ∧
      ∃ progress, q.EndsWith document maxDepth value progress := by
  constructor
  · rintro ⟨held, progress, hends, rfl⟩
    obtain ⟨value, hvalue, hshows⟩ := hends.endsWith hdocument hq
    exact ⟨value, (toJson_getD_eq hshows).symm, progress, hvalue⟩
  · rintro ⟨value, rfl, progress, n, hrun⟩
    obtain ⟨-, hnone⟩ | ⟨held, reached, q', hheld, hreached, hshows⟩ :=
      Expr.interpretAt_evalAt n _ hdocument hq
    · cases hnone.symm.trans hrun
    · cases hreached.symm.trans hrun
      exact ⟨held, progress, ⟨n, hheld⟩, toJson_getD_eq hshows⟩

/-- **`find_pipe`** — where the left side ends holding what a document keeps, taken as `null` if it holds
nothing, the pipe finds what the right side finds in the document that is written for it.  If the left
side keeps to the depth of references that a search allows, this holds of the searches as well, whether
the right side finds something or nests too deep. -/
theorem find_pipe (hdocument : document.isProper = true) (hleft : left.Everywhere Expr.ProperLiteral)
    (hright : right.Everywhere Expr.ProperLiteral)
    (hends : EndsHolding ⟨source, left⟩ document maxDepth held progress)
    (hkept : (held.getD .null).isKept = true) (whole other : String) :
    (∀ found, EndsFinding ⟨whole, .pipe left right⟩ document maxDepth found ↔
      EndsFinding ⟨other, right⟩ (held.getD .null).toJson maxDepth found)
    ∧ ((∃ ended, interpret ⟨source, left⟩ document ⟨maxDepth, none⟩ = .ok ended) →
        find ⟨whole, .pipe left right⟩ document ⟨maxDepth, none⟩ =
          find ⟨other, right⟩ (held.getD .null).toJson ⟨maxDepth, none⟩) := by
  have hrestored := Json.isRestored_of_isProper hdocument
  have hl := Expr.everywhere_restoredLiteral hleft
  have hr := Expr.everywhere_restoredLiteral hright
  have hpipe : (Expr.pipe left right).Everywhere Expr.RestoredLiteral := by
    refine Expr.everywhere_iff.mpr ⟨trivial, ?_⟩
    simpa [Expr.children] using And.intro hl hr
  obtain ⟨value, hvalue, hshows⟩ := hends.endsWith hrestored hl
  -- What is held and what is viewed of its document show the same value.
  have hshown : Held.Shows (held.getD .null) (value.getD .null) := Held.Shows.getD hshows
  have hkeptValue := hshown.isKept hkept
  rw [hshown.toJson_eq]
  have hwritten := Json.isRestored_toJson hkeptValue
  obtain ⟨hfound, hsearch⟩ := search_pipe hvalue hkeptValue right whole other
  constructor
  · intro found
    rw [endsFinding_iff hrestored hpipe, endsFinding_iff hwritten hr]
    exact exists_congr fun result => and_congr_right fun _ => hfound result
  · rintro ⟨ended, hinterpret⟩
    rw [find_eq_search hrestored hpipe, find_eq_search hwritten hr]
    apply hsearch
    obtain ⟨e, herror, -⟩ | ⟨_, reached, steps, -, hevaluate, -⟩ :=
      @interpret_evaluate ⟨source, left⟩ document ⟨maxDepth, none⟩ hrestored hl
    · cases herror.symm.trans hinterpret
    · exact ⟨(reached, steps), hevaluate⟩

/-- The left side builds a list of its own, of an object of the document and of a computed one. -/
theorem find_pipe_list :
    let document : Json := .object [("a", .string "y"), ("b", .object [("c", .string "x")])]
    let held : Held := .ownArray [.viewObject [("c", .string "x")], .ownObject [("c", .string "y")]]
    let written : Json := .array [.object [("c", .string "x")], .object [("c", .string "y")]]
    ∃ left right whole, compile "[b, {c: a}]" = .ok left ∧ compile "[*].c" = .ok right
      ∧ compile "[b, {c: a}] | [*].c" = .ok whole
      ∧ left.EndsHolding document 100 (some held) ⟨4, []⟩ ∧ held.isKept = true
      ∧ held.toJson = written
      ∧ whole.find document ⟨100, none⟩ = right.find written ⟨100, none⟩
      ∧ right.find written ⟨100, none⟩ = .ok (.array [.string "x", .string "y"]) := by
  intro document held written
  let leftTree : Expr := .list [.field "b", .hash [("c", .field "a")]]
  let rightTree : Expr := .project .list .current (.field "c")
  have hleaf := fun e => Expr.everywhere_leaf (Q := Expr.ProperLiteral) e
  have hleft : leftTree.Everywhere Expr.ProperLiteral := by
    have hhash : (Expr.hash [("c", .field "a")]).Everywhere Expr.ProperLiteral :=
      Expr.everywhere_iff.mpr ⟨trivial, by simpa [Expr.children] using hleaf (.field "a") trivial rfl⟩
    exact Expr.everywhere_iff.mpr ⟨trivial, by
      simpa [leftTree, Expr.children] using ⟨hleaf (.field "b") trivial rfl, hhash⟩⟩
  have hright : rightTree.Everywhere Expr.ProperLiteral :=
    Expr.everywhere_iff.mpr ⟨trivial, by
      simpa [rightTree, Expr.children] using
        ⟨hleaf .current trivial rfl, hleaf (.field "c") trivial rfl⟩⟩
  have hdocument : document.isProper = true := by decide +kernel
  have hends : EndsHolding ⟨"[b, {c: a}]", leftTree⟩ document 100 (some held) ⟨4, []⟩ := ⟨1, rfl⟩
  have hkept : held.isKept = true := by decide
  obtain ⟨-, hfind⟩ :=
    find_pipe hdocument hleft hright hends hkept "[b, {c: a}] | [*].c" "[*].c"
  exact ⟨⟨"[b, {c: a}]", leftTree⟩, ⟨"[*].c", rightTree⟩,
    ⟨"[b, {c: a}] | [*].c", .pipe leftTree rightTree⟩, rfl, rfl, rfl, hends, hkept, rfl,
    hfind ⟨(some held, ⟨4, []⟩), rfl⟩, rfl⟩

end Query

end JsonQuery
