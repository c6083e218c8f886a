/-
# JsonQuery.Proofs.Evaluation.Keeping — properties of values that evaluation keeps.

What an expression evaluates to is made of the current value, of what stands in the tree — literals,
objects that are written out, references — and of what operations make of these.  So a property that
values hand down to their parts holds of every result, if it holds of the current value and of what the
nodes of the tree bring in.
-/
import JsonQuery.Proofs.Evaluation.Depth
import JsonQuery.Proofs.Evaluation.Judgment
import JsonQuery.Proofs.Expr.Nodes
import JsonQuery.Query

namespace JsonQuery

open Evaluation

/-! ## Evaluations and what they come to -/

namespace Evaluation

variable {α β : Type}

/-- **`Returns R f`** — whatever `f` comes to satisfies `R`. -/
def Returns (R : α → Prop) (f : Evaluation α) : Prop :=
  ∀ ⦃c p a q⦄, f c p = some (a, q) → R a

namespace Returns

variable {R : α → Prop} {T : β → Prop}

theorem pure {a : α} (h : R a) : Returns R (Pure.pure a : Evaluation α) := by
  intro c p b q hb
  cases hb
  exact h

theorem bind {f : Evaluation α} {g : α → Evaluation β} (hf : Returns R f)
    (hg : ∀ a, R a → Returns T (g a)) : Returns T (f >>= g) := by
  intro c p b q hb
  obtain ⟨a, p', ha, hb⟩ := bind_eq_some.mp hb
  exact hg a (hf ha) hb

theorem any (f : Evaluation α) : Returns (fun _ => True) f :=
  fun _ _ _ _ _ => trivial

theorem judgment : Judgment @Returns where
  pure := pure
  bind := bind
  tick := any tick

theorem imp {R' : α → Prop} {f : Evaluation α} (hf : Returns R f) (h : ∀ a, R a → R' a) :
    Returns R' f :=
  judgment.imp hf h

theorem guard {missing : α} {f : Evaluation α} (hmissing : R missing) (hf : Returns R f) :
    Returns R (do if !(← tick) then return missing else f) :=
  judgment.guard hmissing hf

end Returns

end Evaluation

/-! ## What the nodes bring in -/

/-- **`Keeps Q S`** — where every node satisfies `Q`, what the tree brings into values has the
hereditary property `S`: literals, objects with the names that are written, references to the trees
themselves. -/
structure Keeps (Q : Expr → Prop) (S : Value → Prop) : Prop extends Value.Hereditary S where
  literal : ∀ {json}, Q (.literal json) → S (.ofJson json)
  hash : ∀ {written : List (String × Expr)} {entries : Entries Value}, Q (.hash written) →
    entries.names = Entries.names written → (∀ entry ∈ entries, S entry.2) → S (.object entries)
  reference : ∀ {id body}, S (.reference id body) ↔ body.Everywhere Q

namespace Keeps

variable {Q : Expr → Prop} {S : Value → Prop} {apply : Apply}

/-- **`Applies Q S apply`** — references with `Q` everywhere are applied to values with `S` so that `S`
is kept. -/
def Applies (Q : Expr → Prop) (S : Value → Prop) (apply : Apply) : Prop :=
  ∀ body v, body.Everywhere Q → S v → Returns (fun r => ∀ w ∈ r, S w) (apply body v)

/-! ## Calls -/

theorem returns_call (h : Keeps Q S) (happly : Applies Q S apply) (b : Builtin) {args : List Value}
    (hargs : ∀ arg ∈ args, S arg) : Returns (fun r => ∀ w ∈ r, S w) (b.call apply args) := by
  refine Returns.judgment.call h.toHereditary ?_ fun i arg _ harg =>
    hargs arg (List.mem_of_getElem? harg)
  intro i id body _ hreference v hv
  exact happly body v (h.reference.mp (hargs _ (List.mem_of_getElem? hreference))) hv

/-! ## Nodes -/

/-- Arguments keep `S` if each of them does. -/
theorem returns_args {args : List Expr} {v : Value}
    (hargs : ∀ arg ∈ args, Returns (fun r => ∀ w ∈ r, S w) (arg.eval apply v)) :
    Returns (fun r => ∀ vs ∈ r, ∀ w ∈ vs, S w) (Expr.evalArgs apply args v) := by
  have hplaces := Returns.judgment.evalArgs (P := fun _ => S) fun i arg harg =>
    hargs arg (List.mem_of_getElem? harg)
  refine hplaces.imp fun r hr vs hvs w hw => ?_
  obtain ⟨i, hi⟩ := List.getElem?_of_mem hw
  exact (hr vs hvs).2 i w hi

/-- **`Keeps.returns_eval`** — evaluation of a tree with `Q` everywhere keeps `S`, if the application of
references does. -/
theorem returns_eval (h : Keeps Q S) (happly : Applies Q S apply) (e : Expr) {v : Value}
    (he : e.Everywhere Q) (hv : S v) : Returns (fun r => ∀ w ∈ r, S w) (e.eval apply v) := by
  have hliteral : ∀ json, e = .literal json → S (.ofJson json) := by
    rintro json rfl
    exact h.literal he.self
  have hhash : ∀ (written : List (String × Expr)) (entries : Entries Value), e = .hash written →
      entries.names = Entries.names written → (∀ entry ∈ entries, S entry.2) →
      S (.object entries) := by
    rintro written entries rfl
    exact h.hash he.self
  have hparts : ∀ part ∈ e.children, ∀ w, S w →
      Returns (fun r => ∀ u ∈ r, S u) (part.eval apply w) := by
    intro part hpart w hw
    have hsize := Expr.sizeOf_lt_of_mem_children hpart
    exact h.returns_eval happly part (he.part hpart) hw
  cases e with
  | call function args =>
      have hargs := returns_args fun arg harg => hparts arg harg v hv
      simp only [Expr.eval]
      refine .guard (by simp) (hargs.bind fun values hvalues => ?_)
      cases values with
      | none => exact .pure (by simp)
      | some values => exact h.returns_call happly function.body (hvalues values rfl)
  | reference id body =>
      simp only [Expr.eval]
      refine .guard (by simp) (.pure ?_)
      rintro w ⟨⟩
      exact h.reference.mpr (he.part List.mem_cons_self)
  | _ => exact Returns.judgment.eval h.toHereditary rfl hliteral hhash hparts hv

theorem returns_evalArgs (h : Keeps Q S) (happly : Applies Q S apply) (args : List Expr) {v : Value}
    (hargs : ∀ arg ∈ args, arg.Everywhere Q) (hv : S v) :
    Returns (fun r => ∀ vs ∈ r, ∀ w ∈ vs, S w) (Expr.evalArgs apply args v) :=
  returns_args fun arg harg => h.returns_eval happly arg (hargs arg harg) hv

/-! ## Runs -/

/-- However deep references nest. -/
theorem returns_evalAt (h : Keeps Q S) (n : Nat) {e : Expr} {v : Value} (he : e.Everywhere Q)
    (hv : S v) : Returns (fun r => ∀ w ∈ r, S w) (e.evalAt n v) := by
  induction n generalizing e v with
  | zero => exact nofun
  | succ n ih => exact h.returns_eval (fun body v hbody hv => ih hbody hv) e he hv

/-- **`Keeps.of_evaluate`** — what a query finds has the property, if the document and all nodes of the
query have theirs. -/
theorem of_evaluate (h : Keeps Q S) {q : Query} {document : Json} {options : Options} {v : Value}
    {progress : Progress} (hq : q.expr.Everywhere Q) (hdocument : S (.ofJson document))
    (hrun : q.evaluate document options = .ok (some v, progress)) : S v := by
  have hreturns : ∀ p, q.expr.run (.ofJson document) ⟨.ofJson document, options⟩ {} =
      some (some v, p) → S v := by
    intro p hp
    exact h.returns_evalAt _ hq hdocument hp v rfl
  unfold Query.evaluate Evaluation.complete at hrun
  split at hrun
  next => cases hrun
  next result p heval =>
    split at hrun
    · split at hrun
      · cases hrun
      · cases hrun
        exact hreturns _ heval
    · cases hrun
      exact hreturns _ heval

end Keeps

end JsonQuery
