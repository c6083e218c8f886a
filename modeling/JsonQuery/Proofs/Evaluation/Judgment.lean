/-
# JsonQuery.Proofs.Evaluation.Judgment — what is said of the result of an evaluation.

A judgment says of an evaluation that its result has a property; whether there is a result is up to the
judgment.  One that can be made of a sequence step by step can be made of every walk over elements that
evaluation consists of, element by element.  So it can be made of a node with a property that values
hand down, if it can be made of the parts of the node; only a call needs to know more, about the
references that it applies.
-/
import JsonQuery.Proofs.Expr.Stratified
import JsonQuery.Proofs.Value.Hereditary

namespace JsonQuery

open Evaluation

/-- **`Judgment J`** — `J R f` can be said of a result that is given, of a sequence step by step, and of
a step that is counted. -/
structure Judgment (J : {α : Type} → (α → Prop) → Evaluation α → Prop) : Prop where
  pure : ∀ {α : Type} {R : α → Prop} {a : α}, R a → J R (pure a)
  bind : ∀ {α β : Type} {R : α → Prop} {T : β → Prop} {f : Evaluation α} {g : α → Evaluation β},
    J R f → (∀ a, R a → J T (g a)) → J T (f >>= g)
  tick : J (fun _ => True) tick

namespace Judgment

variable {J : {α : Type} → (α → Prop) → Evaluation α → Prop} {α β : Type} {R : α → Prop}
  {T : β → Prop}

theorem guard (h : Judgment J) {missing : α} {f : Evaluation α} (hmissing : R missing) (hf : J R f) :
    J R (do if !(← Evaluation.tick) then return missing else f) := by
  refine h.bind h.tick fun ticked _ => ?_
  cases ticked with
  | false => exact h.pure hmissing
  | true => exact hf

theorem imp (h : Judgment J) {R' : α → Prop} {f : Evaluation α} (hf : J R f)
    (himp : ∀ a, R a → R' a) : J R' f := by
  have hbind : J R' (f >>= Pure.pure) := h.bind hf fun a ha => h.pure (himp a ha)
  rwa [bind_pure] at hbind

theorem forEach (h : Judgment J) {f : α → Evaluation β} {xs : List α} (hf : ∀ x ∈ xs, J T (f x)) :
    J (fun ys => ∀ y ∈ ys, T y) (Evaluation.forEach f xs) := by
  induction xs with
  | nil => exact h.pure (List.forall_mem_nil _)
  | cons x xs ih =>
      obtain ⟨hx, hxs⟩ := List.forall_mem_cons.mp hf
      refine h.bind hx fun y hy => h.bind (ih hxs) fun ys hys => h.pure ?_
      exact List.forall_mem_cons.mpr ⟨hy, hys⟩

theorem allOrNone (h : Judgment J) {S : Value → Prop} {f : α → Evaluation (Option Value)}
    {xs : List α} (hf : ∀ x ∈ xs, J (fun r => ∀ v ∈ r, S v) (f x)) :
    J (fun r => ∀ vs ∈ r, ∀ v ∈ vs, S v) (Evaluation.allOrNone f xs) := by
  induction xs with
  | nil =>
      refine h.pure ?_
      rintro vs ⟨⟩
      exact List.forall_mem_nil _
  | cons x xs ih =>
      obtain ⟨hx, hxs⟩ := List.forall_mem_cons.mp hf
      refine h.bind hx fun r hr => ?_
      cases r with
      | none => exact h.pure nofun
      | some v =>
          refine h.bind (ih hxs) fun rest hrest => ?_
          cases rest with
          | none => exact h.pure nofun
          | some vs =>
              refine h.pure ?_
              rintro ws ⟨⟩
              exact List.forall_mem_cons.mpr ⟨hr v rfl, hrest vs rfl⟩

theorem keepWhere (h : Judgment J) {test : α → Evaluation Bool} {xs : List α} (hxs : ∀ x ∈ xs, R x)
    (htest : ∀ x ∈ xs, J (fun _ => True) (test x)) :
    J (fun kept => ∀ x ∈ kept, R x) (Evaluation.keepWhere test xs) := by
  induction xs with
  | nil => exact h.pure (List.forall_mem_nil _)
  | cons x xs ih =>
      obtain ⟨hx, hrest⟩ := List.forall_mem_cons.mp hxs
      obtain ⟨hfirst, hothers⟩ := List.forall_mem_cons.mp htest
      refine h.bind hfirst fun keep _ => h.bind (ih hrest hothers) fun kept hkept => h.pure ?_
      cases keep with
      | true => exact List.forall_mem_cons.mpr ⟨hx, hkept⟩
      | false => exact hkept

/-- What is made of values with their keys, where the keys have a value or not. -/
theorem keyedBy (h : Judgment J) {S K : Value → Prop} {apply : Apply} {body : Expr}
    {items : List Value} {result : List (Value × Value) → Value}
    (hkeys : ∀ v ∈ items, J (fun r => ∀ k ∈ r, K k) (apply body v)) (hitems : ∀ v ∈ items, S v)
    (hresult : ∀ keyed, (∀ entry ∈ keyed, S entry.2) → S (result keyed)) :
    J (fun r => ∀ w ∈ r, S w) (do return (← Builtin.keyedBy apply body items).map result) := by
  have hkeyed : J (fun r => ∀ keyed ∈ r, ∀ entry ∈ keyed, S entry.2)
      (Builtin.keyedBy apply body items) := by
    refine h.bind (h.allOrNone hkeys) fun r _ => ?_
    cases r with
    | none => exact h.pure nofun
    | some keys =>
        refine h.pure ?_
        intro keyed hkeyed entry hentry
        obtain ⟨sortable, -, rfl⟩ := Option.map_eq_some_iff.mp hkeyed
        exact hitems entry.2 (List.of_mem_zip hentry).2
  refine h.bind hkeyed fun r hr => h.pure ?_
  intro w hw
  obtain ⟨keyed, hkeyed, rfl⟩ := Option.map_eq_some_iff.mp hw
  exact hresult keyed (hr keyed hkeyed)

/-- The elements of a projection, filtered or not, are parts of its base. -/
theorem elements (h : Judgment J) {S : Value → Prop} (hS : Value.Hereditary S) {apply : Apply}
    (kind : Projection) {base : Value} (hbase : S base)
    (hkind : ∀ predicate, kind = .filter predicate →
      ∀ v, S v → J (fun _ => True) (predicate.eval apply v)) :
    J (fun r => ∀ elements ∈ r, ∀ w ∈ elements, S w) (kind.elements apply base) := by
  cases kind with
  | list =>
      simp only [Projection.elements]
      exact h.pure fun elements hitems => hS.items hbase hitems
  | object =>
      simp only [Projection.elements]
      refine h.pure fun elements helements => ?_
      obtain ⟨entries, hentries, rfl⟩ := Option.map_eq_some_iff.mp helements
      exact List.forall_mem_map.mpr (hS.entries hbase hentries)
  | flatten =>
      simp only [Projection.elements]
      refine h.pure fun elements helements => ?_
      obtain ⟨items, hitems, rfl⟩ := Option.map_eq_some_iff.mp helements
      exact hS.flatten (hS.items hbase hitems)
  | filter predicate =>
      simp only [Projection.elements]
      cases hitems : base.items? with
      | none =>
          refine h.pure ?_
          intro elements helements
          cases helements
      | some items =>
          have hall := hS.items hbase hitems
          refine h.bind (h.keepWhere hall fun item hitem => ?_) fun kept hkept => h.pure ?_
          · exact h.bind (hkind predicate rfl item (hall item hitem)) fun r _ => h.pure trivial
          · rintro elements ⟨⟩
            exact hkept

/-! ## Calls -/

section Nodes

variable {S : Value → Prop} {apply : Apply}

/-- What a call comes to is made of its arguments and of what the one that it applies, if it applies one,
comes to on values with the property. -/
theorem call (h : Judgment J) (hS : Value.Hereditary S) {b : Builtin} {args : List Value}
    (happlied : ∀ i id body, b.appliedPlace? args.length = some i →
      args[i]? = some (.reference id body) → ∀ v, S v → J (fun r => ∀ w ∈ r, S w) (apply body v))
    (hothers : ∀ i arg, b.appliedPlace? args.length ≠ some i → args[i]? = some arg → S arg) :
    J (fun r => ∀ w ∈ r, S w) (b.call apply args) := by
  fun_cases Builtin.call apply b args with
  | case1 id body items =>
      have hitems := hS.array.mp (hothers 1 (.array items) (by simp [Builtin.appliedPlace?]) rfl)
      have hwalk := h.allOrNone fun v hv => happlied 0 id body rfl rfl v (hitems v hv)
      refine h.bind hwalk fun r hr => h.pure ?_
      intro w hw
      obtain ⟨ws, hws, rfl⟩ := Option.map_eq_some_iff.mp hw
      exact hS.array.mpr (hr ws hws)
  | case2 items id body =>
      have hitems := hS.array.mp (hothers 0 (.array items) (by simp [Builtin.appliedPlace?]) rfl)
      have hkeys := fun v hv => happlied 1 id body rfl rfl v (hitems v hv)
      exact h.keyedBy hkeys hitems fun keyed => hS.sortedValues
  | case3 items id body | case4 items id body =>
      have hitems := hS.array.mp (hothers 0 (.array items) (by simp [Builtin.appliedPlace?]) rfl)
      have hkeys := fun v hv => happlied 1 id body rfl rfl v (hitems v hv)
      exact h.keyedBy hkeys hitems fun keyed => hS.bestValue
  | case5 b args hmap hsort hmax hmin =>
      refine h.pure fun w hw => ?_
      cases hplace : b.appliedPlace? args.length with
      | none =>
          refine hS.value? (fun arg harg => ?_) hw
          obtain ⟨i, hi⟩ := List.getElem?_of_mem harg
          exact hothers i arg (by simp [hplace]) hi
      | some i =>
          -- The argument that it applies is no reference, or the others are not as they have to be.
          rw [Builtin.value?_of_applied hplace] at hw
          cases hw

/-! ## Nodes -/

theorem evalItems (h : Judgment J) (hS : Value.Hereditary S) {items : List Expr} {v : Value}
    (hitems : ∀ item ∈ items, J (fun r => ∀ w ∈ r, S w) (item.eval apply v)) :
    J (fun vs => ∀ w ∈ vs, S w) (Expr.evalItems apply items v) := by
  induction items with
  | nil =>
      rw [Expr.evalItems]
      exact h.pure (List.forall_mem_nil _)
  | cons item rest ih =>
      obtain ⟨hitem, hrest⟩ := List.forall_mem_cons.mp hitems
      rw [Expr.evalItems]
      refine h.bind hitem fun r hr => h.bind (ih hrest) fun vs hvs => h.pure ?_
      exact List.forall_mem_cons.mpr ⟨hS.getD hr, hvs⟩

theorem evalEntries (h : Judgment J) (hS : Value.Hereditary S) {entries : List (String × Expr)}
    {v : Value}
    (hentries : ∀ entry ∈ entries, J (fun r => ∀ w ∈ r, S w) (entry.2.eval apply v)) :
    J (fun vs : Entries Value => vs.names = Entries.names entries ∧ ∀ entry ∈ vs, S entry.2)
      (Expr.evalEntries apply entries v) := by
  induction entries with
  | nil =>
      rw [Expr.evalEntries]
      exact h.pure ⟨rfl, List.forall_mem_nil _⟩
  | cons entry rest ih =>
      obtain ⟨hentry, hrest⟩ := List.forall_mem_cons.mp hentries
      rw [Expr.evalEntries]
      refine h.bind hentry fun r hr => h.bind (ih hrest) fun vs hvs => h.pure ?_
      obtain ⟨hnames, hvalues⟩ := hvs
      exact ⟨congrArg (entry.1 :: ·) hnames, List.forall_mem_cons.mpr ⟨hS.getD hr, hvalues⟩⟩

/-- The values of arguments, with a property for each place. -/
theorem evalArgs (h : Judgment J) {args : List Expr} {v : Value} {P : Nat → Value → Prop}
    (hargs : ∀ i arg, args[i]? = some arg → J (fun r => ∀ w ∈ r, P i w) (arg.eval apply v)) :
    J (fun r => ∀ vs ∈ r, vs.length = args.length ∧ ∀ i w, vs[i]? = some w → P i w)
      (Expr.evalArgs apply args v) := by
  induction args generalizing P with
  | nil =>
      rw [Expr.evalArgs]
      refine h.pure ?_
      rintro vs ⟨⟩
      exact ⟨rfl, nofun⟩
  | cons arg rest ih =>
      rw [Expr.evalArgs]
      refine h.bind (hargs 0 arg rfl) fun r hr => ?_
      cases r with
      | none => exact h.pure nofun
      | some w =>
          refine h.bind (ih fun i arg harg => hargs (i + 1) arg harg) fun r hrest => ?_
          cases r with
          | none => exact h.pure nofun
          | some vs =>
              obtain ⟨hlength, hvs⟩ := hrest vs rfl
              refine h.pure ?_
              rintro ws ⟨⟩
              refine ⟨congrArg (· + 1) hlength, fun i u hu => ?_⟩
              cases i with
              | zero =>
                  obtain rfl := Option.some.inj hu
                  exact hr w rfl
              | succ i => exact hvs i u hu

/-- **`Judgment.eval`** — a direct node keeps a property that values hand down, if its parts do: all that
it brings in by itself is the value of a literal and the names of an object that is written out. -/
theorem eval (h : Judgment J) (hS : Value.Hereditary S) {e : Expr} {v : Value}
    (hdirect : e.isDirect) (hliteral : ∀ json, e = .literal json → S (.ofJson json))
    (hhash : ∀ (written : List (String × Expr)) (entries : Entries Value), e = .hash written →
      entries.names = Entries.names written → (∀ entry ∈ entries, S entry.2) → S (.object entries))
    (hparts : ∀ part ∈ e.children, ∀ w, S w → J (fun r => ∀ u ∈ r, S u) (part.eval apply w))
    (hv : S v) : J (fun r => ∀ w ∈ r, S w) (e.eval apply v) := by
  have hnone : ∀ w ∈ (none : Option Value), S w := by simp
  have hnull : ∀ w ∈ some Value.null, S w := by
    rintro w ⟨⟩
    exact hS.null
  cases e with
  | call | reference => cases hdirect
  | current =>
      simp only [Expr.eval]
      refine h.guard hnone (h.pure ?_)
      rintro w ⟨⟩
      exact hv
  | field name =>
      simp only [Expr.eval]
      refine h.guard hnone (h.pure ?_)
      rintro w ⟨⟩
      exact hS.getD fun w hw => hS.get? hv hw
  | index i =>
      simp only [Expr.eval]
      refine h.guard hnone (h.pure ?_)
      rintro w ⟨⟩
      refine hS.getD fun w hw => ?_
      obtain ⟨items, hitems, hw⟩ := Option.bind_eq_some_iff.mp hw
      obtain ⟨j, -, hw⟩ := Option.bind_eq_some_iff.mp hw
      exact hS.items hv hitems w (List.mem_of_getElem? hw)
  | slice s =>
      simp only [Expr.eval]
      refine h.guard hnone ?_
      cases hitems : v.items? with
      | none => exact h.pure hnull
      | some items =>
          refine h.pure ?_
          rintro w ⟨⟩
          refine hS.array.mpr fun w hw => ?_
          obtain ⟨j, -, hw⟩ := List.mem_filterMap.mp hw
          exact hS.items hv hitems w (List.mem_of_getElem? hw)
  | literal json =>
      simp only [Expr.eval]
      refine h.guard hnone (h.pure ?_)
      rintro w ⟨⟩
      exact hliteral json rfl
  | chain left right =>
      simp only [Expr.eval]
      refine h.guard hnone (h.bind (hparts left (by simp [Expr.children]) v hv) fun base hbase => ?_)
      cases base with
      | none => exact h.pure hnone
      | some base => exact hparts right (by simp [Expr.children]) base (hbase base rfl)
  | project kind left right =>
      have hleft : left ∈ (Expr.project kind left right).children := by
        cases kind <;> simp [Expr.children]
      have hright : right ∈ (Expr.project kind left right).children := by
        cases kind <;> simp [Expr.children]
      simp only [Expr.eval]
      refine h.guard hnone (h.bind (hparts left hleft v hv) fun base hbase => ?_)
      cases base with
      | none => exact h.pure hnone
      | some base =>
          have helements := h.elements hS kind (hbase base rfl) fun predicate hkind w hw =>
            h.imp (hparts predicate (by simp [Expr.children, hkind]) w hw) fun _ _ => trivial
          refine h.bind helements fun elements hall => ?_
          cases elements with
          | none => exact h.pure hnull
          | some elements =>
              have hwalk := h.forEach fun w hw => hparts right hright w (hall elements rfl w hw)
              refine h.bind hwalk fun results hresults => h.pure ?_
              rintro w ⟨⟩
              refine hS.array.mpr fun w hw => ?_
              exact hresults _ (Value.mem_of_mem_present hw) w rfl
  | list items =>
      simp only [Expr.eval]
      refine h.guard hnone ?_
      split
      · exact h.pure hnull
      · have hitems := h.evalItems hS fun item hitem => hparts item hitem v hv
        refine h.bind hitems fun values hvalues => h.pure ?_
        rintro w ⟨⟩
        exact hS.array.mpr hvalues
  | hash entries =>
      simp only [Expr.eval]
      refine h.guard hnone ?_
      split
      · exact h.pure hnull
      · have hentries := h.evalEntries hS fun entry hentry =>
          hparts entry.2 (List.mem_map_of_mem hentry) v hv
        refine h.bind hentries fun values hvalues => h.pure ?_
        rintro w ⟨⟩
        exact hhash entries values rfl hvalues.1 hvalues.2
  | binary op left right =>
      simp only [Expr.eval]
      refine h.guard hnone (h.bind (hparts left (by simp [Expr.children]) v hv) fun a ha => ?_)
      cases a with
      | none => exact h.pure hnone
      | some a =>
          dsimp only
          split
          · rename_i result hshort
            obtain rfl := BinaryOperator.shortCircuit_eq hshort
            exact h.pure ha
          · refine h.bind (hparts right (by simp [Expr.children]) v hv) fun b hb => ?_
            cases b with
            | none => exact h.pure hnone
            | some b => exact h.pure fun w hw => hS.binary (ha a rfl) (hb b rfl) hw
  | unary op operand =>
      simp only [Expr.eval]
      refine h.guard hnone (h.bind (hparts operand (by simp [Expr.children]) v hv) fun a _ => ?_)
      cases a with
      | none => exact h.pure hnone
      | some a => exact h.pure fun w hw => hS.unary hw
  | pipe left right =>
      simp only [Expr.eval]
      refine h.guard hnone (h.bind (hparts left (by simp [Expr.children]) v hv) fun base hbase => ?_)
      exact hparts right (by simp [Expr.children]) _ (hS.getD hbase)

end Nodes

end Judgment

end JsonQuery
