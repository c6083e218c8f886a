/-
# JsonQuery.Proofs.Evaluation.Mirroring — the same evaluation on values that are akin.

Two evaluations of one tree, on current values that differ in the order of entries, go through the same
nodes: every decision on the way is made on something that the order does not change.  So they take the
same steps, and what they come to is akin again.  The exceptions are an object wildcard and the
functions that show the order; with these left out, in references that are passed around as well, the
order never gets into a result.
-/
import JsonQuery.Proofs.Evaluation.Keeping
import JsonQuery.Proofs.Function.Orderless
import JsonQuery.Proofs.Value.Hereditary

namespace JsonQuery

open Value (Akin rel_refl)

/-! ## Two runs -/

namespace Evaluation

variable {α α' β β' : Type} {R : α → α' → Prop} {T : β → β' → Prop}

/-- **`Mirrors R f g`** — under the same limits and after the same progress, `f` and `g` make the same
progress and come to results that `R` relates, or neither of them comes to anything. -/
def Mirrors (R : α → α' → Prop) (f : Evaluation α) (g : Evaluation α') : Prop :=
  ∀ ⦃c c' : Context⦄ (p : Progress), c.options = c'.options → (f c p = none ∧ g c' p = none) ∨
    ∃ a b q, f c p = some (a, q) ∧ g c' p = some (b, q) ∧ R a b

namespace Mirrors

theorem pure {a : α} {b : α'} (h : R a b) : Mirrors R (Pure.pure a) (Pure.pure b) :=
  fun _ _ p _ => .inr ⟨a, b, p, rfl, rfl, h⟩

theorem diverge : Mirrors R diverge diverge := fun _ _ _ _ => .inl ⟨rfl, rfl⟩

theorem imp {S : α → α' → Prop} {f : Evaluation α} {g : Evaluation α'} (h : Mirrors R f g)
    (himp : ∀ a b, R a b → S a b) : Mirrors S f g := by
  intro c c' p hoptions
  obtain hnone | ⟨a, b, q, ha, hb, hab⟩ := h p hoptions
  · exact .inl hnone
  · exact .inr ⟨a, b, q, ha, hb, himp a b hab⟩

/-- Two evaluations that both mirror a third one mirror each other. -/
theorem through {f : Evaluation α} {g : Evaluation β} {h : Evaluation α'} {T : β → α' → Prop}
    (hf : Mirrors R f h) (hg : Mirrors T g h) :
    Mirrors (fun a b => ∃ x, R a x ∧ T b x) f g := by
  intro c c' p hoptions
  obtain ⟨hnone, hnone'⟩ | ⟨a, x, q, ha, hx, hax⟩ := hf p hoptions
  · obtain ⟨hother, -⟩ | ⟨b, y, q, -, hy, -⟩ := @hg c' c' p rfl
    · exact .inl ⟨hnone, hother⟩
    · cases hnone'.symm.trans hy
  · obtain ⟨-, hnone⟩ | ⟨b, y, q', hb, hy, hby⟩ := @hg c' c' p rfl
    · cases hx.symm.trans hnone
    · cases hx.symm.trans hy
      exact .inr ⟨a, b, q, ha, hb, x, hax, hby⟩

/-- The second parts of a sequence are compared on results that are related, and that the first run can
have. -/
theorem bind_of {f : Evaluation α} {f' : Evaluation α'} {g : α → Evaluation β}
    {g' : α' → Evaluation β'} {P : α → Prop} (hf : Mirrors R f f') (hreturns : Returns P f)
    (hg : ∀ a b, R a b → P a → Mirrors T (g a) (g' b)) : Mirrors T (f >>= g) (f' >>= g') := by
  intro c c' p hoptions
  rw [bind_apply, bind_apply]
  obtain ⟨hnone, hnone'⟩ | ⟨a, b, q, ha, hb, hab⟩ := hf p hoptions
  · rw [hnone, hnone']
    exact .inl ⟨rfl, rfl⟩
  · rw [ha, hb]
    exact hg a b hab (hreturns ha) q hoptions

theorem bind {f : Evaluation α} {f' : Evaluation α'} {g : α → Evaluation β}
    {g' : α' → Evaluation β'} (hf : Mirrors R f f')
    (hg : ∀ a b, R a b → Mirrors T (g a) (g' b)) : Mirrors T (f >>= g) (f' >>= g') :=
  hf.bind_of (.any f) fun a b hab _ => hg a b hab

theorem tick : Mirrors Eq tick tick := by
  intro c c' p hoptions
  refine .inr ⟨_, _, _, rfl, rfl, ?_⟩
  show (!Progress.isExhausted _ c.options) = !Progress.isExhausted _ c'.options
  rw [hoptions]

theorem guard {missing : α} {missing' : α'} {f : Evaluation α} {f' : Evaluation α'}
    (hmissing : R missing missing') (hf : Mirrors R f f') :
    Mirrors R (do if !(← Evaluation.tick) then return missing else f)
      (do if !(← Evaluation.tick) then return missing' else f') := by
  refine tick.bind fun ticked _ heq => ?_
  subst heq
  cases ticked with
  | false => exact pure hmissing
  | true => exact hf

/-! ### Walks over elements -/

variable {xs : List α} {ys : List α'}

theorem forEach {f : α → Evaluation β} {f' : α' → Evaluation β'} (hxs : List.Forall₂ R xs ys)
    (hf : ∀ x ∈ xs, ∀ y, R x y → Mirrors T (f x) (f' y)) :
    Mirrors (List.Forall₂ T) (forEach f xs) (Evaluation.forEach f' ys) := by
  induction hxs with
  | nil => exact pure .nil
  | cons hhead _ ih =>
      obtain ⟨hfirst, hrest⟩ := List.forall_mem_cons.mp hf
      exact (hfirst _ hhead).bind fun a b hab => (ih hrest).bind fun as bs habs =>
        pure (.cons hab habs)

theorem allOrNone {f : α → Evaluation (Option β)} {f' : α' → Evaluation (Option β')}
    (hxs : List.Forall₂ R xs ys)
    (hf : ∀ x ∈ xs, ∀ y, R x y → Mirrors (Option.Rel T) (f x) (f' y)) :
    Mirrors (Option.Rel (List.Forall₂ T)) (allOrNone f xs) (Evaluation.allOrNone f' ys) := by
  induction hxs with
  | nil => exact pure (.some .nil)
  | cons hhead _ ih =>
      obtain ⟨hfirst, hrest⟩ := List.forall_mem_cons.mp hf
      refine (hfirst _ hhead).bind fun r s hrs => ?_
      cases hrs with
      | none => exact pure .none
      | some hvalue =>
          refine (ih hrest).bind fun vs ws hvs => ?_
          cases hvs with
          | none => exact pure .none
          | some hvalues => exact pure (.some (.cons hvalue hvalues))

theorem keepWhere {test : α → Evaluation Bool} {test' : α' → Evaluation Bool}
    (hxs : List.Forall₂ R xs ys) (htest : ∀ x ∈ xs, ∀ y, R x y → Mirrors Eq (test x) (test' y)) :
    Mirrors (List.Forall₂ R) (keepWhere test xs) (Evaluation.keepWhere test' ys) := by
  induction hxs with
  | nil => exact pure .nil
  | cons hhead _ ih =>
      obtain ⟨hfirst, hrest⟩ := List.forall_mem_cons.mp htest
      refine (hfirst _ hhead).bind fun keep _ heq => (ih hrest).bind fun kept kept' hkept => pure ?_
      subst heq
      cases keep with
      | false => exact hkept
      | true => exact .cons hhead hkept

end Mirrors

end Evaluation

open Evaluation

/-! ## Trees that do not show the order -/

/-- **`e.OrderBlind`** — the node on top is neither an object wildcard nor a call that shows the order of
entries, whatever the name under which the function is called. -/
def Expr.OrderBlind : Expr → Prop
  | .project .object _ _ => False
  | .call function _ => function.body.showsOrder = false
  | _ => True

/-- **`v.Blind`** — the references in a value do not show the order of entries wherever they are
applied. -/
abbrev Value.Blind (v : Value) : Prop := v.RefersOnly (Expr.Everywhere Expr.OrderBlind)

theorem keeps_blind : Keeps Expr.OrderBlind Value.Blind where
  toHereditary := Value.hereditary_refersOnly
  literal _ := Value.refersOnly_ofJson _
  hash _ _ hentries := .object hentries
  reference := Value.refersOnly_reference

/-- **`Attends apply`** — references that do not show the order are applied to values that are akin with
the same steps and results that are akin, and these pass on no other references. -/
structure Attends (apply : Apply) : Prop where
  mirrors : ∀ body v w, body.Everywhere Expr.OrderBlind → v.Akin w → v.Blind →
    Mirrors (Option.Rel Akin) (apply body v) (apply body w)
  passes : Keeps.Applies Expr.OrderBlind Value.Blind apply

namespace Attends

variable {apply : Apply}

/-! ## Calls -/

section Calls

variable {args args' items others : List Value} {body : Expr}

theorem exists_keyed {id : Nat}
    (h : List.Forall₂ Akin [.array items, .reference id body] args) :
    ∃ others, args = [.array others, .reference id body] ∧ List.Forall₂ Akin items others := by
  obtain ⟨u, u', rfl, hu, hu'⟩ := Builtin.exists_pair h
  obtain ⟨others, rfl, hothers⟩ := Builtin.exists_array hu
  cases hu'.shape
  exact ⟨others, rfl, hothers⟩

theorem exists_mapped {id : Nat}
    (h : List.Forall₂ Akin [.reference id body, .array items] args) :
    ∃ others, args = [.reference id body, .array others] ∧ List.Forall₂ Akin items others := by
  obtain ⟨u, u', rfl, hu, hu'⟩ := Builtin.exists_pair h
  obtain ⟨others, rfl, hothers⟩ := Builtin.exists_array hu'
  cases hu.shape
  exact ⟨others, rfl, hothers⟩

variable (h : Attends apply)
include h

theorem keyedBy (hbody : body.Everywhere Expr.OrderBlind) (hitems : List.Forall₂ Akin items others)
    (hblind : ∀ v ∈ items, v.Blind) :
    Mirrors (Option.Rel (List.Forall₂ fun e f => e.1 = f.1 ∧ e.2.Akin f.2))
      (Builtin.keyedBy apply body items) (Builtin.keyedBy apply body others) := by
  have hkeys := Mirrors.allOrNone hitems fun v hv w hvw =>
    h.mirrors body v w hbody hvw (hblind v hv)
  refine hkeys.bind fun r s hrs => ?_
  cases hrs with
  | none => exact .pure .none
  | @some keys keys' hkeys =>
      refine .pure ?_
      rw [← Builtin.ensureSortable_akin hkeys]
      cases hsortable : Builtin.ensureSortable keys with
      | none => exact .none
      | some keys => exact .some (Builtin.forall₂_zip keys hitems)

/-- What is made of the keyed values is akin if it looks at the keys alone. -/
theorem keyed {result : List (Value × Value) → Value} (hbody : body.Everywhere Expr.OrderBlind)
    (hitems : List.Forall₂ Akin items others) (hblind : ∀ v ∈ items, v.Blind)
    (hresult : ∀ keyed keyed', List.Forall₂ (fun e f => e.1 = f.1 ∧ e.2.Akin f.2) keyed keyed' →
      (result keyed).Akin (result keyed')) :
    Mirrors (Option.Rel Akin) (do return (← Builtin.keyedBy apply body items).map result)
      (do return (← Builtin.keyedBy apply body others).map result) := by
  refine (h.keyedBy hbody hitems hblind).bind fun r s hrs => .pure ?_
  cases hrs with
  | none => exact .none
  | some hkeyed => exact .some (hresult _ _ hkeyed)

theorem call {b : Builtin} (hb : b.showsOrder = false) (hargs : List.Forall₂ Akin args args')
    (hblind : ∀ arg ∈ args, arg.Blind) :
    Mirrors (Option.Rel Akin) (b.call apply args) (b.call apply args') := by
  have hparts : ∀ {items : List Value}, Value.array items ∈ args → ∀ v ∈ items, v.Blind :=
    fun hmem => Value.refersOnly_array.mp (hblind _ hmem)
  fun_cases Builtin.call apply b args with
  | case1 id body items =>
      obtain ⟨others, rfl, hothers⟩ := exists_mapped hargs
      have hbody := Value.refersOnly_reference.mp (hblind (.reference id body) List.mem_cons_self)
      have hwalk := Mirrors.allOrNone hothers fun v hv w hvw =>
        h.mirrors body v w hbody hvw (hparts (by simp) v hv)
      refine hwalk.bind fun r s hrs => .pure ?_
      cases hrs with
      | none => exact .none
      | some hvalues => exact .some (Value.akin_array.mpr hvalues)
  | case2 items id body =>
      obtain ⟨others, rfl, hothers⟩ := exists_keyed hargs
      have hbody := Value.refersOnly_reference.mp (hblind (.reference id body) (by simp))
      exact h.keyed hbody hothers (hparts List.mem_cons_self) fun _ _ => Builtin.sortedValues_akin
  | case3 items id body | case4 items id body =>
      obtain ⟨others, rfl, hothers⟩ := exists_keyed hargs
      have hbody := Value.refersOnly_reference.mp (hblind (.reference id body) (by simp))
      exact h.keyed hbody hothers (hparts List.mem_cons_self) fun _ _ => Builtin.bestValue_akin _
  | case5 b args hmap hsort hmax hmin =>
      -- No reference is applied on the other side either: it would stand on both.
      have hflip : List.Forall₂ Akin args' args := hargs.flip.imp fun _ _ => Akin.symm
      rw [Builtin.call]
      · exact .pure (Builtin.rel_value? hb hargs)
      · rintro id body items hname rfl
        obtain ⟨others, hothers, -⟩ := exists_mapped hflip
        exact hmap id body others hname hothers
      · rintro items id body hname rfl
        obtain ⟨others, hothers, -⟩ := exists_keyed hflip
        exact hsort others id body hname hothers
      · rintro items id body hname rfl
        obtain ⟨others, hothers, -⟩ := exists_keyed hflip
        exact hmax others id body hname hothers
      · rintro items id body hname rfl
        obtain ⟨others, hothers, -⟩ := exists_keyed hflip
        exact hmin others id body hname hothers

end Calls

/-! ## Nodes -/

mutual

/-- **`Attends.eval`** — a tree that does not show the order of entries is evaluated on values that are
akin with the same steps and results that are akin. -/
theorem eval (h : Attends apply) (e : Expr) {v w : Value} (he : e.Everywhere Expr.OrderBlind)
    (hvw : v.Akin w) (hv : v.Blind) :
    Mirrors (Option.Rel Akin) (e.eval apply v) (e.eval apply w) := by
  -- What the left side of a node comes to is what the right side is evaluated on.
  have hblind : ∀ left : Expr, left.Everywhere Expr.OrderBlind →
      Returns (fun r => ∀ u ∈ r, u.Blind) (left.eval apply v) :=
    fun left hleft => keeps_blind.returns_eval h.passes left hleft hv
  cases e with
  | current =>
      simp only [Expr.eval]
      exact .guard .none (.pure (.some hvw))
  | field name =>
      simp only [Expr.eval]
      exact .guard .none (.pure (.some (Akin.getD (hvw.get? name))))
  | index i =>
      simp only [Expr.eval]
      exact .guard .none (.pure (.some (Akin.getD (Value.index_akin hvw i))))
  | slice s =>
      simp only [Expr.eval]
      refine .guard .none ?_
      have hitems := hvw.items?
      generalize v.items? = r at hitems ⊢
      generalize w.items? = r' at hitems ⊢
      cases hitems with
      | none => exact .pure (.some (.refl _))
      | some hitems =>
          dsimp only
          rw [← hitems.length_eq]
          exact .pure (.some (Value.akin_array.mpr (Value.filterMap_getElem?_akin hitems _)))
  | literal | reference =>
      simp only [Expr.eval]
      exact .guard .none (.pure (.some (.refl _)))
  | chain left right =>
      have hleft : left.Everywhere Expr.OrderBlind := he.part List.mem_cons_self
      have hright : right.Everywhere Expr.OrderBlind :=
        he.part (List.mem_cons_of_mem _ List.mem_cons_self)
      simp only [Expr.eval]
      refine .guard .none ((h.eval left hleft hvw hv).bind_of (hblind left hleft) fun r s hrs hr => ?_)
      cases hrs with
      | none => exact .pure .none
      | some hbase => exact h.eval right hright hbase (hr _ rfl)
  | project kind left right =>
      obtain ⟨hleft, hright, hkind⟩ := he.project
      have hwild : kind ≠ .object := by
        rintro rfl
        exact he.self
      simp only [Expr.eval]
      refine .guard .none ((h.eval left hleft hvw hv).bind_of (hblind left hleft) fun r s hrs hr => ?_)
      cases hrs with
      | none => exact .pure .none
      | some hbase =>
          have hparts := Returns.judgment.elements keeps_blind.toHereditary kind (hr _ rfl)
            fun predicate _ u _ => Returns.any (predicate.eval apply u)
          refine (h.elements kind hwild hkind hbase (hr _ rfl)).bind_of hparts
            fun found found' hfound hall => ?_
          cases hfound with
          | none => exact .pure (.some (.refl _))
          | some helements =>
              have hwalk := Mirrors.forEach helements fun u hu u' huu' =>
                h.eval right hright huu' (hall _ rfl u hu)
              exact hwalk.bind fun results outcomes hresults =>
                .pure (.some (Value.akin_array.mpr (Value.present_akin hresults)))
  | list items =>
      simp only [Expr.eval, hvw.isNull_eq]
      refine .guard .none ?_
      split
      · exact .pure (.some (.refl _))
      · exact (h.evalItems items (fun item => he.part) hvw hv).bind fun values values' hvalues =>
          .pure (.some (Value.akin_array.mpr hvalues))
  | hash entries =>
      simp only [Expr.eval, hvw.isNull_eq]
      refine .guard .none ?_
      split
      · exact .pure (.some (.refl _))
      · exact (h.evalEntries entries (fun entry hentry => he.part (List.mem_map_of_mem hentry))
          hvw hv).bind fun values values' hvalues =>
            .pure (.some (Value.akin_object_of_forall₂ hvalues))
  | binary op left right =>
      have hleft : left.Everywhere Expr.OrderBlind := he.part List.mem_cons_self
      have hright : right.Everywhere Expr.OrderBlind :=
        he.part (List.mem_cons_of_mem _ List.mem_cons_self)
      simp only [Expr.eval]
      refine .guard .none ((h.eval left hleft hvw hv).bind fun r s hrs => ?_)
      cases hrs with
      | none => exact .pure .none
      | @some a a' ha =>
          have hshort := op.shortCircuit_akin ha
          dsimp only
          generalize op.shortCircuit a = result at hshort ⊢
          generalize op.shortCircuit a' = result' at hshort ⊢
          cases hshort with
          | some hresult => exact .pure (.some hresult)
          | none =>
              refine (h.eval right hright hvw hv).bind fun r s hrs => ?_
              cases hrs with
              | none => exact .pure .none
              | some hb => exact .pure (op.apply_akin ha hb)
  | unary op operand =>
      simp only [Expr.eval]
      refine .guard .none ((h.eval operand (he.part List.mem_cons_self) hvw hv).bind
        fun r s hrs => ?_)
      cases hrs with
      | none => exact .pure .none
      | some ha => exact .pure (op.apply_akin ha)
  | pipe left right =>
      have hleft : left.Everywhere Expr.OrderBlind := he.part List.mem_cons_self
      have hright : right.Everywhere Expr.OrderBlind :=
        he.part (List.mem_cons_of_mem _ List.mem_cons_self)
      simp only [Expr.eval]
      exact .guard .none ((h.eval left hleft hvw hv).bind_of (hblind left hleft)
        fun r s hrs hr => h.eval right hright (Akin.getD hrs) (keeps_blind.getD hr))
  | call function args =>
      have hargs := keeps_blind.returns_evalArgs h.passes args (fun arg => he.part) hv
      simp only [Expr.eval]
      refine .guard .none ((h.evalArgs args (fun arg => he.part) hvw hv).bind_of hargs
        fun r s hrs hr => ?_)
      cases hrs with
      | none => exact .pure .none
      | some hvalues => exact h.call he.self hvalues (hr _ rfl)

theorem elements (h : Attends apply) (kind : Projection) {v w : Value} (hwild : kind ≠ .object)
    (hkind : ∀ predicate, kind = .filter predicate → predicate.Everywhere Expr.OrderBlind)
    (hvw : v.Akin w) (hv : v.Blind) :
    Mirrors (Option.Rel (List.Forall₂ Akin)) (kind.elements apply v) (kind.elements apply w) := by
  have hitems := hvw.items?
  have hparts : ∀ items, v.items? = some items → ∀ u ∈ items, u.Blind :=
    fun items => keeps_blind.items hv
  cases kind with
  | list =>
      simp only [Projection.elements]
      exact .pure hitems
  | object => exact absurd rfl hwild
  | flatten =>
      simp only [Projection.elements]
      refine .pure ?_
      generalize v.items? = r at hitems ⊢
      generalize w.items? = s at hitems ⊢
      cases hitems with
      | none => exact .none
      | some hitems => exact .some (Value.flatten_akin hitems)
  | filter predicate =>
      simp only [Projection.elements]
      generalize v.items? = r at hitems hparts ⊢
      generalize w.items? = s at hitems ⊢
      cases hitems with
      | none => exact .pure .none
      | some hitems =>
          -- A predicate is asked for its truth alone, and that is the same.
          have hkept := Mirrors.keepWhere hitems fun u hu u' huu' =>
            (h.eval predicate (hkind predicate rfl) huu' (hparts _ rfl u hu)).bind
              fun r s hrs => Mirrors.pure (Value.truth_eq hrs)
          exact hkept.bind fun kept kept' hkept => .pure (.some hkept)

theorem evalItems (h : Attends apply) (items : List Expr) {v w : Value}
    (hitems : ∀ item ∈ items, item.Everywhere Expr.OrderBlind) (hvw : v.Akin w) (hv : v.Blind) :
    Mirrors (List.Forall₂ Akin) (Expr.evalItems apply items v) (Expr.evalItems apply items w) := by
  cases items with
  | nil =>
      simp only [Expr.evalItems]
      exact .pure .nil
  | cons item rest =>
      obtain ⟨hitem, hrest⟩ := List.forall_mem_cons.mp hitems
      simp only [Expr.evalItems]
      exact (h.eval item hitem hvw hv).bind fun r s hrs =>
        (h.evalItems rest hrest hvw hv).bind fun values values' hvalues =>
          .pure (.cons (Akin.getD hrs) hvalues)

theorem evalEntries (h : Attends apply) (entries : List (String × Expr)) {v w : Value}
    (hentries : ∀ entry ∈ entries, entry.2.Everywhere Expr.OrderBlind) (hvw : v.Akin w)
    (hv : v.Blind) :
    Mirrors (List.Forall₂ fun e f => e.1 = f.1 ∧ e.2.Akin f.2) (Expr.evalEntries apply entries v)
      (Expr.evalEntries apply entries w) := by
  match entries with
  | [] =>
      simp only [Expr.evalEntries]
      exact .pure .nil
  | (name, item) :: rest =>
      obtain ⟨hitem, hrest⟩ := List.forall_mem_cons.mp hentries
      simp only [Expr.evalEntries]
      exact (h.eval item hitem hvw hv).bind fun r s hrs =>
        (h.evalEntries rest hrest hvw hv).bind fun values values' hvalues =>
          .pure (.cons ⟨rfl, Akin.getD hrs⟩ hvalues)

theorem evalArgs (h : Attends apply) (args : List Expr) {v w : Value}
    (hargs : ∀ arg ∈ args, arg.Everywhere Expr.OrderBlind) (hvw : v.Akin w) (hv : v.Blind) :
    Mirrors (Option.Rel (List.Forall₂ Akin)) (Expr.evalArgs apply args v)
      (Expr.evalArgs apply args w) := by
  cases args with
  | nil =>
      simp only [Expr.evalArgs]
      exact .pure (.some .nil)
  | cons arg rest =>
      obtain ⟨harg, hrest⟩ := List.forall_mem_cons.mp hargs
      simp only [Expr.evalArgs]
      refine (h.eval arg harg hvw hv).bind fun r s hrs => ?_
      cases hrs with
      | none => exact .pure .none
      | some hvalue =>
          refine (h.evalArgs rest hrest hvw hv).bind fun r s hrs => ?_
          cases hrs with
          | none => exact .pure .none
          | some hvalues => exact .pure (.some (.cons hvalue hvalues))

end

end Attends

/-! ## Runs -/

/-- However deep references nest. -/
theorem attends_evalAt (n : Nat) : Attends (Expr.evalAt n) where
  mirrors := by
    induction n with
    | zero => exact fun _ _ _ _ _ _ => .diverge
    | succ n ih =>
        have hattends : Attends (Expr.evalAt n) :=
          ⟨ih, fun body v hbody hv => keeps_blind.returns_evalAt n hbody hv⟩
        exact fun body v w hbody hvw hv => hattends.eval body hbody hvw hv
  passes body v hbody hv := keeps_blind.returns_evalAt n hbody hv

end JsonQuery
