/-
# JsonQuery.Proofs.Expr.Within — a part of a text on the stacks.

While a part of a text is read, what was read before it waits on the same stacks below.  The part does
not look there: what it does to the stacks of its own it does to them on top of the others, as long as
no operator outside is applied before the part is complete.
-/
import JsonQuery.Proofs.Expr.Place
import JsonQuery.Proofs.Expr.Shift

namespace JsonQuery.Expr

open ParseError (Cause)

theorem bind_eq_ok {ε α β : Type} {x : Except ε α} {f : α → Except ε β} {b : β} :
    x >>= f = .ok b ↔ ∃ a, x = .ok a ∧ f a = .ok b := by
  cases x with
  | error e => simp [bind, Except.bind]
  | ok a => simp [bind, Except.bind]

/-! ## Waiting operators -/

/-- **`Stops test pending`** — no waiting operator is applied that passes the test. -/
def Stops (test : Operator → Bool) : List Pending → Prop
  | .operator op :: _ => test op = false
  | _ => True

/-- How many groups are open on the stack of operators. -/
def barriers : List Pending → Nat
  | [] => 0
  | .barrier :: rest => barriers rest + 1
  | .operator _ :: rest => barriers rest

theorem Stops.reduceWhile {test : Operator → Bool} {pending : List Pending} (h : Stops test pending)
    (items : List Item) : reduceWhile test items pending = .ok (items, pending) := by
  cases pending with
  | nil => rfl
  | cons p rest =>
      cases p with
      | barrier => rfl
      | operator op =>
          have hop : test op = false := h
          simp [Expr.reduceWhile, hop]

/-- What is true of every waiting operator stops nothing, so a group or the end has been reached. -/
theorem exists_barrier_of_stops {pending : List Pending} (h : Stops (fun _ => true) pending)
    (hbarriers : 0 < barriers pending) : ∃ rest, pending = .barrier :: rest := by
  cases pending with
  | nil => cases hbarriers
  | cons p rest =>
      cases p with
      | barrier => exact ⟨rest, rfl⟩
      | operator op => cases h

variable {test : Operator → Bool} {items items' : List Item} {pending pending' : List Pending}

theorem reduceWhile_stops (h : reduceWhile test items pending = .ok (items', pending')) :
    Stops test pending' := by
  induction pending generalizing items with
  | nil =>
      cases h
      trivial
  | cons p rest ih =>
      cases p with
      | barrier =>
          cases h
          trivial
      | operator op =>
          simp only [reduceWhile] at h
          split at h
          · obtain ⟨next, -, hnext⟩ := bind_eq_ok.mp h
            exact ih hnext
          · rename_i hop
            cases h
            show test op = false
            exact Bool.eq_false_iff.mpr hop

theorem barriers_reduceWhile (h : reduceWhile test items pending = .ok (items', pending')) :
    barriers pending' = barriers pending := by
  induction pending generalizing items with
  | nil =>
      cases h
      rfl
  | cons p rest ih =>
      cases p with
      | barrier =>
          cases h
          rfl
      | operator op =>
          simp only [reduceWhile] at h
          split at h
          · obtain ⟨next, -, hnext⟩ := bind_eq_ok.mp h
            exact ih hnext
          · cases h
            rfl

/-! ## Items of a part on top of others -/

section OnTop

variable (n : Nat) (below : List Item)

/-- Items of a part, further on, on top of others. -/
def onTop (items : List Item) : List Item := items.map (Item.shift n) ++ below

theorem pushNode_onTop {e : Expr} {projecting : Bool} {height : Nat}
    (h : pushNode e projecting height items = .ok items') :
    pushNode (e.shift n) projecting height (onTop n below items) = .ok (onTop n below items') := by
  unfold pushNode at h ⊢
  split at h
  · cases h
  · rename_i hheight
    cases h
    rw [if_neg hheight]
    rfl

theorem asOperand_shift {item : Item} {o : Operand} (h : item.asOperand = .ok o) :
    (item.shift n).asOperand = .ok (o.shift n) := by
  cases item with
  | operand o' =>
      cases h
      rfl
  | key | opened => cases h

theorem popOperand_onTop {o : Operand} (h : popOperand items = .ok (o, items')) :
    popOperand (onTop n below items) = .ok (o.shift n, onTop n below items') := by
  cases items with
  | nil => cases h
  | cons item rest =>
      cases item with
      | operand o' =>
          cases h
          rfl
      | key | opened => cases h

theorem applyInfix_onTop {build build' : Expr → Expr → Expr}
    (hbuild : ∀ left right, (build left right).shift n = build' (left.shift n) (right.shift n))
    (h : applyInfix build items = .ok items') :
    applyInfix build' (onTop n below items) = .ok (onTop n below items') := by
  obtain ⟨⟨right, rest⟩, hright, h⟩ := bind_eq_ok.mp h
  obtain ⟨⟨left, rest'⟩, hleft, h⟩ := bind_eq_ok.mp h
  refine bind_eq_ok.mpr ⟨_, popOperand_onTop n below hright, ?_⟩
  refine bind_eq_ok.mpr ⟨_, popOperand_onTop n below hleft, ?_⟩
  have hpush := pushNode_onTop n below h
  rw [hbuild] at hpush
  exact hpush

theorem applyPrefix_onTop {build build' : Expr → Expr}
    (hbuild : ∀ operand, (build operand).shift n = build' (operand.shift n))
    (h : applyPrefix build items = .ok items') :
    applyPrefix build' (onTop n below items) = .ok (onTop n below items') := by
  obtain ⟨⟨operand, rest⟩, hoperand, h⟩ := bind_eq_ok.mp h
  refine bind_eq_ok.mpr ⟨_, popOperand_onTop n below hoperand, ?_⟩
  have hpush := pushNode_onTop n below h
  rw [hbuild] at hpush
  exact hpush

theorem applyOperator_onTop {op : Operator} (h : applyOperator op items = .ok items') :
    applyOperator (op.shift n) (onTop n below items) = .ok (onTop n below items') := by
  cases op with
  | binary op => exact applyInfix_onTop n below (fun _ _ => rfl) h
  | pipe => exact applyInfix_onTop n below (fun _ _ => rfl) h
  | unary op => exact applyPrefix_onTop n below (fun _ => rfl) h
  | reference offset => exact applyPrefix_onTop n below (fun _ => rfl) h

/-- Whatever waits below is not touched before the operators of the part have been applied. -/
theorem reduceWhile_onTop (htest : ∀ op : Operator, test (op.shift n) = test op)
    (h : reduceWhile test items pending = .ok (items', pending')) (outside : List Pending) :
    reduceWhile test (onTop n below items) (pending.map (Pending.shift n) ++ outside) =
      reduceWhile test (onTop n below items') (pending'.map (Pending.shift n) ++ outside) := by
  induction pending generalizing items with
  | nil =>
      cases h
      rfl
  | cons p rest ih =>
      cases p with
      | barrier =>
          cases h
          rfl
      | operator op =>
          simp only [reduceWhile] at h
          split at h
          · rename_i hop
            obtain ⟨next, happly, hnext⟩ := bind_eq_ok.mp h
            rw [← ih hnext]
            simp only [List.map_cons, Pending.shift, List.cons_append, reduceWhile, htest, hop,
              if_true, applyOperator_onTop n below happly]
            rfl
          · cases h
            rfl

theorem closeProjection_onTop (hne : items ≠ []) :
    closeProjection (onTop n below items) = onTop n below (closeProjection items) := by
  cases items with
  | nil => exact absurd rfl hne
  | cons item rest => cases item <;> rfl

theorem attachStep_onTop {step : Step} {inner : Nat} (h : attachStep step inner items = .ok items') :
    attachStep (step.shift n) inner (onTop n below items) = .ok (onTop n below items') := by
  obtain ⟨⟨target, rest⟩, htarget, h⟩ := bind_eq_ok.mp h
  refine bind_eq_ok.mpr ⟨_, popOperand_onTop n below htarget, ?_⟩
  have hpush := pushNode_onTop n below h
  by_cases hprojecting : target.projecting
  · simpa [Operand.shift, hprojecting] using hpush
  · simpa [Operand.shift, hprojecting] using hpush

theorem flattenTop_onTop (h : flattenTop items = .ok items') :
    flattenTop (onTop n below items) = .ok (onTop n below items') := by
  obtain ⟨⟨target, rest⟩, htarget, h⟩ := bind_eq_ok.mp h
  refine bind_eq_ok.mpr ⟨_, popOperand_onTop n below htarget, ?_⟩
  exact pushNode_onTop n below h

/-! ## Groups of a part -/

theorem splitGroup_onTop {above parts : List Item} {group : Group}
    (h : splitGroup above items = some (parts, group, items')) :
    splitGroup (above.map (Item.shift n)) (onTop n below items) =
      some (parts.map (Item.shift n), group, onTop n below items') := by
  fun_induction splitGroup above items with
  | case1 => cases h
  | case2 above group rest =>
      cases h
      rfl
  | case3 above item rest hitem ih =>
      cases item with
      | opened group => exact absurd rfl (hitem group)
      | operand o => exact ih h
      | key name => exact ih h

theorem asOperands_shift {operands : List Operand} (h : asOperands items = .ok operands) :
    asOperands (items.map (Item.shift n)) = .ok (operands.map (Operand.shift n)) := by
  induction items generalizing operands with
  | nil =>
      cases h
      rfl
  | cons item rest ih =>
      rw [asOperands, List.mapM_cons] at h
      obtain ⟨o, ho, h⟩ := bind_eq_ok.mp h
      obtain ⟨os, hos, h⟩ := bind_eq_ok.mp h
      cases h
      rw [List.map_cons, asOperands, List.mapM_cons]
      refine bind_eq_ok.mpr ⟨_, asOperand_shift n ho, ?_⟩
      exact bind_eq_ok.mpr ⟨_, ih hos, rfl⟩

theorem asEntries_shift {entries : List (String × Operand)} (h : asEntries items = .ok entries) :
    asEntries (items.map (Item.shift n)) =
      .ok (entries.map fun entry => (entry.1, entry.2.shift n)) := by
  fun_induction asEntries items generalizing entries with
  | case1 =>
      cases h
      rfl
  | case2 name item rest ih =>
      obtain ⟨o, ho, h⟩ := bind_eq_ok.mp h
      obtain ⟨os, hos, h⟩ := bind_eq_ok.mp h
      cases h
      refine bind_eq_ok.mpr ⟨_, asOperand_shift n ho, ?_⟩
      exact bind_eq_ok.mpr ⟨_, ih hos, rfl⟩
  | case3 => cases h

theorem greatestHeight_shift (operands : List Operand) :
    greatestHeight (operands.map (Operand.shift n)) = greatestHeight operands := by
  rw [greatestHeight, List.foldl_map]
  rfl

theorem pushGroup_onTop {e : Expr} {chained : Bool} {height : Nat}
    (h : pushGroup e chained height items = .ok items') :
    pushGroup (e.shift n) chained height (onTop n below items) = .ok (onTop n below items') := by
  cases chained with
  | false => exact pushNode_onTop n below h
  | true =>
      have hstep : attachStep (.node e) height items = .ok items' := h
      exact attachStep_onTop n below hstep

theorem pushList_onTop (build : List Expr → Expr)
    (hbuild : ∀ es, (build es).shift n = build (es.map (Expr.shift n))) {chained : Bool}
    {operands : List Operand}
    (h : pushGroup (build (operands.map (·.expr))) chained (greatestHeight operands + 1) items =
      .ok items') :
    pushGroup (build ((operands.map (Operand.shift n)).map (·.expr))) chained
      (greatestHeight (operands.map (Operand.shift n)) + 1) (onTop n below items) =
        .ok (onTop n below items') := by
  have hpush := pushGroup_onTop n below h
  rw [hbuild, List.map_map] at hpush
  rw [greatestHeight_shift, List.map_map]
  exact hpush

theorem pushHash_onTop {chained : Bool} {entries : List (String × Operand)}
    (h : pushGroup (.hash (entries.map fun entry => (entry.1, entry.2.expr))) chained
      (greatestHeight (entries.map (·.2)) + 1) items = .ok items') :
    let shifted := entries.map fun entry => (entry.1, entry.2.shift n)
    pushGroup (.hash (shifted.map fun entry => (entry.1, entry.2.expr))) chained
      (greatestHeight (shifted.map (·.2)) + 1) (onTop n below items) =
        .ok (onTop n below items') := by
  intro shifted
  have hpush := pushGroup_onTop n below h
  have hoperands : shifted.map (·.2) = (entries.map (·.2)).map (Operand.shift n) := by
    rw [List.map_map, List.map_map]
    rfl
  rw [hoperands, greatestHeight_shift, List.map_map]
  rw [Expr.shift, shiftEntries_eq_map, List.map_map] at hpush
  exact hpush

theorem close_onTop {group : Group} {closer : Closer} {parts : List Item}
    (h : group.close closer parts items = .ok items') :
    group.close closer (parts.map (Item.shift n)) (onTop n below items) =
      .ok (onTop n below items') := by
  match group, closer, parts, h with
  | .paren, .paren, [part], h =>
      obtain ⟨o, ho, h⟩ := bind_eq_ok.mp h
      exact bind_eq_ok.mpr ⟨_, asOperand_shift n ho, pushNode_onTop n below h⟩
  | .filter false, .filter, [part], h =>
      obtain ⟨o, ho, h⟩ := bind_eq_ok.mp h
      exact bind_eq_ok.mpr ⟨_, asOperand_shift n ho, pushNode_onTop n below h⟩
  | .filter true, .filter, [part], h =>
      obtain ⟨o, ho, h⟩ := bind_eq_ok.mp h
      have hstep : attachStep (.filter o.expr) o.height items = .ok items' := h
      exact bind_eq_ok.mpr ⟨_, asOperand_shift n ho, attachStep_onTop n below hstep⟩
  | .list chained, .list, parts, h =>
      obtain ⟨operands, hoperands, h⟩ := bind_eq_ok.mp h
      refine bind_eq_ok.mpr ⟨_, asOperands_shift n hoperands, ?_⟩
      exact pushList_onTop n below .list (fun es => by rw [Expr.shift, shiftItems_eq_map]) h
  | .hash chained, .hash, parts, h =>
      obtain ⟨entries, hentries, h⟩ := bind_eq_ok.mp h
      exact bind_eq_ok.mpr ⟨_, asEntries_shift n hentries, pushHash_onTop n below h⟩
  | .call function chained, .call, parts, h =>
      obtain ⟨_, harity, h⟩ := bind_eq_ok.mp h
      obtain ⟨operands, hoperands, h⟩ := bind_eq_ok.mp h
      refine bind_eq_ok.mpr ⟨(), by rw [List.length_map]; exact harity, ?_⟩
      refine bind_eq_ok.mpr ⟨_, asOperands_shift n hoperands, ?_⟩
      exact pushList_onTop n below (.call function)
        (fun es => by rw [Expr.shift, shiftItems_eq_map]) h

end OnTop

/-! ## The stacks of a part on top of others -/

/-- **`Action.FitsIn action s`** — what a move asks of stacks so that it does not look below them: an
infix operator has a left operand there, and what ends a part of a group has the group there. -/
def Action.FitsIn (s : Stacks) : Action → Prop
  | .token (.operator op) => op.isPrefix = false → s.items ≠ []
  | .token .separator => 0 < barriers s.pending
  | .token (.closing _) => 0 < barriers s.pending ∧ 0 < s.depth
  | .token .finish => False
  | _ => True

namespace Stacks

variable {limit : Prop} {n : Nat} {s s' outside : Stacks}

/-- The stacks of a part, `n` characters further on, on top of others. -/
def within (s : Stacks) (n : Nat) (outside : Stacks) : Stacks :=
  ⟨onTop n outside.items s.items, s.pending.map (Pending.shift n) ++ outside.pending,
    s.depth + outside.depth⟩

@[simp] theorem empty_within (n : Nat) (outside : Stacks) :
    ({} : Stacks).within n outside = outside := by
  simp [within, onTop]

/-- **`outside.KeepsOut`** — the operators that wait outside are not applied before a part is complete:
none waits in the same group, or only `&`, which binds least of all. -/
def KeepsOut (outside : Stacks) : Prop :=
  ∀ op rest, outside.pending = .operator op :: rest → ∃ offset, op = .reference offset

theorem KeepsOut.stops (h : outside.KeepsOut) {op : Operator} (hop : op.isPrefix = false) :
    Stops (fun p => p.precedence.yieldsTo op.precedence op.isRightAssociative) outside.pending := by
  cases hpending : outside.pending with
  | nil => trivial
  | cons p rest =>
      cases p with
      | barrier => trivial
      | operator p =>
          obtain ⟨offset, rfl⟩ := h p rest hpending
          cases op with
          | binary op => cases op <;> rfl
          | pipe => rfl
          | unary | reference => cases hop

theorem stops_within {test : Operator → Bool} {pending outside : List Pending}
    (htest : ∀ op : Operator, test (op.shift n) = test op) (h : Stops test pending)
    (houtside : pending = [] → Stops test outside) :
    Stops test (pending.map (Pending.shift n) ++ outside) := by
  cases pending with
  | nil => exact houtside rfl
  | cons p rest =>
      cases p with
      | barrier => trivial
      | operator op =>
          show test (op.shift n) = false
          rw [htest]
          exact h

theorem reduceWhile_within {test : Operator → Bool}
    (htest : ∀ op : Operator, test (op.shift n) = test op) (h : s.reduceWhile test = .ok s')
    (houtside : s'.pending = [] → Stops test outside.pending) :
    (s.within n outside).reduceWhile test = .ok (s'.within n outside) := by
  obtain ⟨⟨items, pending⟩, hreduce, h⟩ := bind_eq_ok.mp h
  cases h
  refine bind_eq_ok.mpr ⟨(onTop n outside.items items, pending.map (Pending.shift n) ++
    outside.pending), ?_, rfl⟩
  have hstops := stops_within htest (reduceWhile_stops hreduce) houtside
  exact (reduceWhile_onTop n outside.items htest hreduce outside.pending).trans
    (hstops.reduceWhile _)

theorem reduceToBarrier_within (h : s.reduceToBarrier = .ok s') (hbarriers : 0 < barriers s.pending) :
    (s.within n outside).reduceToBarrier = .ok (s'.within n outside) ∧
      ∃ rest, s'.pending = .barrier :: rest := by
  obtain ⟨⟨items, pending⟩, hreduce, hrest⟩ := bind_eq_ok.mp h
  cases hrest
  have hsame := barriers_reduceWhile hreduce
  -- A group of the part is open, so what stops is its barrier and not the end of the part.
  obtain ⟨rest, hpending⟩ := exists_barrier_of_stops (reduceWhile_stops hreduce) (by omega)
  refine ⟨reduceWhile_within (fun _ => rfl) h fun hnil => ?_, rest, hpending⟩
  rw [show pending = [] from hnil] at hpending
  cases hpending

theorem pushInfix_within {op : Operator} (hop : op.isPrefix = false) (hitems : s.items ≠ [])
    (houtside : outside.KeepsOut) (h : s.pushInfix op = .ok s') :
    (s.within n outside).pushInfix (op.shift n) = .ok (s'.within n outside) := by
  obtain ⟨reduced, hreduce, h⟩ := bind_eq_ok.mp h
  cases h
  refine bind_eq_ok.mpr ⟨reduced.within n outside, ?_, rfl⟩
  -- No infix operator takes what waits outside, as a barrier or a reference stops it.
  have hclose := closeProjection_onTop n outside.items hitems
  have hwithin : (within _ n outside).reduceWhile _ = .ok (reduced.within n outside) :=
    reduceWhile_within (fun p => by simp) hreduce fun _ => houtside.stops hop
  simp only [within, hclose, Operator.shift_precedence, Operator.shift_isRightAssociative]
    at hwithin ⊢
  exact hwithin

theorem closeGroup_within {closer : Closer} (hbarriers : 0 < barriers s.pending)
    (hdepth : 0 < s.depth) (h : s.closeGroup closer = .ok s') :
    (s.within n outside).closeGroup closer = .ok (s'.within n outside) := by
  obtain ⟨reduced, hreduce, h⟩ := bind_eq_ok.mp h
  obtain ⟨hwithin, rest, hpending⟩ : (s.within n outside).reduceToBarrier =
      .ok (reduced.within n outside) ∧ ∃ rest, reduced.pending = .barrier :: rest :=
    reduceToBarrier_within hreduce hbarriers
  -- The group that is closed is one of the part, and so are the items above its opener.
  have hsame : reduced.depth = s.depth := by
    obtain ⟨_, -, hrest⟩ := bind_eq_ok.mp hreduce
    cases hrest
    rfl
  refine bind_eq_ok.mpr ⟨_, hwithin, ?_⟩
  rw [hpending] at h
  cases hsplit : splitGroup [] reduced.items with
  | none =>
      rw [hsplit] at h
      cases h
  | some found =>
      obtain ⟨parts, group, items⟩ := found
      rw [hsplit] at h
      obtain ⟨items', hclose, h⟩ := bind_eq_ok.mp h
      cases h
      have hsplit' : splitGroup [] (onTop n outside.items reduced.items) =
          some (parts.map (Item.shift n), group, onTop n outside.items items) :=
        splitGroup_onTop n outside.items hsplit
      simp only [within, hpending, hsplit']
      have hdepths : reduced.depth + outside.depth - 1 = reduced.depth - 1 + outside.depth := by omega
      refine bind_eq_ok.mpr ⟨_, close_onTop n outside.items hclose, ?_⟩
      rw [hdepths]
      rfl

theorem mapItems_within {f g : List Item → Except Cause (List Item)}
    (hfg : ∀ items items', f items = .ok items' →
      g (onTop n outside.items items) = .ok (onTop n outside.items items'))
    (h : s.mapItems f = .ok s') : (s.within n outside).mapItems g = .ok (s'.within n outside) := by
  obtain ⟨items, hitems, h⟩ := bind_eq_ok.mp h
  cases h
  exact bind_eq_ok.mpr ⟨_, hfg _ _ hitems, rfl⟩

/-- **`perform_within`** — a move does to the stacks of a part on top of others what it does to them
alone, unless more groups than allowed are open on both together. -/
theorem perform_within {action : Action} (h : s.perform action = .ok s') (hfits : action.FitsIn s)
    (houtside : outside.KeepsOut) (hlimit : maxNesting < s'.depth + outside.depth → limit) :
    OrTooDeep limit ((s.within n outside).perform (action.shift n)) (s'.within n outside) := by
  match action, h, hfits with
  | .nothing, h, _ | .leaf _ _, h, _ | .token .current, h, _ | .token (.literal _), h, _
  | .token (.key _), h, _ | .token (.operand _), h, _ | .token (.operator (.unary _)), h, _
  | .token (.operator (.reference _)), h, _ =>
      cases h
      exact .inl rfl
  | .attach step, h, _ =>
      exact .inl (mapItems_within (fun _ _ => attachStep_onTop n outside.items) h)
  | .flatten, h, _ =>
      exact .inl (mapItems_within (fun _ _ => flattenTop_onTop n outside.items) h)
  | .token (.operator (.binary op)), h, hfits =>
      exact .inl (pushInfix_within rfl (hfits rfl) houtside h)
  | .token (.operator .pipe), h, hfits =>
      exact .inl (pushInfix_within rfl (hfits rfl) houtside h)
  | .token .separator, h, hfits =>
      exact .inl (reduceToBarrier_within h hfits).1
  | .token (.closing closer), h, hfits =>
      exact .inl (closeGroup_within hfits.1 hfits.2 h)
  | .token (.opening group), h, _ =>
      simp only [perform, accept, openGroup, Action.shift, Token.shift] at h ⊢
      split at h
      · cases h
      · cases h
        -- What the part may open alone can be too many groups on top of the others.
        have hsum : (s.within n outside).depth + 1 = s.depth + 1 + outside.depth := by
          show s.depth + outside.depth + 1 = _
          omega
        rw [hsum]
        split
        · rename_i hdeep
          exact .inr ⟨hlimit hdeep, rfl⟩
        · exact .inl rfl

/-- At the end of a text all that waits can be applied, and one operand is left. -/
theorem reduceWhile_of_result {o : Operand} (h : s.result = .ok o) :
    Expr.reduceWhile (fun _ => true) s.items s.pending = .ok ([.operand o], []) := by
  obtain ⟨accepted, haccept, h⟩ := bind_eq_ok.mp h
  obtain ⟨reduced, hreduced, haccept⟩ := bind_eq_ok.mp haccept
  obtain ⟨⟨items, pending⟩, hreduce, hrest⟩ := bind_eq_ok.mp hreduced
  cases hrest
  -- With something pending, or not just one operand left, there would be no result.
  split at haccept
  · rename_i hempty
    cases haccept
    obtain ⟨⟨top, rest⟩, hpop, h⟩ := bind_eq_ok.mp h
    simp only at h
    split at h
    · rename_i hnil
      cases h
      cases items with
      | nil => cases hpop
      | cons item items =>
          cases item with
          | operand o' =>
              cases hpop
              rw [List.isEmpty_iff.mp hnil] at hreduce
              rw [hreduce, show pending = [] from List.isEmpty_iff.mp hempty]
          | key | opened => cases hpop
    · cases h
  · cases haccept

/-- What waits of a part can be applied, and its operand is left on top of the others. -/
theorem reduceWhile_of_part {o : Operand} (h : s.result = .ok o) :
    Expr.reduceWhile (fun _ => true) (s.within n outside).items (s.within n outside).pending =
      Expr.reduceWhile (fun _ => true) (.operand (o.shift n) :: outside.items) outside.pending :=
  reduceWhile_onTop n outside.items (fun _ => rfl) (reduceWhile_of_result h) outside.pending

end Stacks

end JsonQuery.Expr
