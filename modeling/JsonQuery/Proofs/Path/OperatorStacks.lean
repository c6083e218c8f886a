/-
# JsonQuery.Proofs.Path.OperatorStacks — operator expressions on the stacks of a filter.

Filters keep their operands and operators on stacks of their own, apply them in a loop of their
own, and count their parentheses.  Where the yard stands, the stacks hold the same operators over
corresponding operands, and both apply what waits at the same points: whatever the stacks come to,
the yard comes to something alike.  Heights are not compared, since a filter that is too high is not
read.
-/
import JsonQuery.Proofs.Expr.OperatorStacks
import JsonQuery.Proofs.Path.Taking

namespace JsonQuery.Path

/-- **`Alike e f`** — an expression and a filter have the same operators at the same places, and
where one has a field, the other has this member of the current value. -/
inductive Alike : Expr → Filter → Prop where
  | operand (name : String) : Alike (.field name) (.path [.current, .name name])
  | unary {op : UnaryOperator} {e : Expr} {f : Filter} :
      Alike e f → Alike (.unary op e) (.unary op f)
  | binary {op : BinaryOperator} {e e' : Expr} {f f' : Filter} :
      Alike e f → Alike e' f' → Alike (.binary op e e') (.binary op f f')

namespace Reader

/-- **`Stands y s`** — the stacks of a filter where the yard stands at `y`.  No pipe waits in a
filter. -/
inductive Stands : Yard Identifier → Stacks → Prop where
  | start : Stands (.expecting []) {}
  | sign {frames : List (Frame Identifier)} {s : Stacks} (op : UnaryOperator) :
      Stands (.expecting frames) s →
      Stands (.expecting (.sign op :: frames)) { s with pending := .unary op :: s.pending }
  | group {frames : List (Frame Identifier)} {s : Stacks} : Stands (.expecting frames) s →
      Stands (.expecting (.group :: frames))
        { s with pending := .paren :: s.pending, parens := s.parens + 1 }
  | join {frames : List (Frame Identifier)} {left : OperatorTree Identifier} {s : Stacks}
      (op : BinaryOperator) : Stands (.holding frames left) s →
      Stands (.expecting (.join (.binary op) left :: frames))
        { s with pending := .binary op :: s.pending }
  | operand {frames : List (Frame Identifier)} {t : OperatorTree Identifier} {s : Stacks}
      {f : Filter} (height : Nat) : Stands (.expecting frames) s → Alike t.toExpr f →
      Stands (.holding frames t) { s with operands := (f, height) :: s.operands }

variable {g : Registry} {text : List Char} {frames : List (Frame Identifier)}
  {t : OperatorTree Identifier} {s : Stacks}

/-! ## Applying what waits -/

theorem takes_reduce_unary {op : UnaryOperator} {f : Filter} {height : Nat}
    {operands : List (Filter × Nat)} {pending : List Pending} {parens : Nat} :
    Takes (reduce ⟨(f, height) :: operands, .unary op :: pending, parens⟩) g text fun s' rest =>
      rest = text ∧ ∃ height', s' = ⟨(.unary op f, height') :: operands, pending, parens⟩ := by
  unfold reduce
  exact (Takes.checkedHeight _).bind fun height' _ hrest => .pure ⟨hrest, height', rfl⟩

theorem takes_reduce_binary {op : BinaryOperator} {left right : Filter} {leftHeight height : Nat}
    {operands : List (Filter × Nat)} {pending : List Pending} {parens : Nat} :
    Takes (reduce
      ⟨(right, height) :: (left, leftHeight) :: operands, .binary op :: pending, parens⟩) g text
      fun s' rest => rest = text ∧
        ∃ height', s' = ⟨(.binary op left right, height') :: operands, pending, parens⟩ := by
  unfold reduce
  exact (Takes.checkedHeight _).bind fun height' _ hrest => .pure ⟨hrest, height', rfl⟩

/-- **`takes_reduceWhile`** — the loop of a filter applies what the yard applies. -/
theorem takes_reduceWhile (test : Nat → Bool) (h : Stands (.holding frames t) s) :
    Takes (reduceWhile (fun p => test p.level) s.pending.length s) g text fun s' rest =>
      rest = text ∧ s'.parens = s.parens ∧
        Stands (.holding (applyWhile test frames t).1 (applyWhile test frames t).2) s' := by
  induction frames generalizing t s text with
  | nil =>
      have hs := h
      cases h with
      | operand height hbelow _ =>
      cases hbelow
      exact .pure ⟨rfl, rfl, hs⟩
  | cons frame frames ih =>
      have hs := h
      cases h with
      | operand height hbelow ht =>
      cases hbelow with
      | group hrest => exact .pure ⟨rfl, rfl, hs⟩
      | sign op hrest =>
          simp only [applyWhile]
          refine .ite (fun (htest : test Precedence.unary.level) => ?_)
            fun (htest : ¬ test Precedence.unary.level) => .pure ⟨rfl, rfl, ?_⟩
          · rw [if_pos htest]
            refine takes_reduce_unary.bind ?_
            rintro _ _ ⟨rfl, height', rfl⟩
            have hsign : Alike (OperatorTree.sign op t).toExpr _ := .unary ht
            exact ih (.operand height' hrest hsign)
          · rw [if_neg htest]
            exact hs
      | @join _ left _ op hleft =>
          cases hleft with
          | operand leftHeight hrest hleft =>
          simp only [applyWhile]
          refine .ite (fun (htest : test (Joint.binary op).level) => ?_)
            fun (htest : ¬ test (Joint.binary op).level) => .pure ⟨rfl, rfl, ?_⟩
          · rw [if_pos htest]
            refine takes_reduce_binary.bind ?_
            rintro _ _ ⟨rfl, height', rfl⟩
            have hjoin : Alike (OperatorTree.join (.binary op) left t).toExpr _ := .binary hleft ht
            exact ih (.operand height' hrest hjoin)
          · rw [if_neg htest]
            exact hs

/-- **`takes_pushBinary`** — an infix operator takes the stacks where it takes the yard. -/
theorem takes_pushBinary (op : BinaryOperator) (h : Stands (.holding frames t) s) :
    Takes (pushBinary op s) g text fun s' rest => rest = text ∧
      ∃ frames', (Yard.holding frames t).feed (.joint (.binary op)) = some (.expecting frames') ∧
        Stands (.expecting frames') s' := by
  have hyields : (fun p : Precedence => p.yieldsTo op.precedence false) =
      fun p => decide (p.level ≤ (Joint.binary op).level) :=
    funext fun p => p.yieldsTo_eq_decide op.precedence
  unfold pushBinary
  rw [hyields]
  exact (takes_reduceWhile (· ≤ (Joint.binary op).level) h).bind fun s' _ ⟨hrest, _, hs'⟩ =>
    .pure ⟨hrest, _, rfl, .join op hs'⟩

/-- **`takes_closeParen`** — a parenthesis is closed on the stacks as in the yard. -/
theorem takes_closeParen (h : Stands (.holding frames t) s) (hopen : 0 < s.parens) :
    Takes (closeParen s) g text fun s' rest => rest = text ∧
      ∃ frames' t', (Yard.holding frames t).feed .closing = some (.holding frames' t') ∧
        Stands (.holding frames' t') s' := by
  unfold closeParen
  refine (takes_reduceWhile (fun _ => true) h).bind fun s' rest ⟨hrest, hparens, hs'⟩ => ?_
  refine (Takes.leave).bind fun _ rest' hrest' => .pure ⟨hrest'.trans hrest, ?_⟩
  obtain hnil | ⟨frames', hgroup⟩ := eq_nil_or_group_of_applyWhile frames t
  · -- Without frames no parenthesis is counted.
    rw [hnil] at hs'
    cases hs' with
    | operand height hbelow _ =>
    cases hbelow
    rw [← hparens] at hopen
    cases hopen
  · rw [hgroup] at hs'
    cases hs' with
    | operand height hbelow hbody =>
    cases hbelow with
    | group hrest =>
    exact ⟨frames', _, Yard.feed_closing (Prod.ext hgroup rfl), .operand height hrest hbody⟩

/-- **`takes_finish`** — what the stacks hold at the end is like the tree of the yard. -/
theorem takes_finish (h : Stands (.holding frames t) s) :
    Takes (finish s) g text fun f rest => rest = text ∧
      ∃ t', applyWhile (fun _ => true) frames t = ([], t') ∧ Alike t'.toExpr f := by
  unfold finish
  refine .ite (fun _ => .current_bind ?_) fun hclosed => ?_
  · cases text.head? with
    | none => exact .fail_bind
    | some c => exact .fail_bind
  · refine (takes_reduceWhile (fun _ => true) h).bind fun s' rest ⟨hrest, hparens, hs'⟩ => ?_
    obtain hnil | ⟨frames', hgroup⟩ := eq_nil_or_group_of_applyWhile frames t
    · rw [hnil] at hs'
      cases hs' with
      | operand height hbelow hbody =>
      cases hbelow
      exact (Takes.leave).bind fun _ rest' hrest' =>
        .pure ⟨hrest'.trans hrest, _, Prod.ext hnil rfl, hbody⟩
    · -- An open parenthesis is counted.
      rw [hgroup] at hs'
      cases hs' with
      | operand height hbelow _ =>
      cases hbelow
      rw [← hparens] at hclosed
      exact absurd (Nat.succ_pos _) hclosed

end Reader

end JsonQuery.Path
