/-
# JsonQuery.Proofs.Path.Grammar — what the reader of paths accepts.

The relations below say which steps and filters can be read at which depth, and with which numbers
for their root signs.  They follow the grammar of paths and not the stacks of the reader: a filter is
a tree, and the only trace of the stacks is the limit on the levels of its operators.  That the
reader gives nothing else is said here once; what holds of every path that can be read is then shown
along these relations.

The first two numbers of each relation are the depth and the number of the next root sign before
the part is read, the last number is that of the next root sign behind it.
-/
import JsonQuery.Proofs.Path.Reading

namespace JsonQuery.Path

/-! ## What can be read -/

/-- The levels of operators of a filter, its operands being one level. -/
def Filter.levels : Filter → Nat
  | .literal _ | .path _ | .call .. => 1
  | .binary _ left right => max left.levels right.levels + 1
  | .unary _ operand | .matching _ operand => operand.levels + 1

mutual

/-- **`StepsRead outer first steps last`** — a path whose sign stands at depth `outer`, up to some
step.  Every step is one level deeper than the one before. -/
inductive StepsRead : Nat → Nat → List Step → Nat → Prop where
  | root {outer first : Nat} : StepsRead outer first [.root first] (first + 1)
  | current {outer first : Nat} : StepsRead outer first [.current] first
  | snoc {outer first middle last : Nat} {steps : List Step} {step : Step} :
    StepsRead outer first steps middle → StepRead (outer + steps.length + 1) middle step last →
      StepsRead outer first (steps ++ [step]) last

/-- **`StepRead level first step last`** — a step behind the sign, at its own depth. -/
inductive StepRead : Nat → Nat → Step → Nat → Prop where
  | plain {level first : Nat} {step : Step} : step.isPlain = true → StepRead level first step first
  | filter {level first last : Nat} {f : Filter} : level ≤ maxNesting →
      FilterRead level first f last → StepRead level first (.filter f) last
  | union {level first last : Nat} {branches : List Step} : BranchesRead level first branches last →
      2 ≤ branches.length → StepRead level first (.union branches) last

/-- **`BranchesRead level first branches last`** — the branches of a union, all at its depth. -/
inductive BranchesRead : Nat → Nat → List Step → Nat → Prop where
  | nil {level first : Nat} : BranchesRead level first [] first
  | snoc {level first middle last : Nat} {branches : List Step} {step : Step} :
    BranchesRead level first branches middle → StepRead level middle step last →
      BranchesRead level first (branches ++ [step]) last

/-- **`FilterRead level first f last`** — a filter at its own depth.  A path or a call in it may
stand deeper, in parentheses; operators are limited by their levels above that depth. -/
inductive FilterRead : Nat → Nat → Filter → Nat → Prop where
  | literal {level first : Nat} {json : Json} : FilterRead level first (.literal json) first
  | path {level depth first last : Nat} {steps : List Step} : level ≤ depth →
      StepsRead (depth + 1) first steps last → depth + 1 + steps.length ≤ maxNesting →
      FilterRead level first (.path steps) last
  | call {level depth first last : Nat} {function : Function} {args : List Filter} :
      level ≤ depth → depth + 1 ≤ maxNesting → ArgsRead (depth + 2) first args last →
      (∀ expected, function.arity = some expected → args.length = expected) →
      FilterRead level first (.call function args) last
  | binary {level first middle last : Nat} {op : BinaryOperator} {left right : Filter} :
      FilterRead level first left middle → FilterRead level middle right last →
      level + (Filter.binary op left right).levels ≤ maxNesting →
      FilterRead level first (.binary op left right) last
  | unary {level first last : Nat} {op : UnaryOperator} {operand : Filter} :
      FilterRead level first operand last →
      level + (Filter.unary op operand).levels ≤ maxNesting →
      FilterRead level first (.unary op operand) last
  | matching {level first last : Nat} {pattern : Pattern} {operand : Filter} :
      FilterRead level first operand last →
      level + (Filter.matching pattern operand).levels ≤ maxNesting →
      FilterRead level first (.matching pattern operand) last

/-- **`ArgsRead level first args last`** — the arguments of a call, each a filter at their depth. -/
inductive ArgsRead : Nat → Nat → List Filter → Nat → Prop where
  | nil {level first : Nat} : ArgsRead level first [] first
  | cons {level first middle last : Nat} {arg : Filter} {rest : List Filter} : level ≤ maxNesting →
      FilterRead level first arg middle → ArgsRead level middle rest last →
      ArgsRead level first (arg :: rest) last

end

theorem StepsRead.length_pos {outer first last : Nat} {steps : List Step}
    (h : StepsRead outer first steps last) : 0 < steps.length := by
  cases h <;> simp

theorem BranchesRead.last_of_nil {level first last : Nat} {branches : List Step}
    (h : BranchesRead level first branches last) (hnil : branches = []) : first = last := by
  cases h with
  | nil => rfl
  | snoc => simp at hnil

/-! ## Steps that do not start over -/

mutual

/-- Whether a step goes on from where the path is. -/
def Step.isRelative : Step → Bool
  | .root _ | .current => false
  | .union branches => allRelative branches
  | .parent _ | .name _ | .index _ | .slice _ | .wildcard | .descend | .filter _ => true

/-- Whether all steps go on from where the path is. -/
def allRelative : List Step → Bool
  | [] => true
  | step :: rest => step.isRelative && allRelative rest

end

theorem Step.isRelative_of_isPlain {step : Step} (h : step.isPlain = true) :
    step.isRelative = true := by
  cases step <;> simp_all [Step.isPlain, Step.isRelative]

theorem allRelative_append (before after : List Step) :
    allRelative (before ++ after) = (allRelative before && allRelative after) := by
  induction before with
  | nil => rw [List.nil_append, allRelative, Bool.true_and]
  | cons head rest ih => rw [List.cons_append, allRelative, ih, allRelative, Bool.and_assoc]

theorem allRelative_singleton (step : Step) : allRelative [step] = step.isRelative := by
  rw [allRelative, allRelative, Bool.and_true]

mutual

theorem StepRead.isRelative {level first last : Nat} {step : Step} :
    StepRead level first step last → step.isRelative = true
  | .plain hplain => Step.isRelative_of_isPlain hplain
  | .filter _ _ => rfl
  | .union hbranches _ => hbranches.allRelative

theorem BranchesRead.allRelative {level first last : Nat} {branches : List Step} :
    BranchesRead level first branches last → allRelative branches = true
  | .nil => rfl
  | .snoc hbranches hstep => by
      rw [allRelative_append, allRelative_singleton, hbranches.allRelative, hstep.isRelative,
        Bool.and_true]

end

/-- A path is a sign and steps that go on from it. -/
theorem StepsRead.exists_relative {outer first last : Nat} {steps : List Step} :
    StepsRead outer first steps last → ∃ head rest, steps = head :: rest ∧
      (head = .root first ∨ head = .current) ∧ allRelative rest = true
  | .root => ⟨_, [], rfl, .inl rfl, rfl⟩
  | .current => ⟨_, [], rfl, .inr rfl, rfl⟩
  | .snoc hsteps hstep => by
      obtain ⟨head, rest, rfl, hhead, hrest⟩ := hsteps.exists_relative
      refine ⟨head, rest ++ [_], rfl, hhead, ?_⟩
      rw [allRelative_append, allRelative_singleton, hrest, hstep.isRelative, Bool.and_true]

/-! ## Operands that wait -/

/-- **`OperandsRead level first operands last`** — the operands that wait on the stack of a filter at
its depth, the last one first, each with its levels. -/
inductive OperandsRead : Nat → Nat → List (Filter × Nat) → Nat → Prop where
  | nil {level first : Nat} : OperandsRead level first [] first
  | cons {level first middle last : Nat} {f : Filter} {rest : List (Filter × Nat)} :
    OperandsRead level first rest middle → FilterRead level middle f last →
      OperandsRead level first ((f, f.levels) :: rest) last

namespace Reader

variable {g : Registry} {r : Reading} {level first : Nat} {s : Stacks}

/-! ## Operators that wait -/

/-- **`Holds level first s r`** — the stacks of a filter at its depth: the operands can be read there,
and open parentheses are all that the reader is deeper than the filter. -/
structure Holds (level first : Nat) (s : Stacks) (r : Reading) : Prop where
  depth : r.depth = level + s.parens
  operands : OperandsRead level first s.operands r.roots

theorem ensures_reduce (h : Holds level first s r) : Ensures (reduce s) g r fun s' r' =>
    r' = r ∧ s'.parens = s.parens ∧ Holds level first s' r := by
  obtain ⟨hdepth, hoperands⟩ := h
  unfold reduce
  split
  next op pending right rightHeight left leftHeight operands hpending hstack =>
    rw [hstack] at hoperands
    cases hoperands with
    | cons hbelow hright =>
    cases hbelow with
    | cons hrest hleft =>
    refine (ensures_checkedHeight _).bind fun height r' ⟨hheight, hr', hfits⟩ => .pure ?_
    subst hheight hr'
    refine ⟨rfl, rfl, hdepth, .cons hrest (.binary hleft hright ?_)⟩
    rw [Filter.levels]
    omega
  next op pending operand height operands hpending hstack =>
    rw [hstack] at hoperands
    cases hoperands with
    | cons hrest hoperand =>
    refine (ensures_checkedHeight _).bind fun height r' ⟨hheight, hr', hfits⟩ => .pure ?_
    subst hheight hr'
    refine ⟨rfl, rfl, hdepth, .cons hrest (.unary hoperand ?_)⟩
    rw [Filter.levels]
    omega
  next => exact .fail

theorem ensures_reduceWhile (test : Precedence → Bool) (fuel : Nat) (h : Holds level first s r) :
    Ensures (reduceWhile test fuel s) g r fun s' r' =>
      r' = r ∧ s'.parens = s.parens ∧ Holds level first s' r := by
  induction fuel generalizing s with
  | zero => exact .pure ⟨rfl, rfl, h⟩
  | succ fuel ih =>
      unfold reduceWhile
      split
      · refine .ite (fun _ => ?_) fun _ => .pure ⟨rfl, rfl, h⟩
        refine (ensures_reduce h).bind fun s' r' ⟨hr', hparens, hs'⟩ => ?_
        subst hr'
        exact (ih hs').imp fun s'' r'' ⟨hr'', hparens', hs''⟩ => ⟨hr'', hparens'.trans hparens, hs''⟩
      · exact .pure ⟨rfl, rfl, h⟩

theorem ensures_pushBinary (op : BinaryOperator) (h : Holds level first s r) :
    Ensures (pushBinary op s) g r fun s' r' => Holds level first s' r' := by
  unfold pushBinary
  refine (ensures_reduceWhile _ _ h).bind fun s' r' ⟨hr', _, hs'⟩ => .pure ?_
  subst hr'
  exact ⟨hs'.depth, hs'.operands⟩

theorem ensures_closeParen (h : Holds level first s r) (hopen : 0 < s.parens) :
    Ensures (closeParen s) g r fun s' r' => Holds level first s' r' := by
  unfold closeParen
  refine (ensures_reduceWhile _ _ h).bind fun s' r' ⟨hr', hparens, hs'⟩ => ?_
  subst hr'
  refine ensures_leave.bind fun _ r'' ⟨hdepth, hroots⟩ => .pure ⟨?_, hroots ▸ hs'.operands⟩
  rw [hdepth, hs'.depth]
  dsimp only
  omega

theorem ensures_matchTop (p : Pattern) (h : Holds level first s r) :
    Ensures (matchTop p s) g r fun s' r' => Holds level first s' r' := by
  obtain ⟨hdepth, hoperands⟩ := h
  unfold matchTop
  split
  next operand height operands hstack =>
    rw [hstack] at hoperands
    cases hoperands with
    | cons hrest hoperand =>
    refine (ensures_checkedHeight _).bind fun height r' ⟨hheight, hr', hfits⟩ => .pure ?_
    subst hheight hr'
    refine ⟨hdepth, .cons hrest (.matching hoperand ?_)⟩
    rw [Filter.levels]
    omega
  next => exact .fail

theorem ensures_finish (h : Holds level first s r) : Ensures (finish s) g r fun f r' =>
    r'.depth = level - 1 ∧ FilterRead level first f r'.roots := by
  unfold finish
  extract_lets close
  have hclose : s.parens = 0 → ∀ u, Ensures (close u) g r fun f r' =>
      r'.depth = level - 1 ∧ FilterRead level first f r'.roots := by
    intro hclosed u
    refine (ensures_reduceWhile _ _ h).bind fun s' r' ⟨hr', hparens, hs'⟩ => ?_
    subst hr'
    split
    next f height hstack =>
      have hoperands := hs'.operands
      rw [hstack] at hoperands
      cases hoperands with
      | cons hrest hf =>
      cases hrest
      refine ensures_leave.bind fun _ r'' ⟨hdepth, hroots⟩ => .pure ⟨?_, hroots ▸ hf⟩
      rw [hdepth, hs'.depth, hparens, hclosed, Nat.add_zero]
    next => exact .fail
  refine .ite (fun hopen => .current_bind ?_) fun hclosed => hclose (by omega) ()
  cases r.cursor.current with
  | none => exact .fail_bind
  | some c => exact .fail_bind

/-! ## Single readers -/

theorem ensures_headStep : Ensures headStep g r fun head r' =>
    r'.depth = r.depth ∧ StepsRead r.depth r.roots [head] r'.roots := by
  unfold headStep
  refine .current_bind ?_
  split
  · refine .get_bind fun step r' hrun => ?_
    obtain ⟨rfl, rfl⟩ := Prod.mk.inj (Except.ok.inj hrun)
    exact ⟨rfl, .root⟩
  · refine (Keeps.advance g r).bind fun _ r' ⟨_, hdepth, hroots⟩ => .pure ⟨hdepth, ?_⟩
    rw [hroots]
    exact .current
  · exact .fail

/-- A reader that only moves the cursor reads a plain step at any depth. -/
theorem ensures_plain {x : Reader Step} (hx : Gives x fun step => step.isPlain = true)
    (level : Nat) : Ensures x g r fun step r' =>
      r'.depth = r.depth ∧ StepRead level r.roots step r'.roots :=
  (hx g r).imp fun _ _ ⟨hplain, hdepth, hroots⟩ => ⟨hdepth, hroots ▸ .plain hplain⟩

/-! ## Descent -/

/-- **`Descends fuel`** — the readers with so much fuel give what the grammar allows. -/
structure Descends (fuel : Nat) : Prop where
  path : ∀ g r, Ensures (path fuel) g r fun steps r' => r'.depth = r.depth ∧
    StepsRead r.depth r.roots steps r'.roots ∧ r.depth + steps.length ≤ maxNesting
  pathSteps : ∀ g r outer first before, StepsRead outer first before.reverse r.roots →
    Ensures (pathSteps fuel outer before) g r fun steps r' =>
      StepsRead outer first steps r'.roots ∧ outer + steps.length ≤ maxNesting
  brackets : ∀ g r first before, BranchesRead (r.depth + 1) first before.reverse r.roots →
    Ensures (brackets fuel before) g r fun step r' =>
      r'.depth = r.depth ∧ StepRead (r.depth + 1) first step r'.roots
  filter : ∀ g r, Ensures (filter fuel) g r fun f r' => r'.depth = r.depth ∧
    r.depth + 1 ≤ maxNesting ∧ FilterRead (r.depth + 1) r.roots f r'.roots
  operandPosition : ∀ g r level first s, Holds level first s r →
    Ensures (operandPosition fuel s) g r fun f r' =>
      r'.depth = level - 1 ∧ FilterRead level first f r'.roots
  afterOperand : ∀ g r level first s, Holds level first s r →
    Ensures (afterOperand fuel s) g r fun f r' =>
      r'.depth = level - 1 ∧ FilterRead level first f r'.roots
  operand : ∀ g r, Ensures (operand fuel) g r fun f r' => r'.depth = r.depth ∧ f.levels = 1 ∧
    ∀ level ≤ r.depth, FilterRead level r.roots f r'.roots
  call : ∀ g r name, Ensures (call fuel name) g r fun f r' => r'.depth = r.depth ∧ f.levels = 1 ∧
    ∀ level ≤ r.depth, FilterRead level r.roots f r'.roots
  arguments : ∀ g r, Ensures (arguments fuel) g r fun args r' => r'.depth = r.depth ∧
    ArgsRead (r.depth + 1) r.roots args r'.roots

theorem descends_zero : Descends 0 where
  path _ _ := .fail
  pathSteps _ _ _ _ _ _ := .fail
  brackets _ _ _ _ _ := .fail
  filter _ _ := .fail
  operandPosition _ _ _ _ _ _ := .fail
  afterOperand _ _ _ _ _ _ := .fail
  operand _ _ := .fail
  call _ _ _ := .fail
  arguments _ _ := .fail

namespace Descends

variable {fuel : Nat} (h : Descends fuel)
include h

theorem path_succ (g : Registry) (r : Reading) : Ensures (Reader.path (fuel + 1)) g r
    fun steps r' => r'.depth = r.depth ∧
      StepsRead r.depth r.roots steps r'.roots ∧ r.depth + steps.length ≤ maxNesting := by
  unfold Reader.path
  refine ensures_headStep.bind fun head r₁ ⟨hdepth, hhead⟩ => .get_bind ?_
  refine (h.pathSteps g r₁ r₁.depth r.roots [head] (hdepth ▸ hhead)).bind
    fun steps r₂ ⟨hsteps, hlength⟩ => ?_
  refine (ensures_setDepth r₁.depth).bind fun _ r₃ ⟨hset, hroots⟩ => .pure ⟨hset.trans hdepth, ?_⟩
  rw [hroots, ← hdepth]
  exact ⟨hsteps, hlength⟩

theorem pathSteps_succ (g : Registry) (r : Reading) (outer first : Nat) (before : List Step)
    (hbefore : StepsRead outer first before.reverse r.roots) :
    Ensures (Reader.pathSteps (fuel + 1) outer before) g r fun steps r' =>
      StepsRead outer first steps r'.roots ∧ outer + steps.length ≤ maxNesting := by
  have hsnoc : ∀ {steps : List Step} {step : Step} {middle last : Nat},
      StepsRead outer first steps.reverse middle →
        StepRead (outer + steps.length + 1) middle step last →
        StepsRead outer first (step :: steps).reverse last := by
    intro steps step middle last hsteps hstep
    rw [List.reverse_cons]
    exact .snoc hsteps (by rwa [List.length_reverse])
  unfold Reader.pathSteps
  refine (ensures_setDepth _).bind fun _ r₁ ⟨hdepth, hroots⟩ => .get_bind ?_
  rw [← hroots] at hbefore
  extract_lets descended go
  have hgo : outer + before.length ≤ maxNesting → ∀ u, Ensures (go u) g r₁ fun steps r' =>
      StepsRead outer first steps r'.roots ∧ outer + steps.length ≤ maxNesting := by
    intro hfits u
    refine .current_bind ?_
    split
    · refine (Keeps.advance g r₁).bind fun _ r₂ ⟨_, _, hroots₂⟩ => ?_
      refine .current_bind (.ite (fun _ => ?_) fun _ => ?_)
      · refine (Keeps.advance g r₂).bind fun _ r₃ ⟨_, _, hroots₃⟩ => ?_
        have hdescend : StepsRead outer first (Step.descend :: before).reverse r₃.roots :=
          hsnoc hbefore (hroots₃ ▸ hroots₂ ▸ .plain rfl)
        refine .current_bind (.ite (fun _ => h.pathSteps g r₃ outer first _ hdescend) fun _ => ?_)
        refine (ensures_plain gives_memberStep (outer + descended.length + 1)).bind
          fun step r₄ hstep => ?_
        exact h.pathSteps g r₄ outer first _ (hsnoc hdescend hstep.2)
      · refine (ensures_plain gives_memberStep (outer + before.length + 1)).bind
          fun step r₃ hstep => ?_
        exact h.pathSteps g r₃ outer first _ (hsnoc hbefore (hroots₂ ▸ hstep.2))
    · refine (Keeps.advance g r₁).bind fun _ r₂ ⟨_, hdepth₂, hroots₂⟩ => ?_
      refine (h.brackets g r₂ r₂.roots [] .nil).bind fun step r₃ ⟨_, hstep⟩ => ?_
      rw [hdepth₂, hdepth, hroots₂] at hstep
      exact h.pathSteps g r₃ outer first _ (hsnoc hbefore hstep)
    · refine (Keeps.readWhile _ g r₁).bind fun carets r₂ ⟨_, _, hroots₂⟩ => ?_
      exact h.pathSteps g r₂ outer first _ (hsnoc hbefore (hroots₂ ▸ .plain rfl))
    · refine .pure ⟨hbefore, ?_⟩
      rwa [List.length_reverse]
  refine .ite (fun _ => .fail_bind) fun hfits => hgo ?_ ()
  rw [hdepth] at hfits
  exact Nat.le_of_not_lt hfits

theorem brackets_succ (g : Registry) (r : Reading) (first : Nat) (before : List Step)
    (hbefore : BranchesRead (r.depth + 1) first before.reverse r.roots) :
    Ensures (Reader.brackets (fuel + 1) before) g r fun step r' =>
      r'.depth = r.depth ∧ StepRead (r.depth + 1) first step r'.roots := by
  unfold Reader.brackets
  refine (Keeps.skipBlanks g r).bind fun _ r₁ ⟨_, hdepth₁, hroots₁⟩ => ?_
  refine (Keeps.coupling.demand g r₁).bind fun c r₂ ⟨_, hdepth₂, hroots₂⟩ => ?_
  have hsame : r₂.depth = r.depth := hdepth₂.trans hdepth₁
  rw [← hroots₁, ← hroots₂, ← hsame] at hbefore
  rw [← hsame]
  extract_lets behind
  -- What follows a step is the same for all of them.
  have hbehind : ∀ step r₃, r₃.depth = r₂.depth ∧ StepRead (r₂.depth + 1) r₂.roots step r₃.roots →
      Ensures (behind step) g r₃ fun step r' =>
        r'.depth = r₂.depth ∧ StepRead (r₂.depth + 1) first step r'.roots := by
    intro step r₃ ⟨hdepth₃, hstep⟩
    refine (Keeps.skipBlanks g r₃).bind fun _ r₄ ⟨_, hdepth₄, hroots₄⟩ => ?_
    refine (Keeps.coupling.demand g r₄).bind fun c r₅ ⟨_, hdepth₅, hroots₅⟩ => ?_
    have hall : BranchesRead (r₂.depth + 1) first (step :: before).reverse r₃.roots := by
      rw [List.reverse_cons]
      exact .snoc hbefore hstep
    refine .ite (fun _ => ?_) fun _ => .ite (fun _ => ?_) fun _ => .fail
    · refine (Keeps.advance g r₅).bind fun _ r₆ ⟨_, hdepth₆, hroots₆⟩ => ?_
      have hsame₆ : r₆.depth = r₂.depth := by omega
      rw [← hsame₆, ← hroots₄, ← hroots₅, ← hroots₆] at hall
      exact hsame₆ ▸ h.brackets g r₆ first _ hall
    · refine (Keeps.advance g r₅).bind fun _ r₆ ⟨_, hdepth₆, hroots₆⟩ => .pure ⟨by omega, ?_⟩
      rw [hroots₆, hroots₅, hroots₄]
      cases before with
      | nil => exact hbefore.last_of_nil rfl ▸ hstep
      | cons branch rest => exact .union hall (by simp)
  refine .ite (fun _ => ?_) fun _ => .ite (fun _ => ?_) fun _ => .ite (fun _ => ?_) fun _ =>
    .ite (fun _ => ?_) fun _ => .fail_bind
  · refine (Keeps.advance g r₂).bind fun _ r₃ ⟨_, hdepth₃, hroots₃⟩ => hbehind _ _ ⟨hdepth₃, ?_⟩
    exact hroots₃ ▸ .plain rfl
  · refine (Keeps.coupling.quoted c g r₂).bind fun name r₃ ⟨_, hdepth₃, hroots₃⟩ =>
      hbehind _ _ ⟨hdepth₃, ?_⟩
    exact hroots₃ ▸ .plain rfl
  · refine (Keeps.advance g r₂).bind fun _ r₃ ⟨_, hdepth₃, hroots₃⟩ => ?_
    refine (h.filter g r₃).bind fun f r₄ ⟨hdepth₄, hlevel, hf⟩ => hbehind _ _ ⟨by omega, ?_⟩
    rw [hdepth₃] at hlevel hf
    exact .filter hlevel (hroots₃ ▸ hf)
  · exact (ensures_plain gives_indexOrSlice _).bind hbehind

theorem filter_succ (g : Registry) (r : Reading) : Ensures (Reader.filter (fuel + 1)) g r
    fun f r' => r'.depth = r.depth ∧
      r.depth + 1 ≤ maxNesting ∧ FilterRead (r.depth + 1) r.roots f r'.roots := by
  unfold Reader.filter
  refine ensures_enter.bind fun _ r₁ ⟨hdepth, hroots, hlevel⟩ => ?_
  refine (h.operandPosition g r₁ (r.depth + 1) r.roots {} ⟨hdepth, hroots ▸ .nil⟩).imp
    fun f r' ⟨hdepth', hf⟩ => ⟨hdepth', by omega, hf⟩

theorem operandPosition_succ (g : Registry) (r : Reading) (level first : Nat) (s : Stacks)
    (hs : Holds level first s r) : Ensures (Reader.operandPosition (fuel + 1) s) g r fun f r' =>
      r'.depth = level - 1 ∧ FilterRead level first f r'.roots := by
  unfold Reader.operandPosition
  refine (Keeps.skipBlanks g r).bind fun _ r₁ ⟨_, hdepth, hroots⟩ => ?_
  have hs₁ : Holds level first s r₁ := ⟨hdepth.trans hs.depth, hroots ▸ hs.operands⟩
  have hsign : ∀ op, Ensures (do
      advance
      Reader.operandPosition fuel { s with pending := .unary op :: s.pending }) g r₁ fun f r' =>
        r'.depth = level - 1 ∧ FilterRead level first f r'.roots := fun op =>
    (Keeps.advance g r₁).bind fun _ r₂ ⟨_, hdepth₂, hroots₂⟩ =>
      h.operandPosition g r₂ level first _ ⟨hdepth₂.trans hs₁.depth, hroots₂ ▸ hs₁.operands⟩
  refine .current_bind ?_
  split
  · exact hsign .not
  · refine (Keeps.advance g r₁).bind fun _ r₂ ⟨_, hdepth₂, hroots₂⟩ => ?_
    refine ensures_enter.bind fun _ r₃ ⟨hdepth₃, hroots₃, _⟩ => ?_
    refine h.operandPosition g r₃ level first _ ⟨?_, hroots₃ ▸ hroots₂ ▸ hs₁.operands⟩
    rw [hdepth₃, hdepth₂, hs₁.depth]
    exact Nat.add_assoc _ _ _
  · refine .next_bind (.ite (fun _ => hsign .minus) fun _ => ?_)
    refine (h.operand g r₁).bind fun f r₂ ⟨hdepth₂, hlevels, hf⟩ => ?_
    refine h.afterOperand g r₂ level first _ ⟨hdepth₂.trans hs₁.depth, ?_⟩
    exact hlevels ▸ .cons hs₁.operands (hf level (by rw [hs₁.depth]; omega))

theorem afterOperand_succ (g : Registry) (r : Reading) (level first : Nat) (s : Stacks)
    (hs : Holds level first s r) : Ensures (Reader.afterOperand (fuel + 1) s) g r fun f r' =>
      r'.depth = level - 1 ∧ FilterRead level first f r'.roots := by
  unfold Reader.afterOperand
  refine (Keeps.skipBlanks g r).bind fun _ r₁ ⟨_, hdepth, hroots⟩ => ?_
  have hs₁ : Holds level first s r₁ := ⟨hdepth.trans hs.depth, hroots ▸ hs.operands⟩
  refine .current_bind ?_
  split
  · exact ensures_finish hs₁
  · refine .ite (fun hclosing => ?_) fun _ => .next_bind (.ite (fun _ => ?_) fun _ =>
      .ite (fun _ => ensures_finish hs₁) fun _ => ?_)
    · simp only [Bool.and_eq_true, decide_eq_true_eq] at hclosing
      refine (Keeps.advance g r₁).bind fun _ r₂ ⟨_, hdepth₂, hroots₂⟩ => ?_
      have hs₂ : Holds level first s r₂ := ⟨hdepth₂.trans hs₁.depth, hroots₂ ▸ hs₁.operands⟩
      exact (ensures_closeParen hs₂ hclosing.2).bind fun s' r₃ hs' =>
        h.afterOperand g r₃ level first s' hs'
    · refine (Keeps.advance g r₁).bind fun _ r₂ ⟨_, hdepth₂, hroots₂⟩ => ?_
      refine (Keeps.advance g r₂).bind fun _ r₃ ⟨_, hdepth₃, hroots₃⟩ => ?_
      refine (Keeps.coupling.pattern g r₃).bind fun p r₄ ⟨_, hdepth₄, hroots₄⟩ => ?_
      have hs₄ : Holds level first s r₄ := by
        refine ⟨by rw [hdepth₄, hdepth₃, hdepth₂, hs₁.depth], ?_⟩
        rw [hroots₄, hroots₃, hroots₂]
        exact hs₁.operands
      exact (ensures_matchTop p hs₄).bind fun s' r₅ hs' => h.afterOperand g r₅ level first s' hs'
    · refine (Keeps.coupling.binaryOperator g r₁).bind fun op r₂ ⟨_, hdepth₂, hroots₂⟩ => ?_
      have hs₂ : Holds level first s r₂ := ⟨hdepth₂.trans hs₁.depth, hroots₂ ▸ hs₁.operands⟩
      exact (ensures_pushBinary op hs₂).bind fun s' r₃ hs' =>
        h.operandPosition g r₃ level first s' hs'

theorem operand_succ (g : Registry) (r : Reading) : Ensures (Reader.operand (fuel + 1)) g r
    fun f r' => r'.depth = r.depth ∧ f.levels = 1 ∧
      ∀ level ≤ r.depth, FilterRead level r.roots f r'.roots := by
  unfold Reader.operand
  refine (Keeps.coupling.demand g r).bind fun c r₁ ⟨_, hdepth, hroots⟩ => ?_
  rw [← hdepth, ← hroots]
  have hliteral : ∀ {r' : Reading} (json : Json), r'.depth = r₁.depth ∧ r'.roots = r₁.roots →
      r'.depth = r₁.depth ∧ (Filter.literal json).levels = 1 ∧
        ∀ level ≤ r₁.depth, FilterRead level r₁.roots (.literal json) r'.roots :=
    fun json ⟨hdepth, hroots⟩ => ⟨hdepth, rfl, fun level _ => hroots ▸ .literal⟩
  refine .ite (fun _ => ?_) fun _ => .ite (fun _ => ?_) fun _ => .ite (fun _ => ?_) fun _ =>
    .ite (fun _ => ?_) fun _ => .fail
  · refine ensures_enter.bind fun _ r₂ ⟨hdepth₂, hroots₂, _⟩ => ?_
    refine (h.path g r₂).bind fun steps r₃ ⟨hdepth₃, hsteps, hlength⟩ => ?_
    refine ensures_leave.bind fun _ r₄ ⟨hdepth₄, hroots₄⟩ =>
      .pure ⟨by omega, rfl, fun level hlevel => ?_⟩
    rw [hdepth₂, hroots₂] at hsteps
    rw [hroots₄]
    exact .path hlevel hsteps (by omega)
  · exact (Keeps.coupling.quoted c g r₁).bind fun name r₂ ⟨_, hkeeps⟩ => .pure (hliteral _ hkeeps)
  · exact (gives_number g r₁).imp fun f r₂ ⟨⟨json, hf⟩, hkeeps⟩ => hf ▸ hliteral json hkeeps
  · refine (Keeps.readWhile _ g r₁).bind fun word r₂ ⟨_, hkeeps⟩ => ?_
    cases literalWord? word with
    | some json => exact .pure (hliteral json hkeeps)
    | none =>
        refine (Keeps.skipBlanks g r₂).bind fun _ r₃ ⟨_, hdepth₃, hroots₃⟩ => .current_bind ?_
        obtain ⟨hdepth₂, hroots₂⟩ := hkeeps
        refine .ite (fun _ => .fail_bind) fun _ => ?_
        rw [← hdepth₂, ← hdepth₃, ← hroots₂, ← hroots₃]
        exact h.call g r₃ _

theorem call_succ (g : Registry) (r : Reading) (name : String) :
    Ensures (Reader.call (fuel + 1) name) g r fun f r' => r'.depth = r.depth ∧ f.levels = 1 ∧
      ∀ level ≤ r.depth, FilterRead level r.roots f r'.roots := by
  unfold Reader.call
  refine .read_bind ?_
  cases g.find? name with
  | none => exact .fail
  | some function =>
      refine (Keeps.advance g r).bind fun _ r₁ ⟨_, hdepth₁, hroots₁⟩ => ?_
      refine ensures_enter.bind fun _ r₂ ⟨hdepth₂, hroots₂, hlevel₂⟩ => ?_
      refine (Keeps.skipBlanks g r₂).bind fun _ r₃ ⟨_, hdepth₃, hroots₃⟩ => .current_bind ?_
      extract_lets behind
      have hbehind : ∀ args r₄, r₄.depth = r₃.depth →
          ArgsRead (r₃.depth + 1) r₃.roots args r₄.roots →
          Ensures (behind args) g r₄ fun f r' => r'.depth = r.depth ∧ f.levels = 1 ∧
            ∀ level ≤ r.depth, FilterRead level r.roots f r'.roots := by
        intro args r₄ hdepth₄ hargs
        refine ensures_leave.bind fun _ r₅ ⟨hdepth₅, hroots₅⟩ => ?_
        have hcall : (∀ expected, function.arity = some expected → args.length = expected) →
            r₅.depth = r.depth ∧ (Filter.call function args).levels = 1 ∧
              ∀ level ≤ r.depth, FilterRead level r.roots (.call function args) r₅.roots := by
          intro harity
          refine ⟨by omega, rfl, fun level hlevel => ?_⟩
          rw [hroots₅, ← hroots₁, ← hroots₂, ← hroots₃]
          refine .call hlevel (by omega) ?_ harity
          have hdeep : r₃.depth + 1 = r.depth + 2 := by omega
          exact hdeep ▸ hargs
        split
        next expected harity =>
          refine .ite (fun _ => .fail_bind) fun hlength => .pure (hcall fun n hn => ?_)
          obtain rfl := Option.some.inj (harity.symm.trans hn)
          have heq : expected = args.length := by simpa using hlength
          exact heq.symm
        next harity => exact .pure (hcall fun n hn => nomatch harity.symm.trans hn)
      refine .ite (fun _ => ?_) fun _ => ?_
      · refine (Keeps.advance g r₃).bind fun _ r₄ ⟨_, hdepth₄, hroots₄⟩ => ?_
        exact hbehind [] r₄ hdepth₄ (hroots₄ ▸ .nil)
      · exact (h.arguments g r₃).bind fun args r₄ ⟨hdepth₄, hargs⟩ => hbehind args r₄ hdepth₄ hargs

theorem arguments_succ (g : Registry) (r : Reading) : Ensures (Reader.arguments (fuel + 1)) g r
    fun args r' => r'.depth = r.depth ∧ ArgsRead (r.depth + 1) r.roots args r'.roots := by
  unfold Reader.arguments
  refine (h.filter g r).bind fun arg r₁ ⟨hdepth₁, hlevel, harg⟩ => ?_
  refine (Keeps.coupling.demand g r₁).bind fun c r₂ ⟨_, hdepth₂, hroots₂⟩ => ?_
  refine .ite (fun _ => ?_) fun _ => .ite (fun _ => ?_) fun _ => .fail
  · refine (Keeps.advance g r₂).bind fun _ r₃ ⟨_, hdepth₃, hroots₃⟩ => ?_
    refine (h.arguments g r₃).bind fun rest r₄ ⟨hdepth₄, hrest⟩ => .pure ⟨by omega, ?_⟩
    have hsame : r₃.depth = r.depth := by omega
    rw [hsame, hroots₃, hroots₂] at hrest
    exact .cons hlevel harg hrest
  · refine (Keeps.advance g r₂).bind fun _ r₃ ⟨_, hdepth₃, hroots₃⟩ => .pure ⟨by omega, ?_⟩
    rw [hroots₃, hroots₂]
    exact .cons hlevel harg .nil

end Descends

theorem descends (fuel : Nat) : Descends fuel := by
  induction fuel with
  | zero => exact descends_zero
  | succ fuel h =>
      exact ⟨h.path_succ, h.pathSteps_succ, h.brackets_succ, h.filter_succ, h.operandPosition_succ,
        h.afterOperand_succ, h.operand_succ, h.call_succ, h.arguments_succ⟩

theorem ensures_whole (hr : r.depth = 0 ∧ r.roots = 0) : Ensures whole g r fun steps _ =>
    (∃ last, StepsRead 0 0 steps last) ∧ steps.length ≤ maxNesting := by
  obtain ⟨hdepth, hroots⟩ := hr
  unfold whole
  refine (Keeps.skipBlanks g r).bind fun _ r₁ ⟨_, hdepth₁, hroots₁⟩ => ?_
  refine (Keeps.coupling.demand g r₁).bind fun c r₂ ⟨_, hdepth₂, hroots₂⟩ => ?_
  extract_lets behind
  have hbehind : ∀ u, Ensures (behind u) g r₂ fun steps _ =>
      (∃ last, StepsRead 0 0 steps last) ∧ steps.length ≤ maxNesting := by
    intro u
    refine .get_bind (((descends _).path g r₂).bind fun steps r₃ ⟨_, hsteps, hlength⟩ => ?_)
    rw [hdepth₂, hdepth₁, hdepth] at hsteps hlength
    rw [hroots₂, hroots₁, hroots] at hsteps
    refine (Keeps.skipBlanks g r₃).bind fun _ r₄ _ => .get_bind (.ite (fun _ => ?_) fun _ => .fail)
    exact .pure ⟨⟨_, hsteps⟩, by omega⟩
  exact .ite (fun _ => .fail_bind) fun _ => hbehind ()

end Reader

/-- **`stepsRead_of_parse`** — the steps of an accepted text follow the grammar from depth zero, with
numbers for root signs from zero on. -/
theorem stepsRead_of_parse {text : String} {registry : Registry} {steps : List Step}
    (h : parseSteps text registry = .ok steps) :
    (∃ last, StepsRead 0 0 steps last) ∧ steps.length ≤ maxNesting := by
  have hwhole := Reader.ensures_whole (g := registry) (r := { cursor := .start text }) ⟨rfl, rfl⟩
  change (Reader.whole registry { cursor := .start text }).map (·.1) = .ok steps at h
  cases hrun : Reader.whole registry { cursor := .start text } with
  | error e =>
      rw [hrun] at h
      cases h
  | ok result =>
      rw [hrun] at h
      obtain rfl := Except.ok.inj h
      exact hwhole result.1 result.2 hrun

theorem eq_ok_of_toOption {ε α : Type} {x : Except ε α} {a : α} (h : x.toOption = some a) :
    x = .ok a := by
  cases x with
  | error e => cases h
  | ok b => rw [Option.some.inj h]

theorem stepsRead_of_compile {text : String} {registry : Registry} {path : Path}
    (h : Path.compile text registry = .ok path) :
    (∃ last, StepsRead 0 0 path.steps last) ∧ path.steps.length ≤ maxNesting := by
  unfold Path.compile at h
  cases hsteps : parseSteps text registry with
  | error e =>
      rw [hsteps] at h
      cases h
  | ok steps =>
      rw [hsteps] at h
      obtain rfl := Except.ok.inj h
      exact stepsRead_of_parse hsteps

end JsonQuery.Path
