/-
# JsonQuery.Proofs.Path.Nesting — how deep the paths that are accepted nest.

Selection recurses into the steps of a path, into the filters among them and into the paths and
calls in the filters.  The reader keeps two accounts: a depth for steps, parentheses, nested paths
and calls, and for every filter the levels of its operators.  A path or a call enters the second
account as one level, and what it holds enters the first one as if no operator stood above it.  So
operators above a path are counted by neither account, and the limit on both does not bound the
nesting; what it does bound is the nesting without these levels.
-/
import JsonQuery.Proofs.Path.Grammar
import JsonQuery.Proofs.Path.Negated
import Mathlib.Tactic.Ring

namespace JsonQuery.Path

/-! ## Nesting -/

mutual

/-- The greatest sum of a place and the nesting of the step there, counting places from one on. -/
def nestingFrom : List Step → Nat → Nat
  | [], _ => 0
  | step :: rest, place => max (place + step.inner) (nestingFrom rest (place + 1))

/-- What a step nests inside. -/
def Step.inner : Step → Nat
  | .filter f => f.nesting
  | .union branches => innerOfBranches branches
  | .root _ | .current | .parent _ | .name _ | .index _ | .slice _ | .wildcard | .descend => 0

/-- The most that a branch nests inside. -/
def innerOfBranches : List Step → Nat
  | [] => 0
  | branch :: rest => max branch.inner (innerOfBranches rest)

/-- The nesting of a filter: literals are one level, and everything else adds one. -/
def Filter.nesting : Filter → Nat
  | .literal _ => 1
  | .path steps => 1 + nestingFrom steps 1
  | .call _ args => 1 + nestingOfArgs args
  | .binary _ left right => 1 + max left.nesting right.nesting
  | .unary _ operand | .matching _ operand => 1 + operand.nesting

/-- The greatest nesting of an argument. -/
def nestingOfArgs : List Filter → Nat
  | [] => 0
  | arg :: rest => max arg.nesting (nestingOfArgs rest)

end

/-- The nesting of a path: the greatest sum of a place, the sign being the first one, and what the
step there nests inside. -/
def nesting (steps : List Step) : Nat := nestingFrom steps 1

theorem Step.inner_of_isPlain {step : Step} (h : step.isPlain = true) : step.inner = 0 := by
  cases step <;> simp_all [Step.isPlain, Step.inner]

theorem nestingFrom_append (steps : List Step) (step : Step) (place : Nat) :
    nestingFrom (steps ++ [step]) place
      = max (nestingFrom steps place) (place + steps.length + step.inner) := by
  induction steps generalizing place with
  | nil => simp [nestingFrom]
  | cons head rest ih =>
      rw [List.cons_append, nestingFrom, ih, nestingFrom, List.length_cons, Nat.max_assoc]
      congr 3
      omega

theorem nesting_append (steps : List Step) (step : Step) :
    nesting (steps ++ [step]) = max (nesting steps) (steps.length + 1 + step.inner) := by
  rw [nesting, nestingFrom_append, ← nesting, Nat.add_comm 1]

theorem innerOfBranches_append (branches : List Step) (step : Step) :
    innerOfBranches (branches ++ [step]) = max (innerOfBranches branches) step.inner := by
  induction branches with
  | nil => simp [innerOfBranches]
  | cons head rest ih =>
      rw [List.cons_append, innerOfBranches, ih, innerOfBranches, Nat.max_assoc]

/-! ## What no account counts -/

mutual

/-- The most levels that no account counts along a branch of steps. -/
def uncounted : List Step → Nat
  | [] => 0
  | step :: rest => max step.uncountedInside (uncounted rest)

/-- The levels inside a step that no account counts. -/
def Step.uncountedInside : Step → Nat
  | .filter f => f.uncountedBelow 0
  | .union branches => uncounted branches
  | .root _ | .current | .parent _ | .name _ | .index _ | .slice _ | .wildcard | .descend => 0

/-- The levels of a filter below some operators that no account counts: the operators above a path,
those above a call but one, since a call is counted once more than it nests, and a filter that is
just a literal. -/
def Filter.uncountedBelow : Filter → Nat → Nat
  | .literal _, operators => if operators = 0 then 1 else 0
  | .path steps, operators => operators + uncounted steps
  | .call _ args, operators => operators + uncountedOfArgs args - 1
  | .binary _ left right, operators =>
    max (left.uncountedBelow (operators + 1)) (right.uncountedBelow (operators + 1))
  | .unary _ operand, operators | .matching _ operand, operators =>
    operand.uncountedBelow (operators + 1)

/-- The most levels of an argument that no account counts. -/
def uncountedOfArgs : List Filter → Nat
  | [] => 0
  | arg :: rest => max (arg.uncountedBelow 0) (uncountedOfArgs rest)

end

theorem uncounted_append (steps : List Step) (step : Step) :
    uncounted (steps ++ [step]) = max (uncounted steps) step.uncountedInside := by
  induction steps with
  | nil => simp [uncounted]
  | cons head rest ih => rw [List.cons_append, uncounted, ih, uncounted, Nat.max_assoc]

/-! ## A bound by what is not counted -/

mutual

theorem StepsRead.nesting_le {outer first last : Nat} {steps : List Step} :
    StepsRead outer first steps last → outer + steps.length ≤ maxNesting →
      outer + nesting steps ≤ maxNesting + uncounted steps
  | .root | .current => fun hfits => by
      simp only [List.length_singleton] at hfits
      simp only [nesting, nestingFrom, Step.inner]
      omega
  | .snoc hsteps hstep => fun hfits => by
      rw [List.length_append, List.length_singleton] at hfits
      have hbefore := hsteps.nesting_le (by omega)
      have hinner := hstep.inner_le (by omega)
      rw [nesting_append, uncounted_append]
      omega

theorem StepRead.inner_le {level first last : Nat} {step : Step} :
    StepRead level first step last → level ≤ maxNesting →
      level + step.inner ≤ maxNesting + step.uncountedInside
  | .plain hplain => fun hlevel => by
      rw [Step.inner_of_isPlain hplain]
      omega
  | .filter hlevel hf => fun _ => hf.nesting_le 0 (.inl ⟨rfl, hlevel⟩)
  | .union hbranches _ => fun hlevel => hbranches.inner_le hlevel

theorem BranchesRead.inner_le {level first last : Nat} {branches : List Step} :
    BranchesRead level first branches last → level ≤ maxNesting →
      level + innerOfBranches branches ≤ maxNesting + uncounted branches
  | .nil => fun hlevel => Nat.le_add_right_of_le hlevel
  | .snoc hbranches hstep => fun hlevel => by
      have hbefore := hbranches.inner_le hlevel
      have hinner := hstep.inner_le hlevel
      rw [innerOfBranches_append, uncounted_append]
      omega

theorem FilterRead.nesting_le {level first last : Nat} {f : Filter} :
    FilterRead level first f last → ∀ operators,
      operators = 0 ∧ level ≤ maxNesting ∨ level + operators + f.levels ≤ maxNesting →
      level + operators + f.nesting ≤ maxNesting + f.uncountedBelow operators
  | .literal => fun operators hfits => by
      rw [Filter.levels] at hfits
      rw [Filter.nesting, Filter.uncountedBelow]
      split <;> omega
  | .path hlevel hsteps hlength => fun operators _ => by
      have hnesting := hsteps.nesting_le hlength
      rw [nesting] at hnesting
      rw [Filter.nesting, Filter.uncountedBelow]
      omega
  | .call hlevel hdepth hargs _ => fun operators hfits => by
      rw [Filter.levels] at hfits
      rw [Filter.nesting, Filter.uncountedBelow]
      rcases hargs.nesting_le with hzero | hnesting <;> omega
  | .binary hleft hright hlevels => fun operators hfits => by
      rw [Filter.levels] at hfits hlevels
      have hl := hleft.nesting_le (operators + 1) (.inr (by omega))
      have hr := hright.nesting_le (operators + 1) (.inr (by omega))
      rw [Filter.nesting, Filter.uncountedBelow]
      omega
  | .unary hoperand hlevels => fun operators hfits => by
      rw [Filter.levels] at hfits hlevels
      have ho := hoperand.nesting_le (operators + 1) (.inr (by omega))
      rw [Filter.nesting, Filter.uncountedBelow]
      omega
  | .matching hoperand hlevels => fun operators hfits => by
      rw [Filter.levels] at hfits hlevels
      have ho := hoperand.nesting_le (operators + 1) (.inr (by omega))
      rw [Filter.nesting, Filter.uncountedBelow]
      omega

theorem ArgsRead.nesting_le {level first last : Nat} {args : List Filter} :
    ArgsRead level first args last →
      nestingOfArgs args = 0 ∨ level + nestingOfArgs args ≤ maxNesting + uncountedOfArgs args
  | .nil => .inl rfl
  | .cons hlevel harg hrest => by
      have hnesting := harg.nesting_le 0 (.inl ⟨rfl, hlevel⟩)
      rw [nestingOfArgs, uncountedOfArgs]
      rcases hrest.nesting_le with hzero | hrest <;> omega

end

/-! ## A bound for all paths -/

/-- The step at a place takes the place, and leaves the square of what is behind it. -/
theorem add_max_add_square_le {place room : Nat} (hplace : 2 ≤ place) (hroom : place ≤ room) :
    place + max 1 (room - place) + (room - place) * (room - place) ≤ room * room := by
  obtain ⟨behind, rfl⟩ := Nat.exists_eq_add_of_le hroom
  rw [Nat.add_sub_cancel_left]
  have hplaces : 2 * place ≤ place * place := Nat.mul_le_mul_right place hplace
  have hboth : 2 * behind ≤ place * behind := Nat.mul_le_mul_right behind hplace
  have hsquare : (place + behind) * (place + behind)
      = place * place + 2 * (place * behind) + behind * behind := by ring
  omega

/-- Operators fit above the depth of their filter; operands do not ask for room. -/
theorem FilterRead.levels_le {level first last : Nat} {f : Filter}
    (h : FilterRead level first f last) : f.levels ≤ max 1 (maxNesting - level) := by
  cases h with
  | literal | path | call => exact Nat.le_max_left _ _
  | binary _ _ hfits | unary _ hfits | matching _ hfits => omega

mutual

theorem StepsRead.nesting_le_square {outer first last : Nat} {steps : List Step} :
    StepsRead outer first steps last → ∀ room, outer + room = maxNesting → steps.length ≤ room →
      nesting steps ≤ room * room
  | .root | .current => fun room _ hlength => by
      simp only [List.length_singleton] at hlength
      have hsquare : 1 * 1 ≤ room * room := Nat.mul_le_mul hlength hlength
      simpa only [nesting, nestingFrom, Step.inner, Nat.add_zero, Nat.max_zero] using hsquare
  | @StepsRead.snoc _ _ _ _ steps _ hsteps hstep => fun room hroom hlength => by
      rw [List.length_append, List.length_singleton] at hlength
      have hbefore := hsteps.nesting_le_square room hroom (by omega)
      have hinner := hstep.inner_le_square (room - (steps.length + 1)) (by omega)
      have hbehind : 2 ≤ steps.length + 1 := Nat.succ_le_succ hsteps.length_pos
      have hplace := add_max_add_square_le hbehind hlength
      rw [nesting_append]
      omega

theorem StepRead.inner_le_square {level first last : Nat} {step : Step} :
    StepRead level first step last → ∀ room, level + room = maxNesting →
      step.inner ≤ max 1 room + room * room
  | .plain hplain => fun room _ => by
      rw [Step.inner_of_isPlain hplain]
      omega
  | .filter _ hf => fun room hroom => by
      have hnesting := hf.nesting_le_square room hroom
      have hlevels := hf.levels_le
      rw [Step.inner]
      omega
  | .union hbranches _ => fun room hroom => hbranches.inner_le_square room hroom

theorem BranchesRead.inner_le_square {level first last : Nat} {branches : List Step} :
    BranchesRead level first branches last → ∀ room, level + room = maxNesting →
      innerOfBranches branches ≤ max 1 room + room * room
  | .nil => fun _ _ => Nat.zero_le _
  | .snoc hbranches hstep => fun room hroom => by
      rw [innerOfBranches_append]
      exact max_le (hbranches.inner_le_square room hroom) (hstep.inner_le_square room hroom)

theorem FilterRead.nesting_le_square {level first last : Nat} {f : Filter} :
    FilterRead level first f last → ∀ room, level + room = maxNesting →
      f.nesting ≤ f.levels + room * room
  | .literal => fun _ _ => Nat.le_add_right _ _
  | @FilterRead.path _ depth _ _ _ hlevel hsteps hlength => fun room hroom => by
      have hnesting := hsteps.nesting_le_square (maxNesting - (depth + 1)) (by omega) (by omega)
      have hsquare : (maxNesting - (depth + 1)) * (maxNesting - (depth + 1)) ≤ room * room :=
        Nat.mul_le_mul (by omega) (by omega)
      rw [nesting] at hnesting
      rw [Filter.nesting, Filter.levels]
      omega
  | @FilterRead.call _ depth _ _ _ _ hlevel hdepth hargs _ => fun room hroom => by
      rw [Filter.nesting, Filter.levels]
      rcases hargs.nesting_le_square with hzero | hnesting
      · omega
      have hplace : 2 + max 1 (room - 2) + (room - 2) * (room - 2) ≤ room * room :=
        add_max_add_square_le (Nat.le_refl 2) (by omega)
      have hrest : (maxNesting - (depth + 2)) * (maxNesting - (depth + 2))
          ≤ (room - 2) * (room - 2) := Nat.mul_le_mul (by omega) (by omega)
      omega
  | .binary hleft hright _ => fun room hroom => by
      have hl := hleft.nesting_le_square room hroom
      have hr := hright.nesting_le_square room hroom
      rw [Filter.nesting, Filter.levels]
      omega
  | .unary hoperand _ | .matching hoperand _ => fun room hroom => by
      have ho := hoperand.nesting_le_square room hroom
      rw [Filter.nesting, Filter.levels]
      omega

theorem ArgsRead.nesting_le_square {level first last : Nat} {args : List Filter} :
    ArgsRead level first args last → nestingOfArgs args = 0 ∨ level ≤ maxNesting ∧
      nestingOfArgs args
        ≤ max 1 (maxNesting - level) + (maxNesting - level) * (maxNesting - level)
  | .nil => .inl rfl
  | .cons hlevel harg hrest => by
      have hnesting := harg.nesting_le_square (maxNesting - level) (by omega)
      have hlevels := harg.levels_le
      rw [nestingOfArgs]
      rcases hrest.nesting_le_square with hzero | hrest <;> omega

end

/-! ## Texts -/

/-- **`nesting_le_of_compile`** — an accepted path nests at most to the limit and the levels that no
account counts, and in any case at most to the square of the limit. -/
theorem nesting_le_of_compile {text : String} {registry : Registry} {path : Path}
    (h : Path.compile text registry = .ok path) :
    nesting path.steps ≤ maxNesting + uncounted path.steps
      ∧ nesting path.steps ≤ maxNesting * maxNesting := by
  obtain ⟨⟨last, hsteps⟩, hlength⟩ := stepsRead_of_compile h
  have hcounted := hsteps.nesting_le (by rwa [Nat.zero_add])
  have hsquare := hsteps.nesting_le_square maxNesting (Nat.zero_add _) hlength
  exact ⟨by rwa [Nat.zero_add] at hcounted, hsquare⟩

/-- In `$[?!(@.a + $.b[?@.c]) && 1 < 2]` the second path in the filter is under three operators. -/
theorem nesting_le_of_compile_operators : ∃ path,
    Path.compile "$[?!(@.a + $.b[?@.c]) && 1 < 2]" = .ok path
      ∧ nesting path.steps = 12 ∧ uncounted path.steps = 3
      ∧ nesting path.steps ≤ maxNesting + uncounted path.steps
      ∧ nesting path.steps ≤ maxNesting * maxNesting := by
  have heval : ((Path.compile "$[?!(@.a + $.b[?@.c]) && 1 < 2]").toOption.map fun path =>
      (nesting path.steps, uncounted path.steps)) = some (12, 3) := by decide +kernel
  obtain ⟨path, hpath, hvalues⟩ := Option.map_eq_some_iff.mp heval
  obtain ⟨hnesting, huncounted⟩ := Prod.mk.inj hvalues
  have hcompile := eq_ok_of_toOption hpath
  exact ⟨path, hcompile, hnesting, huncounted, nesting_le_of_compile hcompile⟩

/-! ## Operators above a path -/

theorem Filter.nesting_negated (n : Nat) (f : Filter) :
    (negated n f).nesting = n + f.nesting := by
  induction n generalizing f with
  | zero => rw [negated, Nat.zero_add]
  | succ n ih => rw [negated, ih, Filter.nesting, Nat.add_assoc]

/-- A chain of names and indices nests no further than its last place. -/
theorem nestingFrom_toStep (l : Location) (step : Step) (hstep : step.inner = 0) (place : Nat) :
    nestingFrom (step :: l.map Location.Element.toStep) place = place + l.length := by
  induction l generalizing step place with
  | nil => simp [nestingFrom, hstep]
  | cons e rest ih =>
      have hinner : e.toStep.inner = 0 := by cases e <;> rfl
      rw [List.map_cons, nestingFrom, ih e.toStep hinner, hstep, List.length_cons]
      omega

/-- Negations above a path add to its length. -/
theorem nesting_negated (n : Nat) (l : Location) :
    nesting [.root 0, .filter (negated n (.path (.current :: l.map Location.Element.toStep)))]
      = n + l.length + 4 := by
  have hfilter : (negated n (.path (.current :: l.map Location.Element.toStep))).nesting
      = n + (1 + (1 + l.length)) := by
    rw [Filter.nesting_negated, Filter.nesting, nestingFrom_toStep l .current rfl]
  rw [nesting, nestingFrom, nestingFrom, nestingFrom, Step.inner, Step.inner, hfilter]
  omega

/-- **`exists_nesting_gt`** — the limit itself is no bound: no account counts the negations above a
path, so the path `$[?!!…!@[0][0]…[0]]` may have as many negations, and as many indices, as if there
were only the ones or only the others. -/
theorem exists_nesting_gt : ∃ path,
    Path.compile (String.ofList (negatedText 253 (List.replicate 252 (.index 0)))) = .ok path
      ∧ nesting path.steps = 509 ∧ maxNesting < nesting path.steps := by
  have hcompile := compile_negated (n := 253) (l := List.replicate 252 (.index 0))
    (List.all_eq_true.mpr fun e he => by rw [List.eq_of_mem_replicate he]; decide) (by decide)
    (by rw [List.length_replicate]; decide) .builtins
  have hnesting := nesting_negated 253 (List.replicate 252 (.index 0))
  rw [List.length_replicate] at hnesting
  exact ⟨_, hcompile, hnesting, hnesting ▸ by decide⟩

end JsonQuery.Path
