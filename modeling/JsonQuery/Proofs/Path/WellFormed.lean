/-
# JsonQuery.Proofs.Path.WellFormed — the trees of both languages.

The steps of a path follow the grammar, so its slices move on and the calls in its filters have the
arguments that their functions demand, however deep in filters and unions they stand.  With the same
known of expressions, no function of either language is ever called with an argument missing.
-/
import JsonQuery.Proofs.Expr.WellFormed
import JsonQuery.Proofs.Path.Grammar
import JsonQuery.Path.Select

namespace JsonQuery

namespace Path

/-! ## Well-formed paths -/

mutual

/-- **`step.WellFormed`** — slices move on, in the filters and branches of a step as well. -/
inductive Step.WellFormed : Step → Prop where
  | root (id : Nat) : Step.WellFormed (.root id)
  | current : Step.WellFormed .current
  | parent (levels : Nat) : Step.WellFormed (.parent levels)
  | name (name : String) : Step.WellFormed (.name name)
  | index (i : Int) : Step.WellFormed (.index i)
  | slice {s : Slice} : s.step ≠ 0 → Step.WellFormed (.slice s)
  | wildcard : Step.WellFormed .wildcard
  | descend : Step.WellFormed .descend
  | filter {f : Filter} : f.WellFormed → Step.WellFormed (.filter f)
  | union {branches : List Step} : (∀ branch ∈ branches, branch.WellFormed) →
      Step.WellFormed (.union branches)

/-- **`f.WellFormed`** — calls have the arguments that their functions demand, in the paths of a
filter as well. -/
inductive Filter.WellFormed : Filter → Prop where
  | literal (json : Json) : Filter.WellFormed (.literal json)
  | path {steps : List Step} : (∀ step ∈ steps, step.WellFormed) → Filter.WellFormed (.path steps)
  | call {function : Function} {args : List Filter} :
      (∀ n, function.arity = some n → args.length = n) → (∀ arg ∈ args, arg.WellFormed) →
      Filter.WellFormed (.call function args)
  | binary (op : BinaryOperator) {left right : Filter} : left.WellFormed → right.WellFormed →
      Filter.WellFormed (.binary op left right)
  | unary (op : UnaryOperator) {operand : Filter} : operand.WellFormed →
      Filter.WellFormed (.unary op operand)
  | matching (pattern : Pattern) {operand : Filter} : operand.WellFormed →
      Filter.WellFormed (.matching pattern operand)

end

mutual

/-- What follows the grammar of paths is well formed. -/
theorem StepsRead.wellFormed {outer first last : Nat} {steps : List Step} :
    StepsRead outer first steps last → ∀ step ∈ steps, step.WellFormed
  | .root => List.forall_mem_singleton.mpr (.root first)
  | .current => List.forall_mem_singleton.mpr .current
  | .snoc hsteps hstep => List.forall_mem_append.mpr
      ⟨hsteps.wellFormed, List.forall_mem_singleton.mpr hstep.wellFormed⟩

theorem StepRead.wellFormed {level first last : Nat} {step : Step} :
    StepRead level first step last → step.WellFormed
  | .plain hplain => by
      cases step with
      | parent levels => exact .parent levels
      | name name => exact .name name
      | index i => exact .index i
      | slice s => exact .slice (bne_iff_ne.mp hplain)
      | wildcard => exact .wildcard
      | descend => exact .descend
      | root | current | filter | union => cases hplain
  | .filter _ hfilter => .filter hfilter.wellFormed
  | .union hbranches _ => .union hbranches.wellFormed

theorem BranchesRead.wellFormed {level first last : Nat} {branches : List Step} :
    BranchesRead level first branches last → ∀ branch ∈ branches, branch.WellFormed
  | .nil => List.forall_mem_nil _
  | .snoc hbranches hstep => List.forall_mem_append.mpr
      ⟨hbranches.wellFormed, List.forall_mem_singleton.mpr hstep.wellFormed⟩

theorem FilterRead.wellFormed {level first last : Nat} {f : Filter} :
    FilterRead level first f last → f.WellFormed
  | .literal => .literal _
  | .path _ hsteps _ => .path hsteps.wellFormed
  | .call _ _ hargs hcount => .call hcount hargs.wellFormed
  | .binary hleft hright _ => .binary _ hleft.wellFormed hright.wellFormed
  | .unary hoperand _ => .unary _ hoperand.wellFormed
  | .matching hoperand _ => .matching _ hoperand.wellFormed

theorem ArgsRead.wellFormed {level first last : Nat} {args : List Filter} :
    ArgsRead level first args last → ∀ arg ∈ args, arg.WellFormed
  | .nil => List.forall_mem_nil _
  | .cons _ harg hrest => List.forall_mem_cons.mpr ⟨harg.wellFormed, hrest.wellFormed⟩

end

/-! ## Calls in a path -/

mutual

/-- **`step.Calls function args`** — somewhere in a step a function is called with these arguments. -/
inductive Step.Calls (function : Function) (args : List Filter) : Step → Prop where
  | filter {f : Filter} : f.Calls function args → Step.Calls function args (.filter f)
  | branch {branch : Step} {branches : List Step} : branch ∈ branches →
      branch.Calls function args → Step.Calls function args (.union branches)

/-- **`f.Calls function args`** — somewhere in a filter a function is called with these arguments. -/
inductive Filter.Calls (function : Function) (args : List Filter) : Filter → Prop where
  | here : Filter.Calls function args (.call function args)
  | step {step : Step} {steps : List Step} : step ∈ steps → step.Calls function args →
      Filter.Calls function args (.path steps)
  | argument {outer : Function} {arg : Filter} {others : List Filter} : arg ∈ others →
      arg.Calls function args → Filter.Calls function args (.call outer others)
  | left {op : BinaryOperator} {left right : Filter} : left.Calls function args →
      Filter.Calls function args (.binary op left right)
  | right {op : BinaryOperator} {left right : Filter} : right.Calls function args →
      Filter.Calls function args (.binary op left right)
  | operand {op : UnaryOperator} {operand : Filter} : operand.Calls function args →
      Filter.Calls function args (.unary op operand)
  | subject {pattern : Pattern} {operand : Filter} : operand.Calls function args →
      Filter.Calls function args (.matching pattern operand)

end

variable {function : Function} {args : List Filter} {n : Nat}

mutual

/-- Every call in a well-formed path has as many arguments as its function demands. -/
theorem Step.Calls.length_eq (hn : function.arity = some n) {step : Step} :
    step.Calls function args → step.WellFormed → args.length = n
  | .filter hcalls, .filter hf => hcalls.length_eq hn hf
  | .branch hmem hcalls, .union hbranches => hcalls.length_eq hn (hbranches _ hmem)

theorem Filter.Calls.length_eq (hn : function.arity = some n) {f : Filter} :
    f.Calls function args → f.WellFormed → args.length = n
  | .here, .call hcount _ => hcount n hn
  | .step hmem hcalls, .path hsteps => hcalls.length_eq hn (hsteps _ hmem)
  | .argument hmem hcalls, .call _ hargs => hcalls.length_eq hn (hargs _ hmem)
  | .left hcalls, .binary _ hleft _ => hcalls.length_eq hn hleft
  | .right hcalls, .binary _ _ hright => hcalls.length_eq hn hright
  | .operand hcalls, .unary _ hoperand => hcalls.length_eq hn hoperand
  | .subject hcalls, .matching _ hoperand => hcalls.length_eq hn hoperand

end

/-- Evaluation goes on to a call with a value for every argument. -/
theorem Filter.length_of_evalArgs {args : List Filter} {current : Value} {c : Context}
    {p p' : Progress} {values : List Value}
    (h : Filter.evalArgs args current c p = some (some values, p')) : values.length = args.length := by
  induction args generalizing p values with
  | nil =>
      cases h
      rfl
  | cons arg rest ih =>
      rw [evalArgs] at h
      obtain ⟨first, p₁, -, h⟩ := Evaluation.bind_eq_some.mp h
      cases first with
      | none => cases h
      | some v =>
          obtain ⟨others, p₂, hothers, h⟩ := Evaluation.bind_eq_some.mp h
          cases others with
          | none => cases h
          | some vs =>
              cases h
              exact congrArg (· + 1) (ih hothers)

end Path

/-! ## Both languages -/

/-- **`parsed_wellFormed`** — whatever the text and the functions that there are, the tree of an
expression and the steps of a path are well formed, and wherever a function is called in them that
demands a number of arguments, evaluation calls it with that number of values. -/
theorem parsed_wellFormed (text : String) (registry : Registry) :
    (∀ e, Expr.parse text registry = .ok e → e.WellFormed ∧
      ∀ function args n, e.Calls function args → function.arity = some n →
        args.length = n ∧ ∀ apply current c p values p',
          Expr.evalArgs apply args current c p = some (some values, p') → values.length = n) ∧
    (∀ steps, Path.parseSteps text registry = .ok steps → ∀ step ∈ steps, step.WellFormed ∧
      ∀ function args n, step.Calls function args → function.arity = some n →
        args.length = n ∧ ∀ current c p values p',
          Path.Filter.evalArgs args current c p = some (some values, p') → values.length = n) := by
  constructor
  · intro e hparse
    have hwell := Expr.wellFormed_of_parse hparse
    refine ⟨hwell, fun function args n hcalls hn => ?_⟩
    have hlength := hcalls.length_eq (.inl hwell) hn
    exact ⟨hlength, fun _ _ _ _ _ _ hvalues => (Expr.length_of_evalArgs hvalues).trans hlength⟩
  · intro steps hparse step hstep
    obtain ⟨⟨last, hread⟩, -⟩ := Path.stepsRead_of_parse hparse
    have hwell := hread.wellFormed step hstep
    refine ⟨hwell, fun function args n hcalls hn => ?_⟩
    have hlength := hcalls.length_eq hn hwell
    exact ⟨hlength, fun _ _ _ _ _ hvalues =>
      (Path.Filter.length_of_evalArgs hvalues).trans hlength⟩

set_option maxRecDepth 4096 in
/-- A call with a slice among its arguments, in either language. -/
theorem parsed_wellFormed_contains :
    let function := Function.ofBuiltin .contains
    let args : List Expr :=
      [.project .list (.chain (.field "a") (.slice ⟨none, none, 2⟩)) .current, .field "b"]
    let tests : List Path.Filter :=
      [.path [.current, .slice ⟨none, none, 2⟩], .literal (.number (.integer 1))]
    Expr.parse "contains(a[::2],b)" .builtins = .ok (.call function args) ∧
      (Expr.call function args).WellFormed ∧ args.length = 2 ∧
      Path.parseSteps "$[?contains(@[::2],1)]" .builtins =
        .ok [.root 0, .filter (.call function tests)] ∧
      (Path.Step.filter (.call function tests)).WellFormed ∧ tests.length = 2 := by
  intro function args tests
  have hexpr : Expr.parse "contains(a[::2],b)" .builtins = .ok (.call function args) := by rfl
  have hpath : Path.parseSteps "$[?contains(@[::2],1)]" .builtins =
      .ok [.root 0, .filter (.call function tests)] := by rfl
  obtain ⟨hwell, hcalls⟩ := (parsed_wellFormed "contains(a[::2],b)" .builtins).1 _ hexpr
  obtain ⟨hwell', hcalls'⟩ := (parsed_wellFormed "$[?contains(@[::2],1)]" .builtins).2 _ hpath
    (.filter (.call function tests)) (by simp)
  exact ⟨hexpr, hwell, (hcalls function args 2 .here rfl).1, hpath, hwell',
    (hcalls' function tests 2 (.filter .here) rfl).1⟩

end JsonQuery
