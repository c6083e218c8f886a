/-
# JsonQuery.Proofs.Path.Meaning — what paths and filters mean, without an evaluation.

Selection counts its steps and remembers the values of root paths.  Here the same paths and filters
are given a meaning that knows neither: a path leads from a node to a list of nodes, and a filter has
a value on the tested one, every path in it being followed each time.  A path that starts at the root
means the same wherever it is evaluated.
-/
import JsonQuery.Proofs.Path.Budget

namespace JsonQuery.Path

/-! ## Meaning -/

mutual

/-- **`found c steps n`** — the nodes that steps lead to from a node, in order. -/
def found (c : Context) (steps : List Step) (n : Node) : List Node :=
  match steps with
  | [] => [n]
  | step :: rest => (step.hits c n).flatMap (found c rest)

/-- The nodes that one step leads to. -/
def Step.hits (step : Step) (c : Context) (n : Node) : List Node :=
  match step with
  | .filter f => n.children.filter fun child => passes (f.value? c child.value)
  | .union branches => hitsOfBranches c branches n
  | step => step.targets c n

/-- The nodes that branches lead to, one branch after another. -/
def hitsOfBranches (c : Context) (branches : List Step) (n : Node) : List Node :=
  match branches with
  | [] => []
  | branch :: rest => branch.hits c n ++ hitsOfBranches c rest n

/-- The value of a filter on a tested value, if it has one. -/
def Filter.value? (f : Filter) (c : Context) (current : Value) : Option Value :=
  match f with
  | .literal json => some (.ofJson json)
  | .path steps => pathValue (isSingular steps) (found c steps ⟨[], current⟩)
  | .call function args => (argValues? c args current).bind function.body.value?
  | .binary op left right =>
    if op.isLogical then
      let a := (left.value? c current).getD .null
      match op.shortCircuit a with
      | some result => some result
      | none => op.apply a ((right.value? c current).getD .null)
    else do op.apply (← left.value? c current) (← right.value? c current)
  | .unary .not operand => some (.bool (!passes (operand.value? c current)))
  | .unary op operand => (operand.value? c current).bind op.apply
  | .matching pattern operand =>
    ((operand.value? c current).bind Value.string?).map fun s => .bool (pattern.isMatch s)

/-- The values of arguments, if all of them have one. -/
def argValues? (c : Context) (args : List Filter) (current : Value) : Option (List Value) :=
  match args with
  | [] => some []
  | arg :: rest => do return (← arg.value? c current) :: (← argValues? c rest current)

end

/-- **`path.meaning document maxDepth`** — the nodes that a path leads to from the root. -/
def meaning (path : Path) (document : Json) (maxDepth : Nat) : List Node :=
  found ⟨.ofJson document, ⟨maxDepth, none⟩⟩ path.steps ⟨[], .ofJson document⟩

variable {c : Context}

theorem found_cons (step : Step) (rest : List Step) (n : Node) :
    found c (step :: rest) n = (step.hits c n).flatMap (found c rest) := by
  rw [found]

theorem found_singleton (step : Step) (n : Node) : found c [step] n = step.hits c n := by
  have hnone : found c [] = fun m => [m] := funext fun m => by rw [found]
  rw [found_cons, hnone, List.flatMap_singleton']

theorem found_wildcard (n : Node) : found c [.wildcard] n = n.children := by
  rw [found_singleton]
  simp only [Step.hits, Step.targets]

theorem found_append (before after : List Step) (n : Node) :
    found c (before ++ after) n = (found c before n).flatMap (found c after) := by
  induction before generalizing n with
  | nil => rw [List.nil_append, found, List.flatMap_singleton]
  | cons step rest ih =>
      rw [List.cons_append, found_cons, found_cons, List.flatMap_assoc]
      exact congrArg (fun follow => (step.hits c n).flatMap follow) (funext ih)

/-- A root path starts from the root, whatever the value of the node. -/
theorem found_root (id : Nat) (rest : List Step) (n : Node) :
    found c (.root id :: rest) n = found c rest ⟨n.location, c.root⟩ := by
  rw [found_cons, Step.hits, Step.targets, List.flatMap_singleton]
  all_goals exact fun _ h => nomatch h

/-- The value of a root path is the same for every tested value. -/
theorem found_of_rootId {steps : List Step} {id : Nat} (h : rootId? steps = some id)
    (current other : Value) : found c steps ⟨[], current⟩ = found c steps ⟨[], other⟩ := by
  match steps, h with
  | .root id :: rest, _ => rw [found_root, found_root]

end JsonQuery.Path
