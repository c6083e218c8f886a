/-
# JsonQuery.Evaluation — the state of an evaluation.

An evaluation has a document, whose root paths start from, and limits.  It counts its steps and
remembers the values of root paths inside filters.  Once more steps than the budget have been taken
it is exhausted, and every further step fails.  An evaluation that nests references to expressions
deeper than it may has no outcome at all; that is `none` in the type below and unlike having no
value.
-/
import JsonQuery.Options
import JsonQuery.Value.Basic

namespace JsonQuery

/-- What an evaluation reads: the root of the document and the limits. -/
structure Context where
  root : Value
  options : Options

/-- What an evaluation changes: its steps so far, and the remembered values of root paths by the
number of the path. -/
structure Progress where
  steps : Nat := 0
  rootCache : List (Nat × Value) := []

/-- An evaluation step by step; without outcome if references nest too deep. -/
abbrev Evaluation (α : Type) := ReaderT Context (StateT Progress Option) α

/-- Whether more steps have been taken than the budget allows. -/
def Progress.isExhausted (p : Progress) (options : Options) : Bool :=
  match options.stepBudget with
  | some budget => budget < p.steps
  | none => false

namespace Evaluation

/-- Counts one step; false once the budget is spent. -/
def tick : Evaluation Bool := fun context progress =>
  let progress := { progress with steps := progress.steps + 1 }
  some (!progress.isExhausted context.options, progress)

/-- The root of the document. -/
def root : Evaluation Value := do return (← read).root

/-- The remembered value of a root path. -/
def cachedRoot (id : Nat) : Evaluation (Option Value) := do
  return (← get).rootCache.lookup id

/-- Remembers the value of a root path. -/
def cacheRoot (id : Nat) (value : Value) : Evaluation Unit :=
  modify fun p => { p with rootCache := (id, value) :: p.rootCache }

/-- No outcome. -/
def diverge {α : Type} : Evaluation α := fun _ _ => none

/-- The results of a step on every element, from left to right. -/
def forEach {α β : Type} (f : α → Evaluation β) : List α → Evaluation (List β)
  | [] => return []
  | x :: xs => do
    let y ← f x
    return y :: (← forEach f xs)

/-- The values of a step on every element, from left to right; the first element without a value
ends the walk, and there is no result. -/
def allOrNone {α β : Type} (f : α → Evaluation (Option β)) :
    List α → Evaluation (Option (List β))
  | [] => return some []
  | x :: xs => do
    match ← f x with
    | none => return none
    | some y =>
      match ← allOrNone f xs with
      | none => return none
      | some ys => return some (y :: ys)

/-- The elements that pass a test, from left to right. -/
def keepWhere {α : Type} (test : α → Evaluation Bool) : List α → Evaluation (List α)
  | [] => return []
  | x :: xs => do
    let keep ← test x
    let rest ← keepWhere test xs
    return if keep then x :: rest else rest

end Evaluation

/-- Why an evaluation that was asked for has no result. -/
inductive EvalError where
  | budgetExhausted (budget : Nat)
  | referencesTooDeep
  deriving DecidableEq, Repr

/-- The message of an evaluation error. -/
def EvalError.message : EvalError → String
  | .budgetExhausted budget => "evaluation exceeded the step budget of " ++ toString budget
  | .referencesTooDeep => "expression references nest too deep"

/-- What is said of an expression that has no value. -/
def noValueMessage : String := "expression produced no value"

namespace Context

/-- How deep references to expressions may nest.  Every nested application takes a step, so a step
budget bounds the depth; without a budget there is a limit of its own. -/
def referenceDepth (context : Context) : Nat :=
  match context.options.stepBudget with
  | some budget => budget + 2
  | none => 0x100000

end Context

end JsonQuery
