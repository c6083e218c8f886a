/-
# JsonQuery.Expr — expression trees.

An expression describes what to compute from the current value.  Steps (`.name`, `[0]`, `[*]`, …)
are chained to the left; a projection evaluates its left side once and its right side per element.
A step after a dot or in brackets applies to the operand before it; while the operand is projecting it
goes inside its innermost open projection, so that it applies to every element.
-/
import JsonQuery.Json.Basic
import JsonQuery.Slice
import JsonQuery.Operator
import JsonQuery.Function.Basic

namespace JsonQuery

mutual

/-- An expression. -/
inductive Expr where
  /-- `@`: the current value. -/
  | current
  /-- `name`: a member. -/
  | field (name : String)
  /-- `[i]`: an element. -/
  | index (i : Int)
  /-- `[start:stop:step]`: some elements. -/
  | slice (s : Slice)
  /-- A JSON literal or a raw string. -/
  | literal (json : Json)
  /-- `left.right`: the right side on the value of the left. -/
  | chain (left right : Expr)
  /-- A projection: the right side on every element that the left side yields. -/
  | project (kind : Projection) (left right : Expr)
  /-- `[a, b]`: a list of results. -/
  | list (items : List Expr)
  /-- `{k: a}`: an object of results. -/
  | hash (entries : List (String × Expr))
  /-- `left op right`. -/
  | binary (op : BinaryOperator) (left right : Expr)
  /-- `!operand` or `-operand`. -/
  | unary (op : UnaryOperator) (operand : Expr)
  /-- `left | right`: the right side on the value of the left, which is `null` if there is none. -/
  | pipe (left right : Expr)
  /-- `f(a, b)`. -/
  | call (function : Function) (args : List Expr)
  /-- `&body`: the expression itself as a value, known by the place where it stands. -/
  | reference (id : Nat) (body : Expr)

/-- How a projection finds its elements. -/
inductive Projection where
  /-- `[*]` and slices: the items of an array. -/
  | list
  /-- `*`: the values of an object. -/
  | object
  /-- `[]`: the items of an array, with the items of nested arrays in their place. -/
  | flatten
  /-- `[?predicate]`: the items of an array that pass. -/
  | filter (predicate : Expr)

end

namespace Expr

instance : Inhabited Expr := ⟨.current⟩

/-- `left.right`, where the current value on the left adds nothing. -/
def step (left right : Expr) : Expr :=
  match left with
  | .current => right
  | left => .chain left right

/-- A projection that keeps the elements as they are. -/
def projectAll (kind : Projection) (left : Expr) : Expr := .project kind left .current

/-! ## Steps -/

/-- A step; `node` is a list, an object or a call after a dot. -/
inductive Step where
  | field (name : String)
  | index (i : Int)
  | slice (s : Slice)
  | items
  | values
  | filter (predicate : Expr)
  | node (e : Expr)

namespace Step

/-- Whether later steps apply to the elements of this one. -/
def projects : Step → Bool
  | .slice _ | .items | .values | .filter _ => true
  | _ => false

/-- The step on an operand. -/
def apply (target : Expr) : Step → Expr
  | .field name => target.step (.field name)
  | .index i => target.step (.index i)
  | .slice s => projectAll .list (target.step (.slice s))
  | .items => projectAll .list target
  | .values => projectAll .object target
  | .filter predicate => projectAll (.filter predicate) target
  | .node e => target.step e

/-- The step inside the innermost open projection of an operand. -/
def extend (step : Step) : Expr → Expr
  | .project kind left right => .project kind left (extend step right)
  | target => step.apply target

/-- The height after the step, for an operand of a height and a predicate or node of another. -/
def heightAfter (step : Step) (projecting : Bool) (height inner : Nat) : Nat :=
  if projecting then height + inner + 2
  else match step with
    | .slice _ => height + 2
    | _ => max height inner + 1

end Step

end Expr

end JsonQuery
