/-
# JsonQuery.Expr.Eval — the value of an expression.

Evaluation walks the tree and counts a step at every node.  A node may have no value; projections,
lists, objects and pipes read that as `null` and go on, every other node has no value then either.
References are applied by a function that is given, so that one definition serves every depth to
which references nest: `evalAt n` lets them nest `n` deep.
-/
import JsonQuery.Function.Call
import JsonQuery.Value.Operation

namespace JsonQuery

open Evaluation

/-- Items with the items of nested arrays in their place. -/
def Value.flatten : List Value → List Value
  | [] => []
  | .array inner :: rest => inner ++ flatten rest
  | item :: rest => item :: flatten rest

/-- The values that a projection keeps: those that there are and that are not `null`. -/
def Value.present (results : List (Option Value)) : List Value :=
  results.filterMap fun
    | none => none
    | some v => if v.isNull then none else some v

mutual

/-- The value of an expression on a current value, references being applied as given. -/
def Expr.eval (apply : Apply) (e : Expr) (current : Value) : Evaluation (Option Value) := do
  if !(← tick) then return none
  match e with
  | .current => return some current
  | .field name => return some ((current.get? name).getD .null)
  | .index i =>
    return some ((do
      let items ← current.items?
      items[← normalizeIndex i items.length]?).getD .null)
  | .slice s =>
    match current.items? with
    | some items => return some (.array ((s.indices items.length).filterMap (items[·]?)))
    | none => return some .null
  | .literal json => return some (.ofJson json)
  | .chain left right =>
    match ← left.eval apply current with
    | none => return none
    | some base => right.eval apply base
  | .project kind left right =>
    match ← left.eval apply current with
    | none => return none
    | some base =>
      match ← kind.elements apply base with
      | none => return some .null
      | some elements =>
        let results ← forEach (right.eval apply) elements
        return some (.array (Value.present results))
  | .list items =>
    if current.isNull then return some .null
    return some (.array (← Expr.evalItems apply items current))
  | .hash entries =>
    if current.isNull then return some .null
    return some (.object (← Expr.evalEntries apply entries current))
  | .binary op left right =>
    match ← left.eval apply current with
    | none => return none
    | some a =>
      match op.shortCircuit a with
      | some result => return some result
      | none =>
        match ← right.eval apply current with
        | none => return none
        | some b => return op.apply a b
  | .unary op operand =>
    match ← operand.eval apply current with
    | none => return none
    | some a => return op.apply a
  | .pipe left right =>
    let base ← left.eval apply current
    right.eval apply (base.getD .null)
  | .call function args =>
    match ← Expr.evalArgs apply args current with
    | none => return none
    | some values => function.body.call apply values
  | .reference id body => return some (.reference id body)

/-- The elements that a projection goes through; none if the base has the wrong type. -/
def Projection.elements (apply : Apply) (kind : Projection) (base : Value) :
    Evaluation (Option (List Value)) :=
  match kind with
  | .list => return base.items?
  | .object => return base.entries?.map fun entries => entries.map (·.2)
  | .flatten => return base.items?.map Value.flatten
  | .filter predicate =>
    match base.items? with
    | none => return none
    | some items => do
      return some (← keepWhere (fun item => do
        return ((← predicate.eval apply item).map Value.isTruthy).getD false) items)

/-- The values of items, `null` where there is none. -/
def Expr.evalItems (apply : Apply) (items : List Expr) (current : Value) :
    Evaluation (List Value) :=
  match items with
  | [] => return []
  | item :: rest => do
    let v ← item.eval apply current
    return v.getD .null :: (← Expr.evalItems apply rest current)

/-- The values of entries under their names, `null` where there is none. -/
def Expr.evalEntries (apply : Apply) (entries : List (String × Expr)) (current : Value) :
    Evaluation (Entries Value) :=
  match entries with
  | [] => return []
  | (name, item) :: rest => do
    let v ← item.eval apply current
    return (name, v.getD .null) :: (← Expr.evalEntries apply rest current)

/-- The values of arguments; the first one without a value ends the evaluation. -/
def Expr.evalArgs (apply : Apply) (args : List Expr) (current : Value) :
    Evaluation (Option (List Value)) :=
  match args with
  | [] => return some []
  | arg :: rest => do
    match ← arg.eval apply current with
    | none => return none
    | some v =>
      match ← Expr.evalArgs apply rest current with
      | none => return none
      | some vs => return some (v :: vs)

end

namespace Expr

/-- The value of an expression where references nest at most `n` deep. -/
def evalAt : Nat → Apply
  | 0 => fun _ _ => diverge
  | n + 1 => fun e current => e.eval (evalAt n) current

/-- The value of an expression on a value, within the depth that the limits of a context leave. -/
def run (e : Expr) (current : Value) : Evaluation (Option Value) := do
  evalAt (← read).referenceDepth e current

end Expr

end JsonQuery
