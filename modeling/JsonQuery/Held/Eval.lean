/-
# JsonQuery.Held.Eval — the walk over an expression with values as they are held.

The walk starts from a view of the document.  A field or an element of a view is a view again, a literal
is a view of the literal, and projections, lists and objects are built as values of their own.
-/
import JsonQuery.Expr.Eval
import JsonQuery.Held.Call

namespace JsonQuery

open Evaluation

namespace Held

/-- Items with the items of nested arrays in their place. -/
def flatten : List Held → List Held
  | [] => []
  | item :: rest =>
    match item.content with
    | .array inner => inner ++ flatten rest
    | _ => item :: flatten rest

/-- The values that a projection keeps: those that there are and that are not `null`. -/
def present (results : List (Option Held)) : List Held :=
  results.filterMap fun
    | none => none
    | some v => if v.isNull then none else some v

/-- The element at an index, from the end if it is negative; `null` if there is none. -/
def element (v : Held) (i : Int) : Held :=
  ((normalizeIndex i v.size).bind v.item?).getD .null

/-- The elements at the indices of a slice; `null` of what is no array. -/
def slice (v : Held) (s : Slice) : Held :=
  match v.kind with
  | .array => .ownArray ((s.indices v.size).filterMap v.item?)
  | _ => .null

end Held

mutual

/-- The value of an expression on a current value, references being applied as given. -/
def Expr.interpret (apply : Held.Apply) (e : Expr) (current : Held) : Evaluation (Option Held) := do
  if !(← tick) then return none
  match e with
  | .current => return some current
  | .field name => return some ((current.get? name).getD .null)
  | .index i => return some (current.element i)
  | .slice s => return some (current.slice s)
  | .literal json => return some (.ofJson json)
  | .chain left right =>
    match ← left.interpret apply current with
    | none => return none
    | some base => right.interpret apply base
  | .project kind left right =>
    match ← left.interpret apply current with
    | none => return none
    | some base =>
      match ← kind.projected apply base with
      | none => return some .null
      | some elements =>
        let results ← forEach (right.interpret apply) elements
        return some (.ownArray (Held.present results))
  | .list items =>
    if current.isNull then return some .null
    return some (.ownArray (← Expr.interpretItems apply items current))
  | .hash entries =>
    if current.isNull then return some .null
    return some (.ownObject (← Expr.interpretEntries apply entries current))
  | .binary op left right =>
    match ← left.interpret apply current with
    | none => return none
    | some a =>
      match a.shortCircuit op with
      | some result => return some result
      | none =>
        match ← right.interpret apply current with
        | none => return none
        | some b => return a.binary op b
  | .unary op operand =>
    match ← operand.interpret apply current with
    | none => return none
    | some a => return a.unary op
  | .pipe left right =>
    let base ← left.interpret apply current
    right.interpret apply (base.getD .null)
  | .call function args =>
    match ← Expr.interpretArgs apply args current with
    | none => return none
    | some values => Held.call apply function.body values
  | .reference id body => return some (.reference id body)

/-- The elements that a projection goes through; none if the base has the wrong type. -/
def Projection.projected (apply : Held.Apply) (kind : Projection) (base : Held) :
    Evaluation (Option (List Held)) :=
  match kind with
  | .list => return base.items?
  | .object => return base.entries?.map fun entries => entries.map (·.2)
  | .flatten => return base.items?.map Held.flatten
  | .filter predicate =>
    match base.items? with
    | none => return none
    | some items => do
      return some (← keepWhere (fun item => do
        return ((← predicate.interpret apply item).map Held.isTruthy).getD false) items)

/-- The values of items, `null` where there is none. -/
def Expr.interpretItems (apply : Held.Apply) (items : List Expr) (current : Held) :
    Evaluation (List Held) :=
  match items with
  | [] => return []
  | item :: rest => do
    let v ← item.interpret apply current
    return v.getD .null :: (← Expr.interpretItems apply rest current)

/-- The values of entries under their names, `null` where there is none. -/
def Expr.interpretEntries (apply : Held.Apply) (entries : List (String × Expr)) (current : Held) :
    Evaluation (Entries Held) :=
  match entries with
  | [] => return []
  | (name, item) :: rest => do
    let v ← item.interpret apply current
    return (name, v.getD .null) :: (← Expr.interpretEntries apply rest current)

/-- The values of arguments; the first one without a value ends the evaluation. -/
def Expr.interpretArgs (apply : Held.Apply) (args : List Expr) (current : Held) :
    Evaluation (Option (List Held)) :=
  match args with
  | [] => return some []
  | arg :: rest => do
    match ← arg.interpret apply current with
    | none => return none
    | some v =>
      match ← Expr.interpretArgs apply rest current with
      | none => return none
      | some vs => return some (v :: vs)

end

namespace Expr

/-- The value of an expression where references nest at most `n` deep. -/
def interpretAt : Nat → Held.Apply
  | 0 => fun _ _ => diverge
  | n + 1 => fun e current => e.interpret (interpretAt n) current

/-- The value of an expression on a value, within the depth that the limits of a context leave. -/
def runHeld (e : Expr) (current : Held) : Evaluation (Option Held) := do
  interpretAt (← read).referenceDepth e current

end Expr

end JsonQuery
