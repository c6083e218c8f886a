/-
# JsonQuery.Path.Select — what a path selects.

Selection goes through the steps of a path from a node: a location and the value there.  Every step
and every part of a filter counts one step of the evaluation.  A path inside a filter starts at the
tested value with an empty location.
-/
import JsonQuery.Path.Basic
import JsonQuery.Path.Location
import JsonQuery.Pattern.Match
import JsonQuery.Function.Call
import JsonQuery.Value.Operation

namespace JsonQuery

open Evaluation

/-- A value and where it stands. -/
structure Node where
  location : Location
  value : Value

namespace Node

/-! ## Around a node -/

/-- The node one step below. -/
def below (n : Node) (e : Location.Element) (v : Value) : Node := ⟨n.location ++ [e], v⟩

/-- The items of an array as nodes, counted from an index. -/
def itemNodes (n : Node) : Nat → List Value → List Node
  | _, [] => []
  | i, v :: rest => n.below (.index i) v :: itemNodes n (i + 1) rest

/-- The entries of an object as nodes. -/
def entryNodes (n : Node) (entries : Entries Value) : List Node :=
  entries.map fun entry => n.below (.name entry.1) entry.2

/-- The children of a node, in order. -/
def children (n : Node) : List Node :=
  match n.value with
  | .array items => n.itemNodes 0 items
  | .object entries => n.entryNodes entries
  | _ => []

/-- The member of a name; for an array, `length` names the number of its items. -/
def member (n : Node) (name : String) : List Node :=
  match n.value with
  | .object entries =>
    match Entries.get? entries name with
    | some v => [n.below (.name name) v]
    | none => []
  | .array items =>
    if name = "length" then [n.below (.name name) (.number (Number.ofInt items.length))] else []
  | _ => []

/-- The items at some places of an array. -/
def itemsAt (n : Node) (places : Nat → List Nat) : List Node :=
  match n.value with
  | .array items =>
    (places items.length).filterMap fun i => items[i]?.map fun v => n.below (.index i) v
  | _ => []

/-- The node so many levels up, looked up again from the root. -/
def ancestor (n : Node) (root : Value) (levels : Nat) : List Node :=
  if n.location.length < levels then []
  else
    let location := n.location.take (n.location.length - levels)
    match Location.resolve? location root with
    | some v => [⟨location, v⟩]
    | none => []

mutual

/-- The containers at and below a location, each before those inside it, down to a depth. -/
def containersFrom (depth : Nat) (location : Location) : Value → List Node
  | .array items => ⟨location, .array items⟩ :: containersInItems depth location 0 items
  | .object entries => ⟨location, .object entries⟩ :: containersInEntries depth location entries
  | _ => []

/-- The containers at and below the items of an array, counted from an index. -/
def containersInItems (depth : Nat) (location : Location) : Nat → List Value → List Node
  | _, [] => []
  | i, v :: rest =>
    (match depth with
      | 0 => []
      | depth + 1 => containersFrom depth (location ++ [.index i]) v)
      ++ containersInItems depth location (i + 1) rest

/-- The containers at and below the entries of an object. -/
def containersInEntries (depth : Nat) (location : Location) : List (String × Value) → List Node
  | [] => []
  | (name, v) :: rest =>
    (match depth with
      | 0 => []
      | depth + 1 => containersFrom depth (location ++ [.name name]) v)
      ++ containersInEntries depth location rest

end

/-- The containers at and below a node, each before those inside it, at most so many levels down. -/
def containers (n : Node) (maxDepth : Nat) : List Node :=
  containersFrom maxDepth n.location n.value

end Node

namespace Path

/-- What a step leads to from a node that decides it without testing values. -/
def Step.targets (step : Step) (context : Context) (n : Node) : List Node :=
  match step with
  | .root _ => [⟨n.location, context.root⟩]
  | .current => [n]
  | .parent levels => n.ancestor context.root levels
  | .name key => n.member key
  | .index i => n.itemsAt fun len => (normalizeIndex i len).toList
  | .slice s => n.itemsAt s.indices
  | .wildcard => n.children
  | .descend => n.containers context.options.maxDepth
  | .filter _ | .union _ => []

/-- The value of a path in a filter: of a singular path that of its node, of any other the array of
the values of its nodes. -/
def pathValue (singular : Bool) (nodes : List Node) : Option Value :=
  if singular then nodes.head?.map (·.value) else some (.array (nodes.map (·.value)))

/-- Whether a value that may be missing counts as true. -/
def passes (v : Option Value) : Bool := v.any Value.isTruthy

/-- All nodes that an action yields on some nodes, in order. -/
def gather (action : Node → Evaluation (List Node)) (nodes : List Node) :
    Evaluation (List Node) := do
  return (← forEach action nodes).flatten

mutual

/-- The nodes that steps select from a node. -/
def select (steps : List Step) (n : Node) : Evaluation (List Node) :=
  match steps with
  | [] => return [n]
  | step :: rest => step.follow (select rest) n

/-- One step from a node, and an action on every node that it leads to. -/
def Step.follow (step : Step) (action : Node → Evaluation (List Node)) (n : Node) :
    Evaluation (List Node) := do
  if !(← tick) then return []
  match step with
  | .filter f =>
    gather (fun child => do
      if passes (← f.eval child.value) then action child else return []) n.children
  | .union branches => gather action (← selectBranches branches n)
  | step => gather action (step.targets (← read) n)

/-- The nodes that branches lead to from a node, one branch after another. -/
def selectBranches (branches : List Step) (n : Node) : Evaluation (List Node) :=
  match branches with
  | [] => return []
  | branch :: rest => do
    let nodes ← branch.follow (fun hit => return [hit]) n
    return nodes ++ (← selectBranches rest n)

/-- The value of a filter expression on a tested value. -/
def Filter.eval (f : Filter) (current : Value) : Evaluation (Option Value) := do
  if !(← tick) then return none
  match f with
  | .literal json => return some (.ofJson json)
  | .path steps =>
    match rootId? steps with
    | none => return pathValue (isSingular steps) (← select steps ⟨[], current⟩)
    | some id =>
      match ← cachedRoot id with
      | some v => return some v
      | none =>
        match pathValue (isSingular steps) (← select steps ⟨[], current⟩) with
        | none => return none
        | some v =>
          cacheRoot id v
          return some v
  | .call function args =>
    match ← Filter.evalArgs args current with
    | none => return none
    | some values => return function.body.value? values
  | .binary op left right =>
    if op.isLogical then
      let a := (← left.eval current).getD .null
      match op.shortCircuit a with
      | some result => return some result
      | none => return op.apply a ((← right.eval current).getD .null)
    else
      match ← left.eval current with
      | none => return none
      | some a =>
        match ← right.eval current with
        | none => return none
        | some b => return op.apply a b
  | .unary .not operand => return some (.bool (!passes (← operand.eval current)))
  | .unary op operand =>
    let v ← operand.eval current
    return v.bind op.apply
  | .matching pattern operand =>
    let v ← operand.eval current
    return (v.bind Value.string?).map fun s => .bool (pattern.isMatch s)

/-- The values of arguments; the first one without a value ends the evaluation. -/
def Filter.evalArgs (args : List Filter) (current : Value) : Evaluation (Option (List Value)) :=
  match args with
  | [] => return some []
  | arg :: rest => do
    match ← arg.eval current with
    | none => return none
    | some v =>
      match ← Filter.evalArgs rest current with
      | none => return none
      | some vs => return some (v :: vs)

end

end Path

end JsonQuery
