/-
# JsonQuery.Expr.Stacks — what waits while an expression is read.

Operands, keys and the markers of open groups wait on the stack of items, operators and the barriers
of open groups on the stack of operators.  Nothing here knows where in the text it is, so an error is
only a cause; the parser adds the place.
-/
import JsonQuery.Expr.Token
import JsonQuery.Expr.Basic
import JsonQuery.ParseError

namespace JsonQuery.Expr

open ParseError (Cause)

/-! ## Operands and operators -/

/-- Puts an operand of a height on top, which must not be too great. -/
def pushNode (e : Expr) (projecting : Bool) (height : Nat) (items : List Item) :
    Except Cause (List Item) :=
  if maxNesting < height then .error .nestingTooDeep
  else .ok (.operand ⟨e, projecting, height⟩ :: items)

/-- An item as an operand. -/
def Item.asOperand : Item → Except Cause Operand
  | .operand o => .ok o
  | _ => .error .syntaxError

/-- Takes the operand on top. -/
def popOperand : List Item → Except Cause (Operand × List Item)
  | [] => .error .syntaxError
  | item :: rest => do return (← item.asOperand, rest)

/-- Applies an infix operator to the two operands on top. -/
def applyInfix (build : Expr → Expr → Expr) (items : List Item) : Except Cause (List Item) := do
  let (right, items) ← popOperand items
  let (left, items) ← popOperand items
  pushNode (build left.expr right.expr) false (max left.height right.height + 1) items

/-- Applies a prefix operator to the operand on top. -/
def applyPrefix (build : Expr → Expr) (items : List Item) : Except Cause (List Item) := do
  let (operand, items) ← popOperand items
  pushNode (build operand.expr) false (operand.height + 1) items

/-- Applies an operator to its operands on top. -/
def applyOperator : Operator → List Item → Except Cause (List Item)
  | .binary op => applyInfix (.binary op)
  | .pipe => applyInfix .pipe
  | .unary op => applyPrefix (.unary op)
  | .reference offset => applyPrefix (.reference offset)

/-- Applies the waiting operators down to the nearest barrier as long as they pass a test. -/
def reduceWhile (test : Operator → Bool) :
    List Item → List Pending → Except Cause (List Item × List Pending)
  | items, .operator op :: rest =>
    if test op then do reduceWhile test (← applyOperator op items) rest
    else .ok (items, .operator op :: rest)
  | items, pending => .ok (items, pending)

/-- Ends the open projection of the operand on top; later steps apply to its result. -/
def closeProjection : List Item → List Item
  | .operand o :: rest => .operand { o with projecting := false } :: rest
  | items => items

/-- Applies a step to the operand on top; `inner` is the height of what the step carries. -/
def attachStep (step : Step) (inner : Nat) (items : List Item) : Except Cause (List Item) := do
  let (target, items) ← popOperand items
  let e := if target.projecting then step.extend target.expr else step.apply target.expr
  pushNode e (target.projecting || step.projects)
    (step.heightAfter target.projecting target.height inner) items

/-- Flattens the operand on top, its open projection included. -/
def flattenTop (items : List Item) : Except Cause (List Item) := do
  let (target, items) ← popOperand items
  pushNode (projectAll .flatten target.expr) true (target.height + 2) items

/-! ## The parts of groups -/

/-- The items above the nearest open group, in order, the group, and the items below it. -/
def splitGroup : List Item → List Item → Option (List Item × Group × List Item)
  | _, [] => none
  | above, .opened g :: rest => some (above, g, rest)
  | above, item :: rest => splitGroup (item :: above) rest

/-- Items as operands. -/
def asOperands (items : List Item) : Except Cause (List Operand) := items.mapM Item.asOperand

/-- Items as entries: keys and operands in turn. -/
def asEntries : List Item → Except Cause (List (String × Operand))
  | [] => .ok []
  | .key name :: item :: rest => do
    let o ← item.asOperand
    return (name, o) :: (← asEntries rest)
  | _ => .error .syntaxError

/-- The greatest height among operands. -/
def greatestHeight (operands : List Operand) : Nat :=
  operands.foldl (fun h o => max h o.height) 0

/-- Adds a list, an object or a call as an operand of its own or as a step. -/
def pushGroup (e : Expr) (chained : Bool) (height : Nat) (items : List Item) :
    Except Cause (List Item) :=
  if chained then attachStep (.node e) height items else pushNode e false height items

/-- Refuses a call with another number of arguments than the function demands. -/
def checkArity (function : Function) (found : Nat) : Except Cause Unit :=
  match function.arity with
  | some expected =>
    if expected = found then .ok () else .error (.invalidArity function.name expected found)
  | none => .ok ()

/-- What a group becomes when a closer ends it, on top of the items below it. -/
def Group.close (group : Group) (closer : Closer) (parts items : List Item) :
    Except Cause (List Item) :=
  match group, closer with
  | .paren, .paren =>
    match parts with
    | [part] => do
      let o ← part.asOperand
      pushNode o.expr false o.height items
    | _ => .error .syntaxError
  | .filter chained, .filter =>
    match parts with
    | [part] => do
      let o ← part.asOperand
      if chained then attachStep (.filter o.expr) o.height items
      else pushNode (projectAll (.filter o.expr) .current) true (o.height + 1) items
    | _ => .error .syntaxError
  | .list chained, .list => do
    let operands ← asOperands parts
    pushGroup (.list (operands.map (·.expr))) chained (greatestHeight operands + 1) items
  | .hash chained, .hash => do
    let entries ← asEntries parts
    pushGroup (.hash (entries.map fun entry => (entry.1, entry.2.expr))) chained
      (greatestHeight (entries.map (·.2)) + 1) items
  | .call function chained, .call => do
    checkArity function parts.length
    let operands ← asOperands parts
    pushGroup (.call function (operands.map (·.expr))) chained (greatestHeight operands + 1) items
  | _, _ => .error .syntaxError

/-! ## Routing tokens -/

/-- The two stacks, and how many groups are open on them. -/
structure Stacks where
  items : List Item := []
  pending : List Pending := []
  depth : Nat := 0

namespace Stacks

/-- Changes the items by a step that may fail. -/
def mapItems (s : Stacks) (f : List Item → Except Cause (List Item)) : Except Cause Stacks := do
  return { s with items := ← f s.items }

/-- Adds an operand of a height that needs no check. -/
def pushOperand (s : Stacks) (e : Expr) (projecting : Bool) (height : Nat) : Stacks :=
  { s with items := .operand ⟨e, projecting, height⟩ :: s.items }

/-- Applies the waiting operators of the innermost group as long as they pass a test. -/
def reduceWhile (s : Stacks) (test : Operator → Bool) : Except Cause Stacks := do
  let (items, pending) ← Expr.reduceWhile test s.items s.pending
  return { s with items := items, pending := pending }

/-- Applies all waiting operators of the innermost group. -/
def reduceToBarrier (s : Stacks) : Except Cause Stacks := s.reduceWhile fun _ => true

/-- Adds a prefix operator. -/
def pushPrefix (s : Stacks) (op : Operator) : Stacks :=
  { s with pending := .operator op :: s.pending }

/-- Adds an infix operator; the operators that bind tighter are applied first. -/
def pushInfix (s : Stacks) (op : Operator) : Except Cause Stacks := do
  let s ← { s with items := closeProjection s.items }.reduceWhile fun pending =>
    pending.precedence.yieldsTo op.precedence op.isRightAssociative
  return { s with pending := .operator op :: s.pending }

/-- Opens a group. -/
def openGroup (s : Stacks) (g : Group) : Except Cause Stacks :=
  if maxNesting < s.depth + 1 then .error .nestingTooDeep
  else .ok ⟨.opened g :: s.items, .barrier :: s.pending, s.depth + 1⟩

/-- Closes the innermost group. -/
def closeGroup (s : Stacks) (closer : Closer) : Except Cause Stacks := do
  let s ← s.reduceToBarrier
  match s.pending, splitGroup [] s.items with
  | .barrier :: pending, some (parts, group, items) =>
    return ⟨← group.close closer parts items, pending, s.depth - 1⟩
  | _, _ => .error .syntaxError

/-- Routes a token to the stacks. -/
def accept (s : Stacks) : Token → Except Cause Stacks
  | .current => .ok (s.pushOperand .current false 1)
  | .literal json => .ok (s.pushOperand (.literal json) false 1)
  | .key name => .ok { s with items := .key name :: s.items }
  | .operand o => .ok { s with items := .operand o :: s.items }
  | .opening group => s.openGroup group
  | .closing closer => s.closeGroup closer
  | .separator => s.reduceToBarrier
  | .operator (.unary op) => .ok (s.pushPrefix (.unary op))
  | .operator (.reference offset) => .ok (s.pushPrefix (.reference offset))
  | .operator op => s.pushInfix op
  | .finish => do
    let s ← s.reduceToBarrier
    if s.pending.isEmpty then return s else .error .unexpectedEndOfInput

/-- Does what a move asks for.  The heights of leaves and of what a step carries are small enough to
need no check of their own. -/
def perform (s : Stacks) : Action → Except Cause Stacks
  | .nothing => .ok s
  | .token token => s.accept token
  | .leaf e projecting => .ok (s.pushOperand e projecting 2)
  | .attach step => s.mapItems (attachStep step 0)
  | .flatten => s.mapItems flattenTop

/-- The operand on the stacks at the end of the text. -/
def result (s : Stacks) : Except Cause Operand := do
  let s ← s.accept .finish
  let (o, items) ← popOperand s.items
  if items.isEmpty then return o else .error .syntaxError

end Stacks

end JsonQuery.Expr
