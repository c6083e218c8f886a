/-
# JsonQuery.Value.Operation — operators on values.

An operation either has a value or none: arithmetic takes two numbers, and a comparison of what is
not ordered is `null`.  The logical operators give back one of their operands.
-/
import JsonQuery.Value.Order

namespace JsonQuery

/-- The result that the left operand decides alone, if it does. -/
def BinaryOperator.shortCircuit (op : BinaryOperator) (left : Value) : Option Value :=
  match op with
  | .or => if left.isTruthy then some left else none
  | .and => if left.isTruthy then none else some left
  | _ => none

/-- Whether an order is what a comparison operator asks for. -/
def BinaryOperator.accepts (op : BinaryOperator) (o : Ordering) : Bool :=
  match op with
  | .lessThan => o == .lt
  | .lessEqual => o != .gt
  | .greaterThan => o == .gt
  | _ => o != .lt

/-- A comparison of two values. -/
def BinaryOperator.compareValues (op : BinaryOperator) (left right : Value) : Value :=
  match left.compare right with
  | none => .null
  | some o => .bool (op.accepts o)

/-- An arithmetic operation on two values. -/
def Value.arithmetic (f : Number → Number → Option Number) (left right : Value) : Option Value :=
  match left, right with
  | .number a, .number b => (f a b).map .number
  | _, _ => none

/-- The value of an infix operation. -/
def BinaryOperator.apply (op : BinaryOperator) (left right : Value) : Option Value :=
  match op with
  | .or => some (if left.isTruthy then left else right)
  | .and => some (if left.isTruthy then right else left)
  | .equal => some (.bool (left.same right))
  | .notEqual => some (.bool (!left.same right))
  | .lessThan | .lessEqual | .greaterThan | .greaterEqual => some (op.compareValues left right)
  | .add => Value.arithmetic Number.add left right
  | .subtract => Value.arithmetic Number.sub left right
  | .multiply => Value.arithmetic Number.mul left right
  | .divide => Value.arithmetic Number.div left right
  | .modulo => Value.arithmetic Number.rem left right
  | .integerDivide => Value.arithmetic Number.divFloor left right

/-- The value of a prefix operation. -/
def UnaryOperator.apply (op : UnaryOperator) (operand : Value) : Option Value :=
  match op with
  | .not => some (.bool (!operand.isTruthy))
  | .minus => operand.number?.map fun n => .number n.neg

end JsonQuery
