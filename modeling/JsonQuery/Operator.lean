/-
# JsonQuery.Operator — operators and how tightly they bind.

Both query languages share one table of operators.  Levels of precedence are numbered from the
tightest to the loosest; infix operators group to the left, prefix operators to the right.
-/

namespace JsonQuery

/-- The levels of precedence, tightest first. -/
inductive Precedence where
  | primary | unary | multiplicative | additive | relational | equality | and | or | projection
  | pipe | expressionType
  deriving DecidableEq, Repr

namespace Precedence

/-- All levels in order. -/
def all : List Precedence :=
  [.primary, .unary, .multiplicative, .additive, .relational, .equality, .and, .or, .projection,
   .pipe, .expressionType]

/-- The number of a level. -/
def level : Precedence → Nat
  | .primary => 0
  | .unary => 1
  | .multiplicative => 2
  | .additive => 3
  | .relational => 4
  | .equality => 5
  | .and => 6
  | .or => 7
  | .projection => 8
  | .pipe => 9
  | .expressionType => 10

/-- Whether a waiting operator is applied before an incoming one: if it binds tighter, or as tightly
and the incoming one groups to the left. -/
def yieldsTo (pending incoming : Precedence) (rightAssociative : Bool) : Bool :=
  pending.level < incoming.level || (pending.level == incoming.level && !rightAssociative)

end Precedence

/-- The infix operators on values. -/
inductive BinaryOperator where
  | or | and
  | equal | notEqual
  | lessThan | lessEqual | greaterThan | greaterEqual
  | add | subtract | multiply | divide | modulo | integerDivide
  deriving DecidableEq, Repr

namespace BinaryOperator

/-- All infix operators. -/
def all : List BinaryOperator :=
  [.or, .and, .equal, .notEqual, .lessThan, .lessEqual, .greaterThan, .greaterEqual, .add,
   .subtract, .multiply, .divide, .modulo, .integerDivide]

/-- The level of precedence. -/
def precedence : BinaryOperator → Precedence
  | .or => .or
  | .and => .and
  | .equal | .notEqual => .equality
  | .lessThan | .lessEqual | .greaterThan | .greaterEqual => .relational
  | .add | .subtract => .additive
  | .multiply | .divide | .modulo | .integerDivide => .multiplicative

/-- The symbol. -/
def symbol : BinaryOperator → String
  | .or => "||"
  | .and => "&&"
  | .equal => "=="
  | .notEqual => "!="
  | .lessThan => "<"
  | .lessEqual => "<="
  | .greaterThan => ">"
  | .greaterEqual => ">="
  | .add => "+"
  | .subtract => "-"
  | .multiply => "*"
  | .divide => "/"
  | .modulo => "%"
  | .integerDivide => "//"

/-- Whether the operator decides by truth and may leave its right operand unread. -/
def isLogical : BinaryOperator → Bool
  | .or | .and => true
  | _ => false

end BinaryOperator

/-- The prefix operators on values. -/
inductive UnaryOperator where
  | not | minus
  deriving DecidableEq, Repr

/-- The operators that wait for their operands while a query is read: infix and prefix operators,
the pipe, and the sign of an expression reference with the place where it stands. -/
inductive Operator where
  | binary (op : BinaryOperator)
  | unary (op : UnaryOperator)
  | pipe
  | reference (offset : Nat)
  deriving DecidableEq, Repr

namespace Operator

/-- The level of precedence. -/
def precedence : Operator → Precedence
  | .binary op => op.precedence
  | .unary _ => .unary
  | .pipe => .pipe
  | .reference _ => .expressionType

/-- Whether the operator groups to the right. -/
def isRightAssociative : Operator → Bool
  | .unary _ | .reference _ => true
  | _ => false

end Operator

end JsonQuery
