/-
# JsonQuery.Expr.Token — the tokens of an expression, and what waits on the parser's stacks.

Tokens are routed to two stacks.  Operands, keys and the openers of groups wait on the stack of
items; operators wait on the stack of operators until their operands are complete.  A group is
opened on both stacks: as a marker among the items, so that its closer knows where its parts start,
and as a barrier among the operators, so that no operator outside is applied inside.
-/
import JsonQuery.Expr.Basic

namespace JsonQuery.Expr

/-- A group; `chained` tells whether it hangs off the operand before it (`a.[b]`, `a[?b]`). -/
inductive Group where
  | paren
  | list (chained : Bool)
  | hash (chained : Bool)
  | filter (chained : Bool)
  | call (function : Function) (chained : Bool)

/-- What ends a group. -/
inductive Closer where
  | paren | list | hash | filter | call
  deriving DecidableEq, Repr

/-- A finished operand.  While it is projecting, further steps apply to its elements; `height`
bounds the height of its tree. -/
structure Operand where
  expr : Expr
  projecting : Bool
  height : Nat

/-- A token. -/
inductive Token where
  | current
  | opening (group : Group)
  | closing (closer : Closer)
  | separator
  | key (name : String)
  | literal (json : Json)
  | operand (o : Operand)
  | operator (op : Operator)
  | finish

namespace Token

/-- The level of precedence. -/
def precedence : Token → Precedence
  | .operator op => op.precedence
  | .operand o => if o.projecting then .projection else .primary
  | _ => .primary

/-- Whether the token groups to the right. -/
def isRightAssociative : Token → Bool
  | .operator op => op.isRightAssociative
  | _ => false

/-- Whether the token waits for operands. -/
def isOperator : Token → Bool
  | .operator _ => true
  | _ => false

/-- Whether the token opens a group. -/
def opensGroup : Token → Bool
  | .opening _ => true
  | _ => false

end Token

/-- What a move of the parser does to the stacks: nothing, routing a token, adding a leaf or a
projection over one, applying a step to the operand on top, or flattening it. -/
inductive Action where
  | nothing
  | token (t : Token)
  | leaf (e : Expr) (projecting : Bool)
  | attach (step : Step)
  | flatten

/-- What waits on the stack of items. -/
inductive Item where
  | operand (o : Operand)
  | key (name : String)
  | opened (group : Group)

/-- What waits on the stack of operators. -/
inductive Pending where
  | operator (op : Operator)
  | barrier

end JsonQuery.Expr
