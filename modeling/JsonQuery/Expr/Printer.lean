/-
# JsonQuery.Expr.Printer — the tree of an expression as text.

Every node is written in parentheses, its name first.  The text shows the whole tree, so that two
expressions with the same text have the same shape.
-/
import JsonQuery.Expr.Basic
import JsonQuery.Json.Printer

namespace JsonQuery

/-- The symbol of an operator on one value, as the tree shows it. -/
def UnaryOperator.label : UnaryOperator → String
  | .not => "not"
  | .minus => "minus"

mutual

/-- The tree of an expression. -/
def Expr.toText : Expr → String
  | .current => "@"
  | .field name => "(field " ++ Json.quote name ++ ")"
  | .index i => "(index " ++ toString i ++ ")"
  | .slice s => "(slice " ++ s.toText ++ ")"
  | .literal json => "(literal " ++ json.compact ++ ")"
  | .chain left right => "(sub " ++ left.toText ++ " " ++ right.toText ++ ")"
  | .project kind left right =>
    "(" ++ kind.label ++ " " ++ left.toText ++ " " ++ right.toText ++ ")"
  | .list items => "(multi-list " ++ Expr.itemsText items ++ ")"
  | .hash entries => "(multi-hash " ++ Expr.entriesText entries ++ ")"
  | .binary op left right => "(" ++ op.symbol ++ " " ++ left.toText ++ " " ++ right.toText ++ ")"
  | .unary op operand => "(" ++ op.label ++ " " ++ operand.toText ++ ")"
  | .pipe left right => "(pipe " ++ left.toText ++ " " ++ right.toText ++ ")"
  | .call function args =>
    let separator := if args.isEmpty then "" else " "
    "(call " ++ function.signature ++ separator ++ Expr.itemsText args ++ ")"
  | .reference _ body => "(ref " ++ body.toText ++ ")"

/-- How a projection is introduced: its name, and the predicate of a filter. -/
def Projection.label : Projection → String
  | .list => "list-proj"
  | .object => "object-proj"
  | .flatten => "flatten"
  | .filter predicate => "filter " ++ predicate.toText

/-- Trees with blanks between them. -/
def Expr.itemsText : List Expr → String
  | [] => ""
  | [item] => item.toText
  | item :: rest => item.toText ++ " " ++ Expr.itemsText rest

/-- Names and trees with blanks between them. -/
def Expr.entriesText : List (String × Expr) → String
  | [] => ""
  | [(name, item)] => Json.quote name ++ " " ++ item.toText
  | (name, item) :: rest => Json.quote name ++ " " ++ item.toText ++ " " ++ Expr.entriesText rest

end

end JsonQuery
