/-
# JsonQuery.Path.Printer — the steps of a path as text.

Steps are written in parentheses, their names first, with blanks between them.
-/
import JsonQuery.Path.Basic
import JsonQuery.Expr.Printer

namespace JsonQuery.Path

mutual

/-- One step. -/
def Step.toText : Step → String
  | .root id => "(root " ++ toString id ++ ")"
  | .current => "(current)"
  | .parent levels => "(parent " ++ toString levels ++ ")"
  | .name key => "(name " ++ Json.quote key ++ ")"
  | .index i => "(index " ++ toString i ++ ")"
  | .slice s => "(slice " ++ s.toText ++ ")"
  | .wildcard => "(wild)"
  | .descend => "(descend)"
  | .filter f => "(filter " ++ f.toText ++ ")"
  | .union branches => "(union" ++ branchesText branches ++ ")"

/-- Branches, each behind a blank. -/
def branchesText : List Step → String
  | [] => ""
  | branch :: rest => " " ++ branch.toText ++ branchesText rest

/-- Steps with blanks between them. -/
def stepsText : List Step → String
  | [] => ""
  | [step] => step.toText
  | step :: rest => step.toText ++ " " ++ stepsText rest

/-- A filter expression; a path shows whether it is singular. -/
def Filter.toText : Filter → String
  | .literal json => "(literal " ++ json.compact ++ ")"
  | .path steps => (if isSingular steps then "(one " else "(many ") ++ stepsText steps ++ ")"
  | .call function args => "(call " ++ function.signature ++ filtersText args ++ ")"
  | .binary op left right => "(" ++ op.symbol ++ " " ++ left.toText ++ " " ++ right.toText ++ ")"
  | .unary op operand => "(" ++ op.label ++ " " ++ operand.toText ++ ")"
  | .matching pattern operand =>
    "(match " ++ Json.quote pattern.source ++ " " ++ operand.toText ++ ")"

/-- Filter expressions, each behind a blank. -/
def filtersText : List Filter → String
  | [] => ""
  | f :: rest => " " ++ f.toText ++ filtersText rest

end

end JsonQuery.Path
