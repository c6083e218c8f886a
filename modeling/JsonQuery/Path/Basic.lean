/-
# JsonQuery.Path — paths and the filters in them.

A path is a list of steps; each step leads from one node to any number of nodes.  Filters decide for
every child of a node whether it is selected, and may themselves contain paths.
-/
import JsonQuery.Expr.Basic
import JsonQuery.Pattern.Basic

namespace JsonQuery.Path

mutual

/-- One step of a path. -/
inductive Step where
  /-- `$`: the root; every root of a path text has a number of its own. -/
  | root (id : Nat)
  /-- `@`: the current value. -/
  | current
  /-- `^`: so many levels up. -/
  | parent (levels : Nat)
  /-- `.name` or `['name']`. -/
  | name (name : String)
  /-- `[i]`. -/
  | index (i : Int)
  /-- `[start:stop:step]`. -/
  | slice (s : Slice)
  /-- `*`: all children. -/
  | wildcard
  /-- `..`: the container itself and all containers below it. -/
  | descend
  /-- `[?filter]`: the children that pass. -/
  | filter (f : Filter)
  /-- `[a, b]`: what the branches select, one after another. -/
  | union (branches : List Step)

/-- A filter expression. -/
inductive Filter where
  /-- A number, a string, `true`, `false` or `null`. -/
  | literal (json : Json)
  /-- `@…` or `$…`. -/
  | path (steps : List Step)
  /-- `f(a, b)`. -/
  | call (function : Function) (args : List Filter)
  | binary (op : BinaryOperator) (left right : Filter)
  | unary (op : UnaryOperator) (operand : Filter)
  /-- `operand =~ /pattern/`. -/
  | matching (pattern : Pattern) (operand : Filter)

end

/-- Whether a step leads to at most one node. -/
def Step.isSingular : Step → Bool
  | .root _ | .current | .parent _ | .name _ | .index _ => true
  | _ => false

/-- Whether a path selects at most one node, whatever the document. -/
def isSingular (steps : List Step) : Bool := steps.all Step.isSingular

/-- The number of the root that a path starts from; none if it starts elsewhere. -/
def rootId? : List Step → Option Nat
  | .root id :: _ => some id
  | _ => none

end JsonQuery.Path
