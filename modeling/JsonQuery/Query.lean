/-
# JsonQuery.Query — searching documents with expressions.

A query is read once and searches any number of documents.  A document is searched within limits; an
expression that has no value on a document gives `null`.  What a query finds is said twice: `search`
evaluates it on the value of the whole document, and `find` on a view, whose parts become values when they
are read.
-/
import JsonQuery.Expr.Parser
import JsonQuery.Held.Eval

namespace JsonQuery

/-- What an evaluation comes to on a document: its result and its progress, unless it spends its
budget or has no outcome. -/
def Evaluation.complete {α : Type} (e : Evaluation α) (document : Json) (options : Options) :
    Except EvalError (α × Progress) :=
  match e ⟨.ofJson document, options⟩ {} with
  | none => .error .referencesTooDeep
  | some (result, progress) =>
    match options.stepBudget with
    | some budget =>
      if budget < progress.steps then .error (.budgetExhausted budget) else .ok (result, progress)
    | none => .ok (result, progress)

/-- A query: its text, and the expression that the text describes. -/
structure Query where
  source : String
  expr : Expr

namespace Query

/-- Reads a query, with functions from a registry. -/
def compile (source : String) (registry : Registry := .builtins) : Except ParseError Query := do
  return ⟨source, ← Expr.parse source registry⟩

/-- The value of the query on a document, if it has one, with the progress made. -/
def evaluate (q : Query) (document : Json) (options : Options) :
    Except EvalError (Option Value × Progress) :=
  (do q.expr.run (← Evaluation.root)).complete document options

/-- What the query finds in a document. -/
def search (q : Query) (document : Json) (options : Options := {}) : Except EvalError Json := do
  let (value, _) ← q.evaluate document options
  return (value.map Value.toJson).getD .null

/-- The value of the query on a view of a document, if it has one, with the progress made. -/
def interpret (q : Query) (document : Json) (options : Options) :
    Except EvalError (Option Held × Progress) :=
  (q.expr.runHeld (.ofJson document)).complete document options

/-- What the query finds in a document that it views. -/
def find (q : Query) (document : Json) (options : Options := {}) : Except EvalError Json := do
  let (held, _) ← q.interpret document options
  return (held.map Held.toJson).getD .null

/-- Queries are the same if their texts are. -/
def same (p q : Query) : Bool := p.source == q.source

end Query

/-- Reads a query and searches a document, without a step budget. -/
def transform (document : Json) (source : String) : Except ParseError Json := do
  let q ← Query.compile source
  return (q.find document).toOption.getD .null

end JsonQuery
