/-
# JsonQuery.Path.Query — selecting nodes of documents with paths.

A path is read once and selects nodes of any number of documents, within limits.
-/
import JsonQuery.Path.Parser
import JsonQuery.Path.Select
import JsonQuery.Query

namespace JsonQuery

/-- A path: its text, and the steps that the text describes. -/
structure Path where
  source : String
  steps : List Path.Step

namespace Path

/-- Reads a path, with functions from a registry. -/
def compile (source : String) (registry : Registry := .builtins) : Except ParseError Path := do
  return ⟨source, ← parseSteps source registry⟩

/-- Whether the path selects at most one node. -/
def singular (p : Path) : Bool := isSingular p.steps

/-- The nodes that the path selects in a document, with the progress made. -/
def evaluate (p : Path) (document : Json) (options : Options) :
    Except EvalError (List Node × Progress) :=
  (do Path.select p.steps ⟨[], ← Evaluation.root⟩).complete document options

/-- The nodes that the path selects in a document. -/
def nodes (p : Path) (document : Json) (options : Options := {}) :
    Except EvalError (List Node) := do
  return (← p.evaluate document options).1

/-- The values of nodes as a document. -/
def valuesOf (nodes : List Node) : Json := .array (nodes.map (·.value.toJson))

/-- The normalized paths of nodes. -/
def locationsOf (nodes : List Node) : List String :=
  nodes.map fun n => Location.normalized n.location

/-- The selected values as a document, without a step budget. -/
def query (p : Path) (document : Json) : Json := valuesOf ((p.nodes document).toOption.getD [])

/-- The normalized paths of the selected nodes, without a step budget. -/
def locate (p : Path) (document : Json) : List String :=
  locationsOf ((p.nodes document).toOption.getD [])

end Path

end JsonQuery
