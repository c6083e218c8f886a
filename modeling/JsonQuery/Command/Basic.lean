/-
# JsonQuery.Command.Basic — the three tasks of the command line.

A task searches a document with an expression, selects nodes of it with a path, or validates it
against a schema.  It is given all texts that it needs, so that it depends on nothing but its fields
and the environment.  The query or the schema is read before the document, and the first text that
cannot be read decides the error.
-/
import JsonQuery.Query
import JsonQuery.Path.Query
import JsonQuery.Schema.Compile
import JsonQuery.Schema.Validate

namespace JsonQuery.Command

/-- Variables with their values. -/
abbrev Environment := List (String × String)

/-! ## Errors -/

/-- Why a file cannot be read. -/
inductive FileFault where
  | notFound
  | denied
  | notDirectory
  | directory
  /-- The bytes of the file are no text. -/
  | notText
  | other (reason : String)
  deriving DecidableEq, Repr

/-- The wording of a fault. -/
def FileFault.message : FileFault → String
  | .notFound => "No such file or directory (os error 2)"
  | .denied => "Permission denied (os error 13)"
  | .notDirectory => "Not a directory (os error 20)"
  | .directory => "Is a directory (os error 21)"
  | .notText => "stream did not contain valid UTF-8"
  | .other reason => reason

/-- Why a task fails. -/
inductive Error where
  | unreadableQuery (cause : ParseError)
  | evaluation (cause : EvalError)
  | unusableSchema (cause : SchemaError)
  /-- A document, or the text of a schema, is no JSON. -/
  | notJson
  | file (cause : FileFault)
  | noInput
  | invalid (errors : List Schema.ValidationError)

/-- The wording of an error; an invalid document has one indented line per flaw. -/
def Error.message : Error → String
  | .unreadableQuery cause => "Parse error: " ++ cause.message
  | .evaluation cause => "Evaluation error: " ++ cause.message
  | .unusableSchema cause => "Schema error: " ++ cause.message
  | .notJson => "Invalid JSON"
  | .file cause => "IO error: " ++ cause.message
  | .noInput => "No input provided. Use --input or pipe JSON to stdin."
  | .invalid errors =>
    errors.foldl (fun text e => text ++ "\n  " ++ e.toText)
      ("Document is invalid (" ++ toString errors.length ++ " errors)")

/-! ## Tasks -/

/-- The document that a text holds. -/
def readDocument (text : String) : Except Error Json :=
  match Json.parse? text with
  | some json => .ok json
  | none => .error .notJson

/-- The document of a task, whose text may be missing. -/
def readInput : Option String → Except Error Json
  | some text => readDocument text
  | none => .error .noInput

/-- A search with an expression; with `syntaxOnly` the expression is only read. -/
structure Search where
  expression : String
  input : Option String := none
  syntaxOnly : Bool := false
  stepBudget : Option Nat := none
  deriving DecidableEq, Repr

/-- The limits of a search: those of the environment, but its own step budget if it has one. -/
def Search.options (s : Search) (environment : Environment) : Options :=
  let settings := Options.ofEnvironment environment
  { settings with stepBudget := s.stepBudget <|> settings.stepBudget }

/-- What a search finds; nothing if only the syntax is asked for. -/
def Search.run (s : Search) (environment : Environment) : Except Error (Option Json) := do
  let query ← (Query.compile s.expression).mapError .unreadableQuery
  if s.syntaxOnly then return none
  let document ← readInput s.input
  some <$> (query.find document (s.options environment)).mapError .evaluation

/-- A selection of nodes with a path, shown as values or as locations. -/
structure Selection where
  path : String
  input : Option String := none
  locations : Bool := false
  deriving DecidableEq, Repr

/-- The nodes that a selection finds. -/
def Selection.run (s : Selection) (environment : Environment) : Except Error Json := do
  let path ← (Path.compile s.path).mapError .unreadableQuery
  let document ← readInput s.input
  let nodes ← (path.nodes document (Options.ofEnvironment environment)).mapError .evaluation
  return if s.locations then .array ((Path.locationsOf nodes).map .string) else Path.valuesOf nodes

/-- A validation against the text of a schema. -/
structure Validation where
  schema : String
  input : Option String := none
  deriving DecidableEq, Repr

/-- Succeeds on a valid document.  No reference may lead out of the schema. -/
def Validation.run (v : Validation) (environment : Environment) : Except Error Unit := do
  let schema ← (Schema.compile (← readDocument v.schema) fun _ => none).mapError .unusableSchema
  let document ← readInput v.input
  match schema.validate document (Options.ofEnvironment environment) with
  | [] => return ()
  | errors => throw (.invalid errors)

end JsonQuery.Command
