/-
# JsonQuery.Command.Run — from the words of the command line to its outcome.

The first word names a command.  What a command needs from outside — the text of the schema file and
the piped input — is passed in as functions of the names, so that a run is a function of the words
and their surroundings.
-/
import JsonQuery.Command.Arguments
import JsonQuery.Command.Basic

namespace JsonQuery

/-- A command with its arguments. -/
inductive Command where
  | search (task : Command.Search) (pretty : Bool)
  | path (task : Command.Selection) (pretty : Bool)
  | validate (schemaFile : String) (input : Option String)
  deriving DecidableEq, Repr

namespace Command

/-! ## Reading -/

/-- The options of a search. -/
def searchProfile : Profile :=
  ⟨[.input, .pretty, .syntaxOnly, .stepBudget, .help], fun _ => true⟩

/-- The options of a selection. -/
def pathProfile : Profile := ⟨[.input, .pretty, .locations, .help], fun _ => true⟩

/-- The options of a validation; a file has a name. -/
def validateProfile : Profile := ⟨[.input, .help], fun word => word != ""⟩

/-- Before the name of a command there is only help and the version. -/
def generalProfile : Profile := ⟨[.help, .version], fun _ => false⟩

/-- A search with these arguments. -/
def searchOf (expression : String) (a : Arguments) : Command :=
  .search
    { expression
      input := a.settings.lookup .input
      syntaxOnly := a.has .syntaxOnly
      stepBudget :=
        (a.settings.lookup .stepBudget).bind fun text => Options.readCount? text.toList }
    (a.has .pretty)

/-- A selection with these arguments. -/
def pathOf (path : String) (a : Arguments) : Command :=
  .path { path, input := a.settings.lookup .input, locations := a.has .locations } (a.has .pretty)

/-- A validation with these arguments. -/
def validateOf (schemaFile : String) (a : Arguments) : Command :=
  .validate schemaFile (a.settings.lookup .input)

/-- The names of the commands. -/
def names : List String := ["search", "path", "validate", "help"]

/-- Reads the arguments of a command, which needs its operand. -/
def readWith (p : Profile) (make : String → Arguments → Command) (words : List String) :
    Except Stop Command := do
  let a ← p.read words
  match a.operand with
  | some operand => return make operand a
  | none => throw .misuse

/-- Reads a command line. -/
def ofWords : List String → Except Stop Command
  | [] => .error .misuse
  | "search" :: words => readWith searchProfile searchOf words
  | "path" :: words => readWith pathProfile pathOf words
  | "validate" :: words => readWith validateProfile validateOf words
  | "help" :: words =>
    match words with
    | [] => .error .help
    | [name] => .error (if names.contains name then .help else .misuse)
    | _ => .error .misuse
  | word :: _ => do
    let _ ← generalProfile.read [word]
    throw .misuse

/-! ## Running -/

/-- What a command may use from outside: the environment, the text of a file, and the text that is
piped in, if any is. -/
structure Surroundings where
  environment : Environment := []
  fileText : String → Except FileFault String := fun _ => .error .notFound
  piped : Option String := none

/-- The text that a successful command prints. -/
def run (c : Command) (s : Surroundings) : Except Error String :=
  match c with
  | .search task pretty => do
    match ← { task with input := task.input <|> s.piped }.run s.environment with
    | none => return "Syntax is valid"
    | some found => return found.render pretty
  | .path task pretty => do
    return (← { task with input := task.input <|> s.piped }.run s.environment).render pretty
  | .validate schemaFile input => do
    let schema ← (s.fileText schemaFile).mapError .file
    Validation.run ⟨schema, input <|> s.piped⟩ s.environment
    return "Document is valid"

/-- The files that a command reads. -/
def files : Command → List String
  | .validate schemaFile _ => [schemaFile]
  | _ => []

/-- Whether a command reads what is piped in. -/
def readsPiped : Command → Bool
  | .search task _ => task.input.isNone && !task.syntaxOnly
  | .path task _ => task.input.isNone
  | .validate _ input => input.isNone

/-- How a run of the program ends. -/
inductive Outcome where
  | printed (text : String)
  | failed (error : Error)
  | stopped (stop : Stop)

/-- The name and the version of the program. -/
def versionText : String := "quarry 0.1.0"

/-- How the program is used. -/
def usageText : String :=
  "Usage: quarry search EXPRESSION [-i TEXT] [-p] [--syntax-only] [--step-budget N]\n" ++
  "       quarry path PATH [-i TEXT] [-p] [--locations]\n" ++
  "       quarry validate SCHEMA [-i TEXT]"

namespace Outcome

/-- The exit code: 1 for a failure, 2 for misuse. -/
def code : Outcome → Nat
  | .printed _ => 0
  | .failed _ => 1
  | .stopped .misuse => 2
  | .stopped _ => 0

/-- What is written to the standard output. -/
def output : Outcome → String
  | .printed text => text ++ "\n"
  | .stopped .version => versionText ++ "\n"
  | .stopped .help => usageText ++ "\n"
  | _ => ""

/-- What is written to the standard error output. -/
def errorOutput : Outcome → String
  | .failed error => error.message ++ "\n"
  | .stopped .misuse => usageText ++ "\n"
  | _ => ""

/-- The outcome of reading or running a command. -/
def ofRun : Except Error String → Outcome
  | .ok text => .printed text
  | .error error => .failed error

end Outcome

/-- Runs a command line. -/
def outcome (words : List String) (s : Surroundings) : Outcome :=
  match ofWords words with
  | .ok c => .ofRun (c.run s)
  | .error stop => .stopped stop

end Command

end JsonQuery
