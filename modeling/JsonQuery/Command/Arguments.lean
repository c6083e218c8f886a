/-
# JsonQuery.Command.Arguments — reading the arguments of a command.

Arguments are read from left to right.  A word that starts with a dash is a long option (`--name`,
`--name=value`) or a cluster of letters (`-pi value`, `-ivalue`, `-i=value`), `--` makes all later
words operands, and any other word, a lone dash included, is an operand.  The value of an option may
be the next word unless that starts with a dash.  Each option and the operand may be given once.
The first fault, or the first request for help or for the version, ends the reading.
-/
import JsonQuery.Options

namespace JsonQuery.Command

/-- An option of a command. -/
inductive Switch where
  | input
  | pretty
  | syntaxOnly
  | stepBudget
  | locations
  | help
  | version
  deriving DecidableEq, Repr

namespace Switch

/-- The name after two dashes. -/
def long : Switch → String
  | .input => "input"
  | .pretty => "pretty"
  | .syntaxOnly => "syntax-only"
  | .stepBudget => "step-budget"
  | .locations => "locations"
  | .help => "help"
  | .version => "version"

/-- The letter after one dash, if there is one. -/
def letter? : Switch → Option Char
  | .input => some 'i'
  | .pretty => some 'p'
  | .help => some 'h'
  | .version => some 'V'
  | _ => none

/-- Options with a value; the others are flags. -/
def takesValue : Switch → Bool
  | .input => true
  | .stepBudget => true
  | _ => false

/-- Whether a text can be the value of an option. -/
def accepts (s : Switch) (value : String) : Bool :=
  match s with
  | .stepBudget => (Options.readCount? value.toList).isSome
  | _ => true

end Switch

/-- Why the reading of arguments ends before its end. -/
inductive Stop where
  | help
  | version
  | misuse
  deriving DecidableEq, Repr

/-- What a command takes: its options, and the words that can be its operand. -/
structure Profile where
  switches : List Switch
  acceptsOperand : String → Bool

/-- What has been read: the operand, and the options with their values (a flag has the empty
value), the latest first. -/
structure Arguments where
  operand : Option String := none
  settings : List (Switch × String) := []
  deriving DecidableEq, Repr

namespace Arguments

/-- Whether an option is given. -/
def has (a : Arguments) (s : Switch) : Bool := (a.settings.lookup s).isSome

/-- Sets an option. -/
def set (a : Arguments) (s : Switch) (value : String) : Except Stop Arguments :=
  if a.has s || !s.accepts value then .error .misuse
  else .ok { a with settings := (s, value) :: a.settings }

/-- Raises a flag. -/
def raise (a : Arguments) : Switch → Except Stop Arguments
  | .help => .error .help
  | .version => .error .version
  | s => a.set s ""

/-- Sets the operand. -/
def setOperand (a : Arguments) (p : Profile) (word : String) : Except Stop Arguments :=
  if a.operand.isSome || !p.acceptsOperand word then .error .misuse
  else .ok { a with operand := some word }

end Arguments

/-! ## Words -/

/-- What a word is. -/
inductive Word where
  | terminator
  | long (name : String) (value : Option String)
  | cluster (letters : List Char)
  | plain
  deriving DecidableEq, Repr

/-- Tells what a word is; the first equals sign of a long option starts its value. -/
def Word.ofText (text : String) : Word :=
  match text.toList with
  | ['-', '-'] => .terminator
  | '-' :: '-' :: rest =>
    let name := String.ofList (rest.takeWhile (· != '='))
    match rest.dropWhile (· != '=') with
    | _ :: value => .long name (some (String.ofList value))
    | [] => .long name none
  | '-' :: c :: rest => .cluster (c :: rest)
  | _ => .plain

/-! ## Reading -/

namespace Profile

/-- Reads a cluster of letters.  An option takes what is left of the cluster as its value; without
any it waits for the next word. -/
def readCluster (p : Profile) : List Char → Arguments → Except Stop (Arguments × Option Switch)
  | [], a => .ok (a, none)
  | c :: rest, a =>
    match p.switches.find? (·.letter? == some c) with
    | none => .error .misuse
    | some s =>
      if s.takesValue then
        match rest with
        | [] => .ok (a, some s)
        | '=' :: value => (a.set s (String.ofList value)).map (·, none)
        | value => (a.set s (String.ofList value)).map (·, none)
      else do p.readCluster rest (← a.raise s)

/-- Reads a long option. -/
def readLong (p : Profile) (name : String) (value : Option String) (a : Arguments) :
    Except Stop (Arguments × Option Switch) :=
  match p.switches.find? (·.long == name), value with
  | none, _ => .error .misuse
  | some s, some text => if s.takesValue then (a.set s text).map (·, none) else .error .misuse
  | some s, none => if s.takesValue then .ok (a, some s) else (a.raise s).map (·, none)

/-- Reads words from left to right, where an option may wait for its value. -/
def readWords (p : Profile) : Option Switch → List String → Arguments → Except Stop Arguments
  | none, [], a => .ok a
  | some _, [], _ => .error .misuse
  | some s, text :: rest, a =>
    match Word.ofText text with
    | .plain => do p.readWords none rest (← a.set s text)
    | _ => .error .misuse
  | none, text :: rest, a =>
    match Word.ofText text with
    | .terminator => rest.foldlM (fun a word => a.setOperand p word) a
    | .long name value => do
      let (a, waiting) ← p.readLong name value a
      p.readWords waiting rest a
    | .cluster letters => do
      let (a, waiting) ← p.readCluster letters a
      p.readWords waiting rest a
    | .plain => do p.readWords none rest (← a.setOperand p text)

/-- Reads the arguments of a command. -/
def read (p : Profile) (words : List String) : Except Stop Arguments := p.readWords none words {}

end Profile

end JsonQuery.Command
