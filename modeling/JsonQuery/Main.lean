/-
# JsonQuery.Main — the program.

The program reads the files and the piped input that its command asks for, and prints the outcome.
-/
import JsonQuery.Command.Run

namespace JsonQuery.Main

open JsonQuery.Command

/-- The fault that an error of the system stands for. -/
def faultOf : IO.Error → FileFault
  | .noFileOrDirectory .. => .notFound
  | .noSuchThing .. => .notFound
  | .permissionDenied .. => .denied
  | .inappropriateType _ 20 _ => .notDirectory
  | .inappropriateType .. => .directory
  | error => .other (toString error)

/-- Reads the text of a file. -/
def readText (name : String) : IO (Except FileFault String) := do
  try
    let bytes ← IO.FS.readBinFile name
    match String.fromUTF8? bytes with
    | some text => return .ok text
    | none => return .error .notText
  catch error => return .error (faultOf error)

/-- Reads a stream to its end. -/
partial def readAll (stream : IO.FS.Stream) (bytes : ByteArray) : IO ByteArray := do
  let more ← stream.read 65536
  if more.isEmpty then return bytes else readAll stream (bytes ++ more)

/-- What is piped in; nothing at a terminal. -/
def readPiped : IO (Except FileFault (Option String)) := do
  let stream ← IO.getStdin
  if ← stream.isTty then return .ok none
  match String.fromUTF8? (← readAll stream .empty) with
  | some text => return .ok (some text)
  | none => return .error .notText

/-- The variables that limit evaluations. -/
def readEnvironment : IO Environment :=
  [Options.depthVariable, Options.budgetVariable].filterMapM fun name => do
    return (← IO.getEnv name).map fun value => (name, value)

/-- Runs a command with the files that it reads. -/
def runCommand (c : Command) : IO Outcome := do
  let environment ← readEnvironment
  let texts ← c.files.mapM fun name => do return (name, ← readText name)
  let fileText (name : String) : Except FileFault String :=
    (texts.lookup name).getD (.error .notFound)
  if texts.any fun entry => entry.2 matches .error _ then
    return .ofRun (c.run { environment, fileText })
  let piped ← if c.readsPiped then readPiped else pure (.ok none)
  match piped with
  | .error fault => return .failed (.file fault)
  | .ok piped => return .ofRun (c.run { environment, fileText, piped })

/-- Writes the outcome of a command line. -/
def run (words : List String) : IO UInt32 := do
  let result ← match ofWords words with
    | .error stop => pure (.stopped stop)
    | .ok c => runCommand c
  (← IO.getStdout).putStr result.output
  (← IO.getStderr).putStr result.errorOutput
  return UInt32.ofNat result.code

end JsonQuery.Main

def main (words : List String) : IO UInt32 := JsonQuery.Main.run words
