/-
# JsonQuery.Options — limits of an evaluation.

The depth limit bounds recursive descent and schema validation, the step budget the number of steps
of a whole evaluation.  Both have a variable of the environment; a value that is no natural number
below 2^64 is ignored.
-/
import JsonQuery.Text.Basic
import JsonQuery.Text.Alphabetic

namespace JsonQuery

/-- The limits of an evaluation. -/
structure Options where
  maxDepth : Nat := 100
  stepBudget : Option Nat := none
  deriving DecidableEq, Repr

namespace Options

/-- The variable for the depth limit. -/
def depthVariable : String := "QUARRY_MAX_DEPTH"

/-- The variable for the step budget. -/
def budgetVariable : String := "QUARRY_STEP_BUDGET"

/-- A natural number below 2^64, with or without a plus sign. -/
def readCount? (text : List Char) : Option Nat :=
  let digits := match text with
    | '+' :: rest => rest
    | _ => text
  if digits.isEmpty || !digits.all Text.isAsciiDigit then none
  else
    let n := digits.foldl (fun acc c => acc * 10 + (c.toNat - 48)) 0
    if n < 0x10000000000000000 then some n else none

/-- The number that a variable holds, blanks around it aside. -/
def setting? (environment : List (String × String)) (name : String) : Option Nat := do
  readCount? (Text.trimBlanks (← environment.lookup name).toList)

/-- The limits that an environment asks for. -/
def ofEnvironment (environment : List (String × String)) : Options :=
  { maxDepth := (setting? environment depthVariable).getD 100
    stepBudget := setting? environment budgetVariable }

end Options

end JsonQuery
