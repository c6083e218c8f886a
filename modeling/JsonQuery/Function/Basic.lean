/-
# JsonQuery.Function — the functions that queries call.

A function is known by its name and the number of arguments it demands; a function without that
number takes any.  Names are resolved while a query is read, against a registry in which a later
registration replaces an earlier one.
-/
import JsonQuery.Text.Quoted

namespace JsonQuery

/-- What a function does. -/
inductive Builtin where
  | abs | avg | ceil | contains | endsWith | floor | join | keys | length | map | max | maxBy
  | merge | min | minBy | notNull | reverse | sort | sortBy | startsWith | sum | toArray | toNumber
  | toString | type | values
  deriving DecidableEq, Repr

namespace Builtin

/-- All built-ins, in the order of their names. -/
def all : List Builtin :=
  [.abs, .avg, .ceil, .contains, .endsWith, .floor, .join, .keys, .length, .map, .max, .maxBy,
   .merge, .min, .minBy, .notNull, .reverse, .sort, .sortBy, .startsWith, .sum, .toArray,
   .toNumber, .toString, .type, .values]

/-- The name that queries use. -/
def name : Builtin → String
  | .abs => "abs"
  | .avg => "avg"
  | .ceil => "ceil"
  | .contains => "contains"
  | .endsWith => "ends_with"
  | .floor => "floor"
  | .join => "join"
  | .keys => "keys"
  | .length => "length"
  | .map => "map"
  | .max => "max"
  | .maxBy => "max_by"
  | .merge => "merge"
  | .min => "min"
  | .minBy => "min_by"
  | .notNull => "not_null"
  | .reverse => "reverse"
  | .sort => "sort"
  | .sortBy => "sort_by"
  | .startsWith => "starts_with"
  | .sum => "sum"
  | .toArray => "to_array"
  | .toNumber => "to_number"
  | .toString => "to_string"
  | .type => "type"
  | .values => "values"

/-- The number of arguments, where it is fixed. -/
def arity : Builtin → Option Nat
  | .merge | .notNull => none
  | .contains | .endsWith | .join | .map | .maxBy | .minBy | .sortBy | .startsWith => some 2
  | _ => some 1

end Builtin

/-- A registered function: a built-in under a name and an arity of its own. -/
structure Function where
  name : String
  arity : Option Nat
  body : Builtin
  deriving DecidableEq, Repr

namespace Function

/-- A built-in under its own name and arity. -/
def ofBuiltin (b : Builtin) : Function := ⟨b.name, b.arity, b⟩

/-- `name/arity`, with a star for any number of arguments. -/
def signature (f : Function) : String :=
  f.name ++ "/" ++ (match f.arity with
    | some n => toString n
    | none => "*")

end Function

/-- The functions that a query may call; no two have the same name. -/
structure Registry where
  functions : List Function
  deriving DecidableEq, Repr

namespace Registry

/-- No functions. -/
def empty : Registry := ⟨[]⟩

/-- Adds a function, in place of one with the same name. -/
def register (r : Registry) (f : Function) : Registry :=
  ⟨r.functions.filter (·.name != f.name) ++ [f]⟩

/-- The built-ins. -/
def builtins : Registry := ⟨Builtin.all.map Function.ofBuiltin⟩

/-- The function of a name. -/
def find? (r : Registry) (name : String) : Option Function :=
  r.functions.find? (·.name == name)

/-- The names in ascending order. -/
def sortedNames (r : Registry) : List String :=
  (r.functions.map (·.name)).mergeSort (fun a b => decide (a ≤ b))

/-- A registry as text: its names in ascending order. -/
def toText (r : Registry) : String :=
  "FunctionRegistry \x7b functions: [" ++
    String.intercalate ", " (r.sortedNames.map Text.quoted) ++ "] \x7d"

end Registry

end JsonQuery
