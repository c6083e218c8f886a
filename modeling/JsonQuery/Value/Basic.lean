/-
# JsonQuery.Value — values under evaluation.

A value is what an expression computes: the parts of a document, what functions and selections
build from them, and references to expressions.  The entries of an object keep their order and may
repeat a name; a look-up finds the first.
-/
import JsonQuery.Number
import JsonQuery.Expr.Basic

namespace JsonQuery

/-- The dynamic type of a value. -/
inductive Kind where
  | null | true | false | number | string | array | object | expression
  deriving DecidableEq, Repr

/-- The name of a type as the `type` function reports it. -/
def Kind.typeName : Kind → String
  | .null => "null"
  | .true | .false => "boolean"
  | .number => "number"
  | .string => "string"
  | .array => "array"
  | .object => "object"
  | .expression => "expref"

/-- A value. -/
inductive Value where
  | null
  | bool (b : Bool)
  | number (n : Number)
  | string (s : String)
  | array (items : List Value)
  | object (entries : List (String × Value))
  | reference (id : Nat) (body : Expr)

namespace Value

instance : Inhabited Value := ⟨.null⟩

/-- The dynamic type. -/
def kind : Value → Kind
  | .null => .null
  | .bool true => .true
  | .bool false => .false
  | .number _ => .number
  | .string _ => .string
  | .array _ => .array
  | .object _ => .object
  | .reference .. => .expression

/-- Whether the value is `null`. -/
def isNull : Value → Bool
  | .null => true
  | _ => false

/-- What counts as true: everything but `null`, `false`, and the empty string, array and object.
Numbers are always true. -/
def isTruthy : Value → Bool
  | .null => false
  | .bool b => b
  | .number _ => true
  | .reference .. => true
  | .string s => !s.isEmpty
  | .array items => !items.isEmpty
  | .object entries => !entries.isEmpty

/-- The text of a string. -/
def string? : Value → Option String
  | .string s => some s
  | _ => none

/-- The number of a number. -/
def number? : Value → Option Number
  | .number n => some n
  | _ => none

/-- The items of an array. -/
def items? : Value → Option (List Value)
  | .array items => some items
  | _ => none

/-- The entries of an object. -/
def entries? : Value → Option (Entries Value)
  | .object entries => some entries
  | _ => none

/-- The member of a name; none if it is missing or this is no object. -/
def get? (v : Value) (name : String) : Option Value := do (← v.entries?).get? name

/-- The element at a place; none if there is none or this is no array. -/
def item? (v : Value) (i : Nat) : Option Value := do (← v.items?)[i]?

/-- The number of items of an array or entries of an object. -/
def size : Value → Nat
  | .array items => items.length
  | .object entries => entries.length
  | _ => 0

/-! ## Documents -/

mutual

/-- The value of a document. -/
def ofJson : Json → Value
  | .null => .null
  | .bool b => .bool b
  | .number n => .number (Number.ofNumeral n)
  | .string s => .string s
  | .array items => .array (ofItems items)
  | .object members => .object (ofMembers members)

/-- The values of items. -/
def ofItems : List Json → List Value
  | [] => []
  | item :: rest => ofJson item :: ofItems rest

/-- The values of members. -/
def ofMembers : List (String × Json) → List (String × Value)
  | [] => []
  | (name, value) :: rest => (name, ofJson value) :: ofMembers rest

end

/-- Members written one after another: of entries with one name the last value counts, at the place
of the first. -/
def collapse (members : Entries Json) : Entries Json :=
  members.foldl (fun acc entry => acc.put entry.1 entry.2) []

mutual

/-- The document of a value; a reference has none and becomes `null`. -/
def toJson : Value → Json
  | .null => .null
  | .bool b => .bool b
  | .number n => n.toJson
  | .string s => .string s
  | .array items => .array (itemsToJson items)
  | .object entries => .object (collapse (entriesToJson entries))
  | .reference .. => .null

/-- The documents of items. -/
def itemsToJson : List Value → List Json
  | [] => []
  | item :: rest => item.toJson :: itemsToJson rest

/-- The documents of entries. -/
def entriesToJson : List (String × Value) → List (String × Json)
  | [] => []
  | (name, value) :: rest => (name, value.toJson) :: entriesToJson rest

end

end Value

end JsonQuery
