/-
# JsonQuery.Json — JSON documents.

A document keeps what its text shows: the order of the members of an object and the spelling class
of each number.  A numeral without fraction or exponent that fits 64 bits is an integer; every other
numeral is a binary floating-point number.
-/
import JsonQuery.Json.Entries
import JsonQuery.Binary64.Basic

namespace JsonQuery

/-- A number of a document: an integer from −2^63 up to 2^64 − 1, or a finite binary number. -/
inductive Json.Numeral where
  | integer (n : Int)
  | float (x : Binary64)
  deriving DecidableEq, Repr

/-- A JSON document. -/
inductive Json where
  | null
  | bool (b : Bool)
  | number (n : Json.Numeral)
  | string (s : String)
  | array (items : List Json)
  | object (members : List (String × Json))
  deriving Repr

namespace Json

instance : Inhabited Json := ⟨.null⟩

/-- The integers of documents. -/
def inIntegerRange (n : Int) : Bool := -0x8000000000000000 ≤ n && n < 0x10000000000000000

/-- A number of a document for an integer in range. -/
def ofInt (n : Int) : Json := .number (.integer n)

/-- The members of an object; any other document has none. -/
def members : Json → Entries Json
  | .object members => members
  | _ => []

/-- The member of a name, if this is an object that has it. -/
def get? (json : Json) (name : String) : Option Json := Entries.get? json.members name

/-- The text of a string. -/
def string? : Json → Option String
  | .string s => some s
  | _ => none

mutual

/-- The nesting of containers: a scalar has none. -/
def height : Json → Nat
  | .array items => heightOfItems items + 1
  | .object members => heightOfMembers members + 1
  | _ => 0

/-- The greatest nesting among items. -/
def heightOfItems : List Json → Nat
  | [] => 0
  | item :: rest => max item.height (heightOfItems rest)

/-- The greatest nesting among members. -/
def heightOfMembers : List (String × Json) → Nat
  | [] => 0
  | (_, value) :: rest => max value.height (heightOfMembers rest)

end

end Json

end JsonQuery
