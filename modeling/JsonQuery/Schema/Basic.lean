/-
# JsonQuery.Schema — compiled schemas.

A compiled schema is a table of nodes; keywords that hold schemas hold the slots of their nodes,
and a reference is the slot that it refers to.  Recursive schemas are therefore finite tables.  A
document that cannot be compiled is refused with what is wrong with a part of it.
-/
import JsonQuery.Json.Printer
import JsonQuery.Pattern.Parser
import JsonQuery.Uri.Basic

namespace JsonQuery

/-- The types that a schema names. -/
inductive JsonType where
  | null | boolean | integer | number | string | array | object
  deriving DecidableEq, Repr

namespace JsonType

/-- The name of a type. -/
def name : JsonType → String
  | .null => "null"
  | .boolean => "boolean"
  | .integer => "integer"
  | .number => "number"
  | .string => "string"
  | .array => "array"
  | .object => "object"

/-- All types. -/
def all : List JsonType := [.null, .boolean, .integer, .number, .string, .array, .object]

/-- The type of a name. -/
def ofName? (name : String) : Option JsonType := all.find? (·.name = name)

end JsonType

namespace Schema

/-- The place of a node in the table. -/
abbrev Slot := Nat

/-- What the presence of a member demands: other members, or a whole schema. -/
inductive Dependency where
  | required (names : List String)
  | schema (slot : Slot)

/-- A keyword that constrains instances. -/
inductive Keyword where
  | type (types : List JsonType)
  | enum (values : List Json)
  | const (value : Json)
  | required (names : List String)
  | properties (schemas : List (String × Slot))
  | patternProperties (schemas : List (Pattern × Slot))
  /-- Members that neither a name nor a pattern covers. -/
  | additionalProperties (schema : Slot) (known : List String) (patterns : List Pattern)
  /-- One schema for all items. -/
  | items (schema : Slot)
  /-- A schema for every item by its place, and one for the items behind them. -/
  | tuple (schemas : List Slot) (additional : Option Slot)
  | contains (schema : Slot)
  | uniqueItems
  | propertyNames (schema : Slot)
  | dependencies (entries : List (String × Dependency))
  | allOf (schemas : List Slot)
  | anyOf (schemas : List Slot)
  | oneOf (schemas : List Slot)
  | not (schema : Slot)
  /-- `if` with its branches. -/
  | conditional (condition : Slot) (positive negative : Option Slot)
  | ref (schema : Slot)

/-- A node: a schema that accepts all or nothing, or a list of keywords. -/
inductive Node where
  | bool (accepts : Bool)
  | keywords (keywords : List Keyword)

instance : Inhabited Node := ⟨.bool true⟩

end Schema

/-- A compiled schema: its nodes, and the slot where validation starts. -/
structure Schema where
  nodes : Array Schema.Node
  root : Schema.Slot

namespace Schema

/-- The schema that accepts everything. -/
def acceptAll : Schema := ⟨#[.bool true], 0⟩

/-- The number of nodes. -/
def size (s : Schema) : Nat := s.nodes.size

end Schema

/-! ## Why a schema cannot be compiled -/

/-- What is wrong with a part of a schema document. -/
inductive SchemaError.Flaw where
  | notSchema
  | notObject (keyword : String)
  | notArray (keyword : String)
  | notNames (keyword : String)
  | referenceNotText
  | unknownType (name : Json)
  | invalidPattern (pattern : String) (fault : Pattern.Fault)

/-- Why a schema cannot be compiled. -/
inductive SchemaError where
  /-- A part of the document is no schema; the pointer leads to it. -/
  | invalidSchema (pointer : String) (flaw : SchemaError.Flaw)
  /-- A reference leads to nothing. -/
  | unresolvedReference (uri : String)
  /-- A reference or an identifier is no address. -/
  | invalidUri (uri : String) (fault : Uri.Fault)
  /-- References were still open after the rounds that were allowed. -/
  | unfinished

namespace SchemaError

/-- The wording of a flaw. -/
def Flaw.message : Flaw → String
  | .notSchema => "expected an object or a boolean"
  | .notObject keyword => "'" ++ keyword ++ "' must be an object"
  | .notArray keyword => "'" ++ keyword ++ "' must be an array"
  | .notNames keyword => "'" ++ keyword ++ "' must be an array of strings"
  | .referenceNotText => "'$ref' must be a string"
  | .unknownType name => "unknown type " ++ name.compact
  | .invalidPattern pattern fault => "invalid pattern '" ++ pattern ++ "': " ++ fault.message

/-- The wording of an error. -/
def message : SchemaError → String
  | .invalidSchema pointer flaw => "invalid schema at '" ++ pointer ++ "': " ++ flaw.message
  | .unresolvedReference uri => "unresolved reference '" ++ uri ++ "'"
  | .invalidUri uri fault => "invalid URI '" ++ uri ++ "': " ++ fault.message
  | .unfinished => "too many references"

end SchemaError

end JsonQuery
