/-
# JsonQuery.Schema.Validate — the errors of an instance.

Validation walks from the root of a schema and collects every violation with the place in the
instance.  Each hop from a node to another one counts a level; a node reached past the depth limit
is a violation by itself.
-/
import JsonQuery.Schema.Basic
import JsonQuery.Path.Location
import JsonQuery.Pattern.Match
import JsonQuery.Value.Fingerprint
import JsonQuery.Json.Printer
import JsonQuery.Options

namespace JsonQuery.Schema

/-- What an instance violates. -/
inductive Violation where
  | depthExceeded (limit : Nat)
  | nothingAllowed
  | wrongType (found : Json) (types : List JsonType)
  | notListed (found : Json)
  | notConstant (found expected : Json)
  | missing (name : String)
  | noMatchingItem
  | repeatedItems
  | invalidName (name : String)
  | missingDependency (absent present : String)
  | noneMatches
  | matchCount (count : Nat)
  | excluded

namespace Violation

/-- The keyword that is violated. -/
def keyword : Violation → String
  | .depthExceeded _ => "$ref"
  | .nothingAllowed => "false"
  | .wrongType .. => "type"
  | .notListed _ => "enum"
  | .notConstant .. => "const"
  | .missing _ => "required"
  | .noMatchingItem => "contains"
  | .repeatedItems => "uniqueItems"
  | .invalidName _ => "propertyNames"
  | .missingDependency .. => "dependencies"
  | .noneMatches => "anyOf"
  | .matchCount _ => "oneOf"
  | .excluded => "not"

/-- The wording of a violation. -/
def message : Violation → String
  | .depthExceeded limit => "validation exceeded depth " ++ toString limit
  | .nothingAllowed => "no value is allowed here"
  | .wrongType found types =>
    found.compact ++ " is not of type " ++ String.intercalate " or " (types.map JsonType.name)
  | .notListed found => found.compact ++ " is not one of the allowed values"
  | .notConstant found expected => found.compact ++ " is not " ++ expected.compact
  | .missing name => "'" ++ name ++ "' is a required property"
  | .noMatchingItem => "no element matches the 'contains' schema"
  | .repeatedItems => "array items are not unique"
  | .invalidName name => "property name '" ++ name ++ "' is invalid"
  | .missingDependency absent present =>
    "'" ++ absent ++ "' is required when '" ++ present ++ "' is present"
  | .noneMatches => "value does not match any of the schemas"
  | .matchCount count => "value matches " ++ toString count ++ " schemas, expected exactly one"
  | .excluded => "value must not match the schema"

end Violation

/-- A violation and its place in the instance. -/
structure ValidationError where
  location : Location
  violation : Violation

namespace ValidationError

/-- The place as a JSON pointer. -/
def pointer (e : ValidationError) : String := Location.pointer e.location

/-- The text of an error; the root is written as a slash. -/
def toText (e : ValidationError) : String :=
  (if e.pointer.isEmpty then "/" else e.pointer) ++ ": " ++ e.violation.message ++ " ("
    ++ e.violation.keyword ++ ")"

end ValidationError

/-- Whether a document has a type. -/
def JsonType.admits (type : JsonType) (json : Json) : Bool :=
  match type, json with
  | .null, .null => true
  | .boolean, .bool _ => true
  | .number, .number _ => true
  | .string, .string _ => true
  | .array, .array _ => true
  | .object, .object _ => true
  | .integer, .number n => (Number.ofNumeral n).isInteger
  | _, _ => false

/-- Whether two documents are equal as values. -/
def sameJson (a b : Json) : Bool := (Value.ofJson a).same (Value.ofJson b)

/-- How a node is checked: the errors of a part of the instance at a location. -/
abbrev Check := Slot → Json → Location → List ValidationError

namespace Check

/-- Whether a node accepts a part of the instance. -/
def accepts (check : Check) (slot : Slot) (json : Json) (location : Location) : Bool :=
  (check slot json location).isEmpty

/-- The errors of members under their names. -/
def memberErrors (check : Check) (slot : Slot) (location : Location) (members : Entries Json) :
    List ValidationError :=
  members.flatMap fun (name, json) => check slot json (location ++ [.name name])

/-- The errors of items, each checked against a slot by its place; no slot ends the walk. -/
def itemErrors (check : Check) (slotAt : Nat → Option Slot) (location : Location) :
    Nat → List Json → List ValidationError
  | _, [] => []
  | i, json :: rest =>
    match slotAt i with
    | none => []
    | some slot =>
      check slot json (location ++ [.index i]) ++ itemErrors check slotAt location (i + 1) rest

/-- Whether a node accepts one of the items. -/
def acceptsItem (check : Check) (slot : Slot) (location : Location) (items : List Json) : Bool :=
  items.zipIdx.any fun (json, i) => check.accepts slot json (location ++ [.index i])

/-- The errors of a dependency of an object. -/
def dependencyErrors (check : Check) (members : Entries Json) (location : Location)
    (entry : String × Dependency) : List ValidationError :=
  if !members.has entry.1 then []
  else match entry.2 with
    | .required names =>
      (names.filter (!members.has ·)).map fun name => ⟨location, .missingDependency name entry.1⟩
    | .schema slot => check slot (.object members) location

end Check

/-- A violation at a location, unless a condition holds. -/
def unless_ (holds : Bool) (location : Location) (v : Violation) : List ValidationError :=
  if holds then [] else [⟨location, v⟩]

/-- The errors of a keyword about the members of an object. -/
def Keyword.objectErrors (k : Keyword) (check : Check) (members : Entries Json)
    (location : Location) : List ValidationError :=
  match k with
  | .required names =>
    (names.filter (!members.has ·)).map fun name => ⟨location, .missing name⟩
  | .properties schemas =>
    schemas.flatMap fun (name, slot) =>
      match members.get? name with
      | some json => check slot json (location ++ [.name name])
      | none => []
  | .patternProperties schemas =>
    schemas.flatMap fun (pattern, slot) =>
      check.memberErrors slot location (members.filter fun entry => pattern.isMatch entry.1)
  | .additionalProperties slot known patterns =>
    check.memberErrors slot location (members.filter fun entry =>
      !known.contains entry.1 && !patterns.any (·.isMatch entry.1))
  | .propertyNames slot =>
    members.flatMap fun (name, _) =>
      unless_ (check.accepts slot (.string name) location) location (.invalidName name)
  | .dependencies entries => entries.flatMap (check.dependencyErrors members location)
  | _ => []

/-- The errors of a keyword about the items of an array. -/
def Keyword.arrayErrors (k : Keyword) (check : Check) (items : List Json) (location : Location) :
    List ValidationError :=
  match k with
  | .items slot => check.itemErrors (fun _ => some slot) location 0 items
  | .tuple slots additional =>
    check.itemErrors (fun i => (slots[i]?).or additional) location 0 items
  | .contains slot => unless_ (check.acceptsItem slot location items) location .noMatchingItem
  | .uniqueItems =>
    unless_ (Value.allDistinct (items.map Value.ofJson)) location .repeatedItems
  | _ => []

/-- The errors of a keyword. -/
def Keyword.errors (k : Keyword) (check : Check) (json : Json) (location : Location) :
    List ValidationError :=
  match k with
  | .type types => unless_ (types.any (JsonType.admits · json)) location (.wrongType json types)
  | .enum values => unless_ (values.any (sameJson · json)) location (.notListed json)
  | .const value => unless_ (sameJson value json) location (.notConstant json value)
  | .allOf slots => slots.flatMap fun slot => check slot json location
  | .anyOf slots => unless_ (slots.any (check.accepts · json location)) location .noneMatches
  | .oneOf slots =>
    let count := slots.countP (check.accepts · json location)
    unless_ (count == 1) location (.matchCount count)
  | .not slot => unless_ (!check.accepts slot json location) location .excluded
  | .conditional condition positive negative =>
    let branch := if check.accepts condition json location then positive else negative
    match branch with
    | some slot => check slot json location
    | none => []
  | .ref slot => check slot json location
  | k =>
    match json with
    | .object members => k.objectErrors check members location
    | .array elements => k.arrayErrors check elements location
    | _ => []

/-- The errors of a node, which has so many levels left under a limit. -/
def check (schema : Schema) (limit : Nat) : Nat → Check
  | 0 => fun _ _ location => [⟨location, .depthExceeded limit⟩]
  | levels + 1 => fun slot json location =>
    match schema.nodes[slot]? with
    | none => []
    | some (.bool true) => []
    | some (.bool false) => [⟨location, .nothingAllowed⟩]
    | some (.keywords keywords) =>
      keywords.flatMap fun k => k.errors (check schema limit levels) json location

/-- All errors of an instance. -/
def validate (schema : Schema) (json : Json) (options : Options := {}) : List ValidationError :=
  schema.check options.maxDepth (options.maxDepth + 1) schema.root json []

/-- Whether an instance has no errors. -/
def isValid (schema : Schema) (json : Json) (options : Options := {}) : Bool :=
  (schema.validate json options).isEmpty

end JsonQuery.Schema
