/-
# JsonQuery.Proofs.Schema.Meaning — what a schema document says, read off the document.

Draft 7 explains schemas without tables: a schema is a part of its document, every keyword speaks
about the instance by way of the schemas that stand in it, and a reference stands for the part of
the document that its fragment points to.  This is a definition by itself, and it computes.  It
takes a judgement of the schemas one level further in, so that recursion through references is
bounded by a number of levels and by nothing else.
-/
import JsonQuery.Proofs.Json.Everywhere
import JsonQuery.Schema.Validate
import JsonQuery.Schema.Compile

namespace JsonQuery.Schema

/-- Whether a schema, as it stands in a document, accepts an instance. -/
abbrev Judge := Json → Json → Bool

namespace Meaning

/-! ## Keywords without schemas -/

/-- The names in a list of strings. -/
def namesIn (json : Json) : List String :=
  match json with
  | .array items => items.filterMap Json.string?
  | _ => []

/-- The items of an array; any other document has none. -/
def itemsOf (json : Json) : List Json :=
  match json with
  | .array items => items
  | _ => []

/-- Whether an instance is of the type with a name. -/
def isOfType (name inst : Json) : Bool :=
  (name.string?.bind JsonType.ofName?).any (JsonType.admits · inst)

/-- `type`: one name, or a list of names. -/
def type (names inst : Json) : Bool :=
  match names with
  | .array names => names.any (isOfType · inst)
  | name => isOfType name inst

/-- `enum`: one of the values. -/
def enum (values inst : Json) : Bool := (itemsOf values).any (sameJson · inst)

/-- `required`: an object with all these members. -/
def required (names inst : Json) : Bool :=
  match inst with
  | .object members => (namesIn names).all (Entries.has members)
  | _ => true

/-- `uniqueItems`: no item equals an earlier one; only `true` asks for this. -/
def uniqueItems (flag inst : Json) : Bool :=
  match flag, inst with
  | .bool true, .array items =>
    decide (items.Pairwise fun earlier later => sameJson later earlier = false)
  | _, _ => true

/-! ## Keywords about members -/

/-- Whether a pattern matches a name; what is no pattern matches none. -/
def matchesName (source name : String) : Bool :=
  match Pattern.ofText? source {} with
  | .ok pattern => pattern.isMatch name
  | .error _ => false

/-- The names of the members of a member. -/
def memberNames (schema : Entries Json) (keyword : String) : List String :=
  match schema.get? keyword with
  | some json => json.members.names
  | none => []

variable (judge : Judge)

/-- `properties`: the members with these names, each by its schema. -/
def properties (schemas inst : Json) : Bool :=
  match inst with
  | .object members =>
    schemas.members.all fun (name, schema) => (Entries.get? members name).all (judge schema)
  | _ => true

/-- `patternProperties`: the members whose names a pattern matches, by the schema of the pattern. -/
def patternProperties (schemas inst : Json) : Bool :=
  match inst with
  | .object members =>
    schemas.members.all fun (source, schema) =>
      (members.filter fun entry => matchesName source entry.1).all fun entry => judge schema entry.2
  | _ => true

/-- `additionalProperties`: the members that neither `properties` nor `patternProperties` name. -/
def additionalProperties (siblings : Entries Json) (schema inst : Json) : Bool :=
  match inst with
  | .object members =>
    (members.filter fun entry => !(memberNames siblings "properties").contains entry.1
      && !(memberNames siblings "patternProperties").any (matchesName · entry.1)).all fun entry =>
        judge schema entry.2
  | _ => true

/-- `propertyNames`: every name, as a string. -/
def propertyNames (schema inst : Json) : Bool :=
  match inst with
  | .object members => members.all fun entry => judge schema (.string entry.1)
  | _ => true

/-- What the presence of a member demands of an object: other members, or a whole schema. -/
def demand (dependency : Json) (members : Entries Json) : Bool :=
  match dependency with
  | .array names => (namesIn (.array names)).all members.has
  | schema => judge schema (.object members)

/-- `dependencies`: the demands of the members that are present. -/
def dependencies (entries inst : Json) : Bool :=
  match inst with
  | .object members =>
    entries.members.all fun entry =>
      !Entries.has members entry.1 || demand judge entry.2 members
  | _ => true

/-! ## Keywords about items -/

/-- `items`: one schema for all items, or a list of schemas item by item; then `additionalItems` is
for the items behind them. -/
def items (siblings : Entries Json) (schemas inst : Json) : Bool :=
  match inst with
  | .array elements =>
    match schemas with
    | .array schemas =>
      elements.zipIdx.all fun (json, i) =>
        ((schemas[i]?).or (siblings.get? "additionalItems")).all (judge · json)
    | schema => elements.all (judge schema)
  | _ => true

theorem items_of_ne_array {siblings : Entries Json} {schema : Json}
    (h : ∀ schemas, schema ≠ .array schemas) (elements : List Json) :
    items judge siblings schema (.array elements) = elements.all (judge schema) := by
  cases schema with
  | array schemas => exact absurd rfl (h schemas)
  | null | bool | number | string | object => rfl

/-- `contains`: one of the items. -/
def contains (schema inst : Json) : Bool :=
  match inst with
  | .array elements => elements.any (judge schema)
  | _ => true

/-! ## Combinations -/

/-- `if` with `then` and `else`. -/
def conditional (siblings : Entries Json) (condition inst : Json) : Bool :=
  (siblings.get? (if judge condition inst then "then" else "else")).all (judge · inst)

/-- What a keyword says, if the schema has it. -/
def holds (schema : Entries Json) (keyword : String) (test : Json → Bool) : Bool :=
  (schema.get? keyword).all test

/-- All keywords of a schema. -/
def keywords (schema : Entries Json) (inst : Json) : Bool :=
  holds schema "type" (type · inst)
    && holds schema "enum" (enum · inst)
    && holds schema "const" (sameJson · inst)
    && holds schema "required" (required · inst)
    && (holds schema "properties" (properties judge · inst)
      && holds schema "patternProperties" (patternProperties judge · inst)
      && holds schema "additionalProperties" (additionalProperties judge schema · inst))
    && holds schema "items" (items judge schema · inst)
    && holds schema "contains" (contains judge · inst)
    && holds schema "uniqueItems" (uniqueItems · inst)
    && holds schema "propertyNames" (propertyNames judge · inst)
    && holds schema "dependencies" (dependencies judge · inst)
    && holds schema "allOf" (fun schemas => (itemsOf schemas).all (judge · inst))
    && holds schema "anyOf" (fun schemas => (itemsOf schemas).any (judge · inst))
    && holds schema "oneOf" (fun schemas => (itemsOf schemas).countP (judge · inst) == 1)
    && holds schema "not" (fun schema => !judge schema inst)
    && holds schema "if" (conditional judge schema · inst)

end Meaning

/-- The part of a document that a reference stands for: what its fragment, without the escapes of
addresses, points to. -/
def referenced? (document : Json) (reference : String) : Option Json :=
  match defaultBase.join reference with
  | .ok target => document.pointer? target.decodedFragment
  | .error _ => none

/-- What a schema says, given a judgement of the schemas one level further in.  A reference stands
for itself alone: the keywords beside it do not count. -/
def Meaning.ofSchema (document : Json) (judge : Judge) : Judge
  | .bool b, _ => b
  | .object members, inst =>
    match Entries.get? members "$ref" with
    | some (.string reference) => (referenced? document reference).any (judge · inst)
    | some _ => false
    | none => Meaning.keywords judge members inst
  | _, _ => false

/-- **`judge document levels`** — what the schemas of a document say about instances where so many
levels are left; a schema that is reached without any left accepts nothing. -/
def judge (document : Json) : Nat → Judge
  | 0 => fun _ _ => false
  | levels + 1 => Meaning.ofSchema document (judge document levels)

/-! ## References that stay in the document -/

/-- Whether a schema has no identifier and its reference is a fragment alone, its parts aside. -/
def isLocalHere (schema : Json) : Bool :=
  (match schema.get? "$id" with
    | some (.string _) => false
    | _ => true)
  && match schema.get? "$ref" with
    | some (.string reference) => reference.toList.head? == some '#'
    | _ => true

/-- Whether a document has no identifiers and all its references are fragments alone. -/
def isLocal (document : Json) : Bool := document.everywhere isLocalHere

end JsonQuery.Schema
