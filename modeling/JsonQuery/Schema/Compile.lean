/-
# JsonQuery.Schema.Compile — from schema documents to tables of nodes.

Compiling a schema reserves its slot, enters the slot into an index under every address that the
schema has, and then compiles its parts in a fixed order.  References are collected and settled once
the document is compiled, the last one first: through the index, or else by compiling the part of a
registered document that the reference points to.  Unknown documents are asked from a resolver.
-/
import JsonQuery.Schema.Basic
import JsonQuery.Json.Pointer
import JsonQuery.Uri.Join

namespace JsonQuery.Schema

/-- Where schema documents come from, by the address of the document. -/
abbrev Resolver := String → Option Json

/-- A place where the schema at hand stands: a base address, and a pointer below it. -/
structure Scope where
  base : Uri
  pointer : String

/-- The places of a schema: the document that it was reached in, and the inner documents that
identifiers open. -/
structure Scopes where
  outer : Scope
  inner : List Scope := []

/-- The address of a document and the place in it. -/
abbrev Address := String × String

namespace Scope

/-- The place some segments further down. -/
def descend (s : Scope) (segments : List String) : Scope :=
  { s with pointer := segments.foldl (fun pointer segment =>
      pointer ++ "/" ++ String.ofList (Json.escapeSegment segment.toList)) s.pointer }

/-- The address of a place. -/
def address (s : Scope) : Address := (s.base.withoutFragment.toText, s.pointer)

end Scope

namespace Scopes

/-- All places. -/
def all (s : Scopes) : List Scope := s.outer :: s.inner

/-- The base that references are relative to. -/
def base (s : Scopes) : Uri := (s.inner.getLast?.getD s.outer).base

/-- The places some segments further down. -/
def descend (s : Scopes) (segments : List String) : Scopes :=
  ⟨s.outer.descend segments, s.inner.map (·.descend segments)⟩

/-- The place that errors report. -/
def pointer (s : Scopes) : String := s.outer.pointer

/-- Opens an inner document. -/
def openDocument (s : Scopes) (base : Uri) : Scopes := { s with inner := s.inner ++ [⟨base, ""⟩] }

end Scopes

/-- The address of a reference target: its document, and its fragment without escapes. -/
def targetAddress (target : Uri) : Address :=
  (target.withoutFragment.toText, target.decodedFragment)

/-- What has been compiled so far: the nodes, the slots of known addresses, the documents by their
addresses, and the references that wait with the slots that they are to fill. -/
structure Progress where
  nodes : Array Node := #[]
  index : List (Address × Slot) := []
  documents : List (String × Json) := []
  waiting : List (Slot × Uri) := []

/-- Compiling a part of a schema. -/
abbrev Compiling := StateT Progress (Except SchemaError)

namespace Compiling

/-! ## Moves on the progress -/

/-- Stops because of a flaw at a place. -/
def flaw {α : Type} (pointer : String) (f : SchemaError.Flaw) : Compiling α :=
  throw (.invalidSchema pointer f)

/-- A new slot, which accepts everything until it is filled. -/
def reserve : Compiling Slot := do
  let p ← get
  set { p with nodes := p.nodes.push (.bool true) }
  return p.nodes.size

/-- Fills a slot. -/
def fill (slot : Slot) (node : Node) : Compiling Unit :=
  modify fun p => { p with nodes := p.nodes.setIfInBounds slot node }

/-- Enters a slot into the index; a later entry of the same address counts. -/
def enter (address : Address) (slot : Slot) : Compiling Unit :=
  modify fun p => { p with index := (address, slot) :: p.index }

/-- The slot of an address. -/
def slotAt (address : Address) : Compiling (Option Slot) := return (← get).index.lookup address

/-- Registers a document. -/
def register (address : String) (document : Json) : Compiling Unit :=
  modify fun p => { p with documents := (address, document) :: p.documents }

/-- The registered document of an address. -/
def documentAt (address : String) : Compiling (Option Json) :=
  return (← get).documents.lookup address

/-- Registers a document unless there is one with its address. -/
def registerNew (address : String) (document : Json) : Compiling Unit := do
  if (← documentAt address).isNone then register address document

/-- Lets a reference wait. -/
def postpone (slot : Slot) (target : Uri) : Compiling Unit :=
  modify fun p => { p with waiting := (slot, target) :: p.waiting }

/-- The address that a text stands for at a base. -/
def join (base : Uri) (text : String) : Compiling Uri :=
  match base.join text with
  | .ok uri => return uri
  | .error fault => throw (.invalidUri text fault)

/-! ## Keywords

Every keyword is compiled with a function that compiles a part of the schema, given the segments
that lead to the part. -/

/-- How a part is compiled. -/
abbrev Part := List String → Json → Compiling Slot

/-- Schemas under names, compiled in order. -/
def named (part : Part) (keyword : String) : List (String × Json) → Compiling (List (String × Slot))
  | [] => return []
  | (name, schema) :: rest => do
    let slot ← part [keyword, name] schema
    return (name, slot) :: (← named part keyword rest)

/-- Schemas in a list, compiled in order; the first has the index given. -/
def listed (part : Part) (keyword : String) : Nat → List Json → Compiling (List Slot)
  | _, [] => return []
  | i, schema :: rest => do
    let slot ← part [keyword, toString i] schema
    return slot :: (← listed part keyword (i + 1) rest)

/-- The members of a keyword that must be an object. -/
def objectOf (pointer keyword : String) : Json → Compiling (Entries Json)
  | .object members => return members
  | _ => flaw pointer (.notObject keyword)

/-- The names of a keyword that must be an array of strings. -/
def namesOf (pointer keyword : String) : Json → Compiling (List String)
  | .array items =>
    match items.mapM Json.string? with
    | some names => return names
    | none => flaw pointer (.notNames keyword)
  | _ => flaw pointer (.notNames keyword)

/-- A type by its name. -/
def typeOf (pointer : String) (name : Json) : Compiling JsonType :=
  match name.string?.bind JsonType.ofName? with
  | some type => return type
  | none => flaw pointer (.unknownType name)

/-- The keyword of a member, if the member is there. -/
def whenPresent (members : Entries Json) (name : String) (compile : Json → Compiling Keyword) :
    Compiling (List Keyword) :=
  match members.get? name with
  | some json => return [← compile json]
  | none => return []

/-- The slot of a member, if the member is there. -/
def partOf (part : Part) (members : Entries Json) (name : String) : Compiling (Option Slot) :=
  match members.get? name with
  | some json => return some (← part [name] json)
  | none => return none

/-- `type`. -/
def typeKeyword (pointer : String) : Json → Compiling Keyword
  | .array names => return .type (← names.mapM (typeOf pointer))
  | name => return .type [← typeOf pointer name]

/-- `enum`. -/
def enumKeyword (pointer : String) : Json → Compiling Keyword
  | .array values => return .enum values
  | _ => flaw pointer (.notArray "enum")

/-- Schemas under patterns, compiled in order. -/
def patterned (part : Part) (pointer : String) :
    List (String × Json) → Compiling (List (Pattern × Slot))
  | [] => return []
  | (source, schema) :: rest => do
    match Pattern.ofText? source {} with
    | .error fault => flaw pointer (.invalidPattern source fault)
    | .ok pattern =>
      let slot ← part ["patternProperties", source] schema
      return (pattern, slot) :: (← patterned part pointer rest)

/-- `properties`, `patternProperties` and `additionalProperties`, which go together. -/
def propertyKeywords (part : Part) (pointer : String) (members : Entries Json) :
    Compiling (List Keyword) := do
  let properties ← whenPresent members "properties" fun json => do
    return .properties (← named part "properties" (← objectOf pointer "properties" json))
  let patterns ← whenPresent members "patternProperties" fun json => do
    let schemas ← objectOf pointer "patternProperties" json
    return .patternProperties (← patterned part pointer schemas)
  let additional ← whenPresent members "additionalProperties" fun json => do
    let slot ← part ["additionalProperties"] json
    return .additionalProperties slot (knownNames properties) (knownPatterns patterns)
  return properties ++ patterns ++ additional
where
  knownNames : List Keyword → List String
    | [.properties schemas] => schemas.map (·.1)
    | _ => []
  knownPatterns : List Keyword → List Pattern
    | [.patternProperties schemas] => schemas.map (·.1)
    | _ => []

/-- `items` with `additionalItems`. -/
def itemsKeyword (part : Part) (members : Entries Json) : Json → Compiling Keyword
  | .array schemas => do
    let slots ← listed part "items" 0 schemas
    return .tuple slots (← partOf part members "additionalItems")
  | schema => return .items (← part ["items"] schema)

/-- What a dependency demands. -/
def dependency (part : Part) (pointer name : String) : Json → Compiling Dependency
  | .array names => return .required (← namesOf pointer "dependencies" (.array names))
  | schema => return .schema (← part ["dependencies", name] schema)

/-- Dependencies under names, compiled in order. -/
def dependencies (part : Part) (pointer : String) :
    List (String × Json) → Compiling (List (String × Dependency))
  | [] => return []
  | (name, json) :: rest => do
    let d ← dependency part pointer name json
    return (name, d) :: (← dependencies part pointer rest)

/-- `allOf`, `anyOf` or `oneOf`. -/
def combinator (part : Part) (pointer keyword : String) (make : List Slot → Keyword) :
    Json → Compiling Keyword
  | .array schemas => return make (← listed part keyword 0 schemas)
  | _ => flaw pointer (.notArray keyword)

/-- `if` with `then` and `else`. -/
def conditional (part : Part) (members : Entries Json) (condition : Json) : Compiling Keyword := do
  let slot ← part ["if"] condition
  let positive ← partOf part members "then"
  let negative ← partOf part members "else"
  return .conditional slot positive negative

/-- `uniqueItems`, which only `true` switches on. -/
def uniqueKeyword (members : Entries Json) : List Keyword :=
  match members.get? "uniqueItems" with
  | some (.bool true) => [.uniqueItems]
  | _ => []

/-- All keywords of a schema, in their fixed order. -/
def keywords (part : Part) (pointer : String) (members : Entries Json) :
    Compiling (List Keyword) := do
  let type ← whenPresent members "type" (typeKeyword pointer)
  let enum ← whenPresent members "enum" (enumKeyword pointer)
  let const ← whenPresent members "const" fun json => return .const json
  let required ← whenPresent members "required" fun json => do
    return .required (← namesOf pointer "required" json)
  let properties ← propertyKeywords part pointer members
  let items ← whenPresent members "items" (itemsKeyword part members)
  let contains ← whenPresent members "contains" fun json => do
    return .contains (← part ["contains"] json)
  let unique := uniqueKeyword members
  let propertyNames ← whenPresent members "propertyNames" fun json => do
    return .propertyNames (← part ["propertyNames"] json)
  let deps ← whenPresent members "dependencies" fun json => do
    return .dependencies (← dependencies part pointer (← objectOf pointer "dependencies" json))
  let allOf ← whenPresent members "allOf" (combinator part pointer "allOf" .allOf)
  let anyOf ← whenPresent members "anyOf" (combinator part pointer "anyOf" .anyOf)
  let oneOf ← whenPresent members "oneOf" (combinator part pointer "oneOf" .oneOf)
  let negation ← whenPresent members "not" fun json => do return .not (← part ["not"] json)
  let condition ← whenPresent members "if" (conditional part members)
  return type ++ enum ++ const ++ required ++ properties ++ items ++ contains ++ unique
    ++ propertyNames ++ deps ++ allOf ++ anyOf ++ oneOf ++ negation ++ condition

/-! ## Schemas -/

/-- Takes the identifier of a schema into account: a fragment is one more address of the slot, and
any other identifier opens a document of its own. -/
def identify (schema : Json) (slot : Slot) (scopes : Scopes) : Compiling Scopes :=
  match schema.get? "$id" with
  | some (.string id) => do
    let joined ← join scopes.base id
    if id.startsWith "#" then
      enter (targetAddress joined) slot
      return scopes
    else
      let base := joined.withoutFragment
      registerNew base.toText schema
      return scopes.openDocument base
  | _ => return scopes

/-- Enters a slot under all addresses of a schema. -/
def enterAll (slot : Slot) : List Scope → Compiling Unit
  | [] => return ()
  | scope :: rest => do
    enter scope.address slot
    enterAll slot rest

/-- The parts of a schema that is an object: its definitions, and then its reference or else its
keywords. -/
def compileObject (part : Part) (slot : Slot) (scopes : Scopes) (members : Entries Json) :
    Compiling Unit := do
  match members.get? "definitions" with
  | some json =>
    let definitions ← objectOf scopes.pointer "definitions" json
    let _ ← named part "definitions" definitions
  | none => pure ()
  match members.get? "$ref" with
  | some (.string reference) => postpone slot (← join scopes.base reference)
  | some _ => flaw scopes.pointer .referenceNotText
  | none => fill slot (.keywords (← keywords part scopes.pointer members))

/-- Compiles a schema that nests less deeply than the fuel says, and gives its slot. -/
def compileNode : Nat → Json → Scopes → Compiling Slot
  | 0, _, scopes => flaw scopes.pointer .notSchema
  | fuel + 1, schema, scopes => do
    let slot ← reserve
    let scopes ← identify schema slot scopes
    enterAll slot scopes.all
    match schema with
    | .bool b => fill slot (.bool b)
    | .object members =>
      compileObject (fun segments json => compileNode fuel json (scopes.descend segments)) slot
        scopes members
    | _ => flaw scopes.pointer .notSchema
    return slot

/-- Compiles a schema that stands at an address. -/
def compileAt (schema : Json) (base : Uri) (pointer : String) : Compiling Slot :=
  compileNode (schema.height + 1) schema ⟨⟨base, pointer⟩, []⟩

/-! ## References -/

/-- The part of a registered document that an address names; it is compiled where it stands. -/
def compilePart (target : Uri) : Compiling Slot := do
  let (document, pointer) := targetAddress target
  match (← documentAt document).bind (·.pointer? pointer) with
  | some schema => compileAt schema target.withoutFragment pointer
  | none => throw (.unresolvedReference target.toText)

/-- The slot of a reference target. -/
def resolve (resolver : Resolver) (target : Uri) : Compiling Slot := do
  match ← slotAt (targetAddress target) with
  | some slot => return slot
  | none =>
    let base := target.withoutFragment
    if (← documentAt base.toText).isSome then compilePart target
    else
      match resolver base.toText with
      | none => throw (.unresolvedReference target.toText)
      | some document =>
        register base.toText document
        let _ ← compileAt document base ""
        match ← slotAt (targetAddress target) with
        | some slot => return slot
        | none => compilePart target

/-- Settles one waiting reference; false if there is none. -/
def settleOne (resolver : Resolver) : Compiling Bool := do
  let p ← get
  match p.waiting with
  | [] => return false
  | (slot, target) :: rest =>
    set { p with waiting := rest }
    let resolved ← resolve resolver target
    fill slot (.keywords [.ref resolved])
    return true

/-- Settles waiting references until there are none, at most as often as the rounds say. -/
def settle (resolver : Resolver) : Nat → Compiling Unit
  | 0 => do if !(← get).waiting.isEmpty then throw .unfinished
  | rounds + 1 => do
    if ← settleOne resolver then settle resolver rounds

end Compiling

/-- The base address of schemas without an identifier. -/
def defaultBase : Uri := ⟨"json-schema", some ⟨"", "", none⟩, .segments [""], none, none⟩

/-- The rounds that a compilation gets. -/
def maxRounds : Nat := 0x100000

/-- Compiles a schema document, settling at most so many references. -/
def compileWithin (rounds : Nat) (resolver : Resolver) (document : Json) :
    Except SchemaError Schema := do
  let (root, p) ← (do
    Compiling.register defaultBase.toText document
    let root ← Compiling.compileAt document defaultBase ""
    Compiling.settle resolver rounds
    return root : Compiling Slot).run {}
  return ⟨p.nodes, root⟩

/-- Compiles a schema document; other documents come from a resolver. -/
def compile (document : Json) (resolver : Resolver := fun _ => none) : Except SchemaError Schema :=
  compileWithin maxRounds resolver document

end JsonQuery.Schema
