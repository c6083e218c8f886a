/-
# JsonQuery.Proofs.Schema.Parts — which parts of a schema are compiled, and in what order.

The parts of a schema are the schemas that stand in its keywords: a member by itself, or what is
under a name or at a place in a member.  Each has the segments that lead to it, and it is smaller
than the schema, by nesting and by the room that it takes.  The order is the fixed order of the
keywords, and that of the entries in each.
-/
import JsonQuery.Proofs.Json.Extent
import JsonQuery.Proofs.Schema.Correctness

namespace JsonQuery.Schema

/-! ## Parts -/

/-- A part of a schema: the segments that lead to it, and what stands there. -/
abbrev Child := List String × Json

namespace Child

/-- The schemas under names in the object of a keyword. -/
def named (keyword : String) : Option Json → List Child
  | some (.object schemas) => schemas.map fun entry => ([keyword, entry.1], entry.2)
  | _ => []

/-- The schemas in the array of a keyword. -/
def listed (keyword : String) : Option Json → List Child
  | some (.array schemas) => schemas.zipIdx.map fun entry => ([keyword, toString entry.2], entry.1)
  | _ => []

/-- The schema that a keyword is. -/
def own (keyword : String) : Option Json → List Child
  | some schema => [([keyword], schema)]
  | none => []

/-- The schemas of `items`, and of `additionalItems` if `items` is a list. -/
def ofItems (members : Entries Json) : Option Json → List Child
  | some (.array schemas) =>
    listed "items" (some (.array schemas)) ++ own "additionalItems" (members.get? "additionalItems")
  | json => own "items" json

/-- The schemas among dependencies; an array is a list of names. -/
def ofDependencies : Option Json → List Child
  | some (.object entries) => entries.filterMap fun entry =>
    match entry.2 with
    | .array _ => none
    | schema => some (["dependencies", entry.1], schema)
  | _ => []

/-- The schemas of `if`, and of `then` and `else` if there is an `if`. -/
def ofCondition (members : Entries Json) : Option Json → List Child
  | some schema => (["if"], schema) :: own "then" (members.get? "then")
    ++ own "else" (members.get? "else")
  | none => []

/-- The schemas of the keywords about properties. -/
def ofProperties (members : Entries Json) : List Child :=
  named "properties" (members.get? "properties")
    ++ (named "patternProperties" (members.get? "patternProperties")
      ++ own "additionalProperties" (members.get? "additionalProperties"))

/-- The schemas of all keywords, in the order of the keywords. -/
def ofKeywords (members : Entries Json) : List Child :=
  [ofProperties members,
    ofItems members (members.get? "items"),
    own "contains" (members.get? "contains"),
    own "propertyNames" (members.get? "propertyNames"),
    ofDependencies (members.get? "dependencies"),
    listed "allOf" (members.get? "allOf"),
    listed "anyOf" (members.get? "anyOf"),
    listed "oneOf" (members.get? "oneOf"),
    own "not" (members.get? "not"),
    ofCondition members (members.get? "if")].flatten

end Child

/-- **`children schema`** — the parts of a schema that are schemas themselves, in the order in which
they are compiled.  Beside a reference only the definitions are looked at. -/
def children : Json → List Child
  | .object members => Child.named "definitions" (Entries.get? members "definitions")
    ++ match Entries.get? members "$ref" with
      | some _ => []
      | none => Child.ofKeywords members
  | _ => []

/-- Where a part of a schema stands: it is a member, or under a name or at a place in one. -/
inductive Child.Within (members : Entries Json) : Child → Prop where
  | own {keyword : String} {schema : Json} : members.get? keyword = some schema →
      Within members ([keyword], schema)
  | named {keyword name : String} {schemas : Entries Json} {schema : Json} :
      members.get? keyword = some (.object schemas) → (name, schema) ∈ schemas →
      Within members ([keyword, name], schema)
  | listed {keyword : String} {i : Nat} {schemas : List Json} {schema : Json} :
      members.get? keyword = some (.array schemas) → schemas[i]? = some schema →
      Within members ([keyword, toString i], schema)

section

variable {members : Entries Json} {keyword : String} {child : Child}

theorem Child.within_named (h : child ∈ Child.named keyword (members.get? keyword)) :
    Child.Within members child := by
  unfold Child.named at h
  split at h
  next schemas hget =>
    obtain ⟨entry, hentry, rfl⟩ := List.mem_map.mp h
    exact .named hget hentry
  next => cases h

theorem Child.within_listed (h : child ∈ Child.listed keyword (members.get? keyword)) :
    Child.Within members child := by
  unfold Child.listed at h
  split at h
  next schemas hget =>
    obtain ⟨⟨schema, i⟩, hentry, rfl⟩ := List.mem_map.mp h
    exact .listed hget (List.mem_zipIdx_iff_getElem?.mp hentry)
  next => cases h

theorem Child.within_own (keyword : String)
    (h : child ∈ Child.own keyword (members.get? keyword)) :
    Child.Within members child := by
  unfold Child.own at h
  split at h
  next schema hget =>
    obtain rfl := List.mem_singleton.mp h
    exact .own hget
  next => cases h

theorem Child.within_ofItems (h : child ∈ Child.ofItems members (members.get? "items")) :
    Child.Within members child := by
  cases hitems : members.get? "items" with
  | none => rw [hitems] at h; cases h
  | some json =>
      cases json with
      | array schemas =>
          simp only [Child.ofItems, hitems, List.mem_append] at h
          rcases h with hlisted | hadditional
          · exact Child.within_listed (hitems ▸ hlisted)
          · exact Child.within_own _ hadditional
      | null | bool | number | string | object =>
          rw [hitems] at h
          exact Child.within_own "items" (hitems ▸ h)

theorem Child.within_ofDependencies
    (h : child ∈ Child.ofDependencies (members.get? "dependencies")) :
    Child.Within members child := by
  unfold Child.ofDependencies at h
  split at h
  next entries hget =>
    obtain ⟨⟨name, json⟩, hentry, hsome⟩ := List.mem_filterMap.mp h
    cases json with
    | array names => cases hsome
    | null | bool | number | string | object =>
        obtain rfl := Option.some.inj hsome
        exact .named hget hentry
  next => cases h

theorem Child.within_ofCondition (h : child ∈ Child.ofCondition members (members.get? "if")) :
    Child.Within members child := by
  unfold Child.ofCondition at h
  split at h
  next schema hget =>
    simp only [List.cons_append, List.mem_cons, List.mem_append] at h
    rcases h with rfl | hthen | helse
    · exact .own hget
    · exact Child.within_own _ hthen
    · exact Child.within_own _ helse
  next => cases h

/-- **`within_of_mem_children`** — the parts of a schema are members of it, or one step further
down. -/
theorem within_of_mem_children {schema : Json} (h : child ∈ children schema) :
    ∃ members, schema = .object members ∧ Child.Within members child := by
  cases schema with
  | null | bool | number | string | array => cases h
  | object members =>
      refine ⟨members, rfl, ?_⟩
      rcases List.mem_append.mp h with hdefinition | hkeyword
      · exact Child.within_named hdefinition
      · split at hkeyword
        · cases hkeyword
        · simp only [Child.ofKeywords, Child.ofProperties, List.flatten_cons, List.flatten_nil,
            List.append_nil, List.mem_append, or_assoc] at hkeyword
          rcases hkeyword with h | h | h | h | h | h | h | h | h | h | h | h
          · exact Child.within_named h
          · exact Child.within_named h
          · exact Child.within_own _ h
          · exact Child.within_ofItems h
          · exact Child.within_own _ h
          · exact Child.within_own _ h
          · exact Child.within_ofDependencies h
          · exact Child.within_listed h
          · exact Child.within_listed h
          · exact Child.within_listed h
          · exact Child.within_own _ h
          · exact Child.within_ofCondition h

/-- The segments of a part lead to it. -/
theorem follow?_of_mem_children {schema : Json} (hproper : schema.isProper = true)
    (h : child ∈ children schema) : schema.follow? child.1 = some child.2 := by
  obtain ⟨members, rfl, hwithin⟩ := within_of_mem_children h
  cases hwithin with
  | own hget => rw [Json.follow?_singleton, Json.child?_of_get? hget]
  | named hget hentry => exact Compiling.follow?_named hproper hget hentry
  | @listed keyword i schemas value hget hvalue =>
      have hlt : i < 0x10000000000000000 :=
        lt_trans (List.getElem?_eq_some_iff.mp hvalue).1
          (Json.length_lt (Json.isProper_get? hproper hget))
      rw [Json.follow?_cons, Json.child?_of_get? hget, Option.bind_some, Json.follow?_singleton,
        Json.child?_of_getElem? hlt hvalue]

/-- The parts of a schema nest less deeply than it. -/
theorem height_lt_of_mem_children {schema : Json} (h : child ∈ children schema) :
    child.2.height < schema.height := by
  obtain ⟨members, rfl, hwithin⟩ := within_of_mem_children h
  cases hwithin with
  | own hget => exact Json.height_lt_of_get? hget
  | named hget hentry =>
      exact (Nat.lt_succ_of_le (Json.height_le_heightOfMembers hentry)).trans
        (Json.height_lt_of_get? hget)
  | listed hget hvalue =>
      exact (Nat.lt_succ_of_le (Json.height_le_heightOfItems (List.mem_of_getElem? hvalue))).trans
        (Json.height_lt_of_get? hget)

/-- The parts of a schema take less room than it. -/
theorem extent_lt_of_mem_children {schema : Json} (h : child ∈ children schema) :
    child.2.extent < schema.extent := by
  obtain ⟨members, rfl, hwithin⟩ := within_of_mem_children h
  cases hwithin with
  | own hget => exact Json.extent_lt_of_get? hget
  | named hget hentry =>
      exact (Json.extent_lt_of_mem_members hentry).trans (Json.extent_lt_of_get? hget)
  | listed hget hvalue =>
      exact (Json.extent_lt_of_mem_items (List.mem_of_getElem? hvalue)).trans
        (Json.extent_lt_of_get? hget)

end

end JsonQuery.Schema
