/-
# JsonQuery.Proofs.Schema.Places — the errors of a validation stand where they say.

Validation takes the place of what it looks at along, one step further down for each member and each
item.  The place and the value go apart in one keyword alone: the names of members are checked as
strings, at the place of their object.  Only whether such a check finds errors is used, and never
the errors themselves, so every error that is reported is one of a part of the instance, at the
place where the part stands.
-/
import JsonQuery.Proofs.Path.Position
import JsonQuery.Schema.Validate

namespace JsonQuery.Schema

open Location (part? part?_snoc)

/-- **`Placed inst errors`** — all errors are at places that an instance has. -/
def Placed (inst : Json) (errors : List ValidationError) : Prop :=
  ∀ e ∈ errors, ∃ part, part? e.location inst = some part

/-- A check of the parts of an instance, each at its place, finds errors at places that the instance
has. -/
def Check.Places (check : Check) (inst : Json) : Prop :=
  ∀ slot json location, part? location inst = some json → Placed inst (check slot json location)

section

variable {inst json : Json} {location : Location} {check : Check}

theorem Placed.nil : Placed inst [] := fun _ he => nomatch he

theorem Placed.append {errors others : List ValidationError} (h : Placed inst errors)
    (hothers : Placed inst others) : Placed inst (errors ++ others) := by
  intro e he
  rcases List.mem_append.mp he with herrors | hothers'
  · exact h e herrors
  · exact hothers e hothers'

theorem Placed.flatMap {α : Type} {l : List α} {f : α → List ValidationError}
    (h : ∀ a ∈ l, Placed inst (f a)) : Placed inst (l.flatMap f) := by
  intro e he
  obtain ⟨a, ha, hmem⟩ := List.mem_flatMap.mp he
  exact h a ha e hmem

/-- Errors at the place that is looked at. -/
theorem Placed.map {α : Type} (hpart : part? location inst = some json) (l : List α)
    (violation : α → Violation) : Placed inst (l.map fun a => ⟨location, violation a⟩) := by
  intro e he
  obtain ⟨a, -, rfl⟩ := List.mem_map.mp he
  exact ⟨json, hpart⟩

theorem placed_unless (hpart : part? location inst = some json) (holds : Bool) (v : Violation) :
    Placed inst (unless_ holds location v) := by
  cases holds with
  | true => exact .nil
  | false =>
      intro e he
      obtain rfl := List.mem_singleton.mp he
      exact ⟨json, hpart⟩

/-! ## One step down -/

/-- A member of an object, whose name it is found under. -/
theorem placed_member (hcheck : check.Places inst) {members : Entries Json}
    (hpart : part? location inst = some (.object members)) {name : String} {value : Json}
    (hvalue : members.get? name = some value) (slot : Slot) :
    Placed inst (check slot value (location ++ [.name name])) := by
  apply hcheck
  rw [part?_snoc hpart]
  exact hvalue

/-- An item of an array. -/
theorem placed_item (hcheck : check.Places inst) {items : List Json}
    (hpart : part? location inst = some (.array items)) {i : Nat} {value : Json}
    (hvalue : items[i]? = some value) (slot : Slot) :
    Placed inst (check slot value (location ++ [.index i])) := by
  apply hcheck
  rw [part?_snoc hpart]
  exact hvalue

/-- Some members of an object, each under its name; a name that stood twice would lead to the first
of its values only. -/
theorem placed_memberErrors (hproper : inst.isProper = true) (hcheck : check.Places inst)
    {members : Entries Json} (hpart : part? location inst = some (.object members)) (slot : Slot)
    (p : String × Json → Bool) :
    Placed inst (check.memberErrors slot location (members.filter p)) := by
  have hnames := Json.names_nodup (Location.everywhere_part? hproper hpart)
  apply Placed.flatMap
  intro entry hentry
  exact placed_member hcheck hpart
    (Entries.get?_of_mem hnames (List.mem_of_mem_filter hentry)) slot

/-- The items of an array from some place on. -/
theorem placed_itemErrors (hcheck : check.Places inst) {items : List Json}
    (hpart : part? location inst = some (.array items)) (slotAt : Nat → Option Slot) (i : Nat) :
    Placed inst (check.itemErrors slotAt location i (items.drop i)) := by
  generalize hrest : items.drop i = rest
  induction rest generalizing i with
  | nil => exact .nil
  | cons value rest ih =>
      have hvalue : items[i]? = some value := by
        rw [← List.head?_drop, hrest, List.head?_cons]
      have hbehind : items.drop (i + 1) = rest := by
        rw [← List.tail_drop, hrest, List.tail_cons]
      simp only [Check.itemErrors]
      split
      · exact .nil
      · exact (placed_item hcheck hpart hvalue _).append (ih (i + 1) hbehind)

/-! ## Keywords -/

theorem placed_dependencyErrors (hcheck : check.Places inst) {members : Entries Json}
    (hpart : part? location inst = some (.object members)) (entry : String × Dependency) :
    Placed inst (check.dependencyErrors members location entry) := by
  obtain ⟨name, dependency⟩ := entry
  unfold Check.dependencyErrors
  split
  · exact .nil
  · cases dependency with
    | required names => exact .map hpart _ _
    | schema slot => exact hcheck slot _ location hpart

theorem placed_objectErrors (hproper : inst.isProper = true) (hcheck : check.Places inst)
    {members : Entries Json} (hpart : part? location inst = some (.object members)) (k : Keyword) :
    Placed inst (k.objectErrors check members location) := by
  cases k with
  | required names => exact .map hpart _ _
  | properties schemas =>
      apply Placed.flatMap
      rintro ⟨name, slot⟩ -
      cases hvalue : members.get? name with
      | none => simpa only [hvalue] using Placed.nil
      | some value => simpa only [hvalue] using placed_member hcheck hpart hvalue slot
  | patternProperties schemas =>
      exact .flatMap fun schema _ => placed_memberErrors hproper hcheck hpart schema.2 _
  | additionalProperties slot known patterns =>
      exact placed_memberErrors hproper hcheck hpart slot _
  | propertyNames slot => exact .flatMap fun entry _ => placed_unless hpart _ _
  | dependencies entries => exact .flatMap fun entry _ => placed_dependencyErrors hcheck hpart entry
  | type | enum | const | items | tuple | contains | uniqueItems | allOf | anyOf | oneOf | not
  | conditional | ref => exact .nil

theorem placed_arrayErrors (hcheck : check.Places inst) {items : List Json}
    (hpart : part? location inst = some (.array items)) (k : Keyword) :
    Placed inst (k.arrayErrors check items location) := by
  cases k with
  | items slot => exact placed_itemErrors hcheck hpart _ 0
  | tuple slots additional => exact placed_itemErrors hcheck hpart _ 0
  | contains slot => exact placed_unless hpart _ _
  | uniqueItems => exact placed_unless hpart _ _
  | type | enum | const | required | properties | patternProperties | additionalProperties
  | propertyNames | dependencies | allOf | anyOf | oneOf | not | conditional | ref => exact .nil

/-- The errors of a keyword are at places that the instance has, if those of its schemas are. -/
theorem placed_errors (hproper : inst.isProper = true) (hcheck : check.Places inst)
    (hpart : part? location inst = some json) (k : Keyword) :
    Placed inst (k.errors check json location) := by
  have hobject : ∀ members, json = .object members →
      Placed inst (k.objectErrors check members location) := by
    rintro members rfl
    exact placed_objectErrors hproper hcheck hpart k
  have harray : ∀ items, json = .array items →
      Placed inst (k.arrayErrors check items location) := by
    rintro items rfl
    exact placed_arrayErrors hcheck hpart k
  cases k with
  | type | enum | const | anyOf | oneOf | not => exact placed_unless hpart _ _
  | allOf slots => exact .flatMap fun slot _ => hcheck slot json location hpart
  | conditional condition positive negative =>
      simp only [Keyword.errors]
      cases (if check.accepts condition json location then positive else negative) with
      | none => exact .nil
      | some slot => exact hcheck slot json location hpart
  | ref slot => exact hcheck slot json location hpart
  | required | properties | patternProperties | additionalProperties | items | tuple | contains
  | uniqueItems | propertyNames | dependencies =>
      cases json with
      | object members => exact hobject members rfl
      | array items => exact harray items rfl
      | null | bool | number | string => exact .nil

end

/-! ## Validation -/

/-- However many levels are left, a node finds errors at places that the instance has. -/
theorem check_places (schema : Schema) (limit : Nat) {inst : Json} (hproper : inst.isProper = true)
    (levels : Nat) : (schema.check limit levels).Places inst := by
  induction levels with
  | zero =>
      intro slot json location hpart e he
      obtain rfl := List.mem_singleton.mp he
      exact ⟨json, hpart⟩
  | succ levels ih =>
      intro slot json location hpart
      simp only [Schema.check]
      match schema.nodes[slot]? with
      | none => exact .nil
      | some (.bool true) => exact .nil
      | some (.bool false) =>
          intro e he
          obtain rfl := List.mem_singleton.mp he
          exact ⟨json, hpart⟩
      | some (.keywords list) => exact .flatMap fun k _ => placed_errors hproper ih hpart k

/-- **`validate_pointer`** — the pointer of every error of an instance leads to something in the
instance, whatever the schema and the depth limit. -/
theorem validate_pointer (schema : Schema) {inst : Json} (hproper : inst.isProper = true)
    (options : Options) : ∀ e ∈ schema.validate inst options,
      ∃ part, inst.pointer? e.pointer = some part := by
  intro e he
  have hplaces := check_places schema options.maxDepth hproper (options.maxDepth + 1)
  obtain ⟨part, hpart⟩ := hplaces schema.root inst [] rfl e he
  exact ⟨part, Location.pointer?_pointer hproper hpart⟩

/-- A name that has to be escaped twice, with an item of the wrong type and a name of its own that
is not allowed. -/
theorem validate_pointer_escaped :
    let schema : Schema := ⟨#[.keywords [.properties [("a/b~", 1)], .propertyNames 2],
      .keywords [.items 2], .bool false], 0⟩
    let inst : Json := .object [("a/b~", .array [.null])]
    inst.isProper = true
      ∧ (schema.validate inst).map (·.pointer) = ["/a~1b~0/0", ""]
      ∧ ∀ e ∈ schema.validate inst, ∃ part, inst.pointer? e.pointer = some part :=
  ⟨by decide +kernel, by decide +kernel, validate_pointer _ (by decide +kernel) {}⟩

end JsonQuery.Schema
