/-
# JsonQuery.Proofs.Schema.Verdict — the verdict of a validation, without its errors.

Validation collects errors with their places, and an instance is valid if there are none.  Which
errors there are depends on places and on the limit that they mention, but whether there are any
does not: a keyword needs of the parts of a schema only whether they accept.  The verdict is
therefore a function of its own, on which everything that is said about acceptance rests.
-/
import JsonQuery.Schema.Validate

namespace JsonQuery.Schema

/-- Whether a node accepts a part of an instance. -/
abbrev Verdict := Slot → Json → Bool

/-! ## Keywords -/

/-- Whether an object meets what the presence of a member demands. -/
def Dependency.accepts (d : Dependency) (verdict : Verdict) (members : Entries Json) : Bool :=
  match d with
  | .required names => names.all members.has
  | .schema slot => verdict slot (.object members)

/-- Whether a keyword about members accepts an object. -/
def Keyword.acceptsMembers (k : Keyword) (verdict : Verdict) (members : Entries Json) : Bool :=
  match k with
  | .required names => names.all members.has
  | .properties schemas => schemas.all fun (name, slot) => (members.get? name).all (verdict slot)
  | .patternProperties schemas =>
    schemas.all fun (pattern, slot) =>
      (members.filter fun entry => pattern.isMatch entry.1).all fun entry => verdict slot entry.2
  | .additionalProperties slot known patterns =>
    (members.filter fun entry =>
      !known.contains entry.1 && !patterns.any (·.isMatch entry.1)).all fun entry =>
        verdict slot entry.2
  | .propertyNames slot => members.all fun entry => verdict slot (.string entry.1)
  | .dependencies entries =>
    entries.all fun entry => !members.has entry.1 || entry.2.accepts verdict members
  | _ => true

/-- Whether a keyword about items accepts an array. -/
def Keyword.acceptsItems (k : Keyword) (verdict : Verdict) (items : List Json) : Bool :=
  match k with
  | .items slot => items.all (verdict slot)
  | .tuple slots additional =>
    items.zipIdx.all fun (json, i) => ((slots[i]?).or additional).all (verdict · json)
  | .contains slot => items.any (verdict slot)
  | .uniqueItems => Value.allDistinct (items.map Value.ofJson)
  | _ => true

/-- Whether a keyword about members or items accepts an instance; on a scalar it says nothing. -/
def Keyword.acceptsParts (k : Keyword) (verdict : Verdict) (json : Json) : Bool :=
  match json with
  | .object members => k.acceptsMembers verdict members
  | .array elements => k.acceptsItems verdict elements
  | _ => true

/-- Whether a keyword accepts an instance. -/
def Keyword.accepts (k : Keyword) (verdict : Verdict) (json : Json) : Bool :=
  match k with
  | .type types => types.any (JsonType.admits · json)
  | .enum values => values.any (sameJson · json)
  | .const value => sameJson value json
  | .allOf slots => slots.all (verdict · json)
  | .anyOf slots => slots.any (verdict · json)
  | .oneOf slots => slots.countP (verdict · json) == 1
  | .not slot => !verdict slot json
  | .conditional condition positive negative =>
    (if verdict condition json then positive else negative).all (verdict · json)
  | .ref slot => verdict slot json
  | k => k.acceptsParts verdict json

/-- Whether a node accepts an instance. -/
def Node.accepts (node : Node) (verdict : Verdict) (json : Json) : Bool :=
  match node with
  | .bool b => b
  | .keywords list => list.all (·.accepts verdict json)

/-- Whether a slot accepts an instance with so many levels left; without levels nothing is
accepted. -/
def accepts (schema : Schema) : Nat → Verdict
  | 0 => fun _ _ => false
  | levels + 1 => fun slot json => (schema.nodes[slot]?).all (·.accepts (accepts schema levels) json)

/-! ## Verdicts and errors -/

/-- A check finds no errors exactly where a verdict accepts, whatever the place. -/
def Check.Decides (check : Check) (verdict : Verdict) : Prop :=
  ∀ slot json location, (check slot json location).isEmpty = verdict slot json

theorem unless_isEmpty (holds : Bool) (location : Location) (v : Violation) :
    (unless_ holds location v).isEmpty = holds := by
  cases holds <;> rfl

theorem isEmpty_append {α : Type} (l m : List α) : (l ++ m).isEmpty = (l.isEmpty && m.isEmpty) := by
  cases l <;> rfl

theorem isEmpty_flatMap {α β : Type} (f : α → List β) (l : List α) :
    (l.flatMap f).isEmpty = l.all fun a => (f a).isEmpty := by
  induction l with
  | nil => rfl
  | cons a rest ih => simp only [List.flatMap_cons, isEmpty_append, ih, List.all_cons]

theorem isEmpty_map_filter_not {α β : Type} (p : α → Bool) (f : α → β) (l : List α) :
    ((l.filter (!p ·)).map f).isEmpty = l.all p := by
  induction l with
  | nil => rfl
  | cons a rest ih =>
      simp only [List.isEmpty_map] at ih
      cases h : p a <;> simp [h, ih]

namespace Check

variable {check : Check} {verdict : Verdict}

theorem Decides.accepts (h : check.Decides verdict) (slot : Slot) (json : Json)
    (location : Location) : check.accepts slot json location = verdict slot json :=
  h slot json location

theorem Decides.memberErrors (h : check.Decides verdict) (slot : Slot) (location : Location)
    (members : Entries Json) :
    (check.memberErrors slot location members).isEmpty
      = members.all fun entry => verdict slot entry.2 := by
  simp only [Check.memberErrors, isEmpty_flatMap]
  exact congrArg (members.all ·) (funext fun entry => h _ _ _)

/-- Where every place behind one without a slot has none, ending the walk there leaves out nothing. -/
theorem Decides.itemErrors (h : check.Decides verdict) {slotAt : Nat → Option Slot}
    (hends : ∀ i, slotAt i = none → slotAt (i + 1) = none) (location : Location) (i : Nat)
    (items : List Json) :
    (check.itemErrors slotAt location i items).isEmpty
      = (items.zipIdx i).all fun (json, j) => (slotAt j).all (verdict · json) := by
  have hempty : ∀ (items : List Json) (i : Nat), slotAt i = none →
      ((items.zipIdx i).all fun (json, j) => (slotAt j).all (verdict · json)) = true := by
    intro items
    induction items with
    | nil => intro i _; rfl
    | cons json rest ih => intro i hi; simp [hi, ih (i + 1) (hends i hi)]
  induction items generalizing i with
  | nil => rfl
  | cons json rest ih =>
      simp only [Check.itemErrors]
      split
      next hi => exact (hempty (json :: rest) i hi).symm
      next slot hi =>
        simp only [isEmpty_append, h slot json, ih (i + 1), List.zipIdx_cons, List.all_cons, hi,
          Option.all_some]

theorem Decides.acceptsItem (h : check.Decides verdict) (slot : Slot) (location : Location)
    (items : List Json) :
    check.acceptsItem slot location items = items.any (verdict slot) := by
  have hplain : items.any (verdict slot) = items.zipIdx.any fun entry => verdict slot entry.1 := by
    conv => lhs; rw [← List.zipIdx_map_fst 0 items, List.any_map]
    rfl
  rw [hplain]
  exact congrArg (items.zipIdx.any ·) (funext fun _ => h.accepts _ _ _)

theorem Decides.dependencyErrors (h : check.Decides verdict) (members : Entries Json)
    (location : Location) (entry : String × Dependency) :
    (check.dependencyErrors members location entry).isEmpty
      = (!members.has entry.1 || entry.2.accepts verdict members) := by
  obtain ⟨name, dependency⟩ := entry
  cases hhas : members.has name with
  | false => simp [Check.dependencyErrors, hhas]
  | true =>
      cases dependency with
      | required names =>
          simpa [Check.dependencyErrors, hhas, Dependency.accepts] using isEmpty_map_filter_not members.has
            (fun absent => (⟨location, .missingDependency absent name⟩ : ValidationError)) names
      | schema slot =>
          simpa [Check.dependencyErrors, hhas, Dependency.accepts] using h slot _ location

end Check

section

variable {check : Check} {verdict : Verdict}

theorem Keyword.objectErrors_isEmpty (h : check.Decides verdict) (k : Keyword)
    (members : Entries Json) (location : Location) :
    (k.objectErrors check members location).isEmpty = k.acceptsMembers verdict members := by
  cases k with
  | required names => exact isEmpty_map_filter_not members.has _ names
  | properties schemas =>
      simp only [Keyword.objectErrors, Keyword.acceptsMembers, isEmpty_flatMap]
      refine congrArg (schemas.all ·) (funext fun schema => ?_)
      obtain ⟨name, slot⟩ := schema
      cases members.get? name with
      | none => rfl
      | some json => exact h slot json _
  | patternProperties schemas =>
      simp only [Keyword.objectErrors, Keyword.acceptsMembers, isEmpty_flatMap, h.memberErrors]
  | additionalProperties slot known patterns => exact h.memberErrors slot location _
  | propertyNames slot =>
      simp only [Keyword.objectErrors, Keyword.acceptsMembers, isEmpty_flatMap, unless_isEmpty,
        h.accepts]
  | dependencies entries =>
      simp only [Keyword.objectErrors, Keyword.acceptsMembers, isEmpty_flatMap, h.dependencyErrors]
  | type | enum | const | items | tuple | contains | uniqueItems | allOf | anyOf | oneOf | not
  | conditional | ref => rfl

theorem Keyword.arrayErrors_isEmpty (h : check.Decides verdict) (k : Keyword) (items : List Json)
    (location : Location) :
    (k.arrayErrors check items location).isEmpty = k.acceptsItems verdict items := by
  cases k with
  | items slot =>
      have hends : ∀ i : Nat, (some slot : Option Slot) = none → (some slot : Option Slot) = none :=
        fun _ => id
      have hplain : items.all (verdict slot) = items.zipIdx.all fun entry => verdict slot entry.1 := by
        conv => lhs; rw [← List.zipIdx_map_fst 0 items, List.all_map]
        rfl
      exact (Check.Decides.itemErrors h hends location 0 items).trans hplain.symm
  | tuple slots additional =>
      refine h.itemErrors (fun i hi => ?_) location 0 items
      simp only [Option.or_eq_none_iff, List.getElem?_eq_none_iff] at hi ⊢
      exact ⟨by omega, hi.2⟩
  | contains slot =>
      simp only [Keyword.arrayErrors, Keyword.acceptsItems, unless_isEmpty, h.acceptsItem]
  | uniqueItems => simp only [Keyword.arrayErrors, Keyword.acceptsItems, unless_isEmpty]
  | type | enum | const | required | properties | patternProperties | additionalProperties
  | propertyNames | dependencies | allOf | anyOf | oneOf | not | conditional | ref => rfl

/-- A keyword finds no errors exactly in the instances that it accepts. -/
theorem Keyword.errors_isEmpty (h : check.Decides verdict) (k : Keyword) (json : Json)
    (location : Location) :
    (k.errors check json location).isEmpty = k.accepts verdict json := by
  have hparts : (match json with
      | .object members => k.objectErrors check members location
      | .array elements => k.arrayErrors check elements location
      | _ => []).isEmpty = k.acceptsParts verdict json := by
    cases json with
    | object members => exact k.objectErrors_isEmpty h members location
    | array elements => exact k.arrayErrors_isEmpty h elements location
    | null | bool | number | string => rfl
  cases k with
  | type | enum | const => exact unless_isEmpty _ _ _
  | allOf slots =>
      simp only [Keyword.errors, Keyword.accepts, isEmpty_flatMap, h _ _ _]
  | anyOf slots => simp only [Keyword.errors, Keyword.accepts, unless_isEmpty, h.accepts]
  | oneOf slots => simp only [Keyword.errors, Keyword.accepts, unless_isEmpty, h.accepts]
  | not slot => simp only [Keyword.errors, Keyword.accepts, unless_isEmpty, h.accepts]
  | conditional condition positive negative =>
      simp only [Keyword.errors, Keyword.accepts, h.accepts]
      cases (if verdict condition json then positive else negative) with
      | none => rfl
      | some slot => exact h slot json location
  | ref slot => exact h slot json location
  | required | properties | patternProperties | additionalProperties | items | tuple | contains
  | uniqueItems | propertyNames | dependencies => exact hparts

end

/-- Whatever limit its errors report, the check of a node decides as its verdict. -/
theorem check_decides (schema : Schema) (limit levels : Nat) :
    (schema.check limit levels).Decides (schema.accepts levels) := by
  induction levels with
  | zero => intro slot json location; rfl
  | succ levels ih =>
      intro slot json location
      simp only [Schema.check, Schema.accepts]
      match schema.nodes[slot]? with
      | none => rfl
      | some (.bool true) => rfl
      | some (.bool false) => rfl
      | some (.keywords list) =>
          simp only [isEmpty_flatMap, Keyword.errors_isEmpty ih, Node.accepts, Option.all_some]

/-- An instance is valid if the root accepts it, the root itself being the first level. -/
theorem isValid_eq_accepts (schema : Schema) (json : Json) (options : Options) :
    schema.isValid json options = schema.accepts (options.maxDepth + 1) schema.root json :=
  check_decides schema options.maxDepth (options.maxDepth + 1) schema.root json []

end JsonQuery.Schema
