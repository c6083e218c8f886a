/-
# JsonQuery.Proofs.Schema.Depth — what a validation can conclude past its depth limit.

A node past the limit accepts nothing.  Where a keyword asks that its parts accept, this is on the
safe side: it can only turn an acceptance into a rejection.  `not`, `oneOf` and `if` also conclude
from a rejection, and there a node past the limit can let an instance through that a deeper
validation rejects.  The verdict at a limit is therefore taken as a function of what lies beyond it.
It stands at every greater limit if it does not depend on that at all, and where no keyword
concludes from a rejection an acceptance never does.
-/
import JsonQuery.Proofs.Schema.Verdict
import JsonQuery.Schema.Compile

namespace JsonQuery.Schema

/-- Everything that one verdict accepts is accepted by the other. -/
def Verdict.Below (verdict other : Verdict) : Prop :=
  ∀ slot json, verdict slot json = true → other slot json = true

/-! ## Keywords that ask only for acceptance -/

/-- Whether a keyword concludes nothing from the rejection of a part. -/
def Keyword.isPositive : Keyword → Bool
  | .oneOf _ | .not _ | .conditional .. => false
  | _ => true

/-- Whether all keywords of a node conclude nothing from a rejection. -/
def Node.isPositive : Node → Bool
  | .bool _ => true
  | .keywords list => list.all Keyword.isPositive

/-- Whether no keyword of a schema concludes anything from a rejection. -/
def isPositive (schema : Schema) : Bool := schema.nodes.toList.all Node.isPositive

section

variable {verdict other : Verdict}

theorem all_of_below {α : Type} {l : List α} {p q : α → Bool} (h : ∀ a, p a = true → q a = true)
    (hall : l.all p = true) : l.all q = true :=
  List.all_eq_true.mpr fun a ha => h a (List.all_eq_true.mp hall a ha)

theorem any_of_below {α : Type} {l : List α} {p q : α → Bool} (h : ∀ a, p a = true → q a = true)
    (hany : l.any p = true) : l.any q = true := by
  obtain ⟨a, ha, hp⟩ := List.any_eq_true.mp hany
  exact List.any_eq_true.mpr ⟨a, ha, h a hp⟩

theorem option_all_of_below {α : Type} {o : Option α} {p q : α → Bool}
    (h : ∀ a, p a = true → q a = true) (hall : o.all p = true) : o.all q = true := by
  cases o with
  | none => rfl
  | some a => exact h a hall

theorem Keyword.acceptsMembers_of_below (h : verdict.Below other) (k : Keyword)
    (members : Entries Json) (hk : k.acceptsMembers verdict members = true) :
    k.acceptsMembers other members = true := by
  cases k with
  | properties schemas =>
      exact all_of_below (fun entry => option_all_of_below (h entry.2)) hk
  | patternProperties schemas =>
      exact all_of_below (fun schema => all_of_below fun entry => h schema.2 entry.2) hk
  | additionalProperties slot known patterns => exact all_of_below (fun entry => h slot entry.2) hk
  | propertyNames slot => exact all_of_below (fun entry => h slot (.string entry.1)) hk
  | dependencies entries =>
      refine all_of_below (fun (name, dependency) hentry => ?_) hk
      cases dependency with
      | required names => exact hentry
      | schema slot =>
          rcases Bool.or_eq_true _ _ ▸ hentry with habsent | hslot
          · exact Bool.or_eq_true _ _ ▸ .inl habsent
          · exact Bool.or_eq_true _ _ ▸ .inr (h slot _ hslot)
  | type | enum | const | required | items | tuple | contains | uniqueItems | allOf | anyOf | oneOf
  | not | conditional | ref => exact hk

theorem Keyword.acceptsItems_of_below (h : verdict.Below other) (k : Keyword) (items : List Json)
    (hk : k.acceptsItems verdict items = true) : k.acceptsItems other items = true := by
  cases k with
  | items slot => exact all_of_below (h slot) hk
  | tuple slots additional =>
      exact all_of_below (fun entry => option_all_of_below fun slot => h slot entry.1) hk
  | contains slot => exact any_of_below (h slot) hk
  | type | enum | const | required | properties | patternProperties | additionalProperties
  | uniqueItems | propertyNames | dependencies | allOf | anyOf | oneOf | not | conditional
  | ref => exact hk

theorem Keyword.acceptsParts_of_below (h : verdict.Below other) (k : Keyword) (json : Json)
    (hk : k.acceptsParts verdict json = true) : k.acceptsParts other json = true := by
  cases json with
  | object members => exact k.acceptsMembers_of_below h members hk
  | array elements => exact k.acceptsItems_of_below h elements hk
  | null | bool | number | string => rfl

/-- A keyword that concludes nothing from a rejection accepts no less when its parts do. -/
theorem Keyword.accepts_of_below (h : verdict.Below other) {k : Keyword}
    (hpositive : k.isPositive = true) (json : Json) (hk : k.accepts verdict json = true) :
    k.accepts other json = true := by
  cases k with
  | type | enum | const => exact hk
  | allOf slots => exact all_of_below (h · json) hk
  | anyOf slots => exact any_of_below (h · json) hk
  | oneOf | not | conditional => cases hpositive
  | ref slot => exact h slot json hk
  | required | properties | patternProperties | additionalProperties | propertyNames | dependencies
  | items | tuple | contains | uniqueItems => exact Keyword.acceptsParts_of_below h _ json hk

theorem Node.accepts_of_below (h : verdict.Below other) {node : Node}
    (hpositive : node.isPositive = true) (json : Json) (hnode : node.accepts verdict json = true) :
    node.accepts other json = true := by
  cases node with
  | bool b => exact hnode
  | keywords list =>
      refine List.all_eq_true.mpr fun k hk => ?_
      exact Keyword.accepts_of_below h (List.all_eq_true.mp hpositive k hk) json
        (List.all_eq_true.mp hnode k hk)

end

/-! ## The verdict as a function of what lies beyond the limit -/

/-- Whether a slot accepts an instance if the nodes past the levels left accept as `beyond` says. -/
def acceptsBefore (schema : Schema) (beyond : Verdict) : Nat → Verdict
  | 0 => beyond
  | levels + 1 => fun slot json =>
    (schema.nodes[slot]?).all (·.accepts (schema.acceptsBefore beyond levels) json)

/-- Validation takes everything beyond the limit as rejected. -/
theorem accepts_eq_acceptsBefore (schema : Schema) (levels : Nat) :
    schema.accepts levels = schema.acceptsBefore (fun _ _ => false) levels := by
  induction levels with
  | zero => rfl
  | succ levels ih => simp only [Schema.accepts, acceptsBefore, ih]

/-- More levels are the same as a better knowledge of what lies beyond. -/
theorem acceptsBefore_add (schema : Schema) (beyond : Verdict) (more levels : Nat) :
    schema.acceptsBefore beyond (levels + more)
      = schema.acceptsBefore (schema.acceptsBefore beyond more) levels := by
  induction levels with
  | zero => rw [Nat.zero_add]; rfl
  | succ levels ih => rw [Nat.add_right_comm]; simp only [acceptsBefore, ih]

theorem acceptsBefore_below {schema : Schema} (hpositive : schema.isPositive = true)
    {beyond other : Verdict} (h : beyond.Below other) (levels : Nat) :
    (schema.acceptsBefore beyond levels).Below (schema.acceptsBefore other levels) := by
  induction levels with
  | zero => exact h
  | succ levels ih =>
      intro slot json haccepts
      simp only [acceptsBefore] at haccepts ⊢
      cases hnode : schema.nodes[slot]? with
      | none => rfl
      | some node =>
          rw [hnode] at haccepts
          have hmem : node ∈ schema.nodes.toList := (Array.mem_of_getElem? hnode).val
          exact Node.accepts_of_below ih (List.all_eq_true.mp hpositive node hmem) json haccepts

/-! ## Greater limits -/

/-- A verdict that does not depend on what lies beyond the limit stands at every greater one. -/
theorem isValid_eq_of_settled {schema : Schema} {json : Json} {b : Bool} {options deeper : Options}
    (hle : options.maxDepth ≤ deeper.maxDepth)
    (hsettled : ∀ beyond,
      schema.acceptsBefore beyond (options.maxDepth + 1) schema.root json = b) :
    schema.isValid json options = b ∧ schema.isValid json deeper = b := by
  obtain ⟨more, hmore⟩ := Nat.exists_eq_add_of_le hle
  have hlevels : deeper.maxDepth + 1 = options.maxDepth + 1 + more := by omega
  constructor
  · rw [isValid_eq_accepts, accepts_eq_acceptsBefore]
    exact hsettled _
  · rw [isValid_eq_accepts, accepts_eq_acceptsBefore, hlevels, acceptsBefore_add]
    exact hsettled _

/-- **`isValid_of_le`** — where no keyword concludes anything from a rejection, an instance that is
valid under a depth limit is valid under every greater one. -/
theorem isValid_of_le {schema : Schema} (hpositive : schema.isPositive = true) {json : Json}
    {options deeper : Options} (hle : options.maxDepth ≤ deeper.maxDepth)
    (hvalid : schema.isValid json options = true) : schema.isValid json deeper = true := by
  have hsettled : ∀ beyond,
      schema.acceptsBefore beyond (options.maxDepth + 1) schema.root json = true := by
    intro beyond
    rw [isValid_eq_accepts, accepts_eq_acceptsBefore] at hvalid
    exact acceptsBefore_below hpositive (fun _ _ hfalse => Bool.noConfusion hfalse) _ _ _ hvalid
  exact (isValid_eq_of_settled hle hsettled).2

/-- A list of lists of nulls, by a schema that refers to itself. -/
theorem isValid_of_le_nested :
    let schema : Schema := ⟨#[.keywords [.anyOf [1, 2]], .keywords [.type [.null]],
      .keywords [.type [.array], .items 3], .keywords [.ref 0]], 0⟩
    schema.isPositive = true ∧ schema.isValid (.array [.null]) { maxDepth := 4 } = true
      ∧ schema.isValid (.array [.null]) { maxDepth := 100 } = true :=
  ⟨rfl, rfl, isValid_of_le rfl (show (4 : Nat) ≤ 100 by decide)
    (show Schema.isValid _ _ { maxDepth := 4 } = true from rfl)⟩

/-- A negation concludes from the rejection of a node past the limit: what `not` excludes is let
through at depth zero and rejected at depth one. -/
theorem not_isValid_of_le_not :
    ∃ schema, compile (.object [("not", .object [])]) = .ok schema
      ∧ schema.isValid .null { maxDepth := 0 } = true
      ∧ schema.isValid .null { maxDepth := 1 } = false :=
  ⟨⟨#[.keywords [.not 1], .keywords []], 0⟩, rfl, rfl, rfl⟩

end JsonQuery.Schema
