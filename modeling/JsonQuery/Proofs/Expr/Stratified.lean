/-
# JsonQuery.Proofs.Expr.Stratified — which references a text passes on.

A call applies a reference that is written in place, as in `map(&a, b)`, or one that its argument
evaluates to.  A reference that is not written in place is passed on as a value.  A text is stratified
if the bodies of the references that it passes on apply only references written in place, so that no
passed reference can come to apply another one.
-/
import JsonQuery.Function.Call
import JsonQuery.Proofs.Expr.Nodes

namespace JsonQuery

/-! ## Applied references in a text -/

/-- The place of the argument that a function applies, among so many arguments. -/
def Builtin.appliedPlace? : Builtin → Nat → Option Nat
  | .map, 2 => some 0
  | .sortBy, 2 | .maxBy, 2 | .minBy, 2 => some 1
  | _, _ => none

/-- A function that applies an argument has no value without it. -/
theorem Builtin.value?_of_applied {b : Builtin} {args : List Value} {i : Nat}
    (h : b.appliedPlace? args.length = some i) : b.value? args = none := by
  cases b <;> first | rfl | simp [appliedPlace?] at h

namespace Expr

/-- Whether an expression is a reference. -/
def isReference : Expr → Bool
  | .reference .. => true
  | _ => false

/-- Whether the reference that a call applies, if it applies any, is written in place. -/
def writtenInPlace (function : Function) (args : List Expr) : Bool :=
  match function.body.appliedPlace? args.length with
  | none => true
  | some i => args[i]?.any isReference

end Expr

mutual

/-- **`e.appliesWritten`** — every call in `e`, also in the bodies of references, applies only a
reference that is written in place. -/
def Expr.appliesWritten : Expr → Bool
  | .current | .field _ | .index _ | .slice _ | .literal _ => true
  | .chain left right => left.appliesWritten && right.appliesWritten
  | .project kind left right =>
    kind.appliesWritten && left.appliesWritten && right.appliesWritten
  | .list items => Expr.itemsApplyWritten items
  | .hash entries => Expr.entriesApplyWritten entries
  | .binary _ left right => left.appliesWritten && right.appliesWritten
  | .unary _ operand => operand.appliesWritten
  | .pipe left right => left.appliesWritten && right.appliesWritten
  | .call function args => Expr.writtenInPlace function args && Expr.itemsApplyWritten args
  | .reference _ body => body.appliesWritten

def Projection.appliesWritten : Projection → Bool
  | .list | .object | .flatten => true
  | .filter predicate => predicate.appliesWritten

def Expr.itemsApplyWritten : List Expr → Bool
  | [] => true
  | item :: rest => item.appliesWritten && Expr.itemsApplyWritten rest

def Expr.entriesApplyWritten : List (String × Expr) → Bool
  | [] => true
  | (_, item) :: rest => item.appliesWritten && Expr.entriesApplyWritten rest

end

mutual

/-- **`e.stratified applied`** — every reference in `e` that is passed on as a value applies only
references written in place.  A reference that a call applies where it is written is not passed on,
and neither is `e` itself if it is `applied`. -/
def Expr.stratified (applied : Bool) : Expr → Bool
  | .current | .field _ | .index _ | .slice _ | .literal _ => true
  | .chain left right => left.stratified false && right.stratified false
  | .project kind left right =>
    kind.stratified && left.stratified false && right.stratified false
  | .list items => Expr.itemsStratified (fun _ => false) items
  | .hash entries => Expr.entriesStratified entries
  | .binary _ left right => left.stratified false && right.stratified false
  | .unary _ operand => operand.stratified false
  | .pipe left right => left.stratified false && right.stratified false
  | .call function args =>
    Expr.itemsStratified (fun i => function.body.appliedPlace? args.length == some i) args
  | .reference _ body => if applied then body.stratified false else body.appliesWritten

def Projection.stratified : Projection → Bool
  | .list | .object | .flatten => true
  | .filter predicate => predicate.stratified false

def Expr.itemsStratified (applied : Nat → Bool) : List Expr → Bool
  | [] => true
  | item :: rest =>
    item.stratified (applied 0) && Expr.itemsStratified (fun i => applied (i + 1)) rest

def Expr.entriesStratified : List (String × Expr) → Bool
  | [] => true
  | (_, item) :: rest => item.stratified false && Expr.entriesStratified rest

end

namespace Expr

mutual

/-- Where all applied references are written in place, nothing can go wrong with those passed on. -/
theorem stratified_of_appliesWritten (applied : Bool) (e : Expr) (h : e.appliesWritten) :
    e.stratified applied := by
  cases e with
  | current | field | index | slice | literal => rfl
  | chain left right | binary op left right | pipe left right =>
      simp only [appliesWritten, stratified, Bool.and_eq_true] at h ⊢
      exact ⟨stratified_of_appliesWritten _ left h.1, stratified_of_appliesWritten _ right h.2⟩
  | project kind left right =>
      simp only [appliesWritten, stratified, Bool.and_eq_true] at h ⊢
      exact ⟨⟨projectionStratified_of_appliesWritten kind h.1.1,
        stratified_of_appliesWritten _ left h.1.2⟩,
        stratified_of_appliesWritten _ right h.2⟩
  | list items =>
      simp only [appliesWritten, stratified] at h ⊢
      exact itemsStratified_of_applyWritten _ items h
  | hash entries =>
      simp only [appliesWritten, stratified] at h ⊢
      exact entriesStratified_of_applyWritten entries h
  | unary op operand =>
      simp only [appliesWritten, stratified] at h ⊢
      exact stratified_of_appliesWritten _ operand h
  | call function args =>
      simp only [appliesWritten, stratified, Bool.and_eq_true] at h ⊢
      exact itemsStratified_of_applyWritten _ args h.2
  | reference id body =>
      simp only [appliesWritten, stratified] at h ⊢
      split
      · exact stratified_of_appliesWritten _ body h
      · exact h

theorem projectionStratified_of_appliesWritten (kind : Projection)
    (h : kind.appliesWritten) : kind.stratified := by
  cases kind with
  | list | object | flatten => rfl
  | filter predicate =>
      simp only [Projection.appliesWritten, Projection.stratified] at h ⊢
      exact stratified_of_appliesWritten _ predicate h

theorem itemsStratified_of_applyWritten (applied : Nat → Bool) (items : List Expr)
    (h : itemsApplyWritten items) : itemsStratified applied items := by
  cases items with
  | nil => rfl
  | cons item rest =>
      simp only [itemsApplyWritten, itemsStratified, Bool.and_eq_true] at h ⊢
      exact ⟨stratified_of_appliesWritten _ item h.1, itemsStratified_of_applyWritten _ rest h.2⟩

theorem entriesStratified_of_applyWritten (entries : List (String × Expr))
    (h : entriesApplyWritten entries) : entriesStratified entries := by
  match entries with
  | [] => rfl
  | (name, item) :: rest =>
      simp only [entriesApplyWritten, entriesStratified, Bool.and_eq_true] at h ⊢
      exact ⟨stratified_of_appliesWritten _ item h.1, entriesStratified_of_applyWritten rest h.2⟩

end

/-- Each argument is stratified at its place. -/
theorem stratified_of_getElem? {applied : Nat → Bool} {items : List Expr} {i : Nat} {item : Expr}
    (h : itemsStratified applied items) (hitem : items[i]? = some item) :
    item.stratified (applied i) := by
  induction items generalizing applied i with
  | nil => cases hitem
  | cons first rest ih =>
      simp only [itemsStratified, Bool.and_eq_true] at h
      cases i with
      | zero =>
          obtain rfl := Option.some.inj hitem
          exact h.1
      | succ i =>
          have hrest := ih h.2 hitem
          exact hrest

theorem entriesStratified_mem {entries : List (String × Expr)} (h : entriesStratified entries) :
    ∀ entry ∈ entries, entry.2.stratified false := by
  induction entries with
  | nil => simp
  | cons entry rest ih =>
      simp only [entriesStratified, Bool.and_eq_true] at h
      exact List.forall_mem_cons.mpr ⟨h.1, ih h.2⟩

theorem itemsApplyWritten_mem {items : List Expr} (h : itemsApplyWritten items) :
    ∀ item ∈ items, item.appliesWritten := by
  induction items with
  | nil => simp
  | cons item rest ih =>
      simp only [itemsApplyWritten, Bool.and_eq_true] at h
      exact List.forall_mem_cons.mpr ⟨h.1, ih h.2⟩

theorem entriesApplyWritten_mem {entries : List (String × Expr)} (h : entriesApplyWritten entries) :
    ∀ entry ∈ entries, entry.2.appliesWritten := by
  induction entries with
  | nil => simp
  | cons entry rest ih =>
      simp only [entriesApplyWritten, Bool.and_eq_true] at h
      exact List.forall_mem_cons.mpr ⟨h.1, ih h.2⟩

/-! ## Parts -/

theorem appliesWritten_of_mem_children {e part : Expr} (h : e.appliesWritten)
    (hpart : part ∈ e.children) : part.appliesWritten := by
  cases e with
  | current | field | index | slice | literal => cases hpart
  | chain | binary | pipe =>
      simp only [appliesWritten, Bool.and_eq_true] at h
      simp only [children, List.mem_cons, List.not_mem_nil, or_false] at hpart
      rcases hpart with rfl | rfl
      · exact h.1
      · exact h.2
  | unary | reference =>
      obtain rfl := List.mem_singleton.mp hpart
      simpa only [appliesWritten] using h
  | project kind left right =>
      cases kind with
      | filter | list | object | flatten =>
          simp only [appliesWritten, Projection.appliesWritten, Bool.and_eq_true] at h
          simp only [children, List.mem_cons, List.not_mem_nil, or_false] at hpart
          rcases hpart with rfl | rfl | rfl <;> simp_all only
  | list items =>
      simp only [appliesWritten] at h
      exact itemsApplyWritten_mem h part hpart
  | call function args =>
      simp only [appliesWritten, Bool.and_eq_true] at h
      exact itemsApplyWritten_mem h.2 part hpart
  | hash entries =>
      simp only [appliesWritten] at h
      obtain ⟨entry, hentry, rfl⟩ := List.mem_map.mp hpart
      exact entriesApplyWritten_mem h entry hentry

/-- What a direct node is made of is not applied by it. -/
theorem stratified_of_mem_children {e part : Expr} (hdirect : e.isDirect) (h : e.stratified false)
    (hpart : part ∈ e.children) : part.stratified false := by
  cases e with
  | current | field | index | slice | literal => cases hpart
  | call | reference => cases hdirect
  | chain | binary | pipe =>
      simp only [stratified, Bool.and_eq_true] at h
      simp only [children, List.mem_cons, List.not_mem_nil, or_false] at hpart
      rcases hpart with rfl | rfl
      · exact h.1
      · exact h.2
  | unary =>
      obtain rfl := List.mem_singleton.mp hpart
      simpa only [stratified] using h
  | project kind left right =>
      cases kind with
      | filter | list | object | flatten =>
          simp only [stratified, Projection.stratified, Bool.and_eq_true] at h
          simp only [children, List.mem_cons, List.not_mem_nil, or_false] at hpart
          rcases hpart with rfl | rfl | rfl <;> simp_all only
  | list items =>
      simp only [stratified] at h
      obtain ⟨i, hi⟩ := List.getElem?_of_mem hpart
      exact stratified_of_getElem? h hi
  | hash entries =>
      simp only [stratified] at h
      obtain ⟨entry, hentry, rfl⟩ := List.mem_map.mp hpart
      exact entriesStratified_mem h entry hentry

end Expr

end JsonQuery
