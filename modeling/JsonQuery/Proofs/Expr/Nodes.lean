/-
# JsonQuery.Proofs.Expr.Nodes — the nodes of a tree.

A tree has nodes inside nodes, in the predicates of filters and the bodies of references as well.  What
is asked of every node of a tree is asked of the node on top and of the nodes of its parts.  The trees
of texts have literals among their nodes, and these have been read like documents.
-/
import JsonQuery.Proofs.Expr.WellFormed

namespace JsonQuery.Expr

/-- **`node.Occurs e`** — `node` is `e` or stands somewhere in it. -/
inductive Occurs (node : Expr) : Expr → Prop where
  | here : Occurs node node
  | inside {e part : Expr} : part ∈ e.children → Occurs node part → Occurs node e

/-- **`e.Everywhere Q`** — every node of a tree satisfies `Q`. -/
def Everywhere (Q : Expr → Prop) (e : Expr) : Prop := ∀ node : Expr, node.Occurs e → Q node

variable {Q : Expr → Prop} {e : Expr}

theorem everywhere_iff : e.Everywhere Q ↔ Q e ∧ ∀ part ∈ e.children, part.Everywhere Q := by
  constructor
  · intro h
    exact ⟨h e .here, fun part hpart node hnode => h node (.inside hpart hnode)⟩
  · rintro ⟨hself, hparts⟩ node hnode
    cases hnode with
    | here => exact hself
    | inside hpart hinside => exact hparts _ hpart node hinside

/-- A node without parts is all that there is. -/
theorem everywhere_leaf (e : Expr) (he : Q e) (hnone : e.children = []) : e.Everywhere Q := by
  refine everywhere_iff.mpr ⟨he, ?_⟩
  rw [hnone]
  exact List.forall_mem_nil _

theorem Everywhere.self (h : e.Everywhere Q) : Q e := h e .here

theorem Everywhere.part {part : Expr} (h : e.Everywhere Q) (hpart : part ∈ e.children) :
    part.Everywhere Q :=
  (everywhere_iff.mp h).2 part hpart

/-- What holds everywhere in a projection holds everywhere on both of its sides and in its
predicate. -/
theorem Everywhere.project {kind : Projection} {left right : Expr}
    (h : (Expr.project kind left right).Everywhere Q) : left.Everywhere Q ∧ right.Everywhere Q ∧
      ∀ predicate, kind = .filter predicate → predicate.Everywhere Q := by
  cases kind with
  | filter predicate =>
      refine ⟨h.part (by simp [children]), h.part (by simp [children]), ?_⟩
      rintro _ ⟨⟩
      exact h.part (by simp [children])
  | list | object | flatten =>
      refine ⟨h.part (by simp [children]), h.part (by simp [children]), ?_⟩
      intro predicate hkind
      cases hkind

theorem sizeOf_lt_of_mem_children {part : Expr} (h : part ∈ e.children) :
    sizeOf part < sizeOf e := by
  cases e with
  | current | field | index | slice | literal => cases h
  | chain | binary | pipe =>
      simp only [children, List.mem_cons, List.not_mem_nil, or_false] at h
      rcases h with rfl | rfl <;> simp +arith
  | unary | reference =>
      obtain rfl := List.mem_singleton.mp h
      simp +arith
  | project kind left right =>
      cases kind with
      | filter | list | object | flatten =>
          simp only [children, List.mem_cons, List.not_mem_nil, or_false] at h
          rcases h with rfl | rfl | rfl <;> simp +arith
  | list items =>
      have hlt : sizeOf part < sizeOf items := List.sizeOf_lt_of_mem h
      simp only [list.sizeOf_spec]
      omega
  | call function args =>
      have hlt : sizeOf part < sizeOf args := List.sizeOf_lt_of_mem h
      simp only [call.sizeOf_spec]
      omega
  | hash entries =>
      obtain ⟨⟨name, item⟩, hentry, rfl⟩ := List.mem_map.mp h
      have hlt := List.sizeOf_lt_of_mem hentry
      simp only [Prod.mk.sizeOf_spec] at hlt
      simp only [hash.sizeOf_spec]
      omega

/-- Whether the value of a node is made of what its parts come to: a call may apply references that it
is given, and a reference is not evaluated where it stands. -/
def isDirect : Expr → Bool
  | .call .. | .reference .. => false
  | _ => true

/-! ## Literals -/

/-- **`e.UniqueLiteral`** — no object repeats a name, if the node is a literal. -/
def UniqueLiteral : Expr → Prop
  | .literal json => json.hasUniqueNames = true
  | _ => True

section Steps

variable {s : Step} {target : Expr}

theorem uniqueLiteral_projectAll {kind : Projection} {left : Expr}
    (hkind : ∀ predicate, kind = .filter predicate → predicate.Everywhere UniqueLiteral)
    (hleft : left.Everywhere UniqueLiteral) : (projectAll kind left).Everywhere UniqueLiteral := by
  have hcurrent : Everywhere UniqueLiteral .current := everywhere_iff.mpr ⟨trivial, nofun⟩
  refine everywhere_iff.mpr ⟨trivial, ?_⟩
  cases kind with
  | filter predicate => simpa [projectAll, children] using ⟨hkind predicate rfl, hleft, hcurrent⟩
  | list | object | flatten => simpa [projectAll, children] using ⟨hleft, hcurrent⟩

theorem uniqueLiteral_step {left right : Expr} (hleft : left.Everywhere UniqueLiteral)
    (hright : right.Everywhere UniqueLiteral) : (left.step right).Everywhere UniqueLiteral := by
  unfold Expr.step
  split
  · exact hright
  · exact everywhere_iff.mpr ⟨trivial, by simpa [children] using ⟨hleft, hright⟩⟩

theorem uniqueLiteral_apply (htarget : target.Everywhere UniqueLiteral)
    (hs : ∀ e : Expr, s = .filter e ∨ s = .node e → e.Everywhere UniqueLiteral) :
    (s.apply target).Everywhere UniqueLiteral := by
  cases s with
  | field name => exact uniqueLiteral_step htarget (everywhere_leaf (.field name) trivial rfl)
  | index i => exact uniqueLiteral_step htarget (everywhere_leaf (.index i) trivial rfl)
  | slice s =>
      have hslice := everywhere_leaf (Q := UniqueLiteral) (.slice s) trivial rfl
      exact uniqueLiteral_projectAll nofun (uniqueLiteral_step htarget hslice)
  | items | values => exact uniqueLiteral_projectAll nofun htarget
  | filter e =>
      refine uniqueLiteral_projectAll ?_ htarget
      rintro predicate ⟨⟩
      exact hs e (.inl rfl)
  | node e => exact uniqueLiteral_step htarget (hs e (.inr rfl))

theorem uniqueLiteral_extend (htarget : target.Everywhere UniqueLiteral)
    (hs : ∀ e : Expr, s = .filter e ∨ s = .node e → e.Everywhere UniqueLiteral) :
    (s.extend target).Everywhere UniqueLiteral := by
  fun_induction Step.extend s target with
  | case1 kind left right ih =>
      obtain ⟨-, hparts⟩ := everywhere_iff.mp htarget
      refine everywhere_iff.mpr ⟨trivial, ?_⟩
      cases kind with
      | filter | list | object | flatten =>
          simp only [children, List.forall_mem_cons] at hparts ⊢
          simp_all
  | case2 target => exact uniqueLiteral_apply htarget hs

theorem uniqueLiteral_attach {target : Operand} {inner : Nat}
    (htarget : target.expr.Everywhere UniqueLiteral)
    (hs : ∀ e : Expr, s = .filter e ∨ s = .node e → e.Everywhere UniqueLiteral) :
    (target.attach s inner).expr.Everywhere UniqueLiteral := by
  unfold Operand.attach
  dsimp only
  split
  · exact uniqueLiteral_extend htarget hs
  · exact uniqueLiteral_apply htarget hs

end Steps

theorem Operand.Built.uniqueLiteral {o : Operand} (h : o.Built) :
    o.expr.Everywhere UniqueLiteral := by
  induction h with
  | current | field => exact everywhere_iff.mpr ⟨trivial, nofun⟩
  | literal hjson => exact everywhere_iff.mpr ⟨hjson, nofun⟩
  | values | flattened =>
      exact uniqueLiteral_projectAll nofun (everywhere_iff.mpr ⟨trivial, nofun⟩)
  | closed _ ih => exact ih
  | binary _ _ _ _ ihleft ihright | pipe _ _ _ ihleft ihright =>
      exact everywhere_iff.mpr ⟨trivial, by simpa [children] using ⟨ihleft, ihright⟩⟩
  | unary _ _ _ ih | reference _ _ _ ih =>
      exact everywhere_iff.mpr ⟨trivial, List.forall_mem_singleton.mpr ih⟩
  | step _ hplain _ ih =>
      refine uniqueLiteral_attach ih ?_
      rintro e (rfl | rfl) <;> cases hplain
  | filterStep _ _ _ ihtarget iho =>
      refine uniqueLiteral_attach ihtarget ?_
      rintro e (⟨⟨⟩⟩ | ⟨⟨⟩⟩)
      exact iho
  | nodeStep _ _ _ ihtarget iho =>
      refine uniqueLiteral_attach ihtarget ?_
      rintro e (⟨⟨⟩⟩ | ⟨⟨⟩⟩)
      exact iho
  | flatten _ _ ih => exact uniqueLiteral_projectAll nofun ih
  | filter _ _ ih =>
      refine uniqueLiteral_projectAll ?_ (everywhere_iff.mpr ⟨trivial, nofun⟩)
      rintro predicate ⟨⟩
      exact ih
  | list _ _ _ ih | call _ _ _ ih =>
      exact everywhere_iff.mpr ⟨trivial, List.forall_mem_map.mpr ih⟩
  | hash _ _ _ ih =>
      refine everywhere_iff.mpr ⟨trivial, ?_⟩
      rw [children, List.map_map]
      exact List.forall_mem_map.mpr ih

/-- **`uniqueLiteral_of_parse`** — no object in a literal of a tree that has been read repeats a
name. -/
theorem uniqueLiteral_of_parse {text : String} {registry : Registry} {e : Expr}
    (h : parse text registry = .ok e) : e.Everywhere UniqueLiteral := by
  obtain ⟨o, ho, rfl⟩ := exists_built_of_parse h
  exact ho.uniqueLiteral

end JsonQuery.Expr
