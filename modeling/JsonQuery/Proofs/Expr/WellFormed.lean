/-
# JsonQuery.Proofs.Expr.WellFormed — the trees that the parser returns.

Not every tree is the tree of a text.  A slice stands only where a projection takes its elements from
it, the current value is never on the left of a chain, lists and objects have parts, and calls have
the arguments that their function demands.  Evaluation counts on the last of these: it hands a
function as many values as there are arguments.
-/
import JsonQuery.Proofs.Expr.Built
import JsonQuery.Proofs.Evaluation.Depth

namespace JsonQuery

namespace Expr

/-! ## Well-formed trees -/

mutual

/-- **`e.WellFormed`** — the grammar of trees. -/
inductive WellFormed : Expr → Prop where
  | current : WellFormed .current
  | field (name : String) : WellFormed (.field name)
  | index (i : Int) : WellFormed (.index i)
  | literal (json : Json) : WellFormed (.literal json)
  | chain {left right : Expr} : left ≠ .current → left.WellFormed → right.WellFormed →
      WellFormed (.chain left right)
  | sliced {left right : Expr} : left.Sliced → right.WellFormed →
      WellFormed (.project .list left right)
  | project {kind : Projection} {left right : Expr} :
      (∀ predicate, kind = .filter predicate → predicate.WellFormed) → left.WellFormed →
      right.WellFormed → WellFormed (.project kind left right)
  | list {items : List Expr} : items ≠ [] → (∀ item ∈ items, item.WellFormed) →
      WellFormed (.list items)
  | hash {entries : List (String × Expr)} : entries ≠ [] →
      (∀ entry ∈ entries, entry.2.WellFormed) → WellFormed (.hash entries)
  | binary (op : BinaryOperator) {left right : Expr} : left.WellFormed → right.WellFormed →
      WellFormed (.binary op left right)
  | unary {op : UnaryOperator} {operand : Expr} : op = .not ∨ op = .minus → operand.WellFormed →
      WellFormed (.unary op operand)
  | pipe {left right : Expr} : left.WellFormed → right.WellFormed → WellFormed (.pipe left right)
  | call {function : Function} {args : List Expr} :
      (∀ n, function.arity = some n → args.length = n) → (∀ arg ∈ args, arg.WellFormed) →
      WellFormed (.call function args)
  | reference (id : Nat) {body : Expr} : body.WellFormed → WellFormed (.reference id body)

/-- **`e.Sliced`** — what stands on the left of a projection of the items of a slice: a slice that
moves on, of the current value or of another one. -/
inductive Sliced : Expr → Prop where
  | slice {s : Slice} : s.step ≠ 0 → Sliced (.slice s)
  | chain {target : Expr} {s : Slice} : target ≠ .current → target.WellFormed → s.step ≠ 0 →
      Sliced (.chain target (.slice s))

end

namespace WellFormed

/-- A projection that keeps the elements as they are. -/
theorem projectAll {kind : Projection} {left : Expr}
    (hkind : ∀ predicate, kind = .filter predicate → predicate.WellFormed) (hleft : left.WellFormed) :
    (projectAll kind left).WellFormed :=
  .project hkind hleft .current

theorem step {left right : Expr} (hleft : left.WellFormed) (hright : right.WellFormed) :
    (left.step right).WellFormed := by
  unfold Expr.step
  split
  · exact hright
  · rename_i hcurrent
    exact .chain hcurrent hleft hright

/-- Steps on an operand give it a well-formed tree, slices by way of the projection over them. -/
theorem apply {s : Step} {target : Expr} (htarget : target.WellFormed)
    (hs : s.isPlain ∨ ∃ e : Expr, e.WellFormed ∧ (s = .filter e ∨ s = .node e)) :
    (s.apply target).WellFormed := by
  cases s with
  | field name => exact htarget.step (.field name)
  | index i => exact htarget.step (.index i)
  | slice s =>
      have hmoves : s.step ≠ 0 := by
        rcases hs with hplain | ⟨e, -, hcarries | hcarries⟩
        · exact of_decide_eq_true hplain
        · cases hcarries
        · cases hcarries
      refine .sliced ?_ .current
      unfold Expr.step
      split
      · exact .slice hmoves
      · rename_i hcurrent
        exact .chain hcurrent htarget hmoves
  | items | values => exact projectAll nofun htarget
  | filter e =>
      rcases hs with hplain | ⟨e', he', hcarries | hcarries⟩
      · cases hplain
      · cases hcarries
        exact projectAll (by rintro _ ⟨⟩; exact he') htarget
      · cases hcarries
  | node e =>
      rcases hs with hplain | ⟨e', he', hcarries | hcarries⟩
      · cases hplain
      · cases hcarries
      · cases hcarries
        exact htarget.step he'

/-- **`WellFormed.extend`** — a step inside the innermost open projection changes only what stands on
the right of projections. -/
theorem extend {s : Step} {target : Expr} (htarget : target.WellFormed)
    (hs : s.isPlain ∨ ∃ e : Expr, e.WellFormed ∧ (s = .filter e ∨ s = .node e)) :
    (s.extend target).WellFormed := by
  fun_induction Step.extend s target with
  | case1 kind left right ih =>
      cases htarget with
      | sliced hleft hright => exact .sliced hleft (ih hright)
      | project hkind hleft hright => exact .project hkind hleft (ih hright)
  | case2 target => exact htarget.apply hs

end WellFormed

theorem Operand.wellFormed_attach {target : Operand} {s : Step} {inner : Nat}
    (htarget : target.expr.WellFormed)
    (hs : s.isPlain ∨ ∃ e : Expr, e.WellFormed ∧ (s = .filter e ∨ s = .node e)) :
    (target.attach s inner).expr.WellFormed := by
  unfold attach
  dsimp only
  split
  · exact htarget.extend hs
  · exact htarget.apply hs

/-- **`Built.wellFormed`** — however an operand is built, its tree is well formed. -/
theorem Operand.Built.wellFormed {o : Operand} (h : o.Built) : o.expr.WellFormed := by
  induction h with
  | current => exact .current
  | @literal json _ => exact .literal json
  | field name => exact .field name
  | values | flattened => exact .projectAll nofun .current
  | closed _ ih => exact ih
  | binary op _ _ _ ihleft ihright => exact .binary op ihleft ihright
  | pipe _ _ _ ihleft ihright => exact .pipe ihleft ihright
  | @unary op _ _ _ ih =>
      refine .unary ?_ ih
      cases op
      · exact .inl rfl
      · exact .inr rfl
  | reference id _ _ ih => exact .reference id ih
  | step _ hplain _ ih => exact wellFormed_attach ih (.inl hplain)
  | filterStep _ _ _ ihtarget iho => exact wellFormed_attach ihtarget (.inr ⟨_, iho, .inl rfl⟩)
  | nodeStep _ _ _ ihtarget iho => exact wellFormed_attach ihtarget (.inr ⟨_, iho, .inr rfl⟩)
  | flatten _ _ ih => exact .projectAll nofun ih
  | filter _ _ ih => exact .projectAll (by rintro _ ⟨⟩; exact ih) .current
  | list hsome _ _ ih =>
      exact .list (List.map_eq_nil_iff.not.mpr hsome) (List.forall_mem_map.mpr ih)
  | hash hsome _ _ ih =>
      exact .hash (List.map_eq_nil_iff.not.mpr hsome) (List.forall_mem_map.mpr ih)
  | call hcount _ _ ih =>
      refine .call (fun n hn => ?_) (List.forall_mem_map.mpr ih)
      rw [List.length_map, hcount n hn]

/-- The tree of a text is well formed. -/
theorem wellFormed_of_parse {text : String} {registry : Registry} {e : Expr}
    (h : parse text registry = .ok e) : e.WellFormed := by
  obtain ⟨o, ho, rfl⟩ := exists_built_of_parse h
  exact ho.wellFormed

/-! ## Calls in a tree -/

/-- The parts of a node. -/
def children : Expr → List Expr
  | .current | .field _ | .index _ | .slice _ | .literal _ => []
  | .chain left right | .binary _ left right | .pipe left right => [left, right]
  | .project (.filter predicate) left right => [predicate, left, right]
  | .project _ left right => [left, right]
  | .list items | .call _ items => items
  | .hash entries => entries.map (·.2)
  | .unary _ operand => [operand]
  | .reference _ body => [body]

/-- **`e.Calls function args`** — somewhere in a tree a function is called with these arguments. -/
inductive Calls (function : Function) (args : List Expr) : Expr → Prop where
  | here : Calls function args (.call function args)
  | inside {e part : Expr} : part ∈ e.children → part.Calls function args → Calls function args e

/-- The parts of a well-formed tree are well formed or hold a slice. -/
theorem wellFormed_children {e part : Expr} (h : e.WellFormed ∨ e.Sliced) (hpart : part ∈ e.children) :
    part.WellFormed ∨ part.Sliced := by
  rcases h with h | h
  · cases h with
    | current | field | index | literal => cases hpart
    | chain _ hleft hright | binary _ hleft hright | pipe hleft hright =>
        simp only [children, List.mem_cons, List.not_mem_nil, or_false] at hpart
        rcases hpart with rfl | rfl
        · exact .inl hleft
        · exact .inl hright
    | sliced hleft hright =>
        simp only [children, List.mem_cons, List.not_mem_nil, or_false] at hpart
        rcases hpart with rfl | rfl
        · exact .inr hleft
        · exact .inl hright
    | @project kind left right hkind hleft hright =>
        cases kind with
        | filter predicate =>
            simp only [children, List.mem_cons, List.not_mem_nil, or_false] at hpart
            rcases hpart with rfl | rfl | rfl
            · exact .inl (hkind _ rfl)
            · exact .inl hleft
            · exact .inl hright
        | list | object | flatten =>
            simp only [children, List.mem_cons, List.not_mem_nil, or_false] at hpart
            rcases hpart with rfl | rfl
            · exact .inl hleft
            · exact .inl hright
    | list _ hitems => exact .inl (hitems part hpart)
    | hash _ hentries =>
        obtain ⟨entry, hentry, rfl⟩ := List.mem_map.mp hpart
        exact .inl (hentries entry hentry)
    | unary _ hoperand =>
        obtain rfl := List.mem_singleton.mp hpart
        exact .inl hoperand
    | call _ hargs => exact .inl (hargs part hpart)
    | reference _ hbody =>
        obtain rfl := List.mem_singleton.mp hpart
        exact .inl hbody
  · cases h with
    | slice => cases hpart
    | chain _ htarget hmoves =>
        simp only [children, List.mem_cons, List.not_mem_nil, or_false] at hpart
        rcases hpart with rfl | rfl
        · exact .inl htarget
        · exact .inr (.slice hmoves)

/-- Every call in a well-formed tree has as many arguments as its function demands. -/
theorem Calls.length_eq {function : Function} {args : List Expr} {e : Expr}
    (h : e.Calls function args) (he : e.WellFormed ∨ e.Sliced) {n : Nat}
    (hn : function.arity = some n) : args.length = n := by
  induction h with
  | here =>
      rcases he with he | he
      · cases he with
        | call hcount => exact hcount n hn
      · cases he
  | inside hpart _ ih => exact ih (wellFormed_children he hpart)

/-- Evaluation goes on to a call with a value for every argument. -/
theorem length_of_evalArgs {apply : Apply} {args : List Expr} {current : Value} {c : Context}
    {p p' : Progress} {values : List Value}
    (h : evalArgs apply args current c p = some (some values, p')) : values.length = args.length := by
  induction args generalizing p values with
  | nil =>
      cases h
      rfl
  | cons arg rest ih =>
      rw [evalArgs] at h
      obtain ⟨first, p₁, -, h⟩ := Evaluation.bind_eq_some.mp h
      cases first with
      | none => cases h
      | some v =>
          obtain ⟨others, p₂, hothers, h⟩ := Evaluation.bind_eq_some.mp h
          cases others with
          | none => cases h
          | some vs =>
              cases h
              exact congrArg (· + 1) (ih hothers)

end Expr

end JsonQuery
