/-
# JsonQuery.Proofs.Path.Formula — filters as formulas of Boolean logic.

A filter that is put together with `&&`, `||` and `!` is a formula; whatever else stands in it (a
path, a comparison, a call) is an atom, true if it has a value and the value counts as true.  The
operators themselves compute something else: `&&` and `||` give back one of their operands, read an
operand without a value as `null` and may leave the right one unread, and `!` makes `true` out of
nothing.  Their values count as true nevertheless just where the formula is true.
-/
import JsonQuery.Proofs.Path.Chains

namespace JsonQuery.Path

/-! ## Formulas -/

namespace Filter

/-- **`f.truth atom`** — the truth of a filter as a formula, given that of its atoms. -/
def truth (atom : Filter → Bool) : Filter → Bool
  | .binary .and left right => left.truth atom && right.truth atom
  | .binary .or left right => left.truth atom || right.truth atom
  | .unary .not operand => !operand.truth atom
  | f => atom f

/-- The atoms of a filter from left to right: all that is not put together by `&&`, `||` and `!`. -/
def atoms : Filter → List Filter
  | .binary .and left right => left.atoms ++ right.atoms
  | .binary .or left right => left.atoms ++ right.atoms
  | .unary .not operand => operand.atoms
  | f => [f]

/-- **`f.holds c n`** — whether a filter is true of a node as a formula, every atom read as whether
it evaluates to a value that counts as true. -/
def holds (f : Filter) (c : Context) (n : Node) : Bool :=
  f.truth fun a => passes (a.value? c n.value)

/-- An atom has no root paths but those of the filter. -/
theorem rootPaths_subset_of_mem_atoms {f a : Filter} (h : a ∈ f.atoms) :
    a.rootPaths ⊆ f.rootPaths := by
  fun_induction atoms f with
  | case1 left right ihleft ihright | case2 left right ihleft ihright =>
      rw [rootPaths]
      rcases List.mem_append.mp h with hleft | hright
      · exact List.subset_append_of_subset_left _ (ihleft hleft)
      · exact List.subset_append_of_subset_right _ (ihright hright)
  | case3 operand ih => exact ih h
  | case4 f =>
      obtain rfl := List.mem_singleton.mp h
      exact List.Subset.refl _

/-! ## What counts as true -/

theorem passes_getD (v : Option Value) : (v.getD .null).isTruthy = passes v := by
  cases v <;> rfl

/-- A conjunction gives back an operand that decides it. -/
theorem passes_and (c : Context) (left right : Filter) (v : Value) :
    passes ((Filter.binary .and left right).value? c v)
      = (passes (left.value? c v) && passes (right.value? c v)) := by
  rw [value?, ← passes_getD (left.value? c v), ← passes_getD (right.value? c v)]
  simp only [BinaryOperator.isLogical, if_true, BinaryOperator.shortCircuit]
  cases hleft : ((left.value? c v).getD .null).isTruthy with
  | false => simpa [passes] using hleft
  | true => simp [passes, BinaryOperator.apply, hleft]

theorem passes_or (c : Context) (left right : Filter) (v : Value) :
    passes ((Filter.binary .or left right).value? c v)
      = (passes (left.value? c v) || passes (right.value? c v)) := by
  rw [value?, ← passes_getD (left.value? c v), ← passes_getD (right.value? c v)]
  simp only [BinaryOperator.isLogical, if_true, BinaryOperator.shortCircuit]
  cases hleft : ((left.value? c v).getD .null).isTruthy with
  | false => simp [passes, BinaryOperator.apply, hleft]
  | true => simpa [passes] using hleft

theorem passes_not (c : Context) (operand : Filter) (v : Value) :
    passes ((Filter.unary .not operand).value? c v) = !passes (operand.value? c v) := by
  rw [value?]
  rfl

/-- The value of a filter counts as true just where the formula is true. -/
theorem passes_value? (c : Context) (f : Filter) (n : Node) :
    passes (f.value? c n.value) = f.holds c n := by
  unfold holds
  fun_induction truth (fun a => passes (a.value? c n.value)) f with
  | case1 left right ihleft ihright => rw [passes_and, ihleft, ihright]
  | case2 left right ihleft ihright => rw [passes_or, ihleft, ihright]
  | case3 operand ih => rw [passes_not, ih]
  | case4 f => rfl

end Filter

/-! ## Selection -/

variable {c : Context}

/-- A filter means the children of which it is true. -/
theorem found_filter (f : Filter) (n : Node) :
    found c [.filter f] n = n.children.filter (f.holds c) := by
  rw [found_singleton, Step.hits]
  exact List.filter_congr fun m _ => f.passes_value? c m

/-- **`select_formula`** — wherever a filter stands in an accepted path, and whatever has been
remembered before, it selects from a node those of its children, in order, of which it is true as a
formula over its atoms; its negation selects the others.  So the two split what `[*]` selects. -/
theorem select_formula {text : String} {registry : Registry} {path : Path}
    (h : Path.compile text registry = .ok path) {f : Filter} {tail : List Step}
    (hf : .filter f :: tail ∈ chains path.steps) (root : Value) (maxDepth : Nat) :
    let c : Context := ⟨root, ⟨maxDepth, none⟩⟩
    let paths := rootPaths path.steps
    (∀ a ∈ f.atoms, ∀ v, Yields c paths (a.eval v) (a.value? c v)) ∧
    ∀ n : Node,
      let selected := n.children.filter (f.holds c)
      let rejected := n.children.filter fun child => !f.holds c child
      Yields c paths (select [.wildcard] n) n.children ∧
      Yields c paths (select [.filter f] n) selected ∧
      Yields c paths (select [.filter (.unary .not f)] n) rejected ∧
      (selected ++ rejected).Perm n.children ∧ selected.Disjoint rejected := by
  intro c paths
  have hcaching : Caching c paths := caching_of_compile h root maxDepth
  have hpaths : f.rootPaths ⊆ paths := by
    refine List.Subset.trans ?_ (rootPaths_subset_of_mem_chains hf)
    rw [rootPaths, Step.rootPaths]
    exact List.subset_append_left _ _
  have hrun : ∀ step : Step, step.rootPaths ⊆ paths → ∀ n,
      Yields c paths (select [step] n) (found c [step] n) := by
    intro step hstep n
    refine hcaching.yields_select [step] n ?_
    rwa [rootPaths, rootPaths, List.append_nil]
  refine ⟨fun a ha v => ?_, fun n => ⟨?_, ?_, ?_, ?_, ?_⟩⟩
  · exact hcaching.yields_filter a v
      (List.Subset.trans (Filter.rootPaths_subset_of_mem_atoms ha) hpaths)
  · rw [← found_wildcard (c := c) n]
    exact hrun .wildcard (List.nil_subset _) n
  · rw [← found_filter]
    exact hrun (.filter f) hpaths n
  · have hnot : (fun child => !f.holds c child) = (Filter.unary .not f).holds c := rfl
    rw [hnot, ← found_filter]
    exact hrun (.filter (.unary .not f)) hpaths n
  · exact List.filter_append_perm _ _
  · intro child hselected hrejected
    have hyes := List.of_mem_filter hselected
    have hno := List.of_mem_filter hrejected
    rw [hyes] at hno
    cases hno

/-- The filter of a step that has one. -/
def Step.filter? : Step → Option Filter
  | .filter f => some f
  | .root _ | .current | .parent _ | .name _ | .index _ | .slice _ | .wildcard | .descend
  | .union _ => none

theorem Step.eq_filter_of_filter? {step : Step} {f : Filter} (h : step.filter? = some f) :
    step = .filter f := by
  cases step with
  | filter g => rw [Option.some.inj h]
  | root | current | parent | name | index | slice | wildcard | descend | union => cases h

/-- The formula in `$[?@.a && !(@.b == $[0].b)]` on three objects: the second one has no `b`, which
makes the comparison false and not the formula. -/
theorem select_formula_missing :
    let items : Value := .array [.object [("a", .bool true), ("b", .bool true)],
      .object [("a", .bool true)], .object [("b", .bool false)]]
    ∃ path f nodes others q q', Path.compile "$[?@.a && !(@.b == $[0].b)]" = .ok path ∧
      [.filter f] ∈ chains path.steps ∧
      select [.filter f] ⟨[], items⟩ ⟨items, ⟨5, none⟩⟩ {} = some (nodes, q) ∧
      nodes.map (·.location) = [[.index 1]] ∧
      select [.filter (.unary .not f)] ⟨[], items⟩ ⟨items, ⟨5, none⟩⟩ q = some (others, q') ∧
      others.map (·.location) = [[.index 0], [.index 2]] := by
  intro items
  have heval : ((Path.compile "$[?@.a && !(@.b == $[0].b)]").toOption.bind fun path =>
      (path.steps.getLast?.bind Step.filter?).map fun f =>
        let children := Node.children ⟨[], items⟩
        ((children.filter (f.holds ⟨items, ⟨5, none⟩⟩)).map (·.location),
          (children.filter fun child => !f.holds ⟨items, ⟨5, none⟩⟩ child).map (·.location)))
      = some ([[.index 1]], [[.index 0], [.index 2]]) := by decide +kernel
  obtain ⟨path, hpath, hlast⟩ := Option.bind_eq_some_iff.mp heval
  obtain ⟨f, hfilter, hselected⟩ := Option.map_eq_some_iff.mp hlast
  obtain ⟨step, hstep, hfilter⟩ := Option.bind_eq_some_iff.mp hfilter
  obtain ⟨hnodes, hothers⟩ := Prod.mk.inj hselected
  have hcompile := eq_ok_of_toOption hpath
  have hf : [.filter f] ∈ chains path.steps := by
    rw [← Step.eq_filter_of_filter? hfilter]
    obtain ⟨before, hsteps⟩ := List.getLast?_eq_some_iff.mp hstep
    exact mem_chains_of_isSuffix (List.cons_ne_nil _ _) ⟨before, hsteps.symm⟩
  obtain ⟨-, hsplit⟩ := select_formula hcompile hf items 5
  obtain ⟨-, hyes, hno, -, -⟩ := hsplit ⟨[], items⟩
  obtain ⟨q, hselect, hsound⟩ := hyes {} sound_start
  obtain ⟨q', hreject, -⟩ := hno q hsound
  exact ⟨path, f, _, _, q, q', hcompile, hf, hselect, hnodes, hreject, hothers⟩

end JsonQuery.Path
