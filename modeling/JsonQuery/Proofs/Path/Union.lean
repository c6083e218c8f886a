/-
# JsonQuery.Proofs.Path.Union — unions and what follows them.

A union first collects what all of its branches lead to and only then goes on, from every one of
these nodes with the location that the node brings along.  A single step goes on at once, and what
is behind it has been evaluated before the next child is tested.  The difference in order does not
show: neither in locations, since every node carries its own, nor in the remembered values of root
paths, since remembering changes no result.
-/
import JsonQuery.Proofs.Path.Chains

namespace JsonQuery.Path

variable {c : Context}

theorem hitsOfBranches_eq_flatMap (branches : List Step) (n : Node) :
    hitsOfBranches c branches n = branches.flatMap fun branch => branch.hits c n := by
  induction branches with
  | nil => rw [hitsOfBranches, List.flatMap_nil]
  | cons branch rest ih => rw [hitsOfBranches, ih, List.flatMap_cons]

/-- A union means what its branches mean, one after another, each with all that follows. -/
theorem found_union (branches tail : List Step) (n : Node) :
    found c (.union branches :: tail) n
      = branches.flatMap fun branch => found c (branch :: tail) n := by
  rw [found_cons, Step.hits, hitsOfBranches_eq_flatMap, List.flatMap_assoc]
  exact List.flatMap_congr fun branch _ => (found_cons branch tail n).symm

/-- **`select_union`** — wherever a union stands in an accepted path, and whatever follows it, it
selects from a node what its branches select, each followed by the same steps: the nodes of the
first branch, then those of the second, and so on.  Every one of these selections may start with
whatever has been remembered before. -/
theorem select_union {text : String} {registry : Registry} {path : Path}
    (h : Path.compile text registry = .ok path) {branches tail : List Step}
    (hunion : .union branches :: tail ∈ chains path.steps) (root : Value) (maxDepth : Nat)
    (n : Node) :
    ∃ emitted : Step → List Node,
      (∀ branch ∈ branches, Yields ⟨root, ⟨maxDepth, none⟩⟩ (rootPaths path.steps)
        (select (branch :: tail) n) (emitted branch)) ∧
      Yields ⟨root, ⟨maxDepth, none⟩⟩ (rootPaths path.steps) (select (.union branches :: tail) n)
        (branches.flatMap emitted) := by
  have hcaching := caching_of_compile h root maxDepth
  have hpaths := rootPaths_subset_of_mem_chains hunion
  refine ⟨fun branch => found ⟨root, ⟨maxDepth, none⟩⟩ (branch :: tail) n, ?_, ?_⟩
  · intro branch hbranch
    -- A branch has no root paths but those of its union.
    have hbranches : branch.rootPaths ⊆ rootPaths branches := rootPaths_subset_of_mem hbranch
    rw [rootPaths, Step.rootPaths] at hpaths
    refine hcaching.yields_select _ n (List.Subset.trans ?_ hpaths)
    rw [rootPaths]
    exact List.append_subset.mpr ⟨List.subset_append_of_subset_left _ hbranches,
      List.subset_append_right _ _⟩
  · rw [← found_union]
    exact hcaching.yields_select _ n hpaths

/-- The branches of a union. -/
def Step.branches? : Step → Option (List Step)
  | .union branches => some branches
  | .root _ | .current | .parent _ | .name _ | .index _ | .slice _ | .wildcard | .descend
  | .filter _ => none

theorem Step.eq_union_of_branches? {step : Step} {branches : List Step}
    (h : step.branches? = some branches) : step = .union branches := by
  cases step with
  | union others => rw [Option.some.inj h]
  | root | current | parent | name | index | slice | wildcard | descend | filter => cases h

/-- The union in `$[?@ == $[0], 1]^[?@ == $[1]]` on two items: each of the two nodes that its
branches lead to is followed up to the array and down to the second item. -/
theorem select_union_filter : ∃ path branches tail nodes q,
    Path.compile "$[?@ == $[0], 1]^[?@ == $[1]]" = .ok path ∧
    .union branches :: tail ∈ chains path.steps ∧
    select (.union branches :: tail) ⟨[], .array [.bool true, .bool false]⟩
      ⟨.array [.bool true, .bool false], ⟨5, none⟩⟩ {} = some (nodes, q) ∧
    nodes.map (·.location) = [[.index 1], [.index 1]] ∧
    ∃ emitted : Step → List Node, nodes = branches.flatMap emitted ∧
      ∀ branch ∈ branches, ∃ q', select (branch :: tail) ⟨[], .array [.bool true, .bool false]⟩
        ⟨.array [.bool true, .bool false], ⟨5, none⟩⟩ q = some (emitted branch, q') := by
  have heval : ((Path.compile "$[?@ == $[0], 1]^[?@ == $[1]]").toOption.bind fun path =>
      (path.steps.tail.head?.bind Step.branches?).bind fun _ =>
        (select path.steps.tail ⟨[], .array [.bool true, .bool false]⟩
          ⟨.array [.bool true, .bool false], ⟨5, none⟩⟩ {}).map fun result =>
            result.1.map (·.location)) = some [[.index 1], [.index 1]] := by decide +kernel
  obtain ⟨path, hpath, heval⟩ := Option.bind_eq_some_iff.mp heval
  obtain ⟨branches, hbranches, hselected⟩ := Option.bind_eq_some_iff.mp heval
  obtain ⟨step, hstep, hbranches⟩ := Option.bind_eq_some_iff.mp hbranches
  obtain ⟨tail, htail⟩ := List.head?_eq_some_iff.mp hstep
  obtain ⟨⟨nodes, q⟩, hrun, hlocations⟩ := Option.map_eq_some_iff.mp hselected
  have hcompile := eq_ok_of_toOption hpath
  rw [Step.eq_union_of_branches? hbranches] at htail
  rw [htail] at hrun
  have hunion : .union branches :: tail ∈ chains path.steps := by
    rw [← htail]
    exact mem_chains_of_isSuffix (htail ▸ List.cons_ne_nil _ _) (List.tail_suffix _)
  obtain ⟨emitted, hemitted, hall⟩ := select_union hcompile hunion
    (.array [.bool true, .bool false]) 5 ⟨[], .array [.bool true, .bool false]⟩
  obtain ⟨q', hunited, hsound⟩ := hall {} sound_start
  obtain ⟨rfl, rfl⟩ := Prod.mk.inj (Option.some.inj (hrun.symm.trans hunited))
  refine ⟨path, branches, tail, _, q, hcompile, hunion, hrun, hlocations, emitted, rfl,
    fun branch hbranch => ?_⟩
  obtain ⟨q', hbranch, -⟩ := hemitted branch hbranch q hsound
  exact ⟨q', hbranch⟩

end JsonQuery.Path
