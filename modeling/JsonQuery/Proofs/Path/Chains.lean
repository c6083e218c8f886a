/-
# JsonQuery.Proofs.Path.Chains — the chains of steps inside of a path.

Selection never sees a path as a whole: from any node on it follows what is left of some steps, be
they those of the path itself, of a path in one of its filters or of a branch of a union.  Such a
chain has no root path that the whole path does not have.  So wherever selection has got to in an
accepted path, and whatever has been remembered on the way, a chain selects from a node what it
means.
-/
import JsonQuery.Proofs.Path.RootCache

namespace JsonQuery.Path

mutual

/-- **`chains steps`** — what is left of some steps from each of them on, and the chains inside of
them. -/
def chains : List Step → List (List Step)
  | [] => []
  | step :: rest => (step :: rest) :: (step.chains ++ chains rest)

/-- The chains inside of a step. -/
def Step.chains : Step → List (List Step)
  | .filter f => f.chains
  | .union branches => chainsOfBranches branches
  | .root _ | .current | .parent _ | .name _ | .index _ | .slice _ | .wildcard | .descend => []

/-- The branches of a union, each a chain of its own, and the chains inside of them. -/
def chainsOfBranches : List Step → List (List Step)
  | [] => []
  | branch :: rest => [branch] :: (branch.chains ++ chainsOfBranches rest)

/-- The chains in a filter. -/
def Filter.chains : Filter → List (List Step)
  | .literal _ => []
  | .path steps => JsonQuery.Path.chains steps
  | .call _ args => chainsOfArgs args
  | .binary _ left right => left.chains ++ right.chains
  | .unary _ operand | .matching _ operand => operand.chains

/-- The chains in arguments. -/
def chainsOfArgs : List Filter → List (List Step)
  | [] => []
  | arg :: rest => arg.chains ++ chainsOfArgs rest

end

/-- What is left of some steps is one of their chains. -/
theorem mem_chains_of_isSuffix {chain steps : List Step} (hne : chain ≠ []) (h : chain <:+ steps) :
    chain ∈ chains steps := by
  induction steps with
  | nil => exact absurd (List.suffix_nil.mp h) hne
  | cons step rest ih =>
      rw [chains]
      rcases List.suffix_cons_iff.mp h with rfl | h
      · exact List.mem_cons_self
      · exact List.mem_cons_of_mem _ (List.mem_append_right _ (ih h))

/-- The root paths of a step are among those of the steps that it is one of. -/
theorem rootPaths_subset_of_mem {step : Step} {steps : List Step} (h : step ∈ steps) :
    step.rootPaths ⊆ rootPaths steps := by
  induction steps with
  | nil => cases h
  | cons head rest ih =>
      rw [rootPaths]
      rcases List.mem_cons.mp h with rfl | hrest
      · exact List.subset_append_left _ _
      · exact List.subset_append_of_subset_right _ (ih hrest)

mutual

/-- A chain of a path has no root paths but those of the path. -/
theorem rootPaths_subset_of_mem_chains {chain steps : List Step} (h : chain ∈ chains steps) :
    rootPaths chain ⊆ rootPaths steps := by
  match steps with
  | [] => cases h
  | step :: rest =>
      rw [chains, List.mem_cons, List.mem_append] at h
      rw [rootPaths]
      rcases h with rfl | hstep | hrest
      · rw [rootPaths]
        exact List.Subset.refl _
      · exact List.subset_append_of_subset_left _ (Step.rootPaths_subset_of_mem_chains hstep)
      · exact List.subset_append_of_subset_right _ (rootPaths_subset_of_mem_chains hrest)

theorem Step.rootPaths_subset_of_mem_chains {chain : List Step} {step : Step}
    (h : chain ∈ step.chains) : JsonQuery.Path.rootPaths chain ⊆ step.rootPaths := by
  match step with
  | .filter f => exact Filter.rootPaths_subset_of_mem_chains h
  | .union branches => exact rootPaths_subset_of_mem_chainsOfBranches h
  | .root _ | .current | .parent _ | .name _ | .index _ | .slice _ | .wildcard | .descend => cases h

theorem rootPaths_subset_of_mem_chainsOfBranches {chain branches : List Step}
    (h : chain ∈ chainsOfBranches branches) : rootPaths chain ⊆ rootPaths branches := by
  match branches with
  | [] => cases h
  | branch :: rest =>
      rw [chainsOfBranches, List.mem_cons, List.mem_append] at h
      rw [rootPaths]
      rcases h with rfl | hbranch | hrest
      · rw [rootPaths, rootPaths, List.append_nil]
        exact List.subset_append_left _ _
      · exact List.subset_append_of_subset_left _ (Step.rootPaths_subset_of_mem_chains hbranch)
      · exact List.subset_append_of_subset_right _
          (rootPaths_subset_of_mem_chainsOfBranches hrest)

theorem Filter.rootPaths_subset_of_mem_chains {chain : List Step} {f : Filter}
    (h : chain ∈ f.chains) : JsonQuery.Path.rootPaths chain ⊆ f.rootPaths := by
  match f with
  | .literal _ => cases h
  | .path steps =>
      exact List.subset_append_of_subset_right _ (JsonQuery.Path.rootPaths_subset_of_mem_chains h)
  | .call _ args => exact rootPaths_subset_of_mem_chainsOfArgs h
  | .binary _ left right =>
      rw [Filter.chains, List.mem_append] at h
      rw [Filter.rootPaths]
      rcases h with hleft | hright
      · exact List.subset_append_of_subset_left _ (Filter.rootPaths_subset_of_mem_chains hleft)
      · exact List.subset_append_of_subset_right _ (Filter.rootPaths_subset_of_mem_chains hright)
  | .unary _ operand | .matching _ operand =>
      exact Filter.rootPaths_subset_of_mem_chains (f := operand) h

theorem rootPaths_subset_of_mem_chainsOfArgs {chain : List Step} {args : List Filter}
    (h : chain ∈ chainsOfArgs args) : rootPaths chain ⊆ rootPathsOfArgs args := by
  match args with
  | [] => cases h
  | arg :: rest =>
      rw [chainsOfArgs, List.mem_append] at h
      rw [rootPathsOfArgs]
      rcases h with harg | hrest
      · exact List.subset_append_of_subset_left _ (Filter.rootPaths_subset_of_mem_chains harg)
      · exact List.subset_append_of_subset_right _ (rootPaths_subset_of_mem_chainsOfArgs hrest)

end

end JsonQuery.Path
