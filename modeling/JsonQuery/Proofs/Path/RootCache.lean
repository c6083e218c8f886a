/-
# JsonQuery.Proofs.Path.RootCache — remembering the values of root paths changes nothing.

A root path in a filter is followed once; from then on its value is looked up by the number of its
root sign.  That is safe for two reasons.  The value of a root path does not depend on the tested
value, and no two root signs of a text have the same number.  So all that is ever remembered is what
some root path of the text means (`Sound`), and the value looked up for a path is its own.
-/
import JsonQuery.Proofs.Path.Grammar
import JsonQuery.Proofs.Path.Meaning
import JsonQuery.Proofs.Evaluation.Outcome
import Mathlib.Data.List.Nodup

namespace JsonQuery.Path

open Evaluation

/-! ## Root paths and their numbers -/

/-- A path with its number, if it starts at the root. -/
def numbered (steps : List Step) : List (Nat × List Step) :=
  ((rootId? steps).map fun id => (id, steps)).toList

mutual

/-- The root paths in the filters of steps, in the order of their signs. -/
def rootPaths : List Step → List (Nat × List Step)
  | [] => []
  | step :: rest => step.rootPaths ++ rootPaths rest

/-- The root paths in the filters of a step. -/
def Step.rootPaths : Step → List (Nat × List Step)
  | .filter f => f.rootPaths
  | .union branches => JsonQuery.Path.rootPaths branches
  | .root _ | .current | .parent _ | .name _ | .index _ | .slice _ | .wildcard | .descend => []

/-- The root paths in a filter. -/
def Filter.rootPaths : Filter → List (Nat × List Step)
  | .literal _ => []
  | .path steps => numbered steps ++ JsonQuery.Path.rootPaths steps
  | .call _ args => rootPathsOfArgs args
  | .binary _ left right => left.rootPaths ++ right.rootPaths
  | .unary _ operand | .matching _ operand => operand.rootPaths

/-- The root paths in arguments. -/
def rootPathsOfArgs : List Filter → List (Nat × List Step)
  | [] => []
  | arg :: rest => arg.rootPaths ++ rootPathsOfArgs rest

end

theorem Step.rootPaths_of_isPlain {step : Step} (h : step.isPlain = true) : step.rootPaths = [] := by
  cases step <;> simp_all [Step.isPlain, Step.rootPaths]

theorem rootPaths_append (steps : List Step) (step : Step) :
    rootPaths (steps ++ [step]) = rootPaths steps ++ step.rootPaths := by
  induction steps with
  | nil => rw [List.nil_append, rootPaths, rootPaths, rootPaths, List.append_nil, List.nil_append]
  | cons head rest ih => rw [List.cons_append, rootPaths, ih, rootPaths, List.append_assoc]

/-- **`Counts first paths last`** — the numbers of root paths are those from `first` on, one after
another, up to the one before `last`. -/
def Counts (first : Nat) (paths : List (Nat × List Step)) (last : Nat) : Prop :=
  ∃ count, last = first + count ∧ paths.map (·.1) = List.range' first count

namespace Counts

variable {first middle last : Nat} {paths before after : List (Nat × List Step)}

theorem nil : Counts first [] first := ⟨0, rfl, rfl⟩

theorem append (hbefore : Counts first before middle) (hafter : Counts middle after last) :
    Counts first (before ++ after) last := by
  obtain ⟨m, rfl, hm⟩ := hbefore
  obtain ⟨n, rfl, hn⟩ := hafter
  refine ⟨m + n, Nat.add_assoc _ _ _, ?_⟩
  rw [List.map_append, hm, hn, List.range'_append_1]

/-- No number stands for two paths. -/
theorem unique (h : Counts first paths last) {id : Nat} {steps others : List Step}
    (hsteps : (id, steps) ∈ paths) (hothers : (id, others) ∈ paths) : steps = others := by
  obtain ⟨count, -, hnumbers⟩ := h
  have hnodup : (paths.map (·.1)).Nodup := hnumbers ▸ List.nodup_range'
  have hsame : (id, steps) = (id, others) := List.inj_on_of_nodup_map hnodup hsteps hothers rfl
  exact (Prod.mk.inj hsame).2

end Counts

theorem StepsRead.numbered_append {outer first last : Nat} {steps : List Step}
    (h : StepsRead outer first steps last) (step : Step) :
    (numbered (steps ++ [step])).map (·.1) = (numbered steps).map (·.1) := by
  cases hsteps : steps with
  | nil =>
      subst hsteps
      exact absurd h.length_pos (Nat.lt_irrefl 0)
  | cons head rest => cases head <;> rfl

mutual

theorem StepsRead.counts {outer first last : Nat} {steps : List Step} :
    StepsRead outer first steps last → Counts first (numbered steps ++ rootPaths steps) last
  | .root => ⟨1, rfl, rfl⟩
  | .current => .nil
  | @StepsRead.snoc _ _ _ _ steps step hsteps hstep => by
      obtain ⟨count, hlast, hnumbers⟩ := hsteps.counts.append hstep.counts
      refine ⟨count, hlast, ?_⟩
      rw [rootPaths_append, List.map_append, hsteps.numbered_append, ← List.map_append,
        ← List.append_assoc]
      exact hnumbers

theorem StepRead.counts {level first last : Nat} {step : Step} :
    StepRead level first step last → Counts first step.rootPaths last
  | .plain hplain => by
      rw [Step.rootPaths_of_isPlain hplain]
      exact .nil
  | .filter _ hf => hf.counts
  | .union hbranches _ => hbranches.counts

theorem BranchesRead.counts {level first last : Nat} {branches : List Step} :
    BranchesRead level first branches last → Counts first (rootPaths branches) last
  | .nil => .nil
  | .snoc hbranches hstep => by
      rw [rootPaths_append]
      exact hbranches.counts.append hstep.counts

theorem FilterRead.counts {level first last : Nat} {f : Filter} :
    FilterRead level first f last → Counts first f.rootPaths last
  | .literal => .nil
  | .path _ hsteps _ => hsteps.counts
  | .call _ _ hargs _ => hargs.counts
  | .binary hleft hright _ => hleft.counts.append hright.counts
  | .unary hoperand _ | .matching hoperand _ => hoperand.counts

theorem ArgsRead.counts {level first last : Nat} {args : List Filter} :
    ArgsRead level first args last → Counts first (rootPathsOfArgs args) last
  | .nil => .nil
  | .cons _ harg hrest => harg.counts.append hrest.counts

end

/-! ## What is remembered -/

/-- **`Sound c paths p`** — what is remembered for a number is the value of the path with it. -/
def Sound (c : Context) (paths : List (Nat × List Step)) (p : Progress) : Prop :=
  ∀ id steps v, (id, steps) ∈ paths → p.rootCache.lookup id = some v →
    ∀ current, (Filter.path steps).value? c current = some v

/-- **`Yields c paths f a`** — with nothing wrong remembered, `f` comes to `a`, and nothing wrong is
remembered then. -/
def Yields {α : Type} (c : Context) (paths : List (Nat × List Step)) (f : Evaluation α) (a : α) :
    Prop :=
  ∀ p, Sound c paths p → ∃ q, f c p = some (a, q) ∧ Sound c paths q

variable {c : Context} {paths : List (Nat × List Step)} {α β : Type}

/-- At the start nothing is remembered. -/
theorem sound_start : Sound c paths {} := by
  intro id steps v _ hlookup
  cases hlookup

namespace Yields

theorem pure (a : α) : Yields c paths (Pure.pure a : Evaluation α) a := fun p hp => ⟨p, rfl, hp⟩

theorem bind {f : Evaluation α} {g : α → Evaluation β} {a : α} {b : β} (hf : Yields c paths f a)
    (hg : Yields c paths (g a) b) : Yields c paths (f >>= g) b := by
  intro p hp
  obtain ⟨p', hrun, hp'⟩ := hf p hp
  obtain ⟨q, hrest, hq⟩ := hg p' hp'
  exact ⟨q, bind_eq_some.mpr ⟨a, p', hrun, hrest⟩, hq⟩

theorem read {g : Context → Evaluation β} {b : β} (hg : Yields c paths (g c) b) :
    Yields c paths (MonadReader.read >>= g) b := hg

theorem guard (hc : c.options.stepBudget = none) {missing : α} {f : Evaluation α} {a : α}
    (hf : Yields c paths f a) :
    Yields c paths (do if !(← Evaluation.tick) then return missing else f) a := by
  intro p hp
  -- A step that is counted leaves the cache as it was.
  obtain ⟨q, hrun, hq⟩ := hf { p with steps := p.steps + 1 } hp
  exact ⟨q, bind_eq_some.mpr ⟨true, _, tick_of_unbounded hc p, hrun⟩, hq⟩

theorem forEach {f : α → Evaluation β} {h : α → β} (hf : ∀ x, Yields c paths (f x) (h x))
    (xs : List α) : Yields c paths (Evaluation.forEach f xs) (xs.map h) := by
  induction xs with
  | nil => exact .pure _
  | cons x xs ih => exact (hf x).bind (ih.bind (.pure _))

theorem gather {action : Node → Evaluation (List Node)} {h : Node → List Node}
    (haction : ∀ n, Yields c paths (action n) (h n)) (nodes : List Node) :
    Yields c paths (gather action nodes) (nodes.flatMap h) :=
  (forEach haction nodes).bind (.pure _)

end Yields

/-- **`Caching c paths`** — what makes remembering safe: nothing is cut short, and no number stands
for two paths. -/
structure Caching (c : Context) (paths : List (Nat × List Step)) : Prop where
  unbounded : c.options.stepBudget = none
  unique : ∀ {id steps others}, (id, steps) ∈ paths → (id, others) ∈ paths → steps = others

namespace Caching

variable (h : Caching c paths)
include h

/-- What is remembered for the number of a path is its value, and otherwise it is followed. -/
theorem yields_cached {id : Nat} {steps : List Step} (hroot : rootId? steps = some id)
    (hmem : (id, steps) ∈ paths) {current : Value}
    (hfound : Yields c paths (select steps ⟨[], current⟩) (found c steps ⟨[], current⟩)) :
    Yields c paths (do
      match ← cachedRoot id with
      | some v => return some v
      | none =>
        match pathValue (isSingular steps) (← select steps ⟨[], current⟩) with
        | none => return none
        | some v =>
          cacheRoot id v
          return some v) ((Filter.path steps).value? c current) := by
  intro p hp
  cases hlookup : p.rootCache.lookup id with
  | some v =>
      refine ⟨p, bind_eq_some.mpr ⟨some v, p, ?_, ?_⟩, hp⟩
      · rw [← hlookup]
        rfl
      · rw [hp id steps v hmem hlookup current]
        rfl
  | none =>
      obtain ⟨q, hrun, hq⟩ := hfound p hp
      cases hvalue : pathValue (isSingular steps) (found c steps ⟨[], current⟩) with
      | none =>
          refine ⟨q, bind_eq_some.mpr ⟨none, p, ?_, bind_eq_some.mpr ⟨_, q, hrun, ?_⟩⟩, hq⟩
          · rw [← hlookup]
            rfl
          · rw [Filter.value?, hvalue]
            rfl
      | some v =>
          have hpath : ∀ other, (Filter.path steps).value? c other = some v := by
            intro other
            rw [Filter.value?, found_of_rootId hroot other current, hvalue]
          refine ⟨{ q with rootCache := (id, v) :: q.rootCache },
            bind_eq_some.mpr ⟨none, p, ?_, bind_eq_some.mpr ⟨_, q, hrun, ?_⟩⟩, ?_⟩
          · rw [← hlookup]
            rfl
          · rw [hpath current, hvalue]
            rfl
          · intro id' others v' hothers hlookup' other
            rw [List.lookup_cons] at hlookup'
            split at hlookup'
            next hsame =>
              obtain rfl := eq_of_beq hsame
              obtain rfl := Option.some.inj hlookup'
              rw [← h.unique hmem hothers]
              exact hpath other
            next => exact hq id' others v' hothers hlookup' other

end Caching

/-! ## Selection -/

theorem flatMap_filter (test : Node → Bool) (follow : Node → List Node) (nodes : List Node) :
    (nodes.filter test).flatMap follow
      = nodes.flatMap fun n => if test n then follow n else [] := by
  induction nodes with
  | nil => rfl
  | cons n rest ih =>
      rw [List.filter_cons, List.flatMap_cons, ← ih]
      split <;> rfl

namespace Caching

mutual

theorem yields_select (h : Caching c paths) (steps : List Step) (n : Node)
    (hmem : rootPaths steps ⊆ paths) : Yields c paths (select steps n) (found c steps n) := by
  cases steps with
  | nil =>
      simp only [select, found]
      exact .pure _
  | cons step rest =>
      rw [rootPaths] at hmem
      simp only [select, found_cons]
      have hrest : ∀ m, Yields c paths (select rest m) (found c rest m) := fun m =>
        h.yields_select rest m fun _ he => hmem (List.mem_append_right _ he)
      exact h.yields_follow step hrest n fun _ he => hmem (List.mem_append_left _ he)

theorem yields_follow (h : Caching c paths) (step : Step) {action : Node → Evaluation (List Node)}
    {follow : Node → List Node} (haction : ∀ n, Yields c paths (action n) (follow n)) (n : Node)
    (hmem : step.rootPaths ⊆ paths) :
    Yields c paths (step.follow action n) ((step.hits c n).flatMap follow) := by
  cases step with
  | filter f =>
      rw [Step.rootPaths] at hmem
      simp only [Step.follow, Step.hits, flatMap_filter]
      refine .guard h.unbounded (.gather (fun child => ?_) n.children)
      refine (h.yields_filter f child.value hmem).bind ?_
      cases passes (f.value? c child.value) with
      | true => exact haction child
      | false => exact .pure _
  | union branches =>
      rw [Step.rootPaths] at hmem
      simp only [Step.follow, Step.hits]
      exact .guard h.unbounded ((h.yields_branches branches n hmem).bind (.gather haction _))
  | root | current | parent | name | index | slice | wildcard | descend =>
      simp only [Step.follow, Step.hits]
      exact .guard h.unbounded (.read (.gather haction _))

theorem yields_branches (h : Caching c paths) (branches : List Step) (n : Node)
    (hmem : rootPaths branches ⊆ paths) :
    Yields c paths (selectBranches branches n) (hitsOfBranches c branches n) := by
  cases branches with
  | nil =>
      simp only [selectBranches, hitsOfBranches]
      exact .pure _
  | cons branch rest =>
      rw [rootPaths] at hmem
      simp only [selectBranches, hitsOfBranches]
      have hbranch := h.yields_follow branch (fun hit => .pure [hit]) n
        fun _ he => hmem (List.mem_append_left _ he)
      rw [List.flatMap_singleton'] at hbranch
      have hrest := h.yields_branches rest n fun _ he => hmem (List.mem_append_right _ he)
      exact hbranch.bind (hrest.bind (.pure _))

theorem yields_filter (h : Caching c paths) (f : Filter) (current : Value)
    (hmem : f.rootPaths ⊆ paths) :
    Yields c paths (f.eval current) (f.value? c current) := by
  cases f with
  | literal =>
      simp only [Filter.eval, Filter.value?]
      exact .guard h.unbounded (.pure _)
  | path steps =>
      rw [Filter.rootPaths] at hmem
      have hfound := h.yields_select steps ⟨[], current⟩ fun _ he =>
        hmem (List.mem_append_right _ he)
      simp only [Filter.eval]
      refine .guard h.unbounded ?_
      cases hroot : rootId? steps with
      | none =>
          simp only [Filter.value?]
          exact hfound.bind (.pure _)
      | some id =>
          refine h.yields_cached hroot (hmem (List.mem_append_left _ ?_)) hfound
          rw [numbered, hroot]
          exact List.mem_singleton_self _
  | call function args =>
      rw [Filter.rootPaths] at hmem
      simp only [Filter.eval, Filter.value?]
      refine .guard h.unbounded ((h.yields_args args current hmem).bind ?_)
      cases argValues? c args current <;> exact .pure _
  | binary op left right =>
      rw [Filter.rootPaths] at hmem
      have hleft := h.yields_filter left current fun _ he => hmem (List.mem_append_left _ he)
      have hright := h.yields_filter right current fun _ he => hmem (List.mem_append_right _ he)
      simp only [Filter.eval, Filter.value?]
      refine .guard h.unbounded ?_
      split
      · refine hleft.bind ?_
        cases op.shortCircuit ((left.value? c current).getD .null) with
        | some result => exact .pure _
        | none => exact hright.bind (.pure _)
      · refine hleft.bind ?_
        cases left.value? c current with
        | none => exact .pure _
        | some a =>
            refine hright.bind ?_
            cases right.value? c current <;> exact .pure _
  | unary op operand =>
      rw [Filter.rootPaths] at hmem
      cases op <;> simp only [Filter.eval, Filter.value?] <;>
        exact .guard h.unbounded ((h.yields_filter operand current hmem).bind (.pure _))
  | matching pattern operand =>
      rw [Filter.rootPaths] at hmem
      simp only [Filter.eval, Filter.value?]
      exact .guard h.unbounded ((h.yields_filter operand current hmem).bind (.pure _))

theorem yields_args (h : Caching c paths) (args : List Filter) (current : Value)
    (hmem : rootPathsOfArgs args ⊆ paths) :
    Yields c paths (Filter.evalArgs args current) (argValues? c args current) := by
  cases args with
  | nil =>
      simp only [Filter.evalArgs, argValues?]
      exact .pure _
  | cons arg rest =>
      rw [rootPathsOfArgs] at hmem
      simp only [Filter.evalArgs, argValues?]
      refine (h.yields_filter arg current fun _ he => hmem (List.mem_append_left _ he)).bind ?_
      cases arg.value? c current with
      | none => exact .pure _
      | some v =>
          refine (h.yields_args rest current fun _ he => hmem (List.mem_append_right _ he)).bind ?_
          cases argValues? c rest current <;> exact .pure _

end

end Caching

theorem caching_of_compile {text : String} {registry : Registry} {path : Path}
    (h : Path.compile text registry = .ok path) (root : Value) (maxDepth : Nat) :
    Caching ⟨root, ⟨maxDepth, none⟩⟩ (rootPaths path.steps) := by
  obtain ⟨⟨last, hsteps⟩, -⟩ := stepsRead_of_compile h
  refine ⟨rfl, fun hsteps₁ hsteps₂ => ?_⟩
  exact hsteps.counts.unique (List.mem_append_right _ hsteps₁) (List.mem_append_right _ hsteps₂)

/-- What a path comes to without a budget is what it means. -/
theorem evaluate_of_compile {text : String} {registry : Registry} {path : Path}
    (h : Path.compile text registry = .ok path) (document : Json) (maxDepth : Nat) :
    ∃ progress, path.evaluate document ⟨maxDepth, none⟩
      = .ok (path.meaning document maxDepth, progress) := by
  have hcaching := caching_of_compile h (.ofJson document) maxDepth
  obtain ⟨q, hrun, -⟩ := hcaching.yields_select path.steps ⟨[], .ofJson document⟩
    (fun _ he => he) {} sound_start
  have hstart : (do Path.select path.steps ⟨[], ← Evaluation.root⟩)
      ⟨.ofJson document, ⟨maxDepth, none⟩⟩ {} = some (path.meaning document maxDepth, q) := hrun
  refine ⟨q, ?_⟩
  rw [evaluate, complete, hstart]

/-- Within a budget too, what a path comes to is what it means. -/
theorem nodes_eq_of_ok {text : String} {registry : Registry} {path : Path}
    (h : Path.compile text registry = .ok path) {document : Json} {options : Options}
    {nodes : List Node} (hnodes : path.nodes document options = .ok nodes) :
    nodes = path.meaning document options.maxDepth := by
  obtain ⟨maxDepth, budget⟩ := options
  obtain ⟨progress, hfree⟩ := evaluate_of_compile h document maxDepth
  cases budget with
  | none =>
      rw [Path.nodes, hfree] at hnodes
      exact (Except.ok.inj hnodes).symm
  | some budget =>
      obtain ⟨outcome, hunbounded, hcut⟩ :=
        path.settled_evaluate.complete_cutOff document maxDepth budget
      obtain rfl := Except.ok.inj (hunbounded.symm.trans hfree)
      have hevaluate : path.evaluate document ⟨maxDepth, some budget⟩ = cutOff budget _ := hcut
      rw [Path.nodes, hevaluate, cutOff] at hnodes
      split at hnodes
      · exact (Except.ok.inj hnodes).symm
      · cases hnodes

/-- **`nodes_eq_meaning`** — without a step budget, a path selects on every document and with every
depth limit the nodes that it means, where nothing is remembered and every root path in a filter is
followed each time. -/
theorem nodes_eq_meaning {text : String} {registry : Registry} {path : Path}
    (h : Path.compile text registry = .ok path) (document : Json) (maxDepth : Nat) :
    path.nodes document ⟨maxDepth, none⟩ = .ok (path.meaning document maxDepth) := by
  obtain ⟨progress, hevaluate⟩ := evaluate_of_compile h document maxDepth
  rw [Path.nodes, hevaluate]
  rfl

/-- The value of `$[0]` is computed for the first item and looked up for the other two. -/
theorem nodes_eq_meaning_items : ∃ path, Path.compile "$[?@ == $[0]]" = .ok path ∧
    path.nodes (.array [.string "x", .string "y", .string "x"]) ⟨5, none⟩
      = .ok (path.meaning (.array [.string "x", .string "y", .string "x"]) 5) ∧
    (path.meaning (.array [.string "x", .string "y", .string "x"]) 5).map (·.location)
      = [[.index 0], [.index 2]] := by
  have heval : ((Path.compile "$[?@ == $[0]]").toOption.map fun path =>
      (path.meaning (.array [.string "x", .string "y", .string "x"]) 5).map (·.location))
        = some [[.index 0], [.index 2]] := by decide +kernel
  obtain ⟨path, hpath, hlocations⟩ := Option.map_eq_some_iff.mp heval
  have hcompile := eq_ok_of_toOption hpath
  exact ⟨path, hcompile, nodes_eq_meaning hcompile _ 5, hlocations⟩

end JsonQuery.Path
