/-
# JsonQuery.Proofs.Path.Singular — singular paths select at most one node.

A path is called singular for its steps alone: a sign, a name, an index and carets.  What it selects
depends on all that is met on the way, on members that may be missing, on what carets find from the
root, on the steps left in the budget.  From any node and in any state there is at most one node in
the end, since each of these steps leads to at most one.  So a filter that takes the first node of a
singular path takes all there are.
-/
import JsonQuery.Proofs.Path.Budget

namespace JsonQuery

open Evaluation

/-! ## Around a node -/

namespace Node

theorem length_member_le_one (n : Node) (name : String) : (n.member name).length ≤ 1 := by
  rw [member]
  split
  next entries hentries =>
    split
    · exact Nat.le_refl 1
    · exact Nat.zero_le 1
  next items hitems =>
    by_cases hname : name = "length"
    · rw [if_pos hname]
      exact Nat.le_refl 1
    · rw [if_neg hname]
      exact Nat.zero_le 1
  next => exact Nat.zero_le 1

/-- There are no more nodes than places asked for, whatever the length of the array. -/
theorem length_itemsAt_le {places : Nat → List Nat} {count : Nat}
    (h : ∀ len, (places len).length ≤ count) (n : Node) : (n.itemsAt places).length ≤ count := by
  rw [itemsAt]
  split
  next items hitems => exact Nat.le_trans (List.length_filterMap_le _ _) (h items.length)
  next => exact Nat.zero_le count

theorem length_ancestor_le_one (n : Node) (root : Value) (levels : Nat) :
    (n.ancestor root levels).length ≤ 1 := by
  rw [ancestor]
  by_cases hlevels : n.location.length < levels
  · rw [if_pos hlevels]
    exact Nat.zero_le 1
  · rw [if_neg hlevels]
    dsimp only
    split
    · exact Nat.le_refl 1
    · exact Nat.zero_le 1

end Node

namespace Path

variable {steps : List Step} {nodes : List Node} {c : Context} {p q : Progress}

/-- A step of a singular path leads to at most one node. -/
theorem length_targets_le_one {step : Step} (h : step.isSingular = true) (c : Context) (n : Node) :
    (step.targets c n).length ≤ 1 := by
  cases step with
  | root | current => exact Nat.le_refl 1
  | parent levels => exact n.length_ancestor_le_one c.root levels
  | name key => exact n.length_member_le_one key
  | index i =>
      rw [Step.targets]
      apply Node.length_itemsAt_le
      intro len
      cases normalizeIndex i len with
      | none => exact Nat.zero_le 1
      | some place => exact Nat.le_refl 1
  | slice | wildcard | descend | filter | union => cases h

/-! ## Selection -/

/-- An action that finds at most one node on every node finds at most one on at most one. -/
theorem length_gather_le_one {action : Node → Evaluation (List Node)}
    (haction : ∀ {n p found q}, action n c p = some (found, q) → found.length ≤ 1)
    (hnodes : nodes.length ≤ 1) {found : List Node}
    (h : gather action nodes c p = some (found, q)) : found.length ≤ 1 := by
  match nodes, hnodes with
  | [], _ =>
      obtain ⟨rfl, -⟩ := Prod.mk.inj (Option.some.inj h)
      exact Nat.zero_le 1
  | [n], _ =>
      obtain ⟨results, q', hresults, hfound⟩ := bind_eq_some.mp h
      obtain ⟨rfl, -⟩ := Prod.mk.inj (Option.some.inj hfound)
      obtain ⟨result, q'', hresult, hrest⟩ := bind_eq_some.mp hresults
      obtain ⟨rfl, -⟩ := Prod.mk.inj (Option.some.inj hrest)
      have hone : result.length ≤ 1 := haction hresult
      simpa using hone
  | _ :: _ :: _, hnodes => exact absurd hnodes (by simp)

/-- **`length_le_one_of_select`** — from any node and in any state, the steps of a singular path
find at most one node. -/
theorem length_le_one_of_select (h : isSingular steps = true) {n : Node}
    (hrun : select steps n c p = some (nodes, q)) : nodes.length ≤ 1 := by
  induction steps generalizing n p nodes q with
  | nil =>
      rw [select] at hrun
      obtain ⟨rfl, -⟩ := Prod.mk.inj (Option.some.inj hrun)
      exact Nat.le_refl 1
  | cons step rest ih =>
      rw [isSingular, List.all_cons, Bool.and_eq_true] at h
      rw [select] at hrun
      -- Behind the step that is counted, all that is left to do is to go on from its targets.
      have hfollow : step.follow (select rest) n = (do
          if !(← tick) then return []
          gather (select rest) (step.targets (← read) n)) := by
        cases step with
        | root | current | parent | name | index => simp only [Step.follow]
        | slice | wildcard | descend | filter | union => cases h.1
      rw [hfollow] at hrun
      obtain ⟨inTime, p', -, hrest⟩ := bind_eq_some.mp hrun
      cases inTime with
      | false =>
          obtain ⟨rfl, -⟩ := Prod.mk.inj (Option.some.inj hrest)
          exact Nat.zero_le 1
      | true =>
          have hgather : gather (select rest) (step.targets c n) c p' = some (nodes, q) := hrest
          exact length_gather_le_one (fun hrun => ih h.2 hrun) (length_targets_le_one h.1 c n)
            hgather

/-! ## Filters -/

/-- The first of at most one node is all of them. -/
theorem toList_pathValue (h : nodes.length ≤ 1) :
    (pathValue true nodes).toList = nodes.map (·.value) := by
  match nodes, h with
  | [], _ => rfl
  | [n], _ => rfl
  | _ :: _ :: _, h => exact absurd h (by simp)

/-- A path in a filter whose value is not remembered is followed from the tested value. -/
theorem exists_eval_path {current : Value} (hbudget :
      Progress.isExhausted { p with steps := p.steps + 1 } c.options = false)
    (hmissing : ∀ id, rootId? steps = some id → p.rootCache.lookup id = none)
    (hrun : select steps ⟨[], current⟩ c { p with steps := p.steps + 1 } = some (nodes, q)) :
    ∃ q', (Filter.path steps).eval current c p
      = some (pathValue (isSingular steps) nodes, q') := by
  have htick : tick c p = some (true, { p with steps := p.steps + 1 }) := by
    simp only [tick, hbudget, Bool.not_false]
  rw [Filter.eval]
  cases hroot : rootId? steps with
  | none =>
      exact ⟨q, bind_eq_some.mpr ⟨true, _, htick, bind_eq_some.mpr ⟨nodes, q, hrun, rfl⟩⟩⟩
  | some id =>
      have hlookup : p.rootCache.lookup id = none := hmissing id hroot
      have hcached : cachedRoot id c { p with steps := p.steps + 1 }
          = some (none, { p with steps := p.steps + 1 }) := by
        rw [← hlookup]
        rfl
      cases hvalue : pathValue (isSingular steps) nodes with
      | none =>
          refine ⟨q, bind_eq_some.mpr ⟨true, _, htick, bind_eq_some.mpr ⟨none, _, hcached, ?_⟩⟩⟩
          refine bind_eq_some.mpr ⟨nodes, q, hrun, ?_⟩
          rw [hvalue]
          rfl
      | some v =>
          refine ⟨{ q with rootCache := (id, v) :: q.rootCache },
            bind_eq_some.mpr ⟨true, _, htick, bind_eq_some.mpr ⟨none, _, hcached, ?_⟩⟩⟩
          refine bind_eq_some.mpr ⟨nodes, q, hrun, ?_⟩
          rw [hvalue]
          rfl

/-- **`select_singular`** — a singular path selects at most one node, from every node, in every
document and in every state of the evaluation.  So where a filter follows it, and does not look its
value up, the value of the filter is that of the only node, and there is none if no node is
selected. -/
theorem select_singular (h : isSingular steps = true) (c : Context) (p : Progress) :
    (∀ n, ∃ nodes q, select steps n c p = some (nodes, q) ∧ nodes.length ≤ 1) ∧
    (Progress.isExhausted { p with steps := p.steps + 1 } c.options = false →
      (∀ id, rootId? steps = some id → p.rootCache.lookup id = none) →
      ∀ current, ∃ nodes q v q',
        select steps ⟨[], current⟩ c { p with steps := p.steps + 1 } = some (nodes, q) ∧
        (Filter.path steps).eval current c p = some (v, q') ∧ v.toList = nodes.map (·.value)) := by
  constructor
  · intro n
    obtain ⟨nodes, q, hrun⟩ := (settled_select steps n).ends c p
    exact ⟨nodes, q, hrun, length_le_one_of_select h hrun⟩
  · intro hbudget hmissing current
    obtain ⟨nodes, q, hrun⟩ :=
      (settled_select steps ⟨[], current⟩).ends c { p with steps := p.steps + 1 }
    obtain ⟨q', heval⟩ := exists_eval_path hbudget hmissing hrun
    refine ⟨nodes, q, _, q', hrun, heval, ?_⟩
    rw [h]
    exact toList_pathValue (length_le_one_of_select h hrun)

/-- The path `$.a[-1]^.length` in a filter, with a budget that is just enough: the only node is the
length of the array. -/
theorem select_singular_length :
    let steps := [Step.root 0, .name "a", .index (-1), .parent 1, .name "length"]
    let c : Context := ⟨.object [("a", .array [.null, .bool true])], ⟨100, some 6⟩⟩
    isSingular steps = true ∧ ∃ nodes q q', select steps ⟨[], .null⟩ c {} = some (nodes, q) ∧
      nodes.length ≤ 1 ∧
      (Filter.path steps).eval .null c {} = some (some (.number (Number.ofInt 2)), q') := by
  intro steps c
  have hsteps : isSingular steps = true := by decide
  obtain ⟨hselects, hfollows⟩ := select_singular hsteps c {}
  obtain ⟨nodes, q, hrun, hone⟩ := hselects ⟨[], .null⟩
  obtain ⟨nodes', r, v, q', hrun', heval, hvalue⟩ := hfollows (by decide) (fun _ _ => rfl) .null
  refine ⟨hsteps, nodes, q, q', hrun, hone, ?_⟩
  have hnodes : select steps ⟨[], .null⟩ c { steps := 1 }
      = some ([⟨[.name "a", .name "length"], .number (Number.ofInt 2)⟩], { steps := 6 }) := by
    with_unfolding_all rfl
  obtain ⟨rfl, -⟩ := Prod.mk.inj (Option.some.inj (hnodes.symm.trans hrun'))
  rw [heval]
  cases v with
  | none => cases hvalue
  | some v => rw [(List.cons.inj hvalue).1]

end Path

end JsonQuery
