/-
# JsonQuery.Proofs.Path.Ascent — going up again inside a filter.

A path in a filter starts at the tested value with an empty location, so the location it has got to
leads down from the tested value.  Going up takes steps off that location and looks up what is left
of it; but the look-up starts from the root of the document.  The place is an ancestor's, the value
there is the document's: whatever the document holds, if anything, where the ancestor stands in the
tested value.
-/
import JsonQuery.Proofs.Path.RootCache

namespace JsonQuery.Path

open Location (Element)

/-! ## Going down -/

/-- Whether a step is a member name or an index. -/
def Step.goesDown : Step → Bool
  | .name _ | .index _ => true
  | _ => false

/-- The child of a value that a name or an index means, and what a location calls it. -/
def Step.child? : Step → Value → Option (Element × Value)
  | .name key, .object entries => (Entries.get? entries key).map fun v => (.name key, v)
  | .name key, .array items =>
    if key = "length" then some (.name key, .number (Number.ofInt items.length)) else none
  | .index i, .array items => do
    let place ← normalizeIndex i items.length
    return (.index place, ← items[place]?)
  | _, _ => none

/-- **`reached steps v`** — where names and indices lead from a value, and the value there; none if
one of them does not resolve. -/
def reached : List Step → Value → Option (Location × Value)
  | [], v => some ([], v)
  | step :: rest, v => do
    let (e, child) ← step.child? v
    let (l, below) ← reached rest child
    return (e :: l, below)

variable {c : Context} {steps : List Step} {v w : Value} {l : Location}

theorem reached_cons_eq_some {step : Step} : reached (step :: steps) v = some (l, w) ↔
    ∃ e child rest, step.child? v = some (e, child) ∧ reached steps child = some (rest, w) ∧
      l = e :: rest := by
  simp only [reached, Option.bind_eq_bind, Option.bind_eq_some_iff, Prod.exists, Option.pure_def,
    Option.some.injEq, Prod.mk.injEq]
  constructor
  · rintro ⟨e, child, hchild, rest, below, hrest, rfl, rfl⟩
    exact ⟨e, child, rest, hchild, hrest, rfl⟩
  · rintro ⟨e, child, rest, hchild, hrest, rfl⟩
    exact ⟨e, child, hchild, rest, w, hrest, rfl, rfl⟩

/-- Every step adds one element to the location. -/
theorem length_of_reached (h : reached steps v = some (l, w)) : l.length = steps.length := by
  induction steps generalizing v l with
  | nil =>
      obtain ⟨rfl, -⟩ := Prod.mk.inj (Option.some.inj h)
      rfl
  | cons step rest ih =>
      obtain ⟨e, child, below, -, hrest, rfl⟩ := reached_cons_eq_some.mp h
      rw [List.length_cons, List.length_cons, ih hrest]

/-- The first of some steps lead to the first part of the location. -/
theorem reached_take (h : reached steps v = some (l, w)) (count : Nat) :
    ∃ above, reached (steps.take count) v = some (l.take count, above) := by
  induction steps generalizing v l count with
  | nil =>
      obtain ⟨rfl, -⟩ := Prod.mk.inj (Option.some.inj h)
      exact ⟨v, by rw [List.take_nil, List.take_nil, reached]⟩
  | cons step rest ih =>
      obtain ⟨e, child, below, hchild, hrest, rfl⟩ := reached_cons_eq_some.mp h
      cases count with
      | zero => exact ⟨v, rfl⟩
      | succ count =>
          obtain ⟨above, habove⟩ := ih hrest count
          exact ⟨above, reached_cons_eq_some.mpr ⟨e, child, _, hchild, habove, rfl⟩⟩

/-! ## What the steps select -/

theorem hits_of_goesDown {step : Step} (hstep : step.goesDown = true) (l : Location) (v : Value) :
    step.hits c ⟨l, v⟩ = ((step.child? v).map fun r => ⟨l ++ [r.1], r.2⟩).toList := by
  cases step with
  | name key =>
      simp only [Step.hits, Step.targets, Node.member]
      cases v with
      | object entries =>
          simp only [Step.child?]
          cases Entries.get? entries key <;> rfl
      | array items =>
          simp only [Step.child?]
          split <;> rfl
      | null | bool | number | string | reference => rfl
  | index i =>
      simp only [Step.hits, Step.targets, Node.itemsAt]
      cases v with
      | array items =>
          simp only [Step.child?]
          cases normalizeIndex i items.length with
          | none => rfl
          | some place => cases hitem : items[place]? <;> simp [hitem, Node.below]
      | null | bool | number | string | object | reference => rfl
  | root | current | parent | slice | wildcard | descend | filter | union => cases hstep

theorem found_of_goesDown (hsteps : steps.all Step.goesDown = true) (l : Location) (v : Value) :
    found c steps ⟨l, v⟩ = ((reached steps v).map fun r => ⟨l ++ r.1, r.2⟩).toList := by
  induction steps generalizing l v with
  | nil =>
      rw [found, reached, Option.map_some, List.append_nil]
      rfl
  | cons step rest ih =>
      rw [List.all_cons, Bool.and_eq_true] at hsteps
      rw [found_cons, hits_of_goesDown hsteps.1, reached]
      cases step.child? v with
      | none => rfl
      | some r =>
          obtain ⟨e, child⟩ := r
          simp only [Option.map_some, Option.toList_some, List.flatMap_singleton, ih hsteps.2,
            Option.bind_eq_bind, Option.bind_some]
          cases reached rest child with
          | none => rfl
          | some below => simp [List.append_assoc]

/-! ## Going up again -/

/-- So many carets; none are no step at all. -/
def carets : Nat → List Step
  | 0 => []
  | levels + 1 => [.parent (levels + 1)]

/-- **`ascending steps levels`** — the operand `@` with steps and so many carets behind them. -/
def ascending (steps : List Step) (levels : Nat) : Filter :=
  .path (.current :: (steps ++ carets levels))

theorem isSingular_ascending (hsteps : steps.all Step.goesDown = true) (levels : Nat) :
    isSingular (.current :: (steps ++ carets levels)) = true := by
  rw [isSingular, List.all_cons, List.all_append, Bool.and_eq_true, Bool.and_eq_true]
  refine ⟨rfl, ?_, by cases levels <;> rfl⟩
  rw [List.all_eq_true] at hsteps ⊢
  intro step hstep
  have hdown := hsteps step hstep
  cases step <;> first | rfl | cases hdown

theorem isPlain_of_goesDown {step : Step} (h : step.goesDown = true) : step.isPlain = true := by
  cases step <;> first | rfl | cases h

/-- Steps without filters hold no root path. -/
theorem rootPaths_eq_nil (h : ∀ step ∈ steps, step.rootPaths = []) : rootPaths steps = [] := by
  induction steps with
  | nil => rfl
  | cons step rest ih =>
      rw [List.forall_mem_cons] at h
      rw [rootPaths, h.1, ih h.2, List.append_nil]

/-- There is no root path in the operand. -/
theorem rootPaths_ascending (hsteps : steps.all Step.goesDown = true) (levels : Nat) :
    (ascending steps levels).rootPaths = [] := by
  have hplain : ∀ step ∈ steps ++ carets levels, step.rootPaths = [] := by
    intro step hstep
    rcases List.mem_append.mp hstep with hdown | hcaret
    · exact Step.rootPaths_of_isPlain (isPlain_of_goesDown (List.all_eq_true.mp hsteps step hdown))
    · cases levels with
      | zero => cases hcaret
      | succ levels =>
          obtain rfl := List.mem_singleton.mp hcaret
          rfl
  rw [ascending, Filter.rootPaths, rootPaths, rootPaths_eq_nil hplain]
  rfl

/-- What is looked up `levels` steps above the end of the steps is what the document has there. -/
theorem value?_ascending (hsteps : steps.all Step.goesDown = true) {x : Value}
    (h : reached steps x = some (l, w)) {levels : Nat} (hlevels : levels ≤ steps.length) :
    (ascending steps levels).value? c x
      = if levels = 0 then some w
        else Location.resolve? (l.take (steps.length - levels)) c.root := by
  have hlength : List.length l = steps.length := length_of_reached h
  rw [ascending, Filter.value?, isSingular_ascending hsteps, found_cons]
  simp only [Step.hits, Step.targets, List.flatMap_singleton]
  rw [found_append, found_of_goesDown hsteps, h]
  simp only [Option.map_some, Option.toList_some, List.flatMap_singleton, List.nil_append]
  cases levels with
  | zero => rfl
  | succ levels =>
      have hfound : found c (carets (levels + 1)) ⟨l, w⟩
          = Node.ancestor ⟨l, w⟩ c.root (levels + 1) := by
        simp only [carets, found_cons, Step.hits, Step.targets]
        simp only [found, List.flatMap_singleton']
      simp only [hfound, Node.ancestor, hlength, if_neg (Nat.not_lt.mpr hlevels),
        if_neg (Nat.succ_ne_zero levels)]
      cases Location.resolve? (l.take (steps.length - (levels + 1))) c.root <;> rfl

/-- With nothing to remember, the operand comes to what it means. -/
theorem exists_eval_ascending (hsteps : steps.all Step.goesDown = true) (levels : Nat)
    (root x : Value) (maxDepth : Nat) (p : Progress) :
    ∃ q, (ascending steps levels).eval x ⟨root, ⟨maxDepth, none⟩⟩ p
      = some ((ascending steps levels).value? ⟨root, ⟨maxDepth, none⟩⟩ x, q) := by
  have hcaching : Caching ⟨root, ⟨maxDepth, none⟩⟩ [] := ⟨rfl, fun hsteps₁ => nomatch hsteps₁⟩
  have hnone : (ascending steps levels).rootPaths ⊆ [] := by
    rw [rootPaths_ascending hsteps]
    exact List.Subset.refl _
  obtain ⟨q, hrun, -⟩ := hcaching.yields_filter (ascending steps levels) x hnone p
    fun _ _ _ hmem => nomatch hmem
  exact ⟨q, hrun⟩

/-- **`eval_ascending`** — where steps lead from a tested value `x`, the operand `@` with the steps
and `levels` carets has the value at their end if there is no caret; and otherwise it has what the
document has at the place where the ancestor stands in `x`.  So it has the value of the ancestor
exactly where the document has the same value there. -/
theorem eval_ascending (hsteps : steps.all Step.goesDown = true) {x : Value}
    (h : reached steps x = some (l, w)) {levels : Nat} (hlevels : levels ≤ steps.length)
    (root : Value) (maxDepth : Nat) :
    ∃ above, reached (steps.take (steps.length - levels)) x
        = some (l.take (steps.length - levels), above)
      ∧ ∀ p, ∃ v q, (ascending steps levels).eval x ⟨root, ⟨maxDepth, none⟩⟩ p = some (v, q)
        ∧ v = (if levels = 0 then some w
            else Location.resolve? (l.take (steps.length - levels)) root)
        ∧ (v = some above ↔ levels = 0
            ∨ Location.resolve? (l.take (steps.length - levels)) root = some above) := by
  obtain ⟨above, habove⟩ := reached_take h (steps.length - levels)
  refine ⟨above, habove, fun p => ?_⟩
  obtain ⟨q, hrun⟩ := exists_eval_ascending hsteps levels root x maxDepth p
  rw [value?_ascending hsteps h hlevels] at hrun
  refine ⟨_, q, hrun, rfl, ?_⟩
  rcases Nat.eq_zero_or_pos levels with rfl | hpos
  · rw [Nat.sub_zero, List.take_length, h] at habove
    simp only [if_true, true_or, iff_true]
    exact congrArg some (Prod.mk.inj (Option.some.inj habove)).2
  · rw [if_neg (Nat.ne_of_gt hpos)]
    simp only [Nat.ne_of_gt hpos, false_or]

/-- `@.a.b^` on `{"a": {"b": true}}`, in a document that has something else at `a`: the value is the
document's and not that of the ancestor. -/
theorem eval_ascending_name : ∃ q,
    (ascending [.name "a", .name "b"] 1).eval (.object [("a", .object [("b", .bool true)])])
        ⟨.object [("a", .null)], ⟨100, none⟩⟩ {} = some (some .null, q)
      ∧ some Value.null ≠ some (.object [("b", .bool true)]) := by
  have hsteps : [Step.name "a", .name "b"].all Step.goesDown = true := rfl
  have hreached : reached [.name "a", .name "b"] (.object [("a", .object [("b", .bool true)])])
      = some ([.name "a", .name "b"], .bool true) := rfl
  have hlevels : 1 ≤ [Step.name "a", .name "b"].length := by decide
  obtain ⟨above, habove, hevals⟩ :=
    eval_ascending hsteps hreached hlevels (.object [("a", .null)]) 100
  obtain rfl : Value.object [("b", .bool true)] = above :=
    (Prod.mk.inj (Option.some.inj habove)).2
  obtain ⟨v, q, hrun, rfl, hvalue⟩ := hevals {}
  exact ⟨q, hrun, nofun⟩

/-- **`ascent_leaves_tested`** — in `[{"a": null}]` the operand `@.a^` is not the tested object but
the document, so that `$[?@.a^ == @]` selects nothing. -/
theorem ascent_leaves_tested :
    (∃ path, Path.compile "$[?@.a^ == @]" = .ok path
      ∧ path.nodes (.array [.object [("a", .null)]]) {} = .ok [])
    ∧ reached [.name "a"] (.object [("a", .null)]) = some ([.name "a"], .null)
    ∧ ∀ p, ∃ q, (ascending [.name "a"] 1).eval (.object [("a", .null)])
          ⟨.array [.object [("a", .null)]], {}⟩ p
        = some (some (.array [.object [("a", .null)]]), q)
      ∧ some (.array [.object [("a", .null)]]) ≠ some (Value.object [("a", .null)]) := by
  have heval : ((Path.compile "$[?@.a^ == @]").toOption.bind fun path =>
      (path.nodes (.array [.object [("a", .null)]]) {}).toOption.map List.isEmpty) = some true := by
    decide +kernel
  obtain ⟨path, hpath, hselected⟩ := Option.bind_eq_some_iff.mp heval
  obtain ⟨nodes, hnodes, hempty⟩ := Option.map_eq_some_iff.mp hselected
  obtain rfl := List.isEmpty_iff.mp hempty
  have hreached : reached [.name "a"] (.object [("a", .null)]) = some ([.name "a"], .null) := rfl
  refine ⟨⟨path, eq_ok_of_toOption hpath, eq_ok_of_toOption hnodes⟩, hreached, fun p => ?_⟩
  have hsteps : [Step.name "a"].all Step.goesDown = true := rfl
  obtain ⟨q, hrun⟩ := exists_eval_ascending hsteps 1
    (.array [.object [("a", .null)]]) (.object [("a", .null)]) 100 p
  rw [value?_ascending hsteps hreached (Nat.le_refl 1)] at hrun
  exact ⟨q, hrun, nofun⟩

end JsonQuery.Path
