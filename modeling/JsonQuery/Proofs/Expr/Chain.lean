/-
# JsonQuery.Proofs.Expr.Chain — what a chain of steps means.

A step behind a projection applies to every element, so its meaning depends on all steps before it.
Read from the left, though, a chain means something simple: `Link.through` walks it with one value,
and where a link projects, the rest of the chain is for each of its elements.  Only `[]` ends what is
projecting and starts over with the whole result.  The parser builds the tree from the other end, step
by step inside the innermost projection; here the trees of both are one, and it evaluates to the
meaning.
-/
import JsonQuery.Proofs.Evaluation.Outcome

namespace JsonQuery

open Evaluation (passing)

/-! ## Chains -/

/-- A step of a chain, other than `[]`. -/
inductive Link where
  /-- `.name` -/
  | field (name : String)
  /-- `[i]` -/
  | index (i : Int)
  /-- `[start:stop:step]` -/
  | slice (s : Slice)
  /-- `[*]` -/
  | items
  /-- `.*` -/
  | values
  /-- `[?predicate]` -/
  | filter (predicate : Expr)

/-- The steps behind an operand: some links, or `[]` behind a chain and the links that follow. -/
inductive Chain where
  | direct (links : List Link)
  | flatten (before : Chain) (after : List Link)

/-! ## Meaning -/

section Meaning

/-- The rest of a chain on each of some elements, with nulls dropped; `null` if there is nothing to
go through. -/
def Link.spread (rest : Value → Option Value) (elements : Option (List Value)) : Option Value :=
  match elements with
  | none => some .null
  | some elements =>
    (elements.mapM rest).map fun results => .array (results.filter fun v => !v.isNull)

/-- **`Link.through`** — the value to which links lead from a value, read from the left, given which
values pass a predicate; none where that cannot be decided. -/
def Link.through (test : Expr → Value → Option Bool) : List Link → Value → Option Value
  | [], v => some v
  | .field name :: rest, v => through test rest ((v.get? name).getD .null)
  | .index i :: rest, v => through test rest ((do
      let items ← v.items?
      items[← normalizeIndex i items.length]?).getD .null)
  | .slice s :: rest, v => spread (through test rest) (v.items?.map fun items =>
      (s.indices items.length).filterMap (items[·]?))
  | .items :: rest, v => spread (through test rest) v.items?
  | .values :: rest, v =>
    spread (through test rest) (v.entries?.map fun entries => entries.map (·.2))
  | .filter predicate :: rest, v =>
    match v.items? with
    | none => some .null
    | some elements => do spread (through test rest) (some (← passing (test predicate) elements))

/-- **`Chain.meaning`** — the value to which a chain leads from a value: what stands before the last
`[]` is evaluated first, and the links behind it are for each item of the result and of the arrays
among its items. -/
def Chain.meaning (test : Expr → Value → Option Bool) : Chain → Value → Option Value
  | .direct links, v => Link.through test links v
  | .flatten before after, v => do
    let base ← before.meaning test v
    Link.spread (Link.through test after) (base.items?.map fun items =>
      items.flatMap fun item => item.items?.getD [item])

end Meaning

/-! ## Trees -/

/-- The tree of links on an operand. -/
def Link.tree : List Link → Expr → Expr
  | [], e => e
  | .field name :: rest, e => tree rest (e.step (.field name))
  | .index i :: rest, e => tree rest (e.step (.index i))
  | .slice s :: rest, e => .project .list (e.step (.slice s)) (tree rest .current)
  | .items :: rest, e => .project .list e (tree rest .current)
  | .values :: rest, e => .project .object e (tree rest .current)
  | .filter predicate :: rest, e => .project (.filter predicate) e (tree rest .current)

/-- The tree of a chain on an operand. -/
def Chain.tree : Chain → Expr → Expr
  | .direct links, e => Link.tree links e
  | .flatten before after, e => .project .flatten (before.tree e) (Link.tree after .current)

/-! ## Evaluation -/

theorem Value.flatten_eq_flatMap (items : List Value) :
    Value.flatten items = items.flatMap fun item => item.items?.getD [item] := by
  induction items with
  | nil => rfl
  | cons item rest ih => cases item <;> simp [Value.flatten, Value.items?, ih]

namespace Expr

variable {c : Context} (hc : c.options.stepBudget = none)

/-- The results that a projection keeps, where all of them exist. -/
theorem present_map_some (results : List Value) :
    Value.present (results.map some) = results.filter fun v => !v.isNull := by
  induction results with
  | nil => rfl
  | cons v rest ih =>
      cases hv : v.isNull <;> simp_all [Value.present]

theorem mapM_map_some {α β : Type} (f : α → Option β) (xs : List α) :
    (xs.mapM fun x => (f x).map some) = (xs.mapM f).map (List.map some) := by
  induction xs with
  | nil => rfl
  | cons x xs ih =>
      rw [List.mapM_cons, List.mapM_cons, ih]
      cases f x with
      | none => rfl
      | some y => cases xs.mapM f <;> rfl

include hc

/-- `left.right` has the outcome of a chain, also where the current value is left out. -/
theorem outcome_step (left right : Expr) (v : Value) :
    (left.step right).outcome c v = (left.outcome c v).bind (onward (right.outcome c)) := by
  cases left with
  | current => rw [outcome_current hc]; rfl
  | _ => exact outcome_chain hc v _ _

/-- A projection whose right side leads on from every element. -/
theorem outcome_project_spread {kind : Projection} {e right : Expr}
    {rest : Value → Option Value} (hright : ∀ x, right.outcome c x = (rest x).map some) (v : Value) :
    (Expr.project kind e right).outcome c v
      = (e.outcome c v).bind (onward fun base =>
          ((elements c kind base).bind (Link.spread rest)).map some) := by
  have hfun : right.outcome c = fun x => (rest x).map some := funext hright
  rw [outcome_project hc, hfun]
  refine congrArg (Option.bind _) (onward_congr fun base => ?_)
  rw [Option.map_bind]
  refine Option.bind_congr fun found _ => ?_
  cases found with
  | none => rfl
  | some found =>
      simp only [Option.elim_some, Function.comp_apply, mapM_map_some, Link.spread, Option.map_map]
      refine Option.map_congr fun results _ => ?_
      rw [Function.comp_apply, Function.comp_apply, present_map_some]

/-- **`outcome_links`** — the tree of links evaluates to what they mean. -/
theorem outcome_links (links : List Link) (e : Expr) (v : Value) :
    (Link.tree links e).outcome c v
      = (e.outcome c v).bind (onward fun base => (Link.through (passes c) links base).map some) := by
  induction links generalizing e v with
  | nil =>
      have hself : (onward fun base => (Link.through (passes c) [] base).map some) = some := by
        funext base
        cases base <;> rfl
      rw [Link.tree, hself]
      exact (Option.bind_fun_some _).symm
  | cons link rest ih =>
      -- The rest of the links stands on the current value where they are for each element.
      have hright : ∀ x, (Link.tree rest .current).outcome c x
          = (Link.through (passes c) rest x).map some := by
        intro x
        rw [ih, outcome_current hc]
        rfl
      cases link with
      | field name =>
          rw [Link.tree, ih, outcome_step hc]
          exact bind_onward (fun base => by rw [outcome_field hc]; rfl) _
      | index i =>
          rw [Link.tree, ih, outcome_step hc]
          exact bind_onward (fun base => by rw [outcome_index hc]; rfl) _
      | slice s =>
          rw [Link.tree, outcome_project_spread hc hright, outcome_step hc]
          refine bind_onward (fun base => ?_) _
          rw [outcome_slice hc, Link.through]
          cases base.items? <;> rfl
      | items | values =>
          rw [Link.tree, outcome_project_spread hc hright]
          rfl
      | filter predicate =>
          rw [Link.tree, outcome_project_spread hc hright]
          refine congrArg (Option.bind _) (onward_congr fun base => ?_)
          rw [elements, Link.through]
          cases base.items? with
          | none => rfl
          | some inside =>
              simp only [Option.bind_map]
              rfl

/-- **`outcome_chain_tree`** — the tree of a chain evaluates to what the chain means on the value of
its operand. -/
theorem outcome_chain_tree (chain : Chain) (e : Expr) (v : Value) :
    (chain.tree e).outcome c v
      = (e.outcome c v).bind (onward fun base => (chain.meaning (passes c) base).map some) := by
  induction chain with
  | direct links => exact outcome_links hc links e v
  | flatten before after ih =>
      have hright : ∀ x, (Link.tree after .current).outcome c x
          = (Link.through (passes c) after x).map some := by
        intro x
        rw [outcome_links hc, outcome_current hc]
        rfl
      rw [Chain.tree, outcome_project_spread hc hright, ih]
      refine bind_onward (fun base => ?_) _
      rw [Chain.meaning]
      cases before.meaning (passes c) base with
      | none => rfl
      | some found =>
          simp only [elements, funext Value.flatten_eq_flatMap]
          rfl

end Expr

/-! ## How the parser builds the tree -/

namespace Link

/-- The step of a link. -/
def step : Link → Expr.Step
  | .field name => .field name
  | .index i => .index i
  | .slice s => .slice s
  | .items => .items
  | .values => .values
  | .filter predicate => .filter predicate

/-- What the parser makes of an operand, projecting or not, link by link. -/
def grow : List Link → Bool → Expr → Expr
  | [], _, e => e
  | link :: rest, projecting, e =>
    grow rest (projecting || link.step.projects)
      (if projecting then link.step.extend e else link.step.apply e)

/-- The links behind a projection all go to its right side. -/
theorem grow_project (links : List Link) (kind : Projection) (left right : Expr) :
    grow links true (.project kind left right) = .project kind left (grow links true right) := by
  induction links generalizing right with
  | nil => rfl
  | cons link rest ih => exact ih (link.step.extend right)

/-- Whether an expression is a projection, inside which the parser can put more links. -/
def isProject : Expr → Bool
  | .project .. => true
  | _ => false

theorem extend_of_not_project {e : Expr} (he : isProject e = false) (step : Expr.Step) :
    step.extend e = step.apply e := by
  cases e <;> first | rfl | cases he

theorem isProject_step {e right : Expr} (hright : isProject right = false) :
    isProject (e.step right) = false := by
  cases e <;> first | rfl | exact hright

/-- As long as there is no projection, it makes no difference whether one is looked for. -/
theorem grow_of_not_project (links : List Link) {e : Expr} (he : isProject e = false) :
    grow links true e = grow links false e := by
  induction links generalizing e with
  | nil => rfl
  | cons link rest ih =>
      rw [grow, grow, if_pos rfl, if_neg Bool.false_ne_true, extend_of_not_project he]
      cases link with
      | field | index => exact ih (isProject_step rfl)
      | slice | items | values | filter => rfl

/-- **`grow_eq_tree`** — on an operand that is not projecting, the parser builds the tree of the
links. -/
theorem grow_eq_tree (links : List Link) (e : Expr) : grow links false e = tree links e := by
  induction links generalizing e with
  | nil => rfl
  | cons link rest ih =>
      have hinside : ∀ kind left,
          grow rest true (.project kind left .current) = .project kind left (tree rest .current) := by
        intro kind left
        rw [grow_project, grow_of_not_project rest rfl, ih]
      cases link with
      | field | index => exact ih _
      | slice | items | values | filter => exact hinside _ _

/-- Behind `[]` the parser goes on inside the flattening. -/
theorem grow_flatten (links : List Link) (e : Expr) :
    grow links true (Expr.projectAll .flatten e) = .project .flatten e (tree links .current) := by
  rw [Expr.projectAll, grow_project, grow_of_not_project links rfl, grow_eq_tree]

end Link

end JsonQuery
