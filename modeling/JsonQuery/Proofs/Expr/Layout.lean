/-
# JsonQuery.Proofs.Expr.Layout — how operands, operators and open groups lie on the stacks.

While an expression is read, the operands on top of the stack of items belong to the operators on
top of the other stack: an operand more than infix operators where an operand has just been read, and
as many where one is expected.  Below them are the finished parts of the innermost group and its
marker, and a barrier; and below these the stacks lie as they did when the group was opened.  On
stacks that lie so, no step finds anything else than it expects.
-/
import JsonQuery.Proofs.Expr.Entries

namespace JsonQuery.Expr

open ParseError (Cause)

/-! ## Outcomes without surprises -/

/-- **`Delivers C x P`** — `x` comes to something with `P`, or is refused for a cause that `C`
allows. -/
def Delivers {α : Type} (C : Cause → Prop) (x : Except Cause α) (P : α → Prop) : Prop :=
  match x with
  | .ok a => P a
  | .error cause => C cause

namespace Delivers

variable {α β : Type} {C : Cause → Prop} {P Q : α → Prop} {R : β → Prop} {x : Except Cause α}

theorem bind {f : α → Except Cause β} (hx : Delivers C x P) (hf : ∀ a, P a → Delivers C (f a) R) :
    Delivers C (x >>= f) R := by
  cases x with
  | ok a => exact hf a hx
  | error cause => exact hx

theorem imp (hx : Delivers C x P) (h : ∀ a, P a → Q a) : Delivers C x Q := by
  cases x with
  | ok a => exact h a hx
  | error cause => exact hx

theorem of_ok {a : α} (hx : Delivers C x P) (h : x = .ok a) : P a := by
  rw [h] at hx
  exact hx

theorem of_error {cause : Cause} (hx : Delivers C x P) (h : x = .error cause) : C cause := by
  rw [h] at hx
  exact hx

end Delivers

/-! ## Groups -/

/-- What ends a group. -/
def Group.closer : Group → Closer
  | .paren => .paren
  | .list _ => .list
  | .hash _ => .hash
  | .filter _ => .filter
  | .call .. => .call

/-- The groups that are open on the stack of items, the innermost first. -/
def openGroups (items : List Item) : List Group :=
  items.filterMap fun
    | .opened g => some g
    | _ => none

/-- What may come next in the innermost group: an operand, something behind an operand, or, between
two parts, a key or an argument. -/
inductive Phase where
  | wanting | holding | between
  deriving DecidableEq, Repr

/-- Where the operand stands that a group becomes a part of: expected, or read already if the group
hangs off it. -/
def Group.outside : Group → Phase
  | .paren => .wanting
  | .list chained | .hash chained | .filter chained | .call _ chained =>
    if chained then .holding else .wanting

/-- What comes next where a group has been opened. -/
def Group.inside : Group → Phase
  | .hash _ | .call .. => .between
  | .paren | .list _ | .filter _ => .wanting

/-- **`g.Finished between parts`** — the finished parts of a group, the last one first: between two
parts, or while a part is being read, of which the key is there already in an object. -/
inductive Group.Finished : Group → Bool → List Item → Prop where
  | paren : Finished .paren false []
  | filter (chained : Bool) : Finished (.filter chained) false []
  | list (chained : Bool) (operands : List Operand) :
      Finished (.list chained) false (operands.map .operand)
  | call (function : Function) (chained between : Bool) (operands : List Operand) :
      Finished (.call function chained) between (operands.map .operand)
  | hash (chained : Bool) (entries : List (String × Operand)) :
      Finished (.hash chained) true (Entry.items entries).reverse
  | key (chained : Bool) (name : String) (entries : List (String × Operand)) :
      Finished (.hash chained) false (.key name :: (Entry.items entries).reverse)

/-- **`g.Complete parts`** — all parts of a group, the first one first. -/
inductive Group.Complete : Group → List Item → Prop where
  | paren (o : Operand) : Complete .paren [.operand o]
  | filter (chained : Bool) (o : Operand) : Complete (.filter chained) [.operand o]
  | list (chained : Bool) (operands : List Operand) :
      Complete (.list chained) (operands.map .operand)
  | call (function : Function) (chained : Bool) (operands : List Operand) :
      Complete (.call function chained) (operands.map .operand)
  | hash (chained : Bool) (entries : List (String × Operand)) :
      Complete (.hash chained) (Entry.items entries)

namespace Group

variable {g : Group} {parts : List Item}

/-- The operand of the last part completes a group. -/
theorem Finished.complete (h : g.Finished false parts) (o : Operand) :
    g.Complete (.operand o :: parts).reverse := by
  cases h with
  | paren => exact .paren o
  | filter chained => exact .filter chained o
  | list chained operands =>
      rw [← List.map_cons, ← List.map_reverse]
      exact .list chained _
  | call function chained _ operands =>
      rw [← List.map_cons, ← List.map_reverse]
      exact .call function chained _
  | key chained name entries =>
      have hlast : (Item.operand o :: .key name :: (Entry.items entries).reverse).reverse
          = Entry.items (entries ++ [(name, o)]) := by
        simp [Entry.items]
      rw [hlast]
      exact .hash chained _

theorem Finished.opened_notMem {between : Bool} (h : g.Finished between parts) (g' : Group) :
    .opened g' ∉ parts := by
  cases h with
  | hash chained entries | key chained name entries =>
      simpa using Entry.opened_notMem_items entries g'
  | paren | filter | list | call => simp

theorem Complete.opened_notMem (h : g.Complete parts) (g' : Group) : .opened g' ∉ parts := by
  cases h with
  | hash chained entries => exact Entry.opened_notMem_items entries g'
  | paren | filter | list | call => simp

end Group

/-! ## Layout -/

/-- How many operators are infix operators. -/
def infixes (ops : List Operator) : Nat := ops.countP fun op => !op.isPrefix

mutual

/-- **`Layout phase closers items pending`** — the stacks hold the operands and operators of an
expression, `phase` telling what comes next in it, above the groups that `closers` end. -/
inductive Layout : Phase → List Closer → List Item → List Pending → Prop where
  | wanting {closers : List Closer} {items : List Item} {pending : List Pending}
      (operands : List Operand) (ops : List Operator) : operands.length = infixes ops →
      Ground false closers items pending →
      Layout .wanting closers (operands.map .operand ++ items) (ops.map .operator ++ pending)
  | holding {closers : List Closer} {items : List Item} {pending : List Pending}
      (operands : List Operand) (ops : List Operator) : operands.length = infixes ops + 1 →
      Ground false closers items pending →
      Layout .holding closers (operands.map .operand ++ items) (ops.map .operator ++ pending)
  | between {closers : List Closer} {items : List Item} {pending : List Pending} :
      Ground true closers items pending → Layout .between closers items pending

/-- **`Ground between closers items pending`** — what is below an expression: nothing, or the
innermost group with its finished parts, above the stacks as they lay when it was opened. -/
inductive Ground : Bool → List Closer → List Item → List Pending → Prop where
  | bottom : Ground false [] [] []
  | group {between : Bool} {closer : Closer} {closers : List Closer} {g : Group}
      {parts items : List Item} {pending : List Pending} : g.closer = closer →
      g.Finished between parts → Layout g.outside closers items pending →
      Ground between (closer :: closers) (parts ++ .opened g :: items) (.barrier :: pending)

end

variable {C : Cause → Prop} {phase : Phase} {closer : Closer} {closers : List Closer}
  {items : List Item} {pending : List Pending}

/-! ## The groups of a layout -/

theorem openGroups_operands (operands : List Operand) (items : List Item) :
    openGroups (operands.map .operand ++ items) = openGroups items := by
  induction operands with
  | nil => rfl
  | cons o operands ih => exact ih

theorem barriers_operators (ops : List Operator) (pending : List Pending) :
    barriers (ops.map .operator ++ pending) = barriers pending := by
  induction ops with
  | nil => rfl
  | cons op ops ih => exact ih

theorem openGroups_eq_nil {parts : List Item} (h : ∀ g, .opened g ∉ parts) :
    openGroups parts = [] := by
  rw [openGroups, List.filterMap_eq_nil_iff]
  intro item hitem
  cases item with
  | opened g => exact absurd hitem (h g)
  | operand | key => rfl

mutual

/-- The groups among the items are those that the closers end. -/
theorem Layout.openGroups_eq {phase : Phase} {closers : List Closer} {items : List Item}
    {pending : List Pending} :
    Layout phase closers items pending → (openGroups items).map Group.closer = closers
  | .wanting operands ops _ hground | .holding operands ops _ hground => by
      rw [openGroups_operands, hground.openGroups_eq]
  | .between hground => hground.openGroups_eq

theorem Ground.openGroups_eq {between : Bool} {closers : List Closer} {items : List Item}
    {pending : List Pending} :
    Ground between closers items pending → (openGroups items).map Group.closer = closers
  | .bottom => rfl
  | @Ground.group _ _ _ g parts items _ hcloser hparts hbelow => by
      have hsplit : openGroups (parts ++ .opened g :: items)
          = openGroups parts ++ g :: openGroups items :=
        List.filterMap_append
      rw [hsplit, openGroups_eq_nil hparts.opened_notMem, List.nil_append, List.map_cons, hcloser,
        hbelow.openGroups_eq]

end

mutual

/-- Every open group has a barrier among the operators. -/
theorem Layout.barriers_eq {phase : Phase} {closers : List Closer} {items : List Item}
    {pending : List Pending} :
    Layout phase closers items pending → barriers pending = closers.length
  | .wanting operands ops _ hground | .holding operands ops _ hground => by
      rw [barriers_operators, hground.barriers_eq]
  | .between hground => hground.barriers_eq

theorem Ground.barriers_eq {between : Bool} {closers : List Closer} {items : List Item}
    {pending : List Pending} :
    Ground between closers items pending → barriers pending = closers.length
  | .bottom => rfl
  | .group _ _ hbelow => congrArg (· + 1) hbelow.barriers_eq

end

/-! ## Operands -/

theorem Ground.exists_barrier {between : Bool} (h : Ground between closers items pending) :
    pending = [] ∨ ∃ rest, pending = .barrier :: rest := by
  cases h with
  | bottom => exact .inl rfl
  | group => exact .inr ⟨_, rfl⟩

namespace Layout

/-- Where an operand is expected there may be one. -/
theorem operand (h : Layout .wanting closers items pending) (o : Operand) :
    Layout .holding closers (.operand o :: items) pending := by
  cases h with
  | wanting operands ops hcount hground =>
      exact .holding (o :: operands) ops (congrArg (· + 1) hcount) hground

/-- Where an operand is expected a prefix operator may come first. -/
theorem prefixed (h : Layout .wanting closers items pending) {op : Operator}
    (hop : op.isPrefix = true) : Layout .wanting closers items (.operator op :: pending) := by
  cases h with
  | wanting operands ops hcount hground =>
      refine .wanting operands (op :: ops) ?_ hground
      rw [hcount, infixes, infixes, List.countP_cons_of_neg (by rw [hop]; nofun)]

/-- Where something is expected behind an operand, the operand is on top, and another may take its
place. -/
theorem exists_top (h : Layout .holding closers items pending) : ∃ o rest,
    items = .operand o :: rest ∧ ∀ o', Layout .holding closers (.operand o' :: rest) pending := by
  cases h with
  | @holding _ ground _ operands ops hcount hground =>
      cases operands with
      | nil => cases hcount
      | cons o operands =>
          refine ⟨o, operands.map .operand ++ ground, rfl, fun o' => ?_⟩
          exact .holding (o' :: operands) ops hcount hground

end Layout

section Steps

variable (hC : C .nestingTooDeep)
include hC

theorem delivers_pushNode {P : List Item → Prop} (hP : ∀ o, P (.operand o :: items)) (e : Expr)
    (projecting : Bool) (height : Nat) : Delivers C (pushNode e projecting height items) P := by
  unfold pushNode
  split
  · exact hC
  · exact hP _

namespace Layout

theorem delivers_attachStep (h : Layout .holding closers items pending) (step : Step)
    (inner : Nat) : Delivers C (attachStep step inner items) fun items' =>
      Layout .holding closers items' pending := by
  obtain ⟨o, rest, rfl, hreplace⟩ := h.exists_top
  exact delivers_pushNode hC hreplace _ _ _

theorem delivers_flattenTop (h : Layout .holding closers items pending) :
    Delivers C (flattenTop items) fun items' => Layout .holding closers items' pending := by
  obtain ⟨o, rest, rfl, hreplace⟩ := h.exists_top
  exact delivers_pushNode hC hreplace _ _ _

end Layout

/-! ## Operators -/

/-- An operator takes as many operands as it needs and leaves one. -/
theorem delivers_applyOperator (op : Operator) {operands : List Operand} (items : List Item)
    (hcount : infixes [op] + 1 ≤ operands.length) :
    Delivers C (applyOperator op (operands.map .operand ++ items)) fun items' =>
      ∃ operands' : List Operand, items' = operands'.map .operand ++ items ∧
        operands'.length + infixes [op] = operands.length := by
  match op, operands, hcount with
  | .binary _, right :: left :: operands, _ | .pipe, right :: left :: operands, _
  | .unary _, operand :: operands, _ | .reference _, operand :: operands, _ =>
      exact delivers_pushNode hC (fun o => ⟨o :: operands, rfl, rfl⟩) _ _ _

/-- Behind an operand, operators can be applied as long as one wants to. -/
theorem Layout.delivers_reduceWhile (h : Layout .holding closers items pending)
    (test : Operator → Bool) : Delivers C (reduceWhile test items pending) fun r =>
      Layout .holding closers r.1 r.2 ∧ Stops test r.2 := by
  cases h with
  | @holding _ ground floor operands ops hcount hground =>
      induction ops generalizing operands with
      | nil =>
          have hstops : Stops test floor := by
            rcases hground.exists_barrier with rfl | ⟨rest, rfl⟩ <;> trivial
          rw [List.map_nil, List.nil_append, hstops.reduceWhile]
          exact ⟨.holding operands [] hcount hground, hstops⟩
      | cons op ops ih =>
          have hinfixes : infixes (op :: ops) = infixes [op] + infixes ops := by
            simp only [infixes, List.countP_cons, List.countP_nil]
            omega
          rw [List.map_cons, List.cons_append, reduceWhile]
          split
          · refine (delivers_applyOperator hC op ground (by omega)).bind ?_
            rintro _ ⟨operands', rfl, hcount'⟩
            exact ih operands' (by omega)
          · rename_i htest
            exact ⟨.holding operands (op :: ops) hcount hground, Bool.eq_false_iff.mpr htest⟩

/-! ## Stacks -/

namespace Layout

variable {s : Stacks}

/-- What a reduction of the stacks leaves. -/
theorem delivers_stacks (h : Layout .holding closers s.items s.pending) (test : Operator → Bool) :
    Delivers C (s.reduceWhile test) fun s' =>
      Layout .holding closers s'.items s'.pending ∧ Stops test s'.pending :=
  (h.delivers_reduceWhile hC test).bind fun _ hr => hr

/-- Behind an operand an infix operator may come, and then another operand. -/
theorem delivers_pushInfix (h : Layout .holding closers s.items s.pending) {op : Operator}
    (hop : op.isPrefix = false) : Delivers C (s.pushInfix op) fun s' =>
      Layout .wanting closers s'.items s'.pending := by
  obtain ⟨o, rest, hitems, hreplace⟩ := h.exists_top
  have hclosed : Layout .holding closers (closeProjection s.items) s.pending := by
    rw [hitems]
    exact hreplace { o with projecting := false }
  refine (delivers_stacks hC (s := { s with items := closeProjection s.items }) hclosed _).bind ?_
  rintro ⟨items, pending, depth⟩ ⟨hreduced, -⟩
  cases hreduced with
  | holding operands ops hcount hground =>
      refine .wanting operands (op :: ops) ?_ hground
      rw [hcount, infixes, infixes, List.countP_cons_of_pos (by rw [hop]; rfl)]

/-- All operators of a part can be applied; its operand is then on top of what was finished before. -/
theorem delivers_reduceToBarrier (h : Layout .holding closers s.items s.pending) :
    Delivers C s.reduceToBarrier fun s' => ∃ o rest,
      s'.items = .operand o :: rest ∧ Ground false closers rest s'.pending := by
  refine (h.delivers_stacks hC _).imp ?_
  rintro ⟨items, pending, depth⟩ ⟨hreduced, hstops⟩
  cases hreduced with
  | @holding _ ground floor operands ops hcount hground =>
      cases ops with
      | cons op ops => cases hstops
      | nil =>
          obtain ⟨o, rfl⟩ := List.length_eq_one_iff.mp hcount
          exact ⟨o, ground, rfl, hground⟩

/-! ## Parts of groups -/

/-- A group can be opened where its operand may stand, or behind the operand it hangs off. -/
theorem delivers_openGroup {g : Group} (h : Layout g.outside closers s.items s.pending) :
    Delivers C (s.openGroup g) fun s' =>
      Layout g.inside (g.closer :: closers) s'.items s'.pending := by
  unfold Stacks.openGroup
  split
  · exact hC
  · cases g with
    | paren => exact .wanting [] [] rfl (.group rfl .paren h)
    | list chained => exact .wanting [] [] rfl (.group rfl (.list chained []) h)
    | filter chained => exact .wanting [] [] rfl (.group rfl (.filter chained) h)
    | hash chained => exact .between (.group rfl (.hash chained []) h)
    | call function chained => exact .between (.group rfl (.call function chained true []) h)

/-- What comes after a comma in a group. -/
theorem delivers_separator (h : Layout .holding (closer :: closers) s.items s.pending)
    (hcloser : closer = .list ∨ closer = .hash ∨ closer = .call) :
    Delivers C s.reduceToBarrier fun s' => Layout (if closer = .hash then .between else .wanting)
      (closer :: closers) s'.items s'.pending := by
  refine (h.delivers_reduceToBarrier hC).imp ?_
  rintro ⟨items, pending, depth⟩ ⟨o, rest, rfl, hground⟩
  cases hground with
  | group hg hparts hbelow =>
      cases hparts with
      | paren | filter => subst hg; simp [Group.closer] at hcloser
      | list chained operands =>
          subst hg
          exact .wanting [] [] rfl (.group rfl (.list chained (o :: operands)) hbelow)
      | call function chained _ operands =>
          subst hg
          have hparts' := Group.Finished.call function chained false (o :: operands)
          exact .wanting [] [] rfl (.group rfl hparts' hbelow)
      | key chained name entries =>
          subst hg
          have hentries : Item.operand o :: .key name :: (Entry.items entries).reverse
              = (Entry.items (entries ++ [(name, o)])).reverse := by
            simp [Entry.items]
          refine .between ?_
          rw [← List.cons_append, hentries]
          exact .group rfl (.hash chained _) hbelow

/-! ## Closing -/

theorem delivers_pushGroup {chained : Bool}
    (h : Layout (if chained then .holding else .wanting) closers items pending) (e : Expr)
    (height : Nat) : Delivers C (pushGroup e chained height items) fun items' =>
      Layout .holding closers items' pending := by
  cases chained with
  | true => exact h.delivers_attachStep hC (.node e) height
  | false => exact delivers_pushNode hC h.operand e false height

variable (harity : ∀ name expected found, C (.invalidArity name expected found))
include harity

/-- A complete group becomes an operand, or a step on the operand it hangs off. -/
theorem delivers_close {g : Group} {parts : List Item} (hparts : g.Complete parts)
    (h : Layout g.outside closers items pending) :
    Delivers C (g.close g.closer parts items) fun items' =>
      Layout .holding closers items' pending := by
  cases hparts with
  | paren o => exact delivers_pushNode hC h.operand o.expr false o.height
  | filter chained o =>
      cases chained with
      | true => exact h.delivers_attachStep hC (.filter o.expr) o.height
      | false => exact delivers_pushNode hC h.operand _ true (o.height + 1)
  | list chained operands =>
      simp only [Group.closer, Group.close, asOperands_operand]
      exact h.delivers_pushGroup hC _ _
  | hash chained entries =>
      simp only [Group.closer, Group.close, Entry.asEntries_items]
      exact h.delivers_pushGroup hC _ _
  | call function chained operands =>
      have hchecked : Delivers C (checkArity function (operands.map Item.operand).length)
          fun _ => True := by
        unfold checkArity
        repeat' split
        · trivial
        · exact harity _ _ _
        · trivial
      simp only [Group.closer, Group.close, asOperands_operand]
      exact hchecked.bind fun _ _ => h.delivers_pushGroup hC _ _

/-- Where the parts of the innermost group are complete, its closer ends it. -/
theorem delivers_closeGroup_of_complete
    (h : Delivers C s.reduceToBarrier fun s' => ∃ g parts items pending, g.closer = closer ∧
      g.Complete parts ∧ s'.items = parts.reverse ++ .opened g :: items ∧
      s'.pending = .barrier :: pending ∧ Layout g.outside closers items pending) :
    Delivers C (s.closeGroup closer) fun s' => Layout .holding closers s'.items s'.pending := by
  refine h.bind ?_
  rintro ⟨_, _, depth⟩ ⟨g, parts, items, pending, rfl, hparts, rfl, rfl, hbelow⟩
  have hsplit : splitGroup [] (parts.reverse ++ .opened g :: items) = some (parts, g, items) := by
    rw [splitGroup_of_parts fun g' hg' => hparts.opened_notMem g' (List.mem_reverse.mp hg')]
    simp
  simp only [hsplit]
  exact (hbelow.delivers_close hC harity hparts).bind fun _ hclosed => hclosed

/-- Behind an operand the closer of the innermost group ends the group. -/
theorem delivers_closeGroup (h : Layout .holding (closer :: closers) s.items s.pending) :
    Delivers C (s.closeGroup closer) fun s' => Layout .holding closers s'.items s'.pending := by
  refine delivers_closeGroup_of_complete hC harity ((h.delivers_reduceToBarrier hC).imp ?_)
  rintro ⟨items, pending, depth⟩ ⟨o, rest, rfl, hground⟩
  cases hground with
  | group hg hparts hbelow =>
      refine ⟨_, _, _, _, hg, hparts.complete o, ?_, rfl, hbelow⟩
      rw [List.reverse_reverse]
      rfl

/-- A call may end before its first argument. -/
theorem delivers_closeGroup_call (h : Layout .between (.call :: closers) s.items s.pending) :
    Delivers C (s.closeGroup .call) fun s' => Layout .holding closers s'.items s'.pending := by
  refine delivers_closeGroup_of_complete hC harity ?_
  obtain ⟨items, pending, depth⟩ := s
  cases h with
  | between hground =>
      cases hground with
      | @group _ _ _ _ parts items pending hg hparts hbelow =>
          cases hparts with
          | hash => cases hg
          | call function chained _ operands =>
              refine ⟨_, (operands.map .operand).reverse, items, pending, hg, ?_, ?_, rfl, hbelow⟩
              · rw [← List.map_reverse]
                exact .call function chained _
              · rw [List.reverse_reverse]
                rfl

/-! ## The end -/

omit harity in
/-- At the end of an expression that no group is open in, one operand is left and nothing else. -/
theorem delivers_result (h : Layout .holding [] s.items s.pending) :
    Delivers C s.result fun _ => True := by
  refine ((h.delivers_reduceToBarrier hC).bind ?_ : Delivers C (s.accept .finish)
    fun s' => ∃ o, s'.items = [.operand o]).bind ?_
  · rintro ⟨_, _, depth⟩ ⟨o, rest, rfl, hground⟩
    cases hground with
    | bottom => exact ⟨o, rfl⟩
  · rintro ⟨_, pending, depth⟩ ⟨o, rfl⟩
    trivial

end Layout

end Steps

namespace Layout

/-- A key starts an entry. -/
theorem key (h : Layout .between (.hash :: closers) items pending) (name : String) :
    Layout .wanting (.hash :: closers) (.key name :: items) pending := by
  cases h with
  | between hground =>
      cases hground with
      | group hg hparts hbelow =>
          cases hparts with
          | call => cases hg
          | hash chained entries =>
              exact .wanting [] [] rfl (.group rfl (.key chained name entries) hbelow)

/-- An argument may come instead of the end of a call. -/
theorem argument (h : Layout .between (.call :: closers) items pending) :
    Layout .wanting (.call :: closers) items pending := by
  cases h with
  | between hground =>
      cases hground with
      | group hg hparts hbelow =>
          cases hparts with
          | hash => cases hg
          | call function chained _ operands =>
              exact .wanting [] [] rfl (.group rfl (.call function chained false operands) hbelow)

end Layout

end JsonQuery.Expr
