/-
# JsonQuery.Proofs.Expr.Height — no tree is too high.

The parser keeps a number beside every operand on its stacks, adds to it with every step and operator,
and refuses what gets past the limit.  It never looks at the trees themselves.  Here the number is
compared with the height of the tree: it is never too small, so the limit holds of the trees.
-/
import JsonQuery.Proofs.Expr.Built

namespace JsonQuery

/-! ## Heights of trees -/

mutual

/-- The height of a tree: one for a leaf, and one more than that of the highest part of a node, the
predicate of a filter, the items of a list, the values of an object and the arguments of a call being
parts as well. -/
def Expr.height : Expr → Nat
  | .current | .field _ | .index _ | .slice _ | .literal _ => 1
  | .chain left right | .binary _ left right | .pipe left right => max left.height right.height + 1
  | .project kind left right => max kind.height (max left.height right.height) + 1
  | .list items | .call _ items => Expr.heightOfItems items + 1
  | .hash entries => Expr.heightOfEntries entries + 1
  | .unary _ operand => operand.height + 1
  | .reference _ body => body.height + 1

/-- The height of the predicate of a projection, if it has one. -/
def Projection.height : Projection → Nat
  | .filter predicate => predicate.height
  | .list | .object | .flatten => 0

/-- The greatest height among items. -/
def Expr.heightOfItems : List Expr → Nat
  | [] => 0
  | item :: rest => max item.height (Expr.heightOfItems rest)

/-- The greatest height among entries. -/
def Expr.heightOfEntries : List (String × Expr) → Nat
  | [] => 0
  | (_, value) :: rest => max value.height (Expr.heightOfEntries rest)

end

namespace Expr

theorem height_pos (e : Expr) : 0 < e.height := by
  cases e <;> exact Nat.succ_pos _

theorem heightOfItems_le {items : List Expr} {n : Nat} :
    heightOfItems items ≤ n ↔ ∀ e ∈ items, e.height ≤ n := by
  induction items with
  | nil => simp [heightOfItems]
  | cons e items ih => simp only [heightOfItems, Nat.max_le, ih, List.forall_mem_cons]

theorem heightOfEntries_le {entries : List (String × Expr)} {n : Nat} :
    heightOfEntries entries ≤ n ↔ ∀ entry ∈ entries, entry.2.height ≤ n := by
  induction entries with
  | nil => simp [heightOfEntries]
  | cons entry entries ih => simp only [heightOfEntries, Nat.max_le, ih, List.forall_mem_cons]

/-- A step on the current value adds nothing, on any other value one level. -/
theorem height_step_le (left right : Expr) :
    (left.step right).height ≤ max left.height right.height + 1 := by
  cases left <;> simp only [step, height] <;> omega

/-- The height of what a step carries: the predicate of a filter, or a list, an object or a call. -/
def Step.carried : Step → Nat
  | .filter e | .node e => e.height
  | _ => 0

/-- A slice adds two levels, every other step one. -/
theorem Step.height_apply_le (s : Step) (target : Expr) :
    (s.apply target).height ≤ s.heightAfter false target.height s.carried := by
  have hpos := target.height_pos
  cases s with
  | field | index | node =>
      refine Nat.le_trans (height_step_le _ _) ?_
      simp only [height, carried, heightAfter, Bool.false_eq_true, if_false]
      omega
  | slice s =>
      have hstep := height_step_le target (.slice s)
      simp only [apply, projectAll, height, Projection.height, heightAfter, Bool.false_eq_true,
        if_false] at hstep ⊢
      omega
  | items | values | filter =>
      simp only [apply, projectAll, height, Projection.height, carried, heightAfter,
        Bool.false_eq_true, if_false]
      omega

/-- However deep in the tree the innermost projection is, a step inside adds two levels at most. -/
theorem Step.height_extend_le (s : Step) (target : Expr) :
    (s.extend target).height ≤ s.heightAfter true target.height s.carried := by
  simp only [heightAfter, if_true]
  fun_induction Step.extend s target with
  | case1 kind left right ih =>
      simp only [height]
      omega
  | case2 target =>
      have happly := s.height_apply_le target
      have hpos := target.height_pos
      cases s <;> simp only [heightAfter, Bool.false_eq_true, if_false] at happly <;> omega

/-- A greater bound for the target gives a greater bound for the step on it. -/
theorem Step.heightAfter_mono (s : Step) (projecting : Bool) {height height' : Nat}
    (hle : height ≤ height') (inner : Nat) :
    s.heightAfter projecting height inner ≤ s.heightAfter projecting height' inner := by
  cases projecting <;> cases s <;> simp only [heightAfter, Bool.false_eq_true, if_false, if_true] <;>
    omega

/-! ## Operands -/

theorem Step.carried_of_isPlain {s : Step} (h : s.isPlain) : s.carried = 0 := by
  cases s <;> first | rfl | cases h

/-- The number beside an operand grows by enough for every step. -/
theorem Operand.height_attach_le {target : Operand} {s : Step} {inner : Nat}
    (htarget : target.expr.height ≤ target.height) (hinner : s.carried ≤ inner) :
    (target.attach s inner).expr.height ≤ (target.attach s inner).height := by
  have hcarried : s.heightAfter target.projecting target.height s.carried ≤
      s.heightAfter target.projecting target.height inner := by
    cases target.projecting <;> cases s <;>
      simp only [Step.heightAfter, Bool.false_eq_true, if_false, if_true] <;> omega
  refine Nat.le_trans ?_ (Nat.le_trans (s.heightAfter_mono target.projecting htarget _) hcarried)
  unfold attach
  cases target.projecting with
  | false => exact s.height_apply_le _
  | true => exact s.height_extend_le _

theorem le_greatestHeight {operands : List Operand} :
    ∀ o ∈ operands, o.height ≤ greatestHeight operands := by
  have hfold : ∀ start, start ≤ operands.foldl (fun h o => max h o.height) start ∧
      ∀ o ∈ operands, o.height ≤ operands.foldl (fun h o => max h o.height) start := by
    induction operands with
    | nil => exact fun start => ⟨Nat.le_refl start, nofun⟩
    | cons o operands ih =>
        intro start
        obtain ⟨hstart, hrest⟩ := ih (max start o.height)
        refine ⟨Nat.le_trans (Nat.le_max_left _ _) hstart, List.forall_mem_cons.mpr ⟨?_, hrest⟩⟩
        exact Nat.le_trans (Nat.le_max_right _ _) hstart
  exact (hfold 0).2

/-- **`Built.height_le`** — the number beside the tree of an operand bounds the height of the tree,
and is not past the limit. -/
theorem Operand.Built.height_le {o : Operand} (h : o.Built) :
    o.expr.height ≤ o.height ∧ o.height ≤ maxNesting := by
  induction h with
  | current hheight => rcases hheight with rfl | rfl <;> exact ⟨by simp [Expr.height], by simp [maxNesting]⟩
  | literal | field | values | flattened =>
      exact ⟨by simp [projectAll, Expr.height, Projection.height], by simp [maxNesting]⟩
  | closed _ ih => exact ih
  | binary _ _ _ hlimit ihleft ihright | pipe _ _ hlimit ihleft ihright =>
      simp only [Expr.height]
      omega
  | unary _ _ hlimit ih | reference _ _ hlimit ih => exact ⟨Nat.succ_le_succ ih.1, hlimit⟩
  | step _ hplain hlimit ih =>
      exact ⟨height_attach_le ih.1 (Nat.le_of_eq (Step.carried_of_isPlain hplain)), hlimit⟩
  | filterStep _ _ hlimit ihtarget iho | nodeStep _ _ hlimit ihtarget iho =>
      exact ⟨height_attach_le ihtarget.1 iho.1, hlimit⟩
  | @flatten target _ hlimit ih =>
      have hpos := target.expr.height_pos
      simp only [projectAll, Expr.height, Projection.height]
      omega
  | @filter o _ hlimit ih =>
      have hpos := o.expr.height_pos
      simp only [projectAll, Expr.height, Projection.height]
      omega
  | list _ _ hlimit ih | call _ _ hlimit ih =>
      refine ⟨Nat.succ_le_succ (heightOfItems_le.mpr (List.forall_mem_map.mpr fun o ho => ?_)), hlimit⟩
      exact Nat.le_trans (ih o ho).1 (le_greatestHeight o ho)
  | hash _ _ hlimit ih =>
      refine ⟨Nat.succ_le_succ (heightOfEntries_le.mpr
        (List.forall_mem_map.mpr fun entry hentry => ?_)), hlimit⟩
      exact Nat.le_trans (ih entry hentry).1
        (le_greatestHeight entry.2 (List.mem_map_of_mem hentry))

/-- **`height_le_of_parse`** — the tree of a text is not too high; all along the run the number beside
an operand bounds the height of its tree and keeps to the limit. -/
theorem height_le_of_parse (text : String) (registry : Registry) :
    (∀ m, (Machine.start text registry).Reaches m → ∀ o, .operand o ∈ m.waiting.items →
      o.expr.height ≤ o.height ∧ o.height ≤ maxNesting) ∧
    ∀ e, parse text registry = .ok e → e.height ≤ maxNesting := by
  refine ⟨fun m hreach o ho => (Machine.allBuilt_reaches hreach o ho).height_le, fun e hparse => ?_⟩
  obtain ⟨o, ho, rfl⟩ := exists_built_of_parse hparse
  exact Nat.le_trans ho.height_le.1 ho.height_le.2

/-- The predicate is two levels below the projection that the field hangs off. -/
theorem height_le_of_parse_filter :
    parse "a[?b.c].d" .builtins = .ok (.project (.filter (.chain (.field "b") (.field "c")))
        (.field "a") (.field "d")) ∧
      (project (.filter (.chain (.field "b") (.field "c"))) (.field "a") (.field "d")).height ≤
        maxNesting :=
  have hparse : parse "a[?b.c].d" .builtins = .ok (.project
      (.filter (.chain (.field "b") (.field "c"))) (.field "a") (.field "d")) := by rfl
  ⟨hparse, (height_le_of_parse "a[?b.c].d" .builtins).2 _ hparse⟩

end Expr

end JsonQuery
