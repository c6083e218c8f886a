/-
# JsonQuery.Proofs.Operator.Tree — operator expressions and their grouping.

An operator expression is a sequence of tokens: operands with signs before them, parentheses, and
infix operators between operands.  How it groups is said without a parser, by a condition on trees:
signs apply to what stands right after them, and an infix node of some level of precedence has at most
that level on its left and less on its right.  Exactly one such tree reads as a given expression.

That there is one is shown by adding operands at the right end of a tree.  That there is only one is
shown by the `Yard`, which goes through the tokens with a stack of frames, and comes out with every
tree that groups well from its own reading.  On the way the yard never stands in anything larger than
that tree, neither in height nor in parentheses.
-/
import JsonQuery.Operator

namespace JsonQuery

/-- An infix operator; the pipe is one of them. -/
inductive Joint where
  | binary (op : BinaryOperator)
  | pipe
  deriving DecidableEq, Repr

namespace Joint

/-- The operator as it waits for its operands. -/
def operator : Joint → Operator
  | .binary op => .binary op
  | .pipe => .pipe

/-- The level of precedence. -/
def level (j : Joint) : Nat := j.operator.precedence.level

/-- Infix operators bind less tightly than signs. -/
theorem one_lt_level (j : Joint) : 1 < j.level := by
  cases j with
  | pipe => decide
  | binary op => cases op <;> decide

end Joint

/-! ## Expressions as tokens -/

/-- A token of an operator expression. -/
inductive OperatorToken (α : Type) where
  | operand (a : α)
  | sign (op : UnaryOperator)
  | opening
  | closing
  | joint (j : Joint)
  deriving DecidableEq, Repr

mutual

/-- **`IsOperand tokens`** — an operand or an expression in parentheses, with signs before it. -/
inductive IsOperand {α : Type} : List (OperatorToken α) → Prop where
  | operand (a : α) : IsOperand [.operand a]
  | sign (op : UnaryOperator) {tokens : List (OperatorToken α)} :
      IsOperand tokens → IsOperand (.sign op :: tokens)
  | group {tokens : List (OperatorToken α)} :
      IsOperatorExpression tokens → IsOperand (.opening :: tokens ++ [.closing])

/-- **`IsOperatorExpression tokens`** — operands with infix operators between them. -/
inductive IsOperatorExpression {α : Type} : List (OperatorToken α) → Prop where
  | operand {tokens : List (OperatorToken α)} : IsOperand tokens → IsOperatorExpression tokens
  | join {left right : List (OperatorToken α)} (j : Joint) : IsOperatorExpression left →
      IsOperand right → IsOperatorExpression (left ++ .joint j :: right)

end

/-! ## Trees -/

/-- A tree over operands; parentheses are kept. -/
inductive OperatorTree (α : Type) where
  | operand (a : α)
  | sign (op : UnaryOperator) (body : OperatorTree α)
  | group (body : OperatorTree α)
  | join (j : Joint) (left right : OperatorTree α)
  deriving DecidableEq, Repr

namespace OperatorTree

variable {α : Type}

/-- The tokens of a tree in order. -/
def reading : OperatorTree α → List (OperatorToken α)
  | .operand a => [.operand a]
  | .sign op body => .sign op :: body.reading
  | .group body => .opening :: body.reading ++ [.closing]
  | .join j left right => left.reading ++ .joint j :: right.reading

/-- The level of precedence of the outermost operator; operands and parentheses have the level of
primary expressions, signs that of unary ones. -/
def level : OperatorTree α → Nat
  | .operand _ | .group _ => Precedence.primary.level
  | .sign _ _ => Precedence.unary.level
  | .join j _ _ => j.level

/-- **`t.WellGrouped`** — a sign applies to an operand, a group or another sign; an infix node has at
most its own level on the left and less on the right. -/
def WellGrouped : OperatorTree α → Prop
  | .operand _ => True
  | .sign _ body => body.level ≤ Precedence.unary.level ∧ body.WellGrouped
  | .group body => body.WellGrouped
  | .join j left right =>
    left.level ≤ j.level ∧ right.level < j.level ∧ left.WellGrouped ∧ right.WellGrouped

/-! ## Every expression has a tree -/

/-- Adds an operator and an operand at the right end of a tree: around all that binds at least as
tightly as the operator. -/
def extend (t : OperatorTree α) (j : Joint) (operand : OperatorTree α) : OperatorTree α :=
  match t with
  | .join k left right =>
    if k.level ≤ j.level then .join j (.join k left right) operand
    else .join k left (right.extend j operand)
  | t => .join j t operand

theorem reading_extend (t : OperatorTree α) (j : Joint) (operand : OperatorTree α) :
    (t.extend j operand).reading = t.reading ++ .joint j :: operand.reading := by
  induction t with
  | join k left right _ ih =>
      unfold extend
      split
      · rfl
      · simp only [reading, ih, List.append_assoc, List.cons_append]
  | operand | sign | group => rfl

theorem level_extend (t : OperatorTree α) (j : Joint) (operand : OperatorTree α) :
    (t.extend j operand).level = max t.level j.level := by
  have hj := j.one_lt_level
  cases t with
  | join k left right =>
      unfold extend
      split
      · exact (Nat.max_eq_right ‹_›).symm
      · exact (Nat.max_eq_left (Nat.le_of_not_le ‹_›)).symm
  | operand | sign | group =>
      simp only [extend, level, Precedence.level]
      omega

theorem wellGrouped_extend {j : Joint} {operand t : OperatorTree α}
    (hoperand : operand.level ≤ Precedence.unary.level) (hgrouped : operand.WellGrouped)
    (ht : t.WellGrouped) : (t.extend j operand).WellGrouped := by
  have hright : operand.level < j.level := Nat.lt_of_le_of_lt hoperand j.one_lt_level
  induction t with
  | join k left right _ ih =>
      obtain ⟨hleft, hlt, hleftGrouped, hrightGrouped⟩ := ht
      -- The operator goes above a node of at most its level, and into the right tree of any other.
      unfold extend
      split
      · exact ⟨‹_›, hright, ⟨hleft, hlt, hleftGrouped, hrightGrouped⟩, hgrouped⟩
      · refine ⟨hleft, ?_, hleftGrouped, ih hrightGrouped⟩
        rw [level_extend]
        omega
  | operand a => exact ⟨Nat.zero_le _, hright, ht, hgrouped⟩
  | sign op body => exact ⟨Nat.le_of_lt j.one_lt_level, hright, ht, hgrouped⟩
  | group body => exact ⟨Nat.zero_le _, hright, ht, hgrouped⟩

end OperatorTree

open OperatorTree

variable {α : Type}

mutual

theorem IsOperand.exists_tree {tokens : List (OperatorToken α)} (h : IsOperand tokens) :
    ∃ t : OperatorTree α, t.reading = tokens ∧ t.WellGrouped ∧
      t.level ≤ Precedence.unary.level := by
  match h with
  | .operand a => exact ⟨.operand a, rfl, trivial, Nat.zero_le _⟩
  | .sign op h =>
      obtain ⟨t, rfl, hgrouped, hlevel⟩ := h.exists_tree
      exact ⟨.sign op t, rfl, ⟨hlevel, hgrouped⟩, Nat.le_refl _⟩
  | .group h =>
      obtain ⟨t, rfl, hgrouped⟩ := h.exists_tree
      exact ⟨.group t, rfl, hgrouped, Nat.zero_le _⟩

/-- Every operator expression is the reading of a tree that groups well. -/
theorem IsOperatorExpression.exists_tree {tokens : List (OperatorToken α)}
    (h : IsOperatorExpression tokens) :
    ∃ t : OperatorTree α, t.reading = tokens ∧ t.WellGrouped := by
  match h with
  | .operand h =>
      obtain ⟨t, hreading, hgrouped, -⟩ := h.exists_tree
      exact ⟨t, hreading, hgrouped⟩
  | .join j hleft hright =>
      obtain ⟨left, rfl, hleftGrouped⟩ := hleft.exists_tree
      obtain ⟨right, rfl, hrightGrouped, hlevel⟩ := hright.exists_tree
      exact ⟨left.extend j right, reading_extend left j right,
        wellGrouped_extend hlevel hrightGrouped hleftGrouped⟩

end

/-! ## The yard -/

/-- What waits around the expression that is being read: a sign for its operand, an infix operator
with its left operand, or an open parenthesis. -/
inductive Frame (α : Type) where
  | sign (op : UnaryOperator)
  | join (j : Joint) (left : OperatorTree α)
  | group

/-- Applies the waiting signs and operators down to the nearest parenthesis as long as their levels
pass a test. -/
def applyWhile (test : Nat → Bool) :
    List (Frame α) → OperatorTree α → List (Frame α) × OperatorTree α
  | .sign op :: frames, t =>
    if test Precedence.unary.level then applyWhile test frames (.sign op t)
    else (.sign op :: frames, t)
  | .join j left :: frames, t =>
    if test j.level then applyWhile test frames (.join j left t) else (.join j left :: frames, t)
  | frames, t => (frames, t)

/-- Where a reader of tokens stands: before an operand, or behind a tree. -/
inductive Yard (α : Type) where
  | expecting (frames : List (Frame α))
  | holding (frames : List (Frame α)) (t : OperatorTree α)

namespace Yard

/-- Reads one token. -/
def feed : Yard α → OperatorToken α → Option (Yard α)
  | .expecting frames, .operand a => some (.holding frames (.operand a))
  | .expecting frames, .sign op => some (.expecting (.sign op :: frames))
  | .expecting frames, .opening => some (.expecting (.group :: frames))
  | .holding frames t, .joint j =>
    let (frames, left) := applyWhile (· ≤ j.level) frames t
    some (.expecting (.join j left :: frames))
  | .holding frames t, .closing =>
    match applyWhile (fun _ => true) frames t with
    | (.group :: frames, body) => some (.holding frames (.group body))
    | _ => none
  | _, _ => none

/-- Reads tokens one after another. -/
def feedAll (y : Yard α) (tokens : List (OperatorToken α)) : Option (Yard α) :=
  tokens.foldlM feed y

@[simp] theorem feedAll_nil (y : Yard α) : y.feedAll [] = some y := rfl

@[simp] theorem feedAll_cons (y : Yard α) (token : OperatorToken α)
    (tokens : List (OperatorToken α)) :
    y.feedAll (token :: tokens) = (y.feed token).bind (·.feedAll tokens) := by
  simp only [feedAll, List.foldlM_cons]
  rfl

theorem feedAll_append (y : Yard α) (tokens more : List (OperatorToken α)) :
    y.feedAll (tokens ++ more) = (y.feedAll tokens).bind (·.feedAll more) := by
  simp only [feedAll, List.foldlM_append]
  rfl

end Yard

/-- Whether the waiting sign or operator on top, if there is one, binds less tightly than a level. -/
def Waits (n : Nat) : List (Frame α) → Prop
  | .sign _ :: _ => n < Precedence.unary.level
  | .join j _ :: _ => n < j.level
  | _ => True

theorem Waits.mono {m n : Nat} {frames : List (Frame α)} (h : Waits n frames) (hmn : m ≤ n) :
    Waits m frames := by
  match frames with
  | [] | .group :: _ => trivial
  | .sign _ :: _ | .join _ _ :: _ => exact Nat.lt_of_le_of_lt hmn h

theorem applyWhile_waits {n : Nat} {frames : List (Frame α)} (h : Waits n frames)
    (t : OperatorTree α) : applyWhile (· ≤ n) frames t = (frames, t) := by
  cases frames with
  | nil => rfl
  | cons frame frames =>
      cases frame with
      | group => rfl
      | sign op =>
          have hlt : n < Precedence.unary.level := h
          exact if_neg (by simpa using hlt)
      | join j left =>
          have hlt : n < j.level := h
          exact if_neg (by simpa using hlt)

/-- When everything has been applied, nothing is left, or an open parenthesis. -/
theorem eq_nil_or_group_of_applyWhile (frames : List (Frame α)) (t : OperatorTree α) :
    (applyWhile (fun _ => true) frames t).1 = [] ∨
      ∃ frames', (applyWhile (fun _ => true) frames t).1 = .group :: frames' := by
  induction frames generalizing t with
  | nil => exact .inl rfl
  | cons frame frames ih =>
      cases frame with
      | sign op => exact ih _
      | join j left => exact ih _
      | group => exact .inr ⟨frames, rfl⟩

theorem Yard.feed_closing {frames frames' : List (Frame α)} {t body : OperatorTree α}
    (h : applyWhile (fun _ => true) frames t = (.group :: frames', body)) :
    (Yard.holding frames t).feed .closing = some (.holding frames' (.group body)) := by
  simp only [feed, h]

/-- **`feedAll_reading`** — read from its own tokens, a tree that groups well is what the frames that
are left of it come to under every test that passes the levels of the tree. -/
theorem feedAll_reading {t : OperatorTree α} (ht : t.WellGrouped) {frames : List (Frame α)}
    (hframes : t.level ≤ Precedence.unary.level ∨ Waits t.level frames) :
    ∃ frames' t', (Yard.expecting frames).feedAll t.reading = some (.holding frames' t') ∧
      ∀ test : Nat → Bool, (∀ n ≤ max t.level Precedence.unary.level, test n) →
        applyWhile test frames' t' = applyWhile test frames t := by
  induction t generalizing frames with
  | operand a => exact ⟨frames, .operand a, rfl, fun _ _ => rfl⟩
  | sign op body ih =>
      obtain ⟨frames', t', hfeed, happly⟩ := @ih ht.2 (.sign op :: frames) (.inl ht.1)
      refine ⟨frames', t', hfeed, fun test htest => ?_⟩
      -- A test that passes the sign passes whatever is below it.
      have hbody : ∀ n ≤ max body.level Precedence.unary.level, test n := by
        intro n hn
        refine htest n (Nat.le_trans hn ?_)
        exact Nat.le_trans (Nat.max_le.mpr ⟨ht.1, Nat.le_refl _⟩) (Nat.le_max_right _ _)
      rw [happly test hbody]
      exact if_pos (htest _ (Nat.le_max_right _ _))
  | group body ih =>
      -- Inside of a parenthesis nothing waits, and the closing one applies everything.
      obtain ⟨frames', t', hfeed, happly⟩ := @ih ht (.group :: frames) (.inr trivial)
      refine ⟨frames, .group body, ?_, fun _ _ => rfl⟩
      have hclosed : applyWhile (fun _ => true) frames' t' = (.group :: frames, body) :=
        happly _ fun _ _ => rfl
      simp only [reading, List.cons_append, Yard.feedAll_cons, Yard.feed, Option.bind_some,
        Yard.feedAll_append, hfeed, hclosed, Yard.feedAll_nil]
  | join j left right ihleft ihright =>
      obtain ⟨hle, hlt, hleftGrouped, hrightGrouped⟩ := ht
      have hwaits : Waits j.level frames :=
        hframes.resolve_left (Nat.not_le_of_lt j.one_lt_level)
      have hunary : Precedence.unary.level ≤ j.level := Nat.le_of_lt j.one_lt_level
      -- The operator completes the left tree, as it passes all levels there; the right stays open.
      obtain ⟨framesL, l, hfeedL, happlyL⟩ := ihleft hleftGrouped (.inr (hwaits.mono hle))
      have hjoin : Waits right.level (.join j left :: frames) := hlt
      obtain ⟨framesR, r, hfeedR, happlyR⟩ := ihright hrightGrouped (.inr hjoin)
      have hleft : applyWhile (· ≤ j.level) framesL l = (frames, left) := by
        rw [happlyL _ fun n hn => by simpa using Nat.le_trans hn (Nat.max_le.mpr ⟨hle, hunary⟩)]
        exact applyWhile_waits hwaits left
      refine ⟨framesR, r, ?_, fun test htest => ?_⟩
      · simp only [reading, Yard.feedAll_append, hfeedL, Option.bind_some, Yard.feedAll_cons,
          Yard.feed, hleft, hfeedR]
      · have hmax : max right.level Precedence.unary.level ≤ j.level :=
          Nat.max_le.mpr ⟨Nat.le_of_lt hlt, hunary⟩
        rw [happlyR test fun n hn =>
          htest n (Nat.le_trans hn (Nat.le_trans hmax (Nat.le_max_left _ _)))]
        exact if_pos (htest _ (Nat.le_max_left _ _))

/-- Read from the start, a tree that groups well is what is left when everything has been applied. -/
theorem exists_holding {t : OperatorTree α} (ht : t.WellGrouped) :
    ∃ frames t', (Yard.expecting []).feedAll t.reading = some (.holding frames t') ∧
      applyWhile (fun _ => true) frames t' = ([], t) := by
  obtain ⟨frames, t', hfeed, happly⟩ := feedAll_reading ht (.inr trivial : _ ∨ Waits t.level [])
  exact ⟨frames, t', hfeed, happly _ fun _ _ => rfl⟩

/-- **`reading_injective`** — two trees that group well and read alike are the same. -/
theorem OperatorTree.reading_injective {t t' : OperatorTree α} (ht : t.WellGrouped)
    (ht' : t'.WellGrouped) (h : t.reading = t'.reading) : t = t' := by
  obtain ⟨frames, l, hfeed, happly⟩ := exists_holding ht
  obtain ⟨frames', l', hfeed', happly'⟩ := exists_holding ht'
  rw [h, hfeed'] at hfeed
  obtain ⟨rfl, rfl⟩ := Yard.holding.inj (Option.some.inj hfeed)
  exact (Prod.mk.inj (happly.symm.trans happly')).2

/-! ## Sizes -/

/-- How trees are measured: what an operand counts, and what each kind of node adds to its parts. -/
structure Gauge where
  operand : Nat
  sign : Nat
  group : Nat
  join : Nat

namespace Gauge

/-- The height of the nodes, in which parentheses leave no trace; a name and the current value it is
a field of are two. -/
def height : Gauge := ⟨2, 1, 0, 1⟩

/-- How deep parentheses nest. -/
def nesting : Gauge := ⟨0, 0, 1, 0⟩

end Gauge

/-- The size of a tree under a gauge. -/
def OperatorTree.size (g : Gauge) : OperatorTree α → Nat
  | .operand _ => g.operand
  | .sign _ body => body.size g + g.sign
  | .group body => body.size g + g.group
  | .join _ left right => max (left.size g) (right.size g) + g.join

/-- The size of what frames make of a tree of size `n`. -/
def Frame.around (g : Gauge) : List (Frame α) → Nat → Nat
  | [], n => n
  | .sign _ :: frames, n => around g frames (n + g.sign)
  | .group :: frames, n => around g frames (n + g.group)
  | .join _ left :: frames, n => around g frames (max (left.size g) n + g.join)

/-- The size of what the yard has read so far, where any operand will do for one that is missing. -/
def Yard.size (g : Gauge) : Yard α → Nat
  | .expecting frames => Frame.around g frames g.operand
  | .holding frames t => Frame.around g frames (t.size g)

variable {g : Gauge}

theorem Frame.around_mono (frames : List (Frame α)) {m n : Nat} (h : m ≤ n) :
    around g frames m ≤ around g frames n := by
  induction frames generalizing m n with
  | nil => exact h
  | cons frame frames ih =>
      cases frame with
      | sign op => exact ih (Nat.add_le_add_right h _)
      | group => exact ih (Nat.add_le_add_right h _)
      | join j left =>
          have hmax : max (left.size g) m ≤ max (left.size g) n := by omega
          exact ih (Nat.add_le_add_right hmax _)

theorem Frame.le_around (frames : List (Frame α)) (n : Nat) : n ≤ around g frames n := by
  induction frames generalizing n with
  | nil => exact Nat.le_refl n
  | cons frame frames ih =>
      cases frame with
      | sign op => exact Nat.le_trans (Nat.le_add_right n _) (ih _)
      | group => exact Nat.le_trans (Nat.le_add_right n _) (ih _)
      | join j left =>
          have hle : n ≤ max (left.size g) n + g.join := by omega
          exact Nat.le_trans hle (ih _)

/-- Applying what waits does not change what comes of it in the end. -/
theorem Frame.around_applyWhile (test : Nat → Bool) (frames : List (Frame α)) (t : OperatorTree α) :
    around g (applyWhile test frames t).1 ((applyWhile test frames t).2.size g) =
      around g frames (t.size g) := by
  fun_induction applyWhile test frames t with
  | case1 op frames t htest ih => exact ih
  | case3 j left frames t htest ih => exact ih
  | case2 | case4 | case5 => rfl

/-- **`size_feed`** — no token makes what has been read smaller. -/
theorem Yard.size_feed {y y' : Yard α} {token : OperatorToken α} (h : y.feed token = some y') :
    y.size g ≤ y'.size g := by
  cases y with
  | expecting frames =>
      cases token with
      | operand a =>
          obtain rfl := Option.some.inj h
          exact Nat.le_refl _
      | sign op =>
          obtain rfl := Option.some.inj h
          exact Frame.around_mono frames (Nat.le_add_right _ _)
      | opening =>
          obtain rfl := Option.some.inj h
          exact Frame.around_mono frames (Nat.le_add_right _ _)
      | closing | joint => cases h
  | holding frames t =>
      cases token with
      | operand | sign | opening => cases h
      | joint j =>
          obtain rfl := Option.some.inj h
          have hsame := Frame.around_applyWhile (g := g) (· ≤ j.level) frames t
          show Frame.around g frames (t.size g) ≤ _
          rw [← hsame]
          refine Frame.around_mono _ ?_
          omega
      | closing =>
          simp only [feed] at h
          split at h
          · rename_i frames' body happly
            obtain rfl := Option.some.inj h
            have hsame := Frame.around_applyWhile (g := g) (fun _ => true) frames t
            rw [happly] at hsame
            exact Nat.le_of_eq hsame.symm
          · cases h

theorem Yard.size_feedAll {tokens : List (OperatorToken α)} {y y' : Yard α}
    (h : y.feedAll tokens = some y') : y.size g ≤ y'.size g := by
  induction tokens generalizing y with
  | nil =>
      obtain rfl := Option.some.inj h
      exact Nat.le_refl _
  | cons token tokens ih =>
      rw [feedAll_cons, Option.bind_eq_some_iff] at h
      obtain ⟨y₁, hfeed, hrest⟩ := h
      exact Nat.le_trans (size_feed hfeed) (ih hrest)

/-- At the end the size is that of the tree. -/
theorem Yard.size_holding {frames : List (Frame α)} {t t' : OperatorTree α}
    (h : applyWhile (fun _ => true) frames t = ([], t')) :
    (Yard.holding frames t).size g = t'.size g := by
  have hsame := Frame.around_applyWhile (g := g) (fun _ => true) frames t
  rw [h] at hsame
  exact hsame.symm

end JsonQuery
