/-
# JsonQuery.Proofs.Expr.OperatorStacks — operator expressions on the stacks of the parser.

The yard keeps signs, operators and left operands in one stack of frames.  The parser keeps the
operands on one stack and the operators on another, and it refuses trees and groups that are too deep.
Apart from that the stacks do what the yard does, token by token.
-/
import JsonQuery.Proofs.Expr.Place
import JsonQuery.Proofs.Operator.Tree

namespace JsonQuery

open JsonQuery.Expr
open ParseError (Cause)

/-! ## Identifiers and the trees over them -/

/-- A plain identifier. -/
structure Identifier where
  first : Char
  rest : List Char
  starts : Text.isIdentifierStart first
  continues : ∀ c ∈ rest, Text.isIdentifierPart c

namespace Identifier

/-- The characters. -/
def chars (name : Identifier) : List Char := name.first :: name.rest

/-- The name. -/
def text (name : Identifier) : String := String.ofList name.chars

end Identifier

namespace Joint

/-- The node of an infix operator. -/
def build : Joint → Expr → Expr → Expr
  | .binary op => .binary op
  | .pipe => .pipe

theorem applyOperator_operator (j : Joint) (items : List Item) :
    applyOperator j.operator items = applyInfix j.build items := by
  cases j <;> rfl

end Joint

namespace OperatorTree

/-- The expression of a tree; parentheses leave no trace. -/
def toExpr : OperatorTree Identifier → Expr
  | .operand name => .field name.text
  | .sign op body => .unary op body.toExpr
  | .group body => body.toExpr
  | .join j left right => j.build left.toExpr right.toExpr

/-- The tree as an operand on the stack of items, with the height that the parser keeps. -/
def item (t : OperatorTree Identifier) : Item := .operand ⟨t.toExpr, false, t.size .height⟩

end OperatorTree

/-! ## Frames on the stacks -/

namespace Frame

/-- What frames put on the stack of items. -/
def items : List (Frame Identifier) → List Item
  | [] => []
  | .sign _ :: frames => items frames
  | .join _ left :: frames => left.item :: items frames
  | .group :: frames => .opened .paren :: items frames

/-- What frames put on the stack of operators. -/
def pending : List (Frame Identifier) → List Pending
  | [] => []
  | .sign op :: frames => .operator (.unary op) :: pending frames
  | .join j _ :: frames => .operator j.operator :: pending frames
  | .group :: frames => .barrier :: pending frames

/-- How many parentheses are open. -/
def groups : List (Frame Identifier) → Nat
  | [] => 0
  | .group :: frames => groups frames + 1
  | _ :: frames => groups frames

/-- Open parentheses are parentheses of the tree in the end. -/
theorem groups_le (frames : List (Frame Identifier)) (n : Nat) :
    groups frames + n ≤ around .nesting frames n := by
  induction frames generalizing n with
  | nil => exact Nat.le_of_eq (Nat.zero_add n)
  | cons frame frames ih =>
      cases frame with
      | sign op => exact ih n
      | group =>
          show groups frames + 1 + n ≤ around .nesting frames (n + 1)
          rw [Nat.add_right_comm]
          exact ih (n + 1)
      | join j left =>
          have hmax : n ≤ max (left.size .nesting) n := Nat.le_max_right _ _
          show groups frames + n ≤ around .nesting frames (max (left.size .nesting) n)
          exact Nat.le_trans (Nat.add_le_add_left hmax _) (ih _)

end Frame

/-- The stacks of the parser where the yard stands. -/
def Yard.stacks : Yard Identifier → Stacks
  | .expecting frames => ⟨Frame.items frames, Frame.pending frames, Frame.groups frames⟩
  | .holding frames t => ⟨t.item :: Frame.items frames, Frame.pending frames, Frame.groups frames⟩

variable {limit : Prop}

theorem applyInfix_item (j : Joint) (left right : OperatorTree Identifier) (items : List Item)
    (hlimit : maxNesting < (OperatorTree.join j left right).size .height → limit) :
    OrTooDeep limit (applyOperator j.operator (right.item :: left.item :: items))
      ((OperatorTree.join j left right).item :: items) := by
  rw [j.applyOperator_operator]
  exact .pushNode _ _ _ hlimit

theorem applyPrefix_item (op : UnaryOperator) (body : OperatorTree Identifier) (items : List Item)
    (hlimit : maxNesting < (OperatorTree.sign op body).size .height → limit) :
    OrTooDeep limit (applyOperator (.unary op) (body.item :: items))
      ((OperatorTree.sign op body).item :: items) :=
  .pushNode _ _ _ hlimit

/-- Applying the waiting operators on the stacks is applying the waiting frames. -/
theorem reduceWhile_frames (test : Nat → Bool) (frames : List (Frame Identifier))
    (t : OperatorTree Identifier)
    (hlimit : maxNesting < Frame.around .height frames (t.size .height) → limit) :
    OrTooDeep limit
      (reduceWhile (fun op => test op.precedence.level) (t.item :: Frame.items frames)
        (Frame.pending frames))
      ((applyWhile test frames t).2.item :: Frame.items (applyWhile test frames t).1,
        Frame.pending (applyWhile test frames t).1) := by
  induction frames generalizing t with
  | nil => exact .inl rfl
  | cons frame frames ih =>
      cases frame with
      | group => exact .inl rfl
      | sign op =>
          simp only [Frame.items, Frame.pending, reduceWhile, applyWhile]
          show OrTooDeep limit (if test Precedence.unary.level = true then _ else _) _
          have hnode : maxNesting < (OperatorTree.sign op t).size .height → limit :=
            fun hdeep => hlimit (Nat.lt_of_lt_of_le hdeep (Frame.le_around frames _))
          split
          · exact (applyPrefix_item op t _ hnode).bind (ih _ hlimit)
          · exact .inl rfl
      | join j left =>
          simp only [Frame.items, Frame.pending, reduceWhile, applyWhile]
          show OrTooDeep limit (if test j.level = true then _ else _) _
          have hnode : maxNesting < (OperatorTree.join j left t).size .height → limit :=
            fun hdeep => hlimit (Nat.lt_of_lt_of_le hdeep (Frame.le_around frames _))
          split
          · exact (applyInfix_item j left t _ hnode).bind (ih _ hlimit)
          · exact .inl rfl

theorem groups_applyWhile (test : Nat → Bool) (frames : List (Frame Identifier))
    (t : OperatorTree Identifier) :
    Frame.groups (applyWhile test frames t).1 = Frame.groups frames := by
  fun_induction applyWhile test frames t with
  | case1 | case3 => assumption
  | case2 | case4 | case5 => rfl

theorem reduceWhile_holding (test : Nat → Bool) {frames frames' : List (Frame Identifier)}
    {t t' : OperatorTree Identifier} (h : applyWhile test frames t = (frames', t'))
    (hlimit : maxNesting < (Yard.holding frames t).size .height → limit) :
    OrTooDeep limit ((Yard.holding frames t).stacks.reduceWhile fun op => test op.precedence.level)
      (Yard.holding frames' t').stacks := by
  have hreduce := reduceWhile_frames test frames t hlimit
  have hgroups := groups_applyWhile test frames t
  rw [h] at hreduce hgroups
  simp only at hreduce hgroups
  -- The parser counts groups apart from its stacks, and applying operators leaves the count.
  refine hreduce.bind (.inl ?_)
  simp only [Yard.stacks, hgroups]
  rfl

/-! ## Tokens on the stacks -/

/-- What the parser does with a token of an operator expression. -/
def OperatorToken.action : OperatorToken Identifier → Action
  | .operand name => .leaf (.field name.text) false
  | .sign op => .token (.operator (.unary op))
  | .opening => .token (.opening .paren)
  | .closing => .token (.closing .paren)
  | .joint j => .token (.operator j.operator)

theorem accept_operator (j : Joint) (s : Stacks) :
    s.accept (.operator j.operator) = s.pushInfix j.operator := by
  cases j <;> rfl

/-- Before an operator that groups to the left, an equal level is applied as well. -/
theorem Precedence.yieldsTo_eq_decide (p q : Precedence) :
    p.yieldsTo q false = decide (p.level ≤ q.level) := by
  rw [yieldsTo, Bool.eq_iff_iff]
  simp only [Bool.not_false, Bool.and_true, Bool.or_eq_true, decide_eq_true_eq, beq_iff_eq]
  omega

theorem yieldsTo_joint (op : Operator) (j : Joint) :
    op.precedence.yieldsTo j.operator.precedence j.operator.isRightAssociative =
      decide (op.precedence.level ≤ j.level) := by
  -- All infix operators group to the left.
  have hassociative : j.operator.isRightAssociative = false := by cases j <;> rfl
  rw [hassociative, Precedence.yieldsTo_eq_decide, Joint.level]

/-- **`perform_feed`** — reading a token takes the stacks where it takes the yard, unless something
nests too deep. -/
theorem perform_feed {y y' : Yard Identifier} {token : OperatorToken Identifier}
    (h : y.feed token = some y') (hheight : maxNesting < y'.size .height → limit)
    (hnesting : maxNesting < y'.size .nesting → limit) :
    OrTooDeep limit (y.stacks.perform token.action) y'.stacks := by
  have hbefore : maxNesting < y.size .height → limit :=
    fun hdeep => hheight (Nat.lt_of_lt_of_le hdeep (Yard.size_feed h))
  cases y with
  | expecting frames =>
      cases token with
      | operand name =>
          obtain rfl := Option.some.inj h
          exact .inl rfl
      | sign op =>
          obtain rfl := Option.some.inj h
          exact .inl rfl
      | opening =>
          obtain rfl := Option.some.inj h
          refine .openGroup _ _ fun hdeep => hnesting ?_
          exact Nat.lt_of_lt_of_le hdeep (Frame.groups_le frames 1)
      | closing | joint => cases h
  | holding frames t =>
      cases token with
      | operand | sign | opening => cases h
      | joint j =>
          obtain rfl := Option.some.inj h
          simp only [OperatorToken.action, Stacks.perform, accept_operator, Stacks.pushInfix,
            yieldsTo_joint]
          exact (reduceWhile_holding (· ≤ j.level) rfl hbefore).bind (.inl rfl)
      | closing =>
          simp only [Yard.feed] at h
          split at h
          · rename_i frames' body happly
            obtain rfl := Option.some.inj h
            refine (reduceWhile_holding (fun _ => true) happly hbefore).bind ?_
            refine (OrTooDeep.pushNode _ _ _ fun hdeep => hheight ?_).bind (.inl rfl)
            exact Nat.lt_of_lt_of_le hdeep (Frame.le_around frames' _)
          · cases h

/-- What the stacks hold at the end of the tokens. -/
theorem result_holding {frames : List (Frame Identifier)} {t t' : OperatorTree Identifier}
    (h : applyWhile (fun _ => true) frames t = ([], t'))
    (hlimit : maxNesting < t'.size .height → limit) :
    OrTooDeep limit (Yard.holding frames t).stacks.result ⟨t'.toExpr, false, t'.size .height⟩ := by
  rw [← Yard.size_holding h] at hlimit
  have hreduce := reduceWhile_holding (fun _ => true) h hlimit
  exact OrTooDeep.bind (hreduce.bind (.inl rfl)) (.inl rfl)

end JsonQuery
