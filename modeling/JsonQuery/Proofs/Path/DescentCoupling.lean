/-
# JsonQuery.Proofs.Path.DescentCoupling — relations that hold of the whole descent.

A relation that sequencing and the primitive readers keep, those of the depth and of the head of a path
among them, is kept by all readers of paths and filters.  The induction is on the fuel of the one that
has less; where that is spent, the reader has failed, and nothing is asked of the other one.
-/
import JsonQuery.Proofs.Path.Coupling

namespace JsonQuery.Path.Reader

/-- **`DescentCoupling J`** — a coupling that is kept as well by the readers that go down and up, read
the head of a path and look up functions. -/
structure DescentCoupling (J : {α : Type} → Reader α → Reader α → Prop) : Prop
    extends Coupling J where
  modifyDepth : ∀ f : Nat → Nat, J (modify fun r => { r with depth := f r.depth })
    (modify fun r => { r with depth := f r.depth })
  headStep : J headStep headStep
  read : ∀ {α : Type} {f f' : Registry → Reader α}, (∀ g, J (f g) (f' g)) →
    J (read >>= f) (read >>= f')

/-! ## Operators that wait -/

namespace Coupling

variable {J : {α : Type} → Reader α → Reader α → Prop} (h : Coupling J)
include h

theorem checkedHeight (height : Nat) : J (checkedHeight height) (checkedHeight height) := by
  unfold Reader.checkedHeight
  refine h.get fun r s _ hdepth => ?_
  rw [hdepth]
  exact h.ite h.fail (h.pure height)

theorem reduce (s : Stacks) : J (reduce s) (reduce s) := by
  unfold Reader.reduce
  split
  · exact h.bind (h.checkedHeight _) fun height => h.pure _
  · exact h.bind (h.checkedHeight _) fun height => h.pure _
  · exact h.fail

theorem reduceWhile (test : Precedence → Bool) (fuel : Nat) (s : Stacks) :
    J (reduceWhile test fuel s) (reduceWhile test fuel s) := by
  induction fuel generalizing s with
  | zero => exact h.pure s
  | succ fuel ih =>
      unfold Reader.reduceWhile
      cases s.pending with
      | nil => exact h.pure s
      | cons top rest => exact h.ite (h.bind (h.reduce s) fun s' => ih s') (h.pure s)

theorem pushBinary (op : BinaryOperator) (s : Stacks) : J (pushBinary op s) (pushBinary op s) :=
  h.bind (h.reduceWhile _ _ s) fun _ => h.pure _

theorem matchTop (p : Pattern) (s : Stacks) : J (matchTop p s) (matchTop p s) := by
  unfold Reader.matchTop
  cases s.operands with
  | nil => exact h.fail
  | cons top rest => exact h.bind (h.checkedHeight _) fun height => h.pure _

end Coupling

/-! ## The descent -/

/-- **`Descent J fuel fuel'`** — the readers of paths and filters with two amounts of fuel are
related. -/
structure Descent (J : {α : Type} → Reader α → Reader α → Prop) (fuel fuel' : Nat) : Prop where
  path : J (path fuel) (path fuel')
  pathSteps : ∀ outer before, J (pathSteps fuel outer before) (pathSteps fuel' outer before)
  brackets : ∀ before, J (brackets fuel before) (brackets fuel' before)
  filter : J (filter fuel) (filter fuel')
  operandPosition : ∀ s, J (operandPosition fuel s) (operandPosition fuel' s)
  afterOperand : ∀ s, J (afterOperand fuel s) (afterOperand fuel' s)
  operand : J (operand fuel) (operand fuel')
  call : ∀ name, J (call fuel name) (call fuel' name)
  arguments : J (arguments fuel) (arguments fuel')

namespace DescentCoupling

variable {J : {α : Type} → Reader α → Reader α → Prop} (h : DescentCoupling J)
include h

theorem enter : J enter enter := by
  unfold Reader.enter
  refine h.bind (h.modifyDepth (· + 1)) fun _ => h.get fun r s _ hdepth => ?_
  rw [hdepth]
  exact h.ite h.fail (h.pure ())

theorem leave : J leave leave := h.modifyDepth (· - 1)

theorem setDepth (depth : Nat) : J (setDepth depth) (setDepth depth) := h.modifyDepth fun _ => depth

theorem closeParen (s : Stacks) : J (closeParen s) (closeParen s) :=
  h.bind (h.reduceWhile _ _ s) fun _ => h.bind h.leave fun _ => h.pure _

theorem finish (s : Stacks) : J (finish s) (finish s) := by
  unfold Reader.finish
  extract_lets closed
  have hclosed : ∀ u, J (closed u) (closed u) := by
    intro u
    refine h.bind (h.reduceWhile _ _ s) fun s' => ?_
    split
    · exact h.bind h.leave fun _ => h.pure _
    · exact h.fail
  refine h.ite (h.bind h.current fun c => ?_) (hclosed ())
  cases c with
  | none => exact h.bind h.fail hclosed
  | some c => exact h.bind h.fail hclosed

section Steps

variable {fuel fuel' : Nat} (hd : Descent J fuel fuel')
include hd

theorem path_succ : J (path (fuel + 1)) (path (fuel' + 1)) := by
  unfold Reader.path
  refine h.bind h.headStep fun head => h.get fun r s _ hdepth => ?_
  rw [hdepth]
  exact h.bind (hd.pathSteps _ _) fun steps => h.bind (h.setDepth _) fun _ => h.pure steps

theorem pathSteps_succ (outer : Nat) (before : List Step) :
    J (pathSteps (fuel + 1) outer before) (pathSteps (fuel' + 1) outer before) := by
  have hmember : ∀ before, J (memberStep >>= fun step => pathSteps fuel outer (step :: before))
      (memberStep >>= fun step => pathSteps fuel' outer (step :: before)) :=
    fun before => h.bind h.memberStep fun step => hd.pathSteps _ _
  unfold Reader.pathSteps
  refine h.bind (h.setDepth _) fun _ => h.get fun r s _ hdepth => ?_
  rw [hdepth]
  extract_lets descending fits fits'
  have hfits : ∀ u, J (fits u) (fits' u) := by
    intro u
    refine h.bind h.current fun c => ?_
    split
    · refine h.bind h.advance fun _ => h.bind h.current fun c => h.ite ?_ (hmember _)
      exact h.bind h.advance fun _ => h.bind h.current fun c =>
        h.ite (hd.pathSteps _ _) (hmember _)
    · exact h.bind h.advance fun _ => h.bind (hd.brackets []) fun step => hd.pathSteps _ _
    · exact h.bind (h.readWhile _) fun carets => hd.pathSteps _ _
    · exact h.pure _
  exact h.ite (h.bind h.fail hfits) (hfits ())

theorem brackets_succ (before : List Step) :
    J (brackets (fuel + 1) before) (brackets (fuel' + 1) before) := by
  unfold Reader.brackets
  refine h.bind h.skipBlanks fun _ => h.bind h.demand fun c => ?_
  extract_lets behind behind'
  -- What follows a step is the same for all of them.
  have hbehind : ∀ step, J (behind step) (behind' step) := by
    intro step
    refine h.bind h.skipBlanks fun _ => h.bind h.demand fun c => h.ite ?_ (h.ite ?_ h.fail)
    · exact h.bind h.advance fun _ => hd.brackets _
    · exact h.bind h.advance fun _ => h.pure _
  refine h.ite ?_ (h.ite ?_ (h.ite ?_ (h.ite ?_ (h.bind h.fail hbehind))))
  · exact h.bind h.advance fun _ => h.bind (h.pure _) hbehind
  · exact h.bind (h.quoted c) fun name => h.bind (h.pure _) hbehind
  · exact h.bind h.advance fun _ => h.bind hd.filter fun f => h.bind (h.pure _) hbehind
  · exact h.bind h.indexOrSlice hbehind

theorem filter_succ : J (filter (fuel + 1)) (filter (fuel' + 1)) :=
  h.bind h.enter fun _ => hd.operandPosition {}

theorem operandPosition_succ (s : Stacks) :
    J (operandPosition (fuel + 1) s) (operandPosition (fuel' + 1) s) := by
  unfold Reader.operandPosition
  refine h.bind h.skipBlanks fun _ => h.bind h.current fun c => ?_
  split
  · exact h.bind h.advance fun _ => hd.operandPosition _
  · exact h.bind h.advance fun _ => h.bind h.enter fun _ => hd.operandPosition _
  · -- A minus is a sign before a caret as it is at the end.
    refine h.next (fun c' => h.ite ?_ ?_) rfl
    · exact h.bind h.advance fun _ => hd.operandPosition _
    · exact h.bind hd.operand fun f => hd.afterOperand _

theorem afterOperand_succ (s : Stacks) :
    J (afterOperand (fuel + 1) s) (afterOperand (fuel' + 1) s) := by
  unfold Reader.afterOperand
  refine h.bind h.skipBlanks fun _ => h.bind h.current fun c => ?_
  cases c with
  | none => exact h.finish s
  | some c =>
      refine h.ite ?_ (h.next (fun c' => h.ite ?_ (h.ite (h.finish s) ?_)) rfl)
      · exact h.bind h.advance fun _ => h.bind (h.closeParen s) fun s' => hd.afterOperand s'
      · exact h.bind h.advance fun _ => h.bind h.advance fun _ => h.bind h.pattern fun p =>
          h.bind (h.matchTop p s) fun s' => hd.afterOperand s'
      · exact h.bind h.binaryOperator fun op => h.bind (h.pushBinary op s) fun s' =>
          hd.operandPosition s'

theorem operand_succ : J (operand (fuel + 1)) (operand (fuel' + 1)) := by
  unfold Reader.operand
  refine h.bind h.demand fun c => h.ite ?_ (h.ite ?_ (h.ite h.number (h.ite ?_ h.fail)))
  · exact h.bind h.enter fun _ => h.bind hd.path fun steps => h.bind h.leave fun _ => h.pure _
  · exact h.bind (h.quoted c) fun name => h.pure _
  · refine h.bind (h.readWhile _) fun word => ?_
    cases literalWord? word with
    | some json => exact h.pure _
    | none =>
        exact h.bind h.skipBlanks fun _ => h.bind h.current fun c =>
          h.ite (h.bind h.fail fun _ => hd.call _) (hd.call _)

theorem call_succ (name : String) : J (call (fuel + 1) name) (call (fuel' + 1) name) := by
  unfold Reader.call
  refine h.read fun g => ?_
  cases g.find? name with
  | none => exact h.fail
  | some function =>
      refine h.bind h.advance fun _ => h.bind h.enter fun _ => h.bind h.skipBlanks fun _ =>
        h.bind h.current fun c => ?_
      extract_lets behind
      have hbehind : ∀ args, J (behind args) (behind args) := by
        intro args
        refine h.bind h.leave fun _ => ?_
        split
        · exact h.ite (h.bind h.fail fun _ => h.pure _) (h.pure _)
        · exact h.pure _
      refine h.ite ?_ ?_
      · exact h.bind h.advance fun _ => hbehind []
      · exact h.bind hd.arguments hbehind

theorem arguments_succ : J (arguments (fuel + 1)) (arguments (fuel' + 1)) := by
  unfold Reader.arguments
  refine h.bind hd.filter fun arg => h.bind h.demand fun c => h.ite ?_ (h.ite ?_ h.fail)
  · exact h.bind h.advance fun _ => h.bind hd.arguments fun rest => h.pure _
  · exact h.bind h.advance fun _ => h.pure _

end Steps

/-- **`descent`** — the whole descent is related to itself with more fuel. -/
theorem descent {fuel fuel' : Nat} (hfuel : fuel ≤ fuel') : Descent J fuel fuel' := by
  induction fuel generalizing fuel' with
  | zero =>
      exact ⟨h.fail, fun _ _ => h.fail, fun _ => h.fail, h.fail, fun _ => h.fail, fun _ => h.fail,
        h.fail, fun _ => h.fail, h.fail⟩
  | succ fuel ih =>
      obtain ⟨fuel', rfl⟩ : ∃ inner, fuel' = inner + 1 := ⟨fuel' - 1, by omega⟩
      have hd : Descent J fuel fuel' := ih (by omega)
      exact ⟨h.path_succ hd, h.pathSteps_succ hd, h.brackets_succ hd, h.filter_succ hd,
        h.operandPosition_succ hd, h.afterOperand_succ hd, h.operand_succ hd, h.call_succ hd,
        h.arguments_succ hd⟩

end DescentCoupling

end JsonQuery.Path.Reader
