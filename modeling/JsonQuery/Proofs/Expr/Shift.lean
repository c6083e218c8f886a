/-
# JsonQuery.Proofs.Expr.Shift — the same text further on in another one.

References are known by the place where they stand, so the tree of a text changes when the text moves:
all its references move along.  Nothing else does, and everything that the parser puts on its stacks
moves in the same way.
-/
import JsonQuery.Expr.Printer
import JsonQuery.Expr.Stacks

namespace JsonQuery

open JsonQuery.Expr (Step Operand Item Pending Token Action)

/-! ## Trees -/

mutual

/-- **`e.shift n`** — the tree of the same text, `n` characters further on. -/
def Expr.shift (n : Nat) : Expr → Expr
  | .current => .current
  | .field name => .field name
  | .index i => .index i
  | .slice s => .slice s
  | .literal json => .literal json
  | .chain left right => .chain (left.shift n) (right.shift n)
  | .project kind left right => .project (kind.shift n) (left.shift n) (right.shift n)
  | .list items => .list (Expr.shiftItems n items)
  | .hash entries => .hash (Expr.shiftEntries n entries)
  | .binary op left right => .binary op (left.shift n) (right.shift n)
  | .unary op operand => .unary op (operand.shift n)
  | .pipe left right => .pipe (left.shift n) (right.shift n)
  | .call function args => .call function (Expr.shiftItems n args)
  | .reference id body => .reference (id + n) (body.shift n)

def Projection.shift (n : Nat) : Projection → Projection
  | .list => .list
  | .object => .object
  | .flatten => .flatten
  | .filter predicate => .filter (predicate.shift n)

def Expr.shiftItems (n : Nat) : List Expr → List Expr
  | [] => []
  | item :: rest => item.shift n :: Expr.shiftItems n rest

def Expr.shiftEntries (n : Nat) : List (String × Expr) → List (String × Expr)
  | [] => []
  | (name, item) :: rest => (name, item.shift n) :: Expr.shiftEntries n rest

end

namespace Expr

variable (n : Nat)

@[simp] theorem shiftItems_eq_map (items : List Expr) : shiftItems n items = items.map (shift n) := by
  induction items with
  | nil => rfl
  | cons item rest ih => rw [shiftItems, ih, List.map_cons]

@[simp] theorem shiftEntries_eq_map (entries : List (String × Expr)) :
    shiftEntries n entries = entries.map fun entry => (entry.1, entry.2.shift n) := by
  induction entries with
  | nil => rfl
  | cons entry rest ih => rw [shiftEntries, ih, List.map_cons]

@[simp] theorem shift_step (left right : Expr) :
    (left.step right).shift n = (left.shift n).step (right.shift n) := by
  cases left <;> rfl

@[simp] theorem shift_projectAll (kind : Projection) (left : Expr) :
    (projectAll kind left).shift n = projectAll (kind.shift n) (left.shift n) := rfl

mutual

/-- **`toText_shift`** — a tree that moves keeps its shape, which the printed tree shows. -/
theorem toText_shift (e : Expr) : (e.shift n).toText = e.toText := by
  cases e with
  | current | field | index | slice | literal => rfl
  | chain left right | binary op left right | pipe left right =>
      simp only [shift, toText, toText_shift left, toText_shift right]
  | project kind left right =>
      simp only [shift, toText, label_shift kind, toText_shift left, toText_shift right]
  | unary op operand => simp only [shift, toText, toText_shift operand]
  | reference id body => simp only [shift, toText, toText_shift body]
  | list items => simp only [shift, toText, itemsText_shift items]
  | hash entries => simp only [shift, toText, entriesText_shift entries]
  | call function args =>
      have hempty : (shiftItems n args).isEmpty = args.isEmpty := by
        rw [shiftItems_eq_map, List.isEmpty_map]
      simp only [shift, toText, hempty, itemsText_shift args]

theorem label_shift (kind : Projection) : (kind.shift n).label = kind.label := by
  cases kind with
  | list | object | flatten => rfl
  | filter predicate => simp only [Projection.shift, Projection.label, toText_shift predicate]

theorem itemsText_shift (items : List Expr) : itemsText (shiftItems n items) = itemsText items := by
  match items with
  | [] => rfl
  | [item] => simp only [shiftItems, itemsText, toText_shift item]
  | item :: next :: rest =>
      have hrest := itemsText_shift (next :: rest)
      simp only [shiftItems, itemsText, toText_shift item] at hrest ⊢
      rw [hrest]

theorem entriesText_shift (entries : List (String × Expr)) :
    entriesText (shiftEntries n entries) = entriesText entries := by
  match entries with
  | [] => rfl
  | [(name, item)] => simp only [shiftEntries, entriesText, toText_shift item]
  | (name, item) :: next :: rest =>
      have hrest := entriesText_shift (next :: rest)
      simp only [shiftEntries, entriesText, toText_shift item] at hrest ⊢
      rw [hrest]

end

namespace Step

/-- A step further on. -/
def shift : Step → Step
  | .filter predicate => .filter (predicate.shift n)
  | .node e => .node (e.shift n)
  | step => step

@[simp] theorem shift_apply (step : Step) (target : Expr) :
    (step.apply target).shift n = (step.shift n).apply (target.shift n) := by
  cases step with
  | slice | items | values | filter => simp [apply, shift, Projection.shift, Expr.shift]
  | field | index | node => simp [apply, shift, Expr.shift]

@[simp] theorem shift_extend (step : Step) (target : Expr) :
    (step.extend target).shift n = (step.shift n).extend (target.shift n) := by
  fun_induction extend step target with
  | case1 kind left right ih => rw [Expr.shift, ih, Expr.shift, extend]
  | case2 target hproject =>
      rw [shift_apply]
      cases target with
      | project kind left right => exact absurd rfl (hproject kind left right)
      | _ => rfl

@[simp] theorem shift_projects (step : Step) : (step.shift n).projects = step.projects := by
  cases step <;> rfl

@[simp] theorem shift_heightAfter (step : Step) (projecting : Bool) (height inner : Nat) :
    (step.shift n).heightAfter projecting height inner =
      step.heightAfter projecting height inner := by
  cases step <;> rfl

end Step

/-! ## What waits on the stacks -/

/-- An operand further on. -/
def Operand.shift (o : Operand) : Operand := { o with expr := o.expr.shift n }

/-- An item further on. -/
def Item.shift : Item → Item
  | .operand o => .operand (o.shift n)
  | item => item

end Expr

/-- An operator further on. -/
def Operator.shift (n : Nat) : Operator → Operator
  | .reference offset => .reference (offset + n)
  | op => op

namespace Operator

@[simp] theorem shift_precedence (n : Nat) (op : Operator) :
    (op.shift n).precedence = op.precedence := by
  cases op <;> rfl

@[simp] theorem shift_isRightAssociative (n : Nat) (op : Operator) :
    (op.shift n).isRightAssociative = op.isRightAssociative := by
  cases op <;> rfl

end Operator

namespace Expr

/-- What waits, further on. -/
def Pending.shift (n : Nat) : Pending → Pending
  | .operator op => .operator (op.shift n)
  | .barrier => .barrier

/-- A token further on. -/
def Token.shift (n : Nat) : Token → Token
  | .operand o => .operand (o.shift n)
  | .operator op => .operator (op.shift n)
  | token => token

/-- What a move does to the stacks, further on. -/
def Action.shift (n : Nat) : Action → Action
  | .token t => .token (t.shift n)
  | .leaf e projecting => .leaf (e.shift n) projecting
  | .attach step => .attach (step.shift n)
  | action => action

end Expr

end JsonQuery
