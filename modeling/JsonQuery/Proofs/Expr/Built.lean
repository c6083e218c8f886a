/-
# JsonQuery.Proofs.Expr.Built — how operands are built.

An operand gets its tree in many places: operators and groups make a new one, steps change the one on
top, inside its open projection where it has one.  `Operand.Built` lists these ways once, with what
the parser has made sure of at each of them.  Every operand on the stacks is built so, all along a
run, and what holds of every tree is shown by induction on how it is built.
-/
import JsonQuery.Proofs.Expr.Agreement
import JsonQuery.Proofs.Json.UniqueNames

namespace JsonQuery.Expr

open ParseError (Cause)

/-! ## Ways to build -/

/-- A step that carries nothing that has been read as an operand; a slice moves on. -/
def Step.isPlain : Step → Bool
  | .field _ | .index _ | .items | .values => true
  | .slice s => s.step ≠ 0
  | .filter _ | .node _ => false

namespace Operand

/-- The operand with a step at its end; `inner` is the height of what the step carries. -/
def attach (target : Operand) (s : Step) (inner : Nat) : Operand where
  expr := if target.projecting then s.extend target.expr else s.apply target.expr
  projecting := target.projecting || s.projects
  height := s.heightAfter target.projecting target.height inner

/-- **`o.Built`** — the ways in which the parser comes to an operand, whose height it keeps to the
limit. -/
inductive Built : Operand → Prop where
  | current {height : Nat} : height = 1 ∨ height = 2 → Built ⟨.current, false, height⟩
  | literal {json : Json} : json.hasUniqueNames = true → Built ⟨.literal json, false, 1⟩
  | field (name : String) : Built ⟨.field name, false, 2⟩
  | values : Built ⟨projectAll .object .current, true, 2⟩
  | flattened : Built ⟨projectAll .flatten .current, true, 2⟩
  | closed {o : Operand} : o.Built → Built ⟨o.expr, false, o.height⟩
  | binary (op : BinaryOperator) {left right : Operand} : left.Built → right.Built →
      max left.height right.height + 1 ≤ maxNesting →
      Built ⟨.binary op left.expr right.expr, false, max left.height right.height + 1⟩
  | pipe {left right : Operand} : left.Built → right.Built →
      max left.height right.height + 1 ≤ maxNesting →
      Built ⟨.pipe left.expr right.expr, false, max left.height right.height + 1⟩
  | unary (op : UnaryOperator) {o : Operand} : o.Built → o.height + 1 ≤ maxNesting →
      Built ⟨.unary op o.expr, false, o.height + 1⟩
  | reference (id : Nat) {o : Operand} : o.Built → o.height + 1 ≤ maxNesting →
      Built ⟨.reference id o.expr, false, o.height + 1⟩
  | step {target : Operand} {s : Step} : target.Built → s.isPlain →
      (target.attach s 0).height ≤ maxNesting → Built (target.attach s 0)
  | filterStep {target o : Operand} : target.Built → o.Built →
      (target.attach (.filter o.expr) o.height).height ≤ maxNesting →
      Built (target.attach (.filter o.expr) o.height)
  | nodeStep {target o : Operand} : target.Built → o.Built →
      (target.attach (.node o.expr) o.height).height ≤ maxNesting →
      Built (target.attach (.node o.expr) o.height)
  | flatten {target : Operand} : target.Built → target.height + 2 ≤ maxNesting →
      Built ⟨projectAll .flatten target.expr, true, target.height + 2⟩
  | filter {o : Operand} : o.Built → o.height + 1 ≤ maxNesting →
      Built ⟨projectAll (.filter o.expr) .current, true, o.height + 1⟩
  | list {operands : List Operand} : operands ≠ [] → (∀ o ∈ operands, o.Built) →
      greatestHeight operands + 1 ≤ maxNesting →
      Built ⟨.list (operands.map (·.expr)), false, greatestHeight operands + 1⟩
  | hash {entries : List (String × Operand)} : entries ≠ [] → (∀ entry ∈ entries, entry.2.Built) →
      greatestHeight (entries.map (·.2)) + 1 ≤ maxNesting →
      Built ⟨.hash (entries.map fun entry => (entry.1, entry.2.expr)), false,
        greatestHeight (entries.map (·.2)) + 1⟩
  | call {function : Function} {operands : List Operand} :
      (∀ n, function.arity = some n → operands.length = n) → (∀ o ∈ operands, o.Built) →
      greatestHeight operands + 1 ≤ maxNesting →
      Built ⟨.call function (operands.map (·.expr)), false, greatestHeight operands + 1⟩

end Operand

/-- **`AllBuilt items`** — every operand among the items is built in one of these ways. -/
def AllBuilt (items : List Item) : Prop := ∀ o, .operand o ∈ items → o.Built

section Items

variable {items items' : List Item}

theorem allBuilt_nil : AllBuilt [] := nofun

theorem allBuilt_operand {o : Operand} :
    AllBuilt (.operand o :: items) ↔ o.Built ∧ AllBuilt items := by
  simp [AllBuilt]

theorem allBuilt_key {name : String} : AllBuilt (.key name :: items) ↔ AllBuilt items := by
  simp [AllBuilt]

theorem allBuilt_opened {group : Group} : AllBuilt (.opened group :: items) ↔ AllBuilt items := by
  simp [AllBuilt]

namespace AllBuilt

theorem tail {item : Item} (h : AllBuilt (item :: items)) : AllBuilt items :=
  fun o ho => h o (List.mem_cons_of_mem item ho)

/-- What gets past the limit is not put on the stack. -/
theorem push {e : Expr} {projecting : Bool} {height : Nat} (hitems : AllBuilt items)
    (ho : height ≤ maxNesting → Operand.Built ⟨e, projecting, height⟩)
    (h : pushNode e projecting height items = .ok items') : AllBuilt items' := by
  unfold pushNode at h
  split at h
  · cases h
  · rename_i hlimit
    cases h
    exact allBuilt_operand.mpr ⟨ho (Nat.le_of_not_lt hlimit), hitems⟩

theorem asOperand {item : Item} {o : Operand} (hitems : AllBuilt (item :: items))
    (h : item.asOperand = .ok o) : o.Built ∧ AllBuilt items := by
  cases item with
  | operand o' =>
      cases h
      exact allBuilt_operand.mp hitems
  | key | opened => cases h

theorem pop {o : Operand} {rest : List Item} (hitems : AllBuilt items)
    (h : popOperand items = .ok (o, rest)) : o.Built ∧ AllBuilt rest := by
  cases items with
  | nil => cases h
  | cons item items =>
      obtain ⟨o', ho', h⟩ := bind_eq_ok.mp h
      cases h
      exact hitems.asOperand ho'

theorem closeProjection (hitems : AllBuilt items) : AllBuilt (closeProjection items) := by
  unfold Expr.closeProjection
  split
  · obtain ⟨ho, hrest⟩ := allBuilt_operand.mp hitems
    exact allBuilt_operand.mpr ⟨.closed ho, hrest⟩
  · exact hitems

/-! ## Operators and steps -/

theorem applyOperator {op : Operator} (hitems : AllBuilt items)
    (h : applyOperator op items = .ok items') : AllBuilt items' := by
  cases op with
  | binary op =>
      obtain ⟨⟨right, items₁⟩, hright, h⟩ := bind_eq_ok.mp h
      obtain ⟨⟨left, items₂⟩, hleft, h⟩ := bind_eq_ok.mp h
      obtain ⟨hr, hitems₁⟩ := hitems.pop hright
      obtain ⟨hl, hitems₂⟩ := hitems₁.pop hleft
      exact hitems₂.push (.binary op hl hr) h
  | pipe =>
      obtain ⟨⟨right, items₁⟩, hright, h⟩ := bind_eq_ok.mp h
      obtain ⟨⟨left, items₂⟩, hleft, h⟩ := bind_eq_ok.mp h
      obtain ⟨hr, hitems₁⟩ := hitems.pop hright
      obtain ⟨hl, hitems₂⟩ := hitems₁.pop hleft
      exact hitems₂.push (.pipe hl hr) h
  | unary op =>
      obtain ⟨⟨o, items₁⟩, hoperand, h⟩ := bind_eq_ok.mp h
      obtain ⟨ho, hitems₁⟩ := hitems.pop hoperand
      exact hitems₁.push (.unary op ho) h
  | reference id =>
      obtain ⟨⟨o, items₁⟩, hoperand, h⟩ := bind_eq_ok.mp h
      obtain ⟨ho, hitems₁⟩ := hitems.pop hoperand
      exact hitems₁.push (.reference id ho) h

theorem reduceWhile {test : Operator → Bool} {pending pending' : List Pending}
    (hitems : AllBuilt items) (h : reduceWhile test items pending = .ok (items', pending')) :
    AllBuilt items' := by
  induction pending generalizing items with
  | nil =>
      cases h
      exact hitems
  | cons p rest ih =>
      cases p with
      | barrier =>
          cases h
          exact hitems
      | operator op =>
          simp only [Expr.reduceWhile] at h
          split at h
          · obtain ⟨next, hnext, h⟩ := bind_eq_ok.mp h
            exact ih (hitems.applyOperator hnext) h
          · cases h
            exact hitems

theorem attachStep {s : Step} {inner : Nat} (hitems : AllBuilt items)
    (ho : ∀ target : Operand, target.Built → (target.attach s inner).height ≤ maxNesting →
      (target.attach s inner).Built)
    (h : attachStep s inner items = .ok items') : AllBuilt items' := by
  obtain ⟨⟨target, items₁⟩, htarget, h⟩ := bind_eq_ok.mp h
  obtain ⟨htarget, hitems₁⟩ := hitems.pop htarget
  exact hitems₁.push (ho target htarget) h

theorem flattenTop (hitems : AllBuilt items) (h : flattenTop items = .ok items') :
    AllBuilt items' := by
  obtain ⟨⟨target, items₁⟩, htarget, h⟩ := bind_eq_ok.mp h
  obtain ⟨ho, hitems₁⟩ := hitems.pop htarget
  exact hitems₁.push (.flatten ho) h

/-! ## Groups -/

theorem splitGroup {above parts below : List Item} {group : Group} (habove : AllBuilt above)
    (hitems : AllBuilt items) (h : splitGroup above items = some (parts, group, below)) :
    AllBuilt parts ∧ AllBuilt below := by
  fun_induction Expr.splitGroup above items with
  | case1 => cases h
  | case2 above group rest =>
      cases h
      exact ⟨habove, allBuilt_opened.mp hitems⟩
  | case3 above item rest hitem ih =>
      refine ih (fun o ho => ?_) hitems.tail h
      rcases List.mem_cons.mp ho with rfl | ho
      · exact hitems o List.mem_cons_self
      · exact habove o ho

theorem asOperands {operands : List Operand} (hitems : AllBuilt items)
    (h : asOperands items = .ok operands) :
    operands.length = items.length ∧ ∀ o ∈ operands, o.Built := by
  induction items generalizing operands with
  | nil =>
      cases h
      exact ⟨rfl, List.forall_mem_nil _⟩
  | cons item items ih =>
      rw [Expr.asOperands, List.mapM_cons] at h
      obtain ⟨o, ho, h⟩ := bind_eq_ok.mp h
      obtain ⟨os, hos, h⟩ := bind_eq_ok.mp h
      cases h
      obtain ⟨hlength, hbuilt⟩ := ih hitems.tail hos
      exact ⟨congrArg (· + 1) hlength, List.forall_mem_cons.mpr ⟨(hitems.asOperand ho).1, hbuilt⟩⟩

theorem asEntries {entries : List (String × Operand)} (hitems : AllBuilt items)
    (h : asEntries items = .ok entries) :
    (entries = [] → items = []) ∧ ∀ entry ∈ entries, entry.2.Built := by
  fun_induction Expr.asEntries items generalizing entries with
  | case1 => exact ⟨fun _ => rfl, by cases h; exact List.forall_mem_nil _⟩
  | case2 name item rest ih =>
      obtain ⟨o, ho, h⟩ := bind_eq_ok.mp h
      obtain ⟨os, hos, h⟩ := bind_eq_ok.mp h
      cases h
      obtain ⟨hbuilt, hrest⟩ := (allBuilt_key.mp hitems).asOperand ho
      refine ⟨fun hnil => ?_, List.forall_mem_cons.mpr ⟨hbuilt, (ih hrest hos).2⟩⟩
      cases hnil
  | case3 => cases h

/-- A list, an object or a call, on its own or behind a dot. -/
theorem pushGroup {e : Expr} {chained : Bool} {height : Nat} (hitems : AllBuilt items)
    (ho : height ≤ maxNesting → Operand.Built ⟨e, false, height⟩)
    (h : pushGroup e chained height items = .ok items') : AllBuilt items' := by
  cases chained with
  | false => exact hitems.push ho h
  | true =>
      refine hitems.attachStep (fun target htarget hheight => ?_) h
      -- Behind a dot the operand that the step goes to is higher than what the step carries.
      have hle : height ≤ (target.attach (.node e) height).height := by
        cases hprojecting : target.projecting <;>
          simp only [Operand.attach, Step.heightAfter, hprojecting, Bool.false_eq_true, if_false,
            if_true] <;> omega
      exact .nodeStep htarget (ho (Nat.le_trans hle hheight)) hheight

/-- **`AllBuilt.close`** — what a group becomes is built of its parts, of which there are some unless
it is a call. -/
theorem close {group : Group} {closer : Closer} {parts : List Item} (hparts : AllBuilt parts)
    (hnonempty : closer = .call ∨ parts ≠ []) (hitems : AllBuilt items)
    (h : group.close closer parts items = .ok items') : AllBuilt items' := by
  match group, closer, parts, h with
  | .paren, .paren, [part], h =>
      obtain ⟨o, ho, h⟩ := bind_eq_ok.mp h
      exact hitems.push (fun _ => .closed (hparts.asOperand ho).1) h
  | .filter false, .filter, [part], h =>
      obtain ⟨o, ho, h⟩ := bind_eq_ok.mp h
      exact hitems.push (.filter (hparts.asOperand ho).1) h
  | .filter true, .filter, [part], h =>
      obtain ⟨o, ho, h⟩ := bind_eq_ok.mp h
      exact hitems.attachStep (fun target htarget => .filterStep htarget (hparts.asOperand ho).1) h
  | .list chained, .list, parts, h =>
      obtain ⟨operands, hoperands, h⟩ := bind_eq_ok.mp h
      obtain ⟨hlength, hbuilt⟩ := hparts.asOperands hoperands
      have hsome : operands ≠ [] := by
        rintro rfl
        exact hnonempty.elim nofun fun hne => hne (List.length_eq_zero_iff.mp hlength.symm)
      exact hitems.pushGroup (.list hsome hbuilt) h
  | .hash chained, .hash, parts, h =>
      obtain ⟨entries, hentries, h⟩ := bind_eq_ok.mp h
      obtain ⟨hnone, hbuilt⟩ := hparts.asEntries hentries
      have hsome : entries ≠ [] := fun hempty =>
        hnonempty.elim nofun fun hne => hne (hnone hempty)
      exact hitems.pushGroup (.hash hsome hbuilt) h
  | .call function chained, .call, parts, h =>
      obtain ⟨_, harity, h⟩ := bind_eq_ok.mp h
      obtain ⟨operands, hoperands, h⟩ := bind_eq_ok.mp h
      obtain ⟨hlength, hbuilt⟩ := hparts.asOperands hoperands
      have hcount : ∀ n, function.arity = some n → operands.length = n := by
        intro n hn
        simp only [checkArity, hn] at harity
        split at harity
        · rename_i hfound
          rw [hlength, hfound]
        · cases harity
      exact hitems.pushGroup (.call hcount hbuilt) h

end AllBuilt

/-- An operand on top of the stack is a part of the innermost group. -/
theorem splitGroup_ne_nil {above parts below : List Item} {group : Group}
    (h : splitGroup above items = some (parts, group, below)) (habove : above ≠ []) :
    parts ≠ [] := by
  fun_induction Expr.splitGroup above items with
  | case1 => cases h
  | case2 =>
      cases h
      exact habove
  | case3 above item rest hitem ih => exact ih h (List.cons_ne_nil _ _)

end Items

/-! ## Moves -/

/-- **`action.AddsBuilt`** — what a move adds on its own is built as operands and steps are. -/
def Action.AddsBuilt : Action → Prop
  | .leaf e projecting => Operand.Built ⟨e, projecting, 2⟩
  | .attach s => s.isPlain
  | .token (.literal json) => json.hasUniqueNames = true
  | _ => True

theorem isPlain_sliceStep {r : Reader} {s : Step} (h : r.sliceStep = .ok s) : s.isPlain := by
  unfold Reader.sliceStep at h
  split at h
  · split at h
    · cases h
      rfl
    · cases h
  · simp only at h
    split at h
    · cases h
    · rename_i hstep
      cases h
      exact decide_eq_true hstep

/-- Moves add names, literals, the current value, projections over it, and plain steps. -/
theorem Turn.addsBuilt {r : Reader} {s : State} {move : Move} (h : Turn r s move) :
    move.action.AddsBuilt := by
  cases h with
  | sliceEnd _ hstep => exact isPlain_sliceStep hstep
  | @nameRead chained | @quotedRead chained =>
      cases chained
      · exact .field _
      · rfl
  | rawRead => rfl
  | jsonRead hparse => exact Json.hasUniqueNames_of_parse? hparse
  | star => exact .values
  | operandFlatten => exact .flattened
  | operandStar | operandIndex => exact .current (.inr rfl)
  | dotStar | wildcardEnd => rfl
  | _ => trivial

namespace Stacks

variable {s s' : Stacks}

theorem allBuilt_reduceWhile {test : Operator → Bool} (hs : AllBuilt s.items)
    (h : s.reduceWhile test = .ok s') : AllBuilt s'.items := by
  obtain ⟨⟨items, pending⟩, hreduce, h⟩ := bind_eq_ok.mp h
  cases h
  exact hs.reduceWhile hreduce

theorem allBuilt_closeGroup {closer : Closer} {closers : List Closer}
    (hlayout : closer = .call ∨ Layout .holding closers s.items s.pending) (hs : AllBuilt s.items)
    (h : s.closeGroup closer = .ok s') : AllBuilt s'.items := by
  obtain ⟨reduced, hreduce, h⟩ := bind_eq_ok.mp h
  have hreduced := allBuilt_reduceWhile hs hreduce
  split at h
  next pending parts group items hpending hsplit =>
    obtain ⟨items', hclose, h⟩ := bind_eq_ok.mp h
    cases h
    obtain ⟨hparts, hbelow⟩ := AllBuilt.splitGroup allBuilt_nil hreduced hsplit
    have hnonempty : closer = .call ∨ parts ≠ [] := by
      refine hlayout.imp_right fun hlayout => ?_
      obtain ⟨o, rest, htop, -⟩ :=
        (hlayout.delivers_reduceToBarrier (C := fun _ => True) trivial).of_ok hreduce
      rw [htop] at hsplit
      replace hsplit : splitGroup [.operand o] rest = some (parts, group, items) := hsplit
      exact splitGroup_ne_nil hsplit (List.cons_ne_nil _ _)
    exact AllBuilt.close hparts hnonempty hbelow hclose
  next => cases h

/-- **`allBuilt_perform`** — on stacks that lie as a phase says, an action of that phase builds its
operands in one of the ways. -/
theorem allBuilt_perform {action : Action} {phase phase' : Phase} {closers closers' : List Closer}
    (hleads : action.Leads phase closers phase' closers')
    (hlayout : Layout phase closers s.items s.pending) (hs : AllBuilt s.items)
    (hadds : action.AddsBuilt) (h : s.perform action = .ok s') : AllBuilt s'.items := by
  cases hleads with
  | nothing | argument =>
      cases h
      exact hs
  | leaf =>
      cases h
      exact allBuilt_operand.mpr ⟨hadds, hs⟩
  | current =>
      cases h
      exact allBuilt_operand.mpr ⟨.current (.inl rfl), hs⟩
  | literal json =>
      cases h
      exact allBuilt_operand.mpr ⟨.literal hadds, hs⟩
  | attach step =>
      obtain ⟨items, hitems, h⟩ := bind_eq_ok.mp h
      cases h
      exact hs.attachStep (fun target htarget => .step htarget hadds) hitems
  | flatten =>
      obtain ⟨items, hitems, h⟩ := bind_eq_ok.mp h
      cases h
      exact hs.flattenTop hitems
  | @sign _ op hop =>
      cases op with
      | unary | reference =>
          cases h
          exact hs
      | binary | pipe => cases hop
  | @operator _ op hop =>
      cases op with
      | unary | reference => cases hop
      | binary | pipe =>
          obtain ⟨reduced, hreduced, h⟩ := bind_eq_ok.mp h
          cases h
          have hclosed : AllBuilt reduced.items :=
            allBuilt_reduceWhile (AllBuilt.closeProjection hs) hreduced
          exact hclosed
  | opening g =>
      simp only [perform, accept, openGroup] at h
      split at h
      · cases h
      · cases h
        exact allBuilt_opened.mpr hs
  | key name =>
      cases h
      exact allBuilt_key.mpr hs
  | nextPart | nextEntry => exact allBuilt_reduceWhile hs h
  | closing closer => exact allBuilt_closeGroup (.inr hlayout) hs h
  | closingCall => exact allBuilt_closeGroup (.inl rfl : _ ∨ Layout .holding [] _ _) hs h

theorem built_result {o : Operand} (hs : AllBuilt s.items) (h : s.result = .ok o) : o.Built := by
  obtain ⟨accepted, haccept, h⟩ := bind_eq_ok.mp h
  obtain ⟨⟨top, items⟩, hpop, h⟩ := bind_eq_ok.mp h
  have haccepted : AllBuilt accepted.items := by
    obtain ⟨reduced, hreduced, haccept⟩ := bind_eq_ok.mp haccept
    split at haccept
    · cases haccept
      exact allBuilt_reduceWhile hs hreduced
    · cases haccept
  simp only at h
  split at h
  · cases h
    exact (haccepted.pop hpop).1
  · cases h

end Stacks

/-! ## Runs -/

namespace Machine

theorem allBuilt_step {m m' : Machine} (hagrees : m.Agrees) (hm : AllBuilt m.waiting.items)
    (h : m.step = .ok m') : AllBuilt m'.waiting.items := by
  obtain ⟨s, below, move, waiting, hstates, hplan, hperform, rfl⟩ := step_eq_ok.mp h
  obtain ⟨hsettled, hlayout⟩ := hagrees
  rw [hstates] at hsettled hlayout
  have hturn := Reader.plan_turn hplan
  exact Stacks.allBuilt_perform (hturn.leads hsettled.1) hlayout hm hturn.addsBuilt hperform

/-- **`allBuilt_reaches`** — all along the run on a text every operand is built in one of the ways. -/
theorem allBuilt_reaches {text : String} {registry : Registry} {m : Machine}
    (h : (start text registry).Reaches m) : AllBuilt m.waiting.items := by
  have hboth := h.preserves (P := fun m => m.Agrees ∧ AllBuilt m.waiting.items)
    (fun _ _ hm hstep => ⟨hm.1.step hstep, allBuilt_step hm.1 hm.2 hstep⟩)
    ⟨agrees_start text registry, allBuilt_nil⟩
  exact hboth.2

end Machine

/-- **`exists_built_of_parse`** — the tree of a text is that of an operand built in one of the ways. -/
theorem exists_built_of_parse {text : String} {registry : Registry} {e : Expr}
    (h : parse text registry = .ok e) : ∃ o : Operand, o.Built ∧ o.expr = e := by
  obtain ⟨m, hreach, -, hresult⟩ := (parse_eq_iff.mp h).exists_done
  unfold Machine.result at hresult
  split at hresult
  · rename_i o ho
    cases hresult
    exact ⟨o, Stacks.built_result (Machine.allBuilt_reaches hreach) ho, rfl⟩
  · cases hresult

end JsonQuery.Expr
