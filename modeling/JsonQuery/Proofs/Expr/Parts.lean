/-
# JsonQuery.Proofs.Expr.Parts — parts of a group, one after another.

Between its opener and its closer a group has parts with commas between them; those of an object have
keys in front.  The parser reads one part after another, and stands before the closer with all of them
on top of the group.
-/
import JsonQuery.Proofs.Expr.OperatorText
import JsonQuery.Proofs.Expr.Part

namespace JsonQuery

open JsonQuery.Expr
open ParseError (Cause)
open Text (isBlank isAsciiDigit)

variable {registry : Registry} {limit : Prop}

/-! ## Lists of parts -/

namespace Part

/-- What follows the first of several parts. -/
def others : List (Part registry) → List Char
  | [] => []
  | p :: ps => ',' :: p.chars ++ others ps

/-- The trees of parts with commas between them, of which the first starts behind `n` characters. -/
def treesFrom (n : Nat) : List (Part registry) → List Expr
  | [] => []
  | p :: ps => p.tree.shift n :: treesFrom (n + p.length + 1) ps

/-- The operands of parts with commas between them. -/
noncomputable def operandsFrom (n : Nat) : List (Part registry) → List Operand
  | [] => []
  | p :: ps => p.operand.shift n :: operandsFrom (n + p.length + 1) ps

theorem operandsFrom_expr (n : Nat) (ps : List (Part registry)) :
    (operandsFrom n ps).map (·.expr) = treesFrom n ps := by
  induction ps generalizing n with
  | nil => rfl
  | cons p ps ih => simp [operandsFrom, treesFrom, Operand.shift, ih]

@[simp] theorem length_operandsFrom (n : Nat) (ps : List (Part registry)) :
    (operandsFrom n ps).length = ps.length := by
  induction ps generalizing n with
  | nil => rfl
  | cons p ps ih => simp [operandsFrom, ih]

theorem height_of_operandsFrom {n : Nat} {ps : List (Part registry)}
    (hroom : ∀ p ∈ ps, p.LeavesRoom) : ∀ o ∈ operandsFrom n ps, o.height < maxNesting := by
  induction ps generalizing n with
  | nil => exact List.forall_mem_nil _
  | cons p ps ih =>
      obtain ⟨hp, hps⟩ := List.forall_mem_cons.mp hroom
      have hheight : (p.operand.shift n).height < maxNesting := hp.height p.operand p.yields_operand
      exact List.forall_mem_cons.mpr ⟨hheight, ih hps⟩

end Part

namespace Expr

theorem greatestHeight_lt {operands : List Operand} (h : ∀ o ∈ operands, o.height < maxNesting) :
    greatestHeight operands < maxNesting := by
  have hfold : ∀ start < maxNesting,
      operands.foldl (fun h o => max h o.height) start < maxNesting := by
    induction operands with
    | nil => exact fun start hstart => hstart
    | cons o operands ih =>
        obtain ⟨ho, hoperands⟩ := List.forall_mem_cons.mp h
        exact fun start hstart => ih hoperands _ (Nat.max_lt.mpr ⟨hstart, ho⟩)
  exact hfold 0 (by decide)

theorem asOperands_operand (operands : List Operand) :
    asOperands (operands.map .operand) = .ok operands := by
  induction operands with
  | nil => rfl
  | cons o operands ih =>
      rw [List.map_cons, asOperands, List.mapM_cons]
      exact bind_eq_ok.mpr ⟨o, rfl, bind_eq_ok.mpr ⟨operands, ih, rfl⟩⟩

/-- The parts of a group stand above its opener, the last one on top. -/
theorem splitGroup_of_parts {parts above items : List Item} {group : Group}
    (hparts : ∀ g, .opened g ∉ parts) :
    splitGroup above (parts ++ .opened group :: items) =
      some (parts.reverse ++ above, group, items) := by
  induction parts generalizing above with
  | nil => rfl
  | cons item parts ih =>
      have hrest : ∀ g, .opened g ∉ parts := fun g hg => hparts g (List.mem_cons_of_mem _ hg)
      cases item with
      | opened g => exact absurd List.mem_cons_self (hparts g)
      | operand | key =>
          rw [List.cons_append, splitGroup, ih hrest]
          · simp
          · nofun

namespace Stacks

/-- What a part leaves can be applied; its operand is then on top in the group. -/
theorem reduceToBarrier_of_part {s : Stacks} {o : Operand} (hresult : s.result = .ok o)
    (hdepth : s.depth = 0) (n : Nat) (items : List Item) (pending : List Pending) (depth : Nat) :
    (s.within n ⟨items, .barrier :: pending, depth⟩).reduceToBarrier =
      .ok ⟨.operand (o.shift n) :: items, .barrier :: pending, depth⟩ := by
  refine bind_eq_ok.mpr ⟨_, reduceWhile_of_part hresult, ?_⟩
  simp only [within, hdepth, Nat.zero_add]
  rfl

/-- Closing a group whose parts are complete. -/
theorem closeGroup_of_parts {s : Stacks} {parts items items' : List Item} {group : Group}
    {closer : Closer} {pending : List Pending} {depth : Nat}
    (hreduce : s.reduceToBarrier =
      .ok ⟨parts.reverse ++ .opened group :: items, .barrier :: pending, depth⟩)
    (hparts : ∀ g, .opened g ∉ parts)
    (hclose : OrTooDeep limit (group.close closer parts items) items') :
    OrTooDeep limit (s.closeGroup closer) ⟨items', pending, depth - 1⟩ := by
  have hsplit : splitGroup [] (parts.reverse ++ .opened group :: items) =
      some (parts, group, items) := by
    rw [splitGroup_of_parts fun g hg => hparts g (List.mem_reverse.mp hg)]
    simp
  refine OrTooDeep.bind (.inl hreduce) ?_
  simp only [hsplit]
  exact hclose.bind (.inl rfl)

end Stacks

/-- What takes it that one of several leaves no room is taken by the first, and by the others. -/
theorem limit_cons {α : Type} {room : α → Prop} {x : α} {xs : List α}
    (hlimit : ¬ (∀ y ∈ x :: xs, room y) → limit) :
    (¬ room x → limit) ∧ (¬ (∀ y ∈ xs, room y) → limit) := by
  refine ⟨fun hx => hlimit fun hall => ?_, fun hxs => hlimit fun hall => ?_⟩
  · exact hx (hall x List.mem_cons_self)
  · exact hxs fun y hy => hall y (List.mem_cons_of_mem x hy)

namespace Machine

variable {whole : Machine} {setting : Setting} {below : List State} {rest : List Char}

/-- The closer of a group. -/
theorem leads_close {s : State} {waiting : Stacks} {parts items items' : List Item} {group : Group}
    {closer : Closer} {pending : List Pending} {depth : Nat} {c : Char} (hs : s.closer? = some closer)
    (hplan : ∀ r : Reader, r.planAt (some c) s = r.go 1 [] (.token (.closing closer)))
    (hblank : isBlank c = false) (hbelow : below.head?.any State.isEscape = false)
    (hreduce : waiting.reduceToBarrier =
      .ok ⟨parts.reverse ++ .opened group :: items, .barrier :: pending, depth⟩)
    (hparts : ∀ g, .opened g ∉ parts)
    (hclose : OrTooDeep limit (group.close closer parts items) items')
    (hwhole : whole.place = .between setting (s :: below) waiting (c :: rest)) :
    whole.Leads limit (.between setting below ⟨items', pending, depth - 1⟩ rest) := by
  have hfinish : s ≠ .finish := by
    rintro rfl
    cases hs
  exact leads_char hwhole hblank hfinish hplan (Stacks.closeGroup_of_parts hreduce hparts hclose)
    hbelow

/-- A comma behind a part. -/
theorem leads_separator {s : State} {waiting waiting' : Stacks} (t : State) (next : List State)
    (hs : s ≠ .finish) (ht : t.isEscape = false)
    (hplan : ∀ r : Reader, r.planAt (some ',') s = r.go 1 (t :: next) (.token .separator))
    (hreduce : waiting.reduceToBarrier = .ok waiting')
    (hwhole : whole.place = .between setting (s :: below) waiting (',' :: rest)) :
    whole.Leads limit (.between setting (t :: next ++ below) waiting' rest) :=
  leads_char hwhole rfl hs hplan (.inl hreduce) ht

/-- A part of an open group. -/
theorem leads_part {p : Part registry} {depth : Nat} {blanks rest : List Char} (s : State)
    (below : List State) (items : List Item) (pending : List Pending) (n : Nat) (tail : List Char)
    (hs : s.isEscape = false) (htail : tail.head?.all isClosing) (hdepth : depth ≤ 1)
    (hlimit : ¬ p.LeavesRoom → limit)
    (hchars : p.chars = blanks ++ rest) (hblanks : ∀ c ∈ blanks, isBlank c)
    (hsetting : setting = ⟨registry, n + p.length + tail.length⟩) :
    ∃ waiting : Stacks,
      waiting.reduceToBarrier =
        .ok ⟨.operand (p.operand.shift n) :: items, .barrier :: pending, depth⟩ ∧
      ∀ whole : Machine,
        whole.place = .between setting (.operand :: .afterOperand :: s :: below)
          ⟨items, .barrier :: pending, depth⟩ (rest ++ tail) →
        whole.Leads limit (.between setting (s :: below) waiting tail) := by
  obtain ⟨inner, hresult, hnone, hlead⟩ := p.leads limit
    ⟨n, ⟨items, .barrier :: pending, depth⟩, s :: below, tail⟩ ⟨nofun, hs, htail⟩ hdepth hlimit
    hchars hblanks
  rw [hsetting, Nat.add_comm n]
  exact ⟨_, Stacks.reduceToBarrier_of_part hresult hnone n items pending depth, hlead⟩

/-- **`leads_parts`** — the parts of a list or a call are read one after another. -/
theorem leads_parts {s : State} {p : Part registry} {ps : List (Part registry)}
    {depth : Nat} {blanks rest : List Char} (below : List State) (items : List Item)
    (pending : List Pending) (n : Nat) (tail : List Char) (hs : s = .listEnd ∨ s = .argumentEnd)
    (htail : tail.head?.all isClosing) (hdepth : depth ≤ 1)
    (hlimit : ¬ (∀ q ∈ p :: ps, q.LeavesRoom) → limit) (hchars : p.chars = blanks ++ rest)
    (hblanks : ∀ c ∈ blanks, isBlank c)
    (hsetting : setting = ⟨registry, n + p.length + (Part.others ps).length + tail.length⟩) :
    ∃ waiting : Stacks,
      waiting.reduceToBarrier =
        .ok ⟨((Part.operandsFrom n (p :: ps)).map .operand).reverse ++ items, .barrier :: pending,
          depth⟩ ∧
      ∀ whole : Machine,
        whole.place = .between setting (.operand :: .afterOperand :: s :: below)
          ⟨items, .barrier :: pending, depth⟩ (rest ++ (Part.others ps ++ tail)) →
        whole.Leads limit (.between setting (s :: below) waiting tail) := by
  have hescape : s.isEscape = false := by rcases hs with rfl | rfl <;> rfl
  induction ps generalizing p n blanks rest items with
  | nil =>
      obtain ⟨hfirst, -⟩ := limit_cons hlimit
      obtain ⟨waiting, hreduce, hlead⟩ :=
        leads_part s below items pending n tail hescape htail hdepth hfirst hchars hblanks hsetting
      exact ⟨waiting, hreduce, hlead⟩
  | cons q ps ih =>
      obtain ⟨hfirst, hothers⟩ := limit_cons hlimit
      -- Behind the first part stands a comma, and then the others do.
      have hsetting' : setting = ⟨registry, n + p.length +
          (',' :: (q.chars ++ (Part.others ps ++ tail))).length⟩ := by
        rw [hsetting]
        simp [Part.others]
        omega
      have hsetting'' : setting = ⟨registry, n + p.length + 1 + q.length + (Part.others ps).length +
          tail.length⟩ := by
        rw [hsetting]
        simp [Part.others, Part.length]
        omega
      obtain ⟨waiting, hreduce, hlead⟩ :=
        leads_part s below items pending n _ hescape rfl hdepth hfirst hchars hblanks hsetting'
      obtain ⟨waiting', hreduce', hlead'⟩ := ih (.operand (p.operand.shift n) :: items) _ hothers
        (List.nil_append q.chars).symm (List.forall_mem_nil _) hsetting''
      refine ⟨waiting', ?_, fun whole hwhole => ?_⟩
      · rw [hreduce']
        simp [Part.operandsFrom]
      · have hcomma : whole.Leads limit (.between setting (s :: below) waiting
            (',' :: (q.chars ++ (Part.others ps ++ tail)))) := by
          refine hlead whole ?_
          rw [hwhole]
          simp [Part.others]
        refine (hcomma.trans fun m hm => ?_).trans hlead'
        refine leads_separator .operand [.afterOperand, s] ?_ rfl (fun r => ?_) hreduce hm
        · rcases hs with rfl | rfl <;> decide
        · rcases hs with rfl | rfl <;> rfl

end Machine

end Expr

end JsonQuery
