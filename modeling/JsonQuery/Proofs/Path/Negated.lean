/-
# JsonQuery.Proofs.Path.Negated — paths under many negations.

A filter may negate a path any number of times.  The negations wait on the stack of the filter until
the path has been read, and are checked against its depth alone; the path is checked as if there were
none.  So both may be as long as the limit allows, each for itself.
-/
import JsonQuery.Proofs.Path.Rereading

namespace JsonQuery.Path

open Location (Element)

/-- A filter under so many negations. -/
def negated : Nat → Filter → Filter
  | 0, f => f
  | n + 1, f => negated n (.unary .not f)

/-- The text of a path under so many negations, as the filter of the root's children. -/
def negatedText (n : Nat) (l : Location) : List Char :=
  '$' :: '[' :: '?' :: (List.replicate n '!' ++ '@' :: (l.flatMap Element.normalized ++ [']']))

namespace Reader

variable {α : Type} {g : Registry} {p q : Spot} {text rest : List Char} {depth roots fuel : Nat}

/-! ## The stack of negations -/

theorem Reads.enter (h : depth < maxNesting) :
    Reads enter g ⟨text, depth, roots⟩ () ⟨text, depth + 1, roots⟩ := by
  have hdeeper : ∀ r : Reading, r.spot = ⟨text, depth, roots⟩ →
      Reading.spot { r with depth := r.depth + 1 } = ⟨text, depth + 1, roots⟩ := by
    intro r hr
    obtain ⟨rfl, rfl, rfl⟩ := Spot.mk.inj hr
    rfl
  unfold Reader.enter
  refine (Reads.modify hdeeper).bind (.get_bind fun r hr => ?_)
  have hdepth : r.depth = depth + 1 := congrArg Spot.depth hr
  exact .ite_neg (by rw [hdepth]; omega) (.pure ())

theorem Reads.leave :
    Reads leave g ⟨text, depth + 1, roots⟩ () ⟨text, depth, roots⟩ :=
  .modify fun r hr => by
    obtain ⟨rfl, hdepth, rfl⟩ := Spot.mk.inj hr
    rw [Reading.spot, hdepth]
    rfl

theorem Reads.checkedHeight {height : Nat} (h : depth + height ≤ maxNesting) :
    Reads (checkedHeight height) g ⟨text, depth, roots⟩ height ⟨text, depth, roots⟩ := by
  unfold Reader.checkedHeight
  refine .get_bind fun r hr => ?_
  have hdepth : r.depth = depth := congrArg Spot.depth hr
  exact .ite_neg (by rw [hdepth]; omega) (.pure height)

/-- Negation signs go to the stack one by one. -/
theorem reads_negations (n : Nat) {s : Stacks} {f : Filter}
    (h : Reads (operandPosition fuel
      { s with pending := List.replicate n (.unary .not) ++ s.pending })
      g ⟨rest, depth, roots⟩ f q) :
    Reads (operandPosition (fuel + n) s) g ⟨List.replicate n '!' ++ rest, depth, roots⟩ f q := by
  induction n generalizing s with
  | zero => exact h
  | succ n ih =>
      rw [List.replicate_succ, List.cons_append, ← Nat.add_assoc]
      unfold operandPosition
      refine (Reads.skipBlanks rfl).bind (.current_bind (Reads.advance.bind (ih ?_)))
      rw [List.replicate_succ', List.append_assoc] at h
      exact h

/-- Negations that wait are applied to the operand, each one level higher. -/
theorem reads_reduceWhile (n : Nat) {f : Filter} {height : Nat}
    (hfits : depth + (height + n) ≤ maxNesting) :
    Reads (reduceWhile (fun _ => true) n ⟨[(f, height)], List.replicate n (.unary .not), 0⟩) g
      ⟨text, depth, roots⟩ ⟨[(negated n f, height + n)], [], 0⟩ ⟨text, depth, roots⟩ := by
  induction n generalizing f height with
  | zero => exact .pure _
  | succ n ih =>
      have hreduce : Reads (reduce ⟨[(f, height)], List.replicate (n + 1) (.unary .not), 0⟩) g
          ⟨text, depth, roots⟩ ⟨[(.unary .not f, height + 1)], List.replicate n (.unary .not), 0⟩
          ⟨text, depth, roots⟩ :=
        (Reads.checkedHeight (by omega)).bind (.pure _)
      have hrest : Reads (reduceWhile (fun _ => true) n
          ⟨[(.unary .not f, height + 1)], List.replicate n (.unary .not), 0⟩) g
          ⟨text, depth, roots⟩ ⟨[(negated (n + 1) f, height + 1 + n)], [], 0⟩
          ⟨text, depth, roots⟩ := ih (by omega)
      rw [Nat.add_right_comm] at hrest
      exact hreduce.bind hrest

theorem reads_finish (n : Nat) {f : Filter} (hfits : depth + 1 + (1 + n) ≤ maxNesting) :
    Reads (finish ⟨[(f, 1)], List.replicate n (.unary .not), 0⟩) g
      ⟨text, depth + 1, roots⟩ (negated n f) ⟨text, depth, roots⟩ := by
  unfold finish
  refine .ite_neg (Nat.lt_irrefl 0) ?_
  rw [List.length_replicate]
  exact (reads_reduceWhile n hfits).bind (Reads.leave.bind (.pure _))

/-! ## The path under them -/

theorem reads_currentSign : Reads headStep g ⟨'@' :: rest, depth, roots⟩ .current
    ⟨rest, depth, roots⟩ := by
  unfold headStep
  exact .current_bind (Reads.advance.bind (.pure _))

theorem reads_operand {l : Location} (hsmall : l.all Element.isSmall = true)
    (hdeep : depth + 2 + l.length ≤ maxNesting) (hfuel : l.length + 3 < fuel) :
    Reads (operand fuel) g ⟨'@' :: (l.flatMap Element.normalized ++ [']']), depth, roots⟩
      (.path (.current :: l.map Element.toStep)) ⟨[']'], depth, roots⟩ := by
  obtain ⟨fuel, rfl⟩ : ∃ inner, fuel = inner + 2 := ⟨fuel - 2, by omega⟩
  have hsteps : Reads (pathSteps fuel (depth + 1) [.current]) g
      ⟨l.flatMap Element.normalized ++ [']'], depth + 1, roots⟩
      ([Step.current].reverse ++ l.map Element.toStep)
      ⟨[']'], depth + 1 + 1 + l.length, roots⟩ :=
    reads_pathSteps hsmall (by rw [List.length_singleton]; omega) (by omega) rfl
  unfold operand
  refine Reads.demand.bind (.ite_pos rfl ((Reads.enter (by omega)).bind ?_))
  exact (reads_path reads_currentSign hsteps).bind (Reads.leave.bind (.pure _))

/-- A filter that negates a path, up to the closing bracket. -/
theorem reads_filter {n : Nat} {l : Location} (hsmall : l.all Element.isSmall = true)
    (hn : depth + (n + 2) ≤ maxNesting) (hdeep : depth + 3 + l.length ≤ maxNesting)
    (hfuel : l.length + n + 5 < fuel) :
    Reads (filter fuel) g
      ⟨List.replicate n '!' ++ '@' :: (l.flatMap Element.normalized ++ [']']), depth, roots⟩
      (negated n (.path (.current :: l.map Element.toStep))) ⟨[']'], depth, roots⟩ := by
  obtain ⟨inner, rfl⟩ : ∃ inner, fuel = inner + 2 + n + 1 := ⟨fuel - n - 3, by omega⟩
  have hfinish : Reads (afterOperand (inner + 1)
      ⟨[(.path (.current :: l.map Element.toStep), 1)], List.replicate n (.unary .not), 0⟩) g
      ⟨[']'], depth + 1, roots⟩ (negated n (.path (.current :: l.map Element.toStep)))
      ⟨[']'], depth, roots⟩ := by
    unfold afterOperand
    refine (Reads.skipBlanks rfl).bind (.current_bind (.ite_neg (by simp) (.next_bind ?_)))
    exact .ite_neg (by simp) (.ite_pos rfl (reads_finish n (by omega)))
  unfold filter
  refine (Reads.enter (by omega)).bind (reads_negations n ?_)
  rw [List.append_nil]
  unfold operandPosition
  refine (Reads.skipBlanks rfl).bind (.current_bind (.next_bind (.ite_neg (by simp) ?_)))
  exact (reads_operand hsmall (by omega) (by omega)).bind hfinish

end Reader

/-- **`compile_negated`** — a path is accepted under as many negations as fit under the depth of the
filter, and with as many steps as fit under its own depth. -/
theorem compile_negated {n : Nat} {l : Location} (hsmall : l.all Element.isSmall = true)
    (hn : n + 3 ≤ maxNesting) (hl : l.length + 4 ≤ maxNesting) (registry : Registry) :
    Path.compile (String.ofList (negatedText n l)) registry = .ok ⟨String.ofList (negatedText n l),
      [.root 0, .filter (negated n (.path (.current :: l.map Element.toStep)))]⟩ := by
  have hpath : ∀ fuel, 8 * ((negatedText n l).tail.length + 2) < fuel →
      Reader.Reads (Reader.path fuel) registry ⟨negatedText n l, 0, 0⟩
        [.root 0, .filter (negated n (.path (.current :: l.map Element.toStep)))] ⟨[], 0, 1⟩ := by
    intro fuel hfuel
    have hlong := Reader.length_le_flatMap_normalized l
    simp only [negatedText, List.tail_cons, List.length_cons, List.length_append,
      List.length_replicate] at hfuel
    obtain ⟨fuel, rfl⟩ : ∃ inner, fuel = inner + 3 := ⟨fuel - 3, by omega⟩
    have hfilter : Reader.Reads (Reader.filter fuel) registry
        ⟨List.replicate n '!' ++ '@' :: (l.flatMap Element.normalized ++ [']']), 1, 1⟩
        (negated n (.path (.current :: l.map Element.toStep))) ⟨[']'], 1, 1⟩ :=
      Reader.reads_filter hsmall (by omega) (by omega) (by omega)
    have hbrackets : Reader.Reads (Reader.brackets (fuel + 1) []) registry
        ⟨(negatedText n l).tail.tail, 0 + [Step.root 0].length, 1⟩
        (.filter (negated n (.path (.current :: l.map Element.toStep)))) ⟨[], 1, 1⟩ := by
      unfold Reader.brackets
      refine (Reader.Reads.skipBlanks rfl).bind (Reader.Reads.demand.bind ?_)
      refine .ite_neg (by decide) (.ite_neg (by decide) (.ite_pos rfl (Reader.Reads.advance.bind ?_)))
      exact hfilter.bind (Reader.reads_bracketEnd fuel _)
    exact Reader.reads_path Reader.reads_headStep (Reader.reads_pathSteps_brackets (by decide)
      hbrackets (Reader.reads_pathSteps_end (by simp; decide) fuel rfl))
  exact compile_of_reads (Reader.reads_whole hpath)

end JsonQuery.Path
