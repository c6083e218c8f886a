/-
# JsonQuery.Proofs.Path.Extending — reading a text that goes on with carets.

A caret ends every name, number and operator and starts none of them, and no reader looks further
ahead than one character.  What is read of a text is therefore read of the text with carets behind
it as well, as long as the reader stops before the end of the shorter text (`Extends`); only where
it may have stopped because there was no more text can the carets change what is read.  A sign, a
name behind a dot and what stands in brackets are read alike up to the very end (`Closes`).

The longer text has more fuel, which is why two amounts of fuel are compared.
-/
import JsonQuery.Proofs.Path.DescentCoupling
import JsonQuery.Proofs.Path.Rereading

namespace JsonQuery.Path

open Text (isBlank isAsciiDigit isAsciiLetter)

/-- The same place in a text with carets behind its end, one more than `extra`. -/
def Spot.withCarets (p : Spot) (extra : Nat) : Spot :=
  { p with text := p.text ++ List.replicate (extra + 1) '^' }

/-- Places that differ in the carets behind the end of the text alone. -/
theorem Reading.spot_eq_withCarets {r s : Reading} {extra : Nat}
    (h : s.spot = r.spot.withCarets extra) :
    s.cursor.rest = r.cursor.rest ++ List.replicate (extra + 1) '^' ∧ s.depth = r.depth ∧
      s.roots = r.roots :=
  ⟨congrArg Spot.text h, congrArg Spot.depth h, congrArg Spot.roots h⟩

theorem Reading.spot_withCarets {r s : Reading} {extra : Nat}
    (htext : s.cursor.rest = r.cursor.rest ++ List.replicate (extra + 1) '^')
    (hdepth : s.depth = r.depth) (hroots : s.roots = r.roots) :
    s.spot = r.spot.withCarets extra := by
  rw [Reading.spot, Reading.spot, Spot.withCarets, htext, hdepth, hroots]

theorem Reading.rest_ne_nil {r : Reading} {c : Char} (h : r.cursor.current = some c) :
    r.cursor.rest ≠ [] := by
  intro hnil
  rw [Text.Cursor.current, hnil] at h
  cases h

/-- Where the text has not ended, the carets are not seen. -/
theorem Reading.head?_withCarets {r : Reading} {extra : Nat} (h : r.cursor.rest ≠ []) :
    (r.cursor.rest ++ List.replicate (extra + 1) '^').head? = r.cursor.current := by
  obtain ⟨c, rest, htext⟩ := List.exists_cons_of_ne_nil h
  rw [Text.Cursor.current, htext]
  rfl

/-- The longer text leaves at least as much. -/
theorem Reading.length_rest_le {r s : Reading} {extra : Nat}
    (h : s.spot = r.spot.withCarets extra) : r.cursor.rest.length ≤ s.cursor.rest.length := by
  rw [(Reading.spot_eq_withCarets h).1, List.length_append]
  omega

namespace Reader

variable {α β : Type} {extra : Nat} {g : Registry} {r r' : Reading} {accept : Char → Bool}

/-! ## Runs of characters -/

/-- Where a run of characters ends. -/
theorem spot_of_readWhile {run : List Char} (hrun : readWhile accept g r = .ok (run, r')) :
    run = r.cursor.rest.takeWhile accept ∧
      r'.spot = ⟨r.cursor.rest.dropWhile accept, r.depth, r.roots⟩ := by
  obtain ⟨rfl, rfl⟩ := Prod.mk.inj (Except.ok.inj hrun)
  have hrest := r.cursor.readWhile_rest accept
  exact ⟨rfl, congrArg (Spot.mk · r.depth r.roots) hrest⟩

/-- A run ends in the longer text where it ends in the shorter one, unless that is at the end and
carets belong to it. -/
theorem reads_run (hend : r.cursor.rest.dropWhile accept = [] → accept '^' = false) :
    Reads (readWhile accept) g (r.spot.withCarets extra) (r.cursor.rest.takeWhile accept)
      (Spot.withCarets ⟨r.cursor.rest.dropWhile accept, r.depth, r.roots⟩ extra) := by
  have hrun : (r.cursor.rest.takeWhile accept).all accept = true := List.all_takeWhile
  have hbehind : (r.cursor.rest.dropWhile accept
      ++ List.replicate (extra + 1) '^').head?.any accept = false := by
    cases hleft : r.cursor.rest.dropWhile accept with
    | nil => exact hend hleft
    | cons c rest =>
        have hc := List.head_dropWhile_not accept (by rw [hleft]; exact List.cons_ne_nil c rest)
        simp only [hleft, List.head_cons] at hc
        exact hc
  have htext : r.cursor.rest ++ List.replicate (extra + 1) '^' = r.cursor.rest.takeWhile accept
      ++ (r.cursor.rest.dropWhile accept ++ List.replicate (extra + 1) '^') := by
    rw [← List.append_assoc, List.takeWhile_append_dropWhile]
  rw [Reading.spot, Spot.withCarets, htext]
  exact Reads.readWhile hrun hbehind

/-! ## Reading on before carets -/

/-- **`Extends extra x y`** — what `x` reads up to a place before the end of a text, `y` reads of
the text with carets behind it. -/
def Extends (extra : Nat) (x y : Reader α) : Prop :=
  ∀ g r a r', x g r = .ok (a, r') → r'.cursor.rest ≠ [] →
    r.cursor.rest ≠ [] ∧ Reads y g (r.spot.withCarets extra) a (r'.spot.withCarets extra)

namespace Extends

theorem pure (a : α) : Extends extra (Pure.pure a) (Pure.pure a) := by
  intro g r b r' hrun hrest
  obtain ⟨rfl, rfl⟩ := Prod.mk.inj (Except.ok.inj hrun)
  exact ⟨hrest, .pure a⟩

theorem fail {cause : ParseError.Cause} {y : Reader α} : Extends extra (Reader.fail cause) y :=
  fun _ _ _ _ hrun => nomatch hrun

theorem bind {x y : Reader α} {f h : α → Reader β} (hx : Extends extra x y)
    (hf : ∀ a, Extends extra (f a) (h a)) : Extends extra (x >>= f) (y >>= h) := by
  intro g r b r'' hrun hrest
  obtain ⟨a, r', hfirst, hsecond⟩ := bind_eq_ok.mp hrun
  obtain ⟨hmiddle, hreads⟩ := hf a g r' b r'' hsecond hrest
  obtain ⟨hstart, hread⟩ := hx g r a r' hfirst hmiddle
  exact ⟨hstart, hread.bind hreads⟩

/-- What depends on the place depends on it in both texts. -/
theorem get_bind {f h : Reading → Reader β}
    (hf : ∀ r s, s.spot = r.spot.withCarets extra → Extends extra (f r) (h s)) :
    Extends extra (get >>= f) (get >>= h) := by
  intro g r b r' hrun hrest
  have hlonger : ∃ s : Reading, s.spot = r.spot.withCarets extra :=
    ⟨{ r with cursor := ⟨_, 0, {}⟩ }, rfl⟩
  obtain ⟨s, hs⟩ := hlonger
  refine ⟨(hf r s hs g r b r' hrun hrest).1, .get_bind fun s hs => ?_⟩
  exact (hf r s hs g r b r' hrun hrest).2

theorem read_bind {f h : Registry → Reader β} (hf : ∀ g, Extends extra (f g) (h g)) :
    Extends extra (read >>= f) (read >>= h) := fun g r b r' hrun => hf g g r b r' hrun

theorem current : Extends extra current current := by
  intro g r c r' hrun hrest
  obtain ⟨rfl, rfl⟩ := Prod.mk.inj (Except.ok.inj hrun)
  refine ⟨hrest, .current_bind ?_⟩
  exact (Reading.head?_withCarets hrest).symm ▸ .pure _

/-- Behind the last character stands nothing or a caret, between which `h` must not tell. -/
theorem next_bind {f h : Option Char → Reader β} (hf : ∀ c, Extends extra (f c) (h c))
    (hend : h (some '^') = h none) : Extends extra (next >>= f) (next >>= h) := by
  intro g r b r' hrun hrest
  obtain ⟨hstart, hread⟩ := hf (r.cursor.peek 1) g r b r' hrun hrest
  refine ⟨hstart, fun s hs => ?_⟩
  obtain ⟨c, rest, htext⟩ := List.exists_cons_of_ne_nil hstart
  have hnext : h (s.cursor.peek 1) = h (r.cursor.peek 1) := by
    rw [Text.Cursor.peek, Text.Cursor.peek, (Reading.spot_eq_withCarets hs).1, htext]
    cases rest with
    | nil => exact hend
    | cons c' rest => rfl
  obtain ⟨s', hs', hspot⟩ := hread s hs
  exact ⟨s', (congrArg (fun y => y g s) hnext).trans hs', hspot⟩

/-- A reader that does nothing but change the reading. -/
theorem moves {f : Reading → Reading} (hf : ∀ r, (f r).cursor.rest ≠ [] → r.cursor.rest ≠ [] ∧
      ∀ s, s.spot = r.spot.withCarets extra → (f s).spot = (f r).spot.withCarets extra) :
    Extends extra (modify f) (modify f) := by
  intro g r a r' hrun hrest
  obtain ⟨-, rfl⟩ := Prod.mk.inj (Except.ok.inj hrun)
  obtain ⟨hstart, hsame⟩ := hf r hrest
  exact ⟨hstart, .modify hsame⟩

/-! ### Characters -/

theorem advanceBy (n : Nat) :
    Extends extra (modify fun r => { r with cursor := r.cursor.advanceBy n })
      (modify fun r => { r with cursor := r.cursor.advanceBy n }) := by
  refine moves fun r hrest => ?_
  have hlength : n < r.cursor.rest.length := by
    rw [Text.Cursor.advanceBy_rest] at hrest
    exact Nat.lt_of_not_le fun hle => hrest (List.drop_eq_nil_of_le hle)
  refine ⟨List.ne_nil_of_length_pos (Nat.zero_lt_of_lt hlength), fun s hs => ?_⟩
  obtain ⟨htext, hdepth, hroots⟩ := Reading.spot_eq_withCarets hs
  refine Reading.spot_withCarets ?_ hdepth hroots
  rw [Text.Cursor.advanceBy_rest, Text.Cursor.advanceBy_rest, htext,
    List.drop_append_of_le_length hlength.le]

theorem skipBlanks : Extends extra skipBlanks skipBlanks := by
  refine moves fun r hrest => ?_
  rw [Text.Cursor.skipBlanks_rest] at hrest
  refine ⟨fun hnil => hrest (by rw [hnil]; rfl), fun s hs => ?_⟩
  obtain ⟨htext, hdepth, hroots⟩ := Reading.spot_eq_withCarets hs
  have hmore : (r.cursor.rest.dropWhile isBlank).isEmpty = false :=
    List.isEmpty_eq_false_iff.mpr hrest
  refine Reading.spot_withCarets ?_ hdepth hroots
  rw [Text.Cursor.skipBlanks_rest, Text.Cursor.skipBlanks_rest, htext, List.dropWhile_append, hmore]
  rfl

theorem readWhile (accept : Char → Bool) : Extends extra (readWhile accept) (readWhile accept) := by
  intro g r run r' hrun hrest
  obtain ⟨rfl, hspot⟩ := spot_of_readWhile hrun
  have hleft : r'.cursor.rest = r.cursor.rest.dropWhile accept := congrArg Spot.text hspot
  rw [hleft] at hrest
  exact ⟨fun hnil => hrest (by rw [hnil]; rfl), hspot ▸ reads_run fun hnil => absurd hnil hrest⟩

/-! ### Depth -/

theorem modifyDepth (f : Nat → Nat) :
    Extends extra (modify fun r => { r with depth := f r.depth })
      (modify fun r => { r with depth := f r.depth }) := by
  refine moves fun r hrest => ⟨hrest, fun s hs => ?_⟩
  obtain ⟨htext, hdepth, hroots⟩ := Reading.spot_eq_withCarets hs
  exact Reading.spot_withCarets htext (congrArg f hdepth) hroots

end Extends

/-! ## Reading on at the end -/

/-- **`Closes extra x y`** — what `x` reads of a text, maybe up to its end, `y` reads of the text
with carets behind it. -/
def Closes (extra : Nat) (x y : Reader α) : Prop :=
  ∀ g r a r', x g r = .ok (a, r') →
    r.cursor.rest ≠ [] ∧ Reads y g (r.spot.withCarets extra) a (r'.spot.withCarets extra)

/-- **`Continues extra x y`** — the same for what `x` reads where the text has not ended. -/
def Continues (extra : Nat) (x y : Reader α) : Prop :=
  ∀ g r a r', r.cursor.rest ≠ [] → x g r = .ok (a, r') →
    Reads y g (r.spot.withCarets extra) a (r'.spot.withCarets extra)

namespace Continues

theorem fail {cause : ParseError.Cause} {y : Reader α} : Continues extra (Reader.fail cause) y :=
  fun _ _ _ _ _ hrun => nomatch hrun

theorem ite {c : Prop} [Decidable c] {x x' y y' : Reader α} (hx : Continues extra x x')
    (hy : Continues extra y y') : Continues extra (if c then x else y) (if c then x' else y') := by
  split
  · exact hx
  · exact hy

/-- What is made of what has been read. -/
theorem map {x y : Reader α} (hx : Continues extra x y) (f : α → β) :
    Continues extra (x >>= fun a => pure (f a)) (y >>= fun a => pure (f a)) := by
  intro g r b r'' hstart hrun
  obtain ⟨a, r', hfirst, hsecond⟩ := bind_eq_ok.mp hrun
  obtain ⟨rfl, rfl⟩ := Prod.mk.inj (Except.ok.inj hsecond)
  exact (hx g r a r' hstart hfirst).bind (.pure (f a))

theorem advance : Continues extra advance advance := by
  intro g r u r' hstart hrun
  obtain ⟨-, rfl⟩ := Prod.mk.inj (Except.ok.inj hrun)
  obtain ⟨c, rest, htext⟩ := List.exists_cons_of_ne_nil hstart
  rw [Reading.spot, Reading.spot, Text.Cursor.advance_rest, htext]
  exact Reads.advance

/-- A run of characters that cannot go on with a caret. -/
theorem readWhile {accept : Char → Bool} (hcaret : accept '^' = false) :
    Continues extra (readWhile accept) (readWhile accept) := by
  intro g r run r' _ hrun
  obtain ⟨rfl, hspot⟩ := spot_of_readWhile hrun
  exact hspot ▸ reads_run fun _ => hcaret

end Continues

namespace Closes

theorem toExtends {x y : Reader α} (h : Closes extra x y) : Extends extra x y :=
  fun g r a r' hrun _ => h g r a r' hrun

theorem continues {x y : Reader α} (h : Closes extra x y) : Continues extra x y :=
  fun g r a r' _ hrun => (h g r a r' hrun).2

theorem fail {cause : ParseError.Cause} {y : Reader α} : Closes extra (Reader.fail cause) y :=
  fun _ _ _ _ hrun => nomatch hrun

theorem fail_bind {cause : ParseError.Cause} {f : α → Reader β} {y : Reader β} :
    Closes extra (Reader.fail cause >>= f) y := fun _ _ _ _ hrun => nomatch hrun

theorem ite {c : Prop} [Decidable c] {x x' y y' : Reader α} (hx : Closes extra x x')
    (hy : Closes extra y y') : Closes extra (if c then x else y) (if c then x' else y') := by
  split
  · exact hx
  · exact hy

theorem bind {x y : Reader α} {f h : α → Reader β} (hx : Extends extra x y)
    (hf : ∀ a, Closes extra (f a) (h a)) : Closes extra (x >>= f) (y >>= h) := by
  intro g r b r'' hrun
  obtain ⟨a, r', hfirst, hsecond⟩ := bind_eq_ok.mp hrun
  obtain ⟨hmiddle, hreads⟩ := hf a g r' b r'' hsecond
  obtain ⟨hstart, hread⟩ := hx g r a r' hfirst hmiddle
  exact ⟨hstart, hread.bind hreads⟩

theorem demand_bind {f h : Char → Reader β} (hf : ∀ c, Continues extra (f c) (h c)) :
    Closes extra (demand >>= f) (demand >>= h) := by
  intro g r b r'' hrun
  obtain ⟨c, r', hfirst, hsecond⟩ := bind_eq_ok.mp hrun
  obtain ⟨rfl, hcurrent⟩ := Ensures.demand c r' hfirst
  obtain ⟨rest, htext⟩ := List.head?_eq_some_iff.mp hcurrent
  have hread : Reads demand g (r'.spot.withCarets extra) c (r'.spot.withCarets extra) := by
    rw [Reading.spot, Spot.withCarets, htext]
    exact Reads.demand
  have hstart : r'.cursor.rest ≠ [] := Reading.rest_ne_nil hcurrent
  exact ⟨hstart, hread.bind (hf c g r' b r'' hstart hsecond)⟩

/-- Where the text has ended, nothing must be read of what is behind it. -/
theorem current_bind {f h : Option Char → Reader β} (hend : Closes extra (f none) (h none))
    (hf : ∀ c, Continues extra (f (some c)) (h (some c))) :
    Closes extra (current >>= f) (current >>= h) := by
  intro g r b r' hrun
  change f r.cursor.current g r = .ok (b, r') at hrun
  cases hcurrent : r.cursor.current with
  | none =>
      rw [hcurrent] at hrun
      exact absurd (List.head?_eq_none_iff.mp hcurrent) (hend g r b r' hrun).1
  | some c =>
      rw [hcurrent] at hrun
      have hstart : r.cursor.rest ≠ [] := Reading.rest_ne_nil hcurrent
      refine ⟨hstart, .current_bind ?_⟩
      have hsame : (r.cursor.rest ++ List.replicate (extra + 1) '^').head? = some c :=
        (Reading.head?_withCarets hstart).trans hcurrent
      exact hsame.symm ▸ hf c g r b r' hstart hrun

theorem headStep : Closes extra headStep headStep := by
  unfold Reader.headStep
  refine current_bind fail fun c => ?_
  split
  · intro g r step r' hstart hrun
    obtain ⟨rfl, rfl⟩ := Prod.mk.inj (Except.ok.inj hrun)
    obtain ⟨c, rest, hrest⟩ := List.exists_cons_of_ne_nil hstart
    refine .get_bind fun s hs => ?_
    obtain ⟨htext, hdepth, hroots⟩ := Reading.spot_eq_withCarets hs
    rw [hroots]
    refine (Reads.set ?_).bind (.pure _)
    refine Reading.spot_withCarets ?_ hdepth rfl
    rw [Text.Cursor.advance_rest, Text.Cursor.advance_rest, htext, hrest]
    rfl
  · exact Continues.advance.map fun _ => Step.current
  · exact Continues.fail

theorem memberStep : Closes extra memberStep memberStep := by
  unfold Reader.memberStep
  exact demand_bind fun c => .ite (Continues.advance.map fun _ => Step.wildcard)
    (.ite ((Continues.readWhile (by decide)).map fun name => Step.name (String.ofList name)) .fail)

end Closes

/-! ## Descent -/

theorem coupling_extends (extra : Nat) : DescentCoupling (Extends extra) where
  pure := .pure
  fail := .fail
  bind := .bind
  get hf := .get_bind fun r s hs =>
    hf r s (Reading.length_rest_le hs) (Reading.spot_eq_withCarets hs).2.1.symm
  current := .current
  next := .next_bind
  advanceBy := .advanceBy
  skipBlanks := .skipBlanks
  readWhile := .readWhile
  modifyDepth := .modifyDepth
  headStep := Closes.headStep.toExtends
  read := .read_bind

/-- **`extends_descent`** — what the readers with some fuel read of a text, those with at least as much
read of the text with carets behind it. -/
theorem extends_descent {fuel fuel' : Nat} (h : fuel ≤ fuel') : Descent (Extends extra) fuel fuel' :=
  (coupling_extends extra).descent h

/-- What stands in brackets ends with the bracket, and that may be the end of the text. -/
theorem closes_brackets {fuel fuel' : Nat} (hfuel : fuel ≤ fuel') (before : List Step) :
    Closes extra (brackets fuel before) (brackets fuel' before) := by
  induction fuel generalizing fuel' before with
  | zero => exact .fail
  | succ fuel ih =>
      obtain ⟨fuel', rfl⟩ : ∃ inner, fuel' = inner + 1 := ⟨fuel' - 1, by omega⟩
      have h := coupling_extends extra
      have hless : fuel ≤ fuel' := by omega
      unfold Reader.brackets
      refine .bind .skipBlanks fun _ => .bind h.demand fun c => ?_
      extract_lets behind behind'
      -- What follows a step is the same for all of them.
      have hbehind : ∀ step, Closes extra (behind step) (behind' step) := by
        intro step
        refine .bind .skipBlanks fun _ => .demand_bind fun c => .ite ?_ (.ite ?_ .fail)
        · exact (Closes.bind h.advance fun _ => ih hless _).continues
        · exact Continues.advance.map fun _ =>
            if before.isEmpty then step else .union (step :: before).reverse
      refine .ite ?_ (.ite ?_ (.ite ?_ (.ite ?_ .fail_bind)))
      · exact .bind h.advance fun _ => .bind (.pure _) hbehind
      · exact .bind (h.quoted c) fun name => .bind (.pure _) hbehind
      · exact .bind h.advance fun _ => .bind (extends_descent hless).filter fun f =>
          .bind (.pure _) hbehind
      · exact .bind h.indexOrSlice hbehind

end Reader

end JsonQuery.Path
