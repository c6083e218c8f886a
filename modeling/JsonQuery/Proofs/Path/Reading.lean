/-
# JsonQuery.Proofs.Path.Reading — what a reader of paths does when it goes on.

A reader either stops with an error or reads something and moves on.  `Ensures` says of a reader what
holds whenever it moves on; it is closed under sequencing, and nothing has to be said where the
reader stops.  Readers of characters, names and numbers move the cursor and leave the depth and the
count of root signs alone (`Keeps`).
-/
import JsonQuery.Path.Query
import JsonQuery.Proofs.Path.Coupling

namespace JsonQuery.Path

/-- Steps behind a sign that hold neither steps nor filters; a slice does not stand still. -/
def Step.isPlain : Step → Bool
  | .parent _ | .name _ | .index _ | .wildcard | .descend => true
  | .slice s => s.step != 0
  | .root _ | .current | .filter _ | .union _ => false

namespace Reader

variable {α β : Type} {g : Registry} {r : Reading}

/-! ## Moving on -/

/-- **`Ensures x g r Q`** — whatever `x` reads from `r`, `Q` holds of it and of the place behind it. -/
def Ensures (x : Reader α) (g : Registry) (r : Reading) (Q : α → Reading → Prop) : Prop :=
  ∀ a r', x g r = .ok (a, r') → Q a r'

theorem bind_eq_ok {x : Reader α} {f : α → Reader β} {b : β} {r'' : Reading} :
    (x >>= f) g r = .ok (b, r'') ↔ ∃ a r', x g r = .ok (a, r') ∧ f a g r' = .ok (b, r'') := by
  change (x g r >>= fun result => f result.1 g result.2) = _ ↔ _
  cases hx : x g r with
  | error e => simp [bind, Except.bind]
  | ok result =>
      obtain ⟨a, r'⟩ := result
      simp only [bind, Except.bind, Except.ok.injEq, Prod.mk.injEq]
      constructor
      · exact fun h => ⟨a, r', ⟨rfl, rfl⟩, h⟩
      · rintro ⟨_, _, ⟨rfl, rfl⟩, h⟩
        exact h

namespace Ensures

theorem pure {a : α} {Q : α → Reading → Prop} (h : Q a r) : Ensures (Pure.pure a) g r Q := by
  intro b r' hrun
  obtain ⟨rfl, rfl⟩ := Prod.mk.inj (Except.ok.inj hrun)
  exact h

theorem bind {x : Reader α} {f : α → Reader β} {P : α → Reading → Prop} {Q : β → Reading → Prop}
    (hx : Ensures x g r P) (hf : ∀ a r', P a r' → Ensures (f a) g r' Q) :
    Ensures (x >>= f) g r Q := by
  intro b r'' hrun
  obtain ⟨a, r', hfirst, hsecond⟩ := bind_eq_ok.mp hrun
  exact hf a r' (hx a r' hfirst) b r'' hsecond

theorem imp {x : Reader α} {P Q : α → Reading → Prop} (hx : Ensures x g r P)
    (h : ∀ a r', P a r' → Q a r') : Ensures x g r Q :=
  fun a r' hrun => h a r' (hx a r' hrun)

theorem fail {cause : ParseError.Cause} {Q : α → Reading → Prop} :
    Ensures (Reader.fail cause) g r Q := fun _ _ hrun => nomatch hrun

/-- Behind an error nothing is read. -/
theorem fail_bind {cause : ParseError.Cause} {f : α → Reader β} {Q : β → Reading → Prop} :
    Ensures (Reader.fail cause >>= f) g r Q := fun _ _ hrun => nomatch hrun

theorem ite {c : Prop} [Decidable c] {x y : Reader α} {Q : α → Reading → Prop}
    (hx : c → Ensures x g r Q) (hy : ¬ c → Ensures y g r Q) :
    Ensures (if c then x else y) g r Q := by
  split
  next hc => exact hx hc
  next hc => exact hy hc

/-- What is read without moving is at hand afterwards. -/
theorem get_bind {f : Reading → Reader β} {Q : β → Reading → Prop} (h : Ensures (f r) g r Q) :
    Ensures (get >>= f) g r Q := h

theorem read_bind {f : Registry → Reader β} {Q : β → Reading → Prop} (h : Ensures (f g) g r Q) :
    Ensures (read >>= f) g r Q := h

theorem current_bind {f : Option Char → Reader β} {Q : β → Reading → Prop}
    (h : Ensures (f r.cursor.current) g r Q) : Ensures (current >>= f) g r Q := h

theorem next_bind {f : Option Char → Reader β} {Q : β → Reading → Prop}
    (h : Ensures (f (r.cursor.peek 1)) g r Q) : Ensures (next >>= f) g r Q := h

theorem demand : Ensures demand g r fun c r' => r' = r ∧ r.cursor.current = some c := by
  intro c r' hrun
  unfold Reader.demand at hrun
  obtain ⟨found, _, hcurrent, hrest⟩ := bind_eq_ok.mp hrun
  obtain ⟨rfl, rfl⟩ := Prod.mk.inj (Except.ok.inj hcurrent)
  cases hfound : r.cursor.current with
  | none =>
      simp only [hfound] at hrest
      cases hrest
  | some c' =>
      simp only [hfound] at hrest
      obtain ⟨rfl, rfl⟩ := Prod.mk.inj (Except.ok.inj hrest)
      exact ⟨rfl, rfl⟩

end Ensures

/-! ## Depth -/

theorem ensures_enter : Ensures enter g r fun _ r' =>
    r'.depth = r.depth + 1 ∧ r'.roots = r.roots ∧ r'.depth ≤ maxNesting := by
  intro a r' hrun
  by_cases hdeep : maxNesting < r.depth + 1
  · have hfails : enter g r = .error ⟨.nestingTooDeep, r.cursor.position⟩ := by
      change (if maxNesting < r.depth + 1 then fail .nestingTooDeep else pure () : Reader Unit)
        g { r with depth := r.depth + 1 } = _
      rw [if_pos hdeep]
      rfl
    rw [hfails] at hrun
    cases hrun
  · have hgoes : enter g r = .ok ((), { r with depth := r.depth + 1 }) := by
      change (if maxNesting < r.depth + 1 then fail .nestingTooDeep else pure () : Reader Unit)
        g { r with depth := r.depth + 1 } = _
      rw [if_neg hdeep]
      rfl
    rw [hgoes] at hrun
    obtain ⟨rfl, rfl⟩ := Prod.mk.inj (Except.ok.inj hrun)
    exact ⟨rfl, rfl, Nat.le_of_not_lt hdeep⟩

theorem ensures_leave : Ensures leave g r fun _ r' =>
    r'.depth = r.depth - 1 ∧ r'.roots = r.roots := by
  intro a r' hrun
  obtain ⟨-, rfl⟩ := Prod.mk.inj (Except.ok.inj hrun)
  exact ⟨rfl, rfl⟩

theorem ensures_setDepth (depth : Nat) : Ensures (setDepth depth) g r fun _ r' =>
    r'.depth = depth ∧ r'.roots = r.roots := by
  intro a r' hrun
  obtain ⟨-, rfl⟩ := Prod.mk.inj (Except.ok.inj hrun)
  exact ⟨rfl, rfl⟩

theorem ensures_checkedHeight (height : Nat) : Ensures (checkedHeight height) g r fun h r' =>
    h = height ∧ r' = r ∧ r.depth + height ≤ maxNesting := by
  unfold checkedHeight
  refine .get_bind (.ite (fun _ => .fail) fun hfits => .pure ⟨rfl, rfl, ?_⟩)
  exact Nat.le_of_not_lt hfits

/-! ## Readers that only move the cursor -/

/-- **`Gives x P`** — `x` leaves the depth and the count of root signs alone, and `P` holds of what it
reads. -/
def Gives (x : Reader α) (P : α → Prop) : Prop :=
  ∀ g r, Ensures x g r fun a r' => P a ∧ r'.depth = r.depth ∧ r'.roots = r.roots

namespace Gives

variable {P : α → Prop} {Q : β → Prop}

theorem pure {a : α} (h : P a) : Gives (Pure.pure a : Reader α) P := fun _ _ => .pure ⟨h, rfl, rfl⟩

theorem fail {cause : ParseError.Cause} : Gives (Reader.fail cause) P := fun _ _ => .fail

theorem bind_of {x : Reader α} {f : α → Reader β} (hx : Gives x P)
    (hf : ∀ a, P a → Gives (f a) Q) : Gives (x >>= f) Q := by
  intro g r
  refine (hx g r).bind fun a r' ⟨ha, hdepth, hroots⟩ => (hf a ha g r').imp fun b r'' ⟨hb, hd, hr⟩ => ?_
  exact ⟨hb, hd.trans hdepth, hr.trans hroots⟩

theorem bind {x : Reader α} {f : α → Reader β} (hx : Gives x P) (hf : ∀ a, Gives (f a) Q) :
    Gives (x >>= f) Q := hx.bind_of fun a _ => hf a

theorem ite_of {c : Prop} [Decidable c] {x y : Reader α} (hx : Gives x P) (hy : ¬ c → Gives y P) :
    Gives (if c then x else y) P :=
  fun g r => .ite (fun _ => hx g r) fun hc => hy hc g r

theorem ite {c : Prop} [Decidable c] {x y : Reader α} (hx : Gives x P) (hy : Gives y P) :
    Gives (if c then x else y) P := ite_of hx fun _ => hy

theorem get_bind {f : Reading → Reader β} (hf : ∀ r, Gives (f r) Q) : Gives (get >>= f) Q :=
  fun g r => .get_bind (hf r g r)

end Gives

/-- **`Keeps x`** — `x` leaves the depth and the count of root signs alone. -/
abbrev Keeps (x : Reader α) : Prop := Gives x fun _ => True

namespace Keeps

open Gives

/-- A reader that stops nowhere and only moves the cursor. -/
theorem of_ok {x : Reader α} (h : ∀ g r, ∃ a cursor, x g r = .ok (a, { r with cursor := cursor })) :
    Keeps x := by
  intro g r a r' hrun
  obtain ⟨b, cursor, hgoes⟩ := h g r
  obtain ⟨rfl, rfl⟩ := Prod.mk.inj (Except.ok.inj (hgoes.symm.trans hrun))
  exact ⟨trivial, rfl, rfl⟩

theorem pure (a : α) : Keeps (Pure.pure a : Reader α) := Gives.pure trivial

theorem fail {cause : ParseError.Cause} : Keeps (Reader.fail cause : Reader α) := Gives.fail

theorem current : Keeps current := of_ok fun _ r => ⟨r.cursor.current, r.cursor, rfl⟩

theorem next : Keeps next := of_ok fun _ r => ⟨r.cursor.peek 1, r.cursor, rfl⟩

theorem advance : Keeps advance := of_ok fun _ r => ⟨(), r.cursor.advance, rfl⟩

theorem skipBlanks : Keeps skipBlanks := of_ok fun _ r => ⟨(), r.cursor.skipBlanks, rfl⟩

theorem readWhile (accept : Char → Bool) : Keeps (readWhile accept) :=
  of_ok fun _ r => ⟨(r.cursor.readWhile accept).1, (r.cursor.readWhile accept).2, rfl⟩

theorem coupling : Coupling fun {_} x _ => Keeps x where
  pure := pure
  fail := fail
  bind := Gives.bind
  get hf := get_bind fun r => hf r r (Nat.le_refl _) rfl
  current := current
  next hf _ := next.bind hf
  advanceBy n := of_ok fun _ r => ⟨(), r.cursor.advanceBy n, rfl⟩
  skipBlanks := skipBlanks
  readWhile := readWhile

end Keeps

/-! ## What they read -/

theorem gives_sliceStep : Gives sliceStep (· ≠ 0) := by
  unfold sliceStep
  refine Keeps.current.bind fun c => .ite (.pure (by decide)) <|
    Keeps.advance.bind fun _ => Keeps.coupling.integer?.bind fun step => ?_
  cases step with
  | none => exact .pure (by decide)
  | some step => exact .ite_of .fail fun hstep => .pure hstep

theorem gives_indexOrSlice : Gives indexOrSlice fun step => step.isPlain = true := by
  unfold indexOrSlice
  refine Keeps.coupling.integer?.bind fun start => Keeps.skipBlanks.bind fun _ => Keeps.current.bind fun c =>
    .ite ?_ ?_
  · cases start with
    | none => exact .fail
    | some i => exact .pure rfl
  · refine Keeps.advance.bind fun _ => Keeps.coupling.integer?.bind fun stop => Keeps.skipBlanks.bind fun _ =>
      gives_sliceStep.bind_of fun step hstep => .pure ?_
    simpa [Step.isPlain] using hstep

theorem gives_memberStep : Gives memberStep fun step => step.isPlain = true := by
  unfold memberStep
  exact Keeps.coupling.demand.bind fun c => .ite (Keeps.advance.bind fun _ => .pure rfl)
    (.ite ((Keeps.readWhile _).bind fun name => .pure rfl) .fail)

theorem gives_number : Gives number fun f => ∃ json, f = .literal json := by
  unfold number
  refine (Keeps.coupling.optional _).bind fun sign => (Keeps.readWhile _).bind fun whole =>
    (Keeps.coupling.optional _).bind fun point => ?_
  extract_lets afterFraction
  have hafter : ∀ fraction, Gives (afterFraction fraction) fun f => ∃ json, f = .literal json := by
    intro fraction
    refine (Keeps.coupling.optional _).bind fun letter => ?_
    extract_lets afterSign
    have hsign : ∀ sign, Gives (afterSign sign) fun f => ∃ json, f = .literal json := by
      intro exponentSign
      dsimp only [afterSign]
      refine .ite ((Keeps.pure _).bind fun exponent => ?_)
        ((Keeps.readWhile _).bind fun exponent => ?_)
      all_goals
        split
        · exact .pure ⟨_, rfl⟩
        · exact .fail
    exact .ite ((Keeps.pure _).bind hsign) ((Keeps.coupling.optional _).bind hsign)
  exact .ite ((Keeps.pure _).bind hafter) ((Keeps.readWhile _).bind hafter)

end Reader

end JsonQuery.Path
