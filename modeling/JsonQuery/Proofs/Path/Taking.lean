/-
# JsonQuery.Proofs.Path.Taking — what is left of the text where a reader of paths goes on.

A reader may stop with an error for reasons that have nothing to do with the characters before it:
it is too deep, or its fuel is spent.  `Takes` leaves these aside.  It says of a reader what holds
of its result and of the text behind it whenever it goes on from a given text, and so speaks of
characters alone.
-/
import JsonQuery.Proofs.Path.Rereading

namespace JsonQuery.Path

namespace Reader

open Text (isBlank)

variable {α β : Type} {g : Registry} {text rest : List Char} {fuel : Nat}

/-- **`Takes x g text Q`** — whatever `x` reads from `text`, `Q` holds of it and of the text that is
left. -/
def Takes (x : Reader α) (g : Registry) (text : List Char) (Q : α → List Char → Prop) : Prop :=
  ∀ r : Reading, r.cursor.rest = text → Ensures x g r fun a r' => Q a r'.cursor.rest

namespace Takes

theorem pure {a : α} {Q : α → List Char → Prop} (h : Q a text) : Takes (Pure.pure a) g text Q := by
  rintro r rfl
  exact .pure h

theorem bind {x : Reader α} {f : α → Reader β} {P : α → List Char → Prop}
    {Q : β → List Char → Prop} (hx : Takes x g text P)
    (hf : ∀ a rest, P a rest → Takes (f a) g rest Q) : Takes (x >>= f) g text Q :=
  fun r hr => (hx r hr).bind fun a _ ha => hf a _ ha _ rfl

theorem imp {x : Reader α} {P Q : α → List Char → Prop} (hx : Takes x g text P)
    (h : ∀ a rest, P a rest → Q a rest) : Takes x g text Q :=
  fun r hr => (hx r hr).imp fun a _ ha => h a _ ha

theorem pure_bind {a : α} {f : α → Reader β} {Q : β → List Char → Prop}
    (h : Takes (f a) g text Q) : Takes (Pure.pure a >>= f) g text Q := h

theorem fail {cause : ParseError.Cause} {Q : α → List Char → Prop} :
    Takes (Reader.fail cause) g text Q := fun _ _ => .fail

theorem fail_bind {cause : ParseError.Cause} {f : α → Reader β} {Q : β → List Char → Prop} :
    Takes (Reader.fail cause >>= f) g text Q := fun _ _ => .fail_bind

theorem ite {c : Prop} [Decidable c] {x y : Reader α} {Q : α → List Char → Prop}
    (hx : c → Takes x g text Q) (hy : ¬ c → Takes y g text Q) :
    Takes (if c then x else y) g text Q :=
  fun r hr => .ite (fun hc => hx hc r hr) fun hc => hy hc r hr

theorem ite_pos {c : Prop} [Decidable c] {x y : Reader α} {Q : α → List Char → Prop} (hc : c)
    (h : Takes x g text Q) : Takes (if c then x else y) g text Q := by
  rwa [if_pos hc]

theorem ite_neg {c : Prop} [Decidable c] {x y : Reader α} {Q : α → List Char → Prop} (hc : ¬ c)
    (h : Takes y g text Q) : Takes (if c then x else y) g text Q := by
  rwa [if_neg hc]

theorem get_bind {f : Reading → Reader β} {Q : β → List Char → Prop}
    (h : ∀ r : Reading, r.cursor.rest = text → Takes (f r) g text Q) :
    Takes (get >>= f) g text Q := fun r hr => .get_bind (h r hr r hr)

theorem current_bind {f : Option Char → Reader β} {Q : β → List Char → Prop}
    (h : Takes (f text.head?) g text Q) : Takes (current >>= f) g text Q := by
  rintro r rfl
  exact .current_bind (h r rfl)

theorem next_bind {f : Option Char → Reader β} {Q : β → List Char → Prop}
    (h : Takes (f text[1]?) g text Q) : Takes (next >>= f) g text Q := by
  rintro r rfl
  exact .next_bind (h r rfl)

/-- A reader that does nothing but change the reading. -/
theorem modify {f : Reading → Reading}
    (h : ∀ r : Reading, r.cursor.rest = text → (f r).cursor.rest = rest) :
    Takes (modify f) g text fun _ rest' => rest' = rest := by
  intro r hr a r' hrun
  obtain ⟨-, rfl⟩ := Prod.mk.inj (Except.ok.inj hrun)
  exact h r hr

theorem set {r' : Reading} (h : r'.cursor.rest = rest) :
    Takes (set r') g text fun _ rest' => rest' = rest := by
  intro r _ a r'' hrun
  obtain ⟨-, rfl⟩ := Prod.mk.inj (Except.ok.inj hrun)
  exact h

/-- Behind a reader that leaves nothing open about the text. -/
theorem go {x : Reader α} {f : α → Reader β} {Q : β → List Char → Prop}
    (hx : Takes x g text fun _ rest' => rest' = rest) (hf : ∀ a, Takes (f a) g rest Q) :
    Takes (x >>= f) g text Q :=
  hx.bind fun a _ hrest => hrest ▸ hf a

/-- A reader that is known to go on from a text, at whatever depth. -/
theorem of_reads {x : Reader α} {a : α}
    (h : ∀ depth roots, Reads x g ⟨text, depth, roots⟩ a ⟨rest, depth, roots⟩) :
    Takes x g text fun a' rest' => a' = a ∧ rest' = rest := by
  rintro r rfl a' r' hrun
  obtain ⟨r'', hgoes, hspot⟩ := h r.depth r.roots r rfl
  obtain ⟨rfl, rfl⟩ := Prod.mk.inj (Except.ok.inj (hgoes.symm.trans hrun))
  exact ⟨rfl, congrArg Spot.text hspot⟩

theorem advance {c : Char} : Takes advance g (c :: rest) fun _ rest' => rest' = rest :=
  (of_reads fun _ _ => Reads.advance).imp fun _ _ h => h.2

theorem demand_bind {c : Char} {f : Char → Reader β} {Q : β → List Char → Prop}
    (h : Takes (f c) g (c :: rest) Q) : Takes (demand >>= f) g (c :: rest) Q :=
  (of_reads fun _ _ => Reads.demand).bind fun _ _ ⟨hc, hrest⟩ => hc ▸ hrest ▸ h

theorem skipBlanks : Takes skipBlanks g text fun _ rest' => rest' = text.dropWhile isBlank :=
  modify fun r hr => hr ▸ r.cursor.readWhile_rest isBlank

theorem enter : Takes enter g text fun _ rest' => rest' = text := by
  have hdeeper : ∀ r : Reading, r.cursor.rest = text →
      { r with depth := r.depth + 1 : Reading }.cursor.rest = text := fun _ hr => hr
  unfold Reader.enter
  refine (modify hdeeper).go fun _ => .get_bind fun r _ => ?_
  exact .ite (fun _ => .fail) fun _ => .pure rfl

theorem leave : Takes leave g text fun _ rest' => rest' = text := modify fun _ hr => hr

theorem setDepth (depth : Nat) : Takes (setDepth depth) g text fun _ rest' => rest' = text :=
  modify fun _ hr => hr

/-- Going to a depth that may be too deep. -/
theorem setDepth_bind {depth : Nat} {f : Unit → Reader β} {Q : β → List Char → Prop}
    (h : Takes (f ()) g text Q) : Takes (do
      Reader.setDepth depth
      let r ← get
      if maxNesting < r.depth then Reader.fail .nestingTooDeep >>= f else f ()) g text Q :=
  (setDepth depth).go fun _ => .get_bind fun _ _ => .ite (fun _ => .fail_bind) fun _ => h

theorem checkedHeight (height : Nat) :
    Takes (checkedHeight height) g text fun _ rest' => rest' = text := by
  unfold Reader.checkedHeight
  exact .get_bind fun r _ => .ite (fun _ => .fail) fun _ => .pure rfl

end Takes

/-! ## Paths -/

/-- The root sign, whatever its number. -/
theorem takes_rootSign : Takes headStep g ('$' :: rest) fun step rest' =>
    (∃ id, step = .root id) ∧ rest' = rest := by
  unfold headStep
  refine .current_bind (.get_bind fun r hr => (Takes.set ?_).go fun _ => .pure ⟨⟨_, rfl⟩, rfl⟩)
  rw [Text.Cursor.advance_rest, hr, List.tail_cons]

/-- A path ends before what is no step, if its depth allows it at all. -/
theorem takes_pathSteps_end (outer : Nat) (steps : List Step)
    (hrest : rest.head?.any startsStep = false) :
    Takes (pathSteps fuel outer steps) g rest fun steps' rest' =>
      steps' = steps.reverse ∧ rest' = rest := by
  cases fuel with
  | zero => exact .fail
  | succ fuel =>
      unfold pathSteps
      refine .setDepth_bind (.current_bind ?_)
      split
      next hdot => rw [hdot] at hrest; cases hrest
      next hbracket => rw [hbracket] at hrest; cases hrest
      next hcaret => rw [hcaret] at hrest; cases hrest
      next => exact .pure ⟨rfl, rfl⟩

end Reader

/-- The steps of an accepted text are what the reader of whole paths reads from its start. -/
theorem exists_run_of_compile {text : String} {registry : Registry} {path : Path}
    (h : Path.compile text registry = .ok path) :
    ∃ r, Reader.whole registry { cursor := .start text } = .ok (path.steps, r) := by
  unfold Path.compile at h
  cases hsteps : parseSteps text registry with
  | error e =>
      rw [hsteps] at h
      cases h
  | ok steps =>
      rw [hsteps] at h
      obtain rfl := Except.ok.inj h
      change (Reader.whole registry { cursor := .start text }).map (·.1) = .ok steps at hsteps
      cases hrun : Reader.whole registry { cursor := .start text } with
      | error e =>
          rw [hrun] at hsteps
          cases hsteps
      | ok result =>
          rw [hrun] at hsteps
          obtain rfl := Except.ok.inj hsteps
          exact ⟨result.2, rfl⟩

/-- What a reader of whole paths says of its steps holds of the steps of an accepted text. -/
theorem exists_of_compile {text : String} {registry : Registry} {path : Path}
    {Q : List Step → List Char → Prop} (hwhole : Reader.Takes Reader.whole registry text.toList Q)
    (h : Path.compile text registry = .ok path) : ∃ rest, Q path.steps rest := by
  obtain ⟨r, hrun⟩ := exists_run_of_compile h
  exact ⟨_, hwhole _ rfl path.steps r hrun⟩

end JsonQuery.Path
