/-
# JsonQuery.Proofs.Path.Coupling — relations that primitive readers hand on.

The readers of paths are put together of a few primitive ones.  A relation of readers that sequencing
and the primitive readers keep is kept by the readers of integers, names, numbers and patterns.  So what
is to be said of all of them is shown of the primitive ones alone.

Two readers are related, and not one is looked at, because one text may be read as a part of a longer
one.  There is more fuel for the longer text, and where the shorter one has ended, a caret may follow:
no reader that looks at the next character but one tells a caret from the end of the text.
-/
import JsonQuery.Path.Parser

namespace JsonQuery.Path.Reader

/-! ## Relations of readers -/

/-- **`Coupling J`** — a relation of readers that sequencing and the primitive readers keep.  What
depends on the place depends on how much text is left and on the depth. -/
structure Coupling (J : {α : Type} → Reader α → Reader α → Prop) : Prop where
  pure : ∀ {α : Type} (a : α), J (pure a) (pure a)
  fail : ∀ {α : Type} {cause : ParseError.Cause} {y : Reader α}, J (Reader.fail cause) y
  bind : ∀ {α β : Type} {x y : Reader α} {f f' : α → Reader β},
    J x y → (∀ a, J (f a) (f' a)) → J (x >>= f) (y >>= f')
  get : ∀ {α : Type} {f f' : Reading → Reader α},
    (∀ r s, r.cursor.rest.length ≤ s.cursor.rest.length → r.depth = s.depth → J (f r) (f' s)) →
      J (get >>= f) (get >>= f')
  current : J current current
  next : ∀ {α : Type} {f f' : Option Char → Reader α},
    (∀ c, J (f c) (f' c)) → f' (some '^') = f' none → J (next >>= f) (next >>= f')
  advanceBy : ∀ n, J (modify fun r => { r with cursor := r.cursor.advanceBy n })
    (modify fun r => { r with cursor := r.cursor.advanceBy n })
  skipBlanks : J skipBlanks skipBlanks
  readWhile : ∀ accept, J (readWhile accept) (readWhile accept)

/-! ## Readers of characters -/

namespace Coupling

variable {J : {α : Type} → Reader α → Reader α → Prop}

theorem ite (_ : Coupling J) {α : Type} {c : Prop} [Decidable c] {x x' y y' : Reader α}
    (hx : J x x') (hy : J y y') : J (if c then x else y) (if c then x' else y') := by
  split
  · exact hx
  · exact hy

variable (h : Coupling J)
include h

theorem advance : J advance advance := h.advanceBy 1

theorem demand : J demand demand := by
  unfold Reader.demand
  refine h.bind h.current fun c => ?_
  cases c with
  | none => exact h.fail
  | some c => exact h.pure c

/-! ### Integers and slices -/

theorem integer : J integer integer := by
  unfold Reader.integer
  refine h.bind h.current fun sign => h.ite (h.bind h.advance fun _ => ?_) ?_
  all_goals
    exact h.bind (h.readWhile _) fun digits =>
      h.ite (h.bind h.fail fun _ => h.ite (h.pure _) h.fail) (h.ite (h.pure _) h.fail)

theorem integer? : J integer? integer? := by
  unfold Reader.integer?
  refine h.bind h.skipBlanks fun _ => h.bind h.current fun c => ?_
  cases c with
  | none => exact h.pure none
  | some c => exact h.ite (h.bind h.integer fun i => h.pure (some i)) (h.pure none)

theorem sliceStep : J sliceStep sliceStep := by
  unfold Reader.sliceStep
  refine h.bind h.current fun c => h.ite (h.pure 1) ?_
  refine h.bind h.advance fun _ => h.bind h.integer? fun step => ?_
  cases step with
  | none => exact h.pure 1
  | some step => exact h.ite h.fail (h.pure step)

theorem indexOrSlice : J indexOrSlice indexOrSlice := by
  unfold Reader.indexOrSlice
  refine h.bind h.integer? fun start => h.bind h.skipBlanks fun _ => h.bind h.current fun c => ?_
  refine h.ite ?_ ?_
  · cases start with
    | none => exact h.fail
    | some i => exact h.pure (Step.index i)
  · exact h.bind h.advance fun _ => h.bind h.integer? fun stop => h.bind h.skipBlanks fun _ =>
      h.bind h.sliceStep fun step => h.pure (Step.slice ⟨start, stop, step⟩)

/-! ### Names -/

theorem hexDigits (n value : Nat) : J (hexDigits n value) (hexDigits n value) := by
  induction n generalizing value with
  | zero => exact h.pure value
  | succ n ih =>
      unfold Reader.hexDigits
      refine h.bind h.current fun c => ?_
      cases c.bind Text.hexDigit? with
      | none => exact h.fail
      | some digit => exact h.bind h.advance fun _ => ih _

theorem unicodeEscape : J unicodeEscape unicodeEscape := by
  unfold Reader.unicodeEscape
  refine h.bind (h.hexDigits 4 0) fun high => ?_
  extract_lets character low
  have hcharacter : ∀ code, J (character code) (character code) := by
    intro code
    dsimp only [character]
    cases Text.charOfCodePoint? code with
    | none => exact h.fail
    | some c => exact h.pure c
  have hlow : ∀ u, J (low u) (low u) := fun _ =>
    h.bind h.advance fun _ => h.bind h.advance fun _ => h.bind (h.hexDigits 4 0) fun _ =>
      h.ite (h.bind (h.pure _) hcharacter) (h.bind h.fail hcharacter)
  refine h.ite (h.bind h.current fun c => h.next (fun c' => ?_) ?_) (h.bind (h.pure high) hcharacter)
  · exact h.ite (h.bind h.fail hlow) (hlow ())
  · -- A caret is no more the letter of a second escape than nothing is.
    rfl

theorem escape : J escape escape := by
  unfold Reader.escape
  refine h.bind h.demand fun c => h.ite (h.bind h.advance fun _ => h.unicodeEscape) ?_
  cases letterEscape? c with
  | none => exact h.fail
  | some unescaped => exact h.bind h.advance fun _ => h.pure unescaped

theorem quotedRest (quote : Char) {fuel fuel' : Nat} (hfuel : fuel ≤ fuel') :
    J (quotedRest quote fuel) (quotedRest quote fuel') := by
  induction fuel generalizing fuel' with
  | zero => exact h.fail
  | succ fuel ih =>
      obtain ⟨fuel', rfl⟩ : ∃ inner, fuel' = inner + 1 := ⟨fuel' - 1, by omega⟩
      unfold Reader.quotedRest
      refine h.bind h.demand fun c => h.bind h.advance fun _ => h.ite (h.pure []) (h.ite ?_ ?_)
      · exact h.bind h.escape fun unescaped => h.bind (ih (by omega)) fun rest =>
          h.pure (unescaped :: rest)
      · exact h.bind (ih (by omega)) fun rest => h.pure (c :: rest)

theorem quoted (quote : Char) : J (quoted quote) (quoted quote) :=
  h.bind h.advance fun _ => h.get fun _ _ hlength _ =>
    h.bind (h.quotedRest quote (Nat.succ_le_succ hlength)) fun name => h.pure (String.ofList name)

theorem memberStep : J memberStep memberStep :=
  h.bind h.demand fun _ => h.ite (h.bind h.advance fun _ => h.pure Step.wildcard)
    (h.ite (h.bind (h.readWhile _) fun name => h.pure (Step.name (String.ofList name))) h.fail)

/-! ### Parts of filters -/

theorem binaryOperator : J binaryOperator binaryOperator := by
  unfold Reader.binaryOperator
  refine h.bind h.demand fun c => h.next (fun c' => ?_) ?_
  · cases operatorOf c c' with
    | error cause => exact h.fail
    | ok found => exact h.bind (h.advanceBy found.2) fun _ => h.pure found.1
  · -- No operator has a caret for its second character.
    have hend : operatorOf c (some '^') = operatorOf c none := rfl
    rw [hend]

theorem optional (accept : Char → Bool) : J (optional accept) (optional accept) := by
  unfold Reader.optional
  refine h.bind h.current fun c => ?_
  cases c with
  | none => exact h.pure []
  | some c => exact h.ite (h.bind h.advance fun _ => h.pure [c]) (h.pure [])

theorem number : J number number := by
  unfold Reader.number
  refine h.bind (h.optional _) fun sign => h.bind (h.readWhile _) fun whole =>
    h.bind (h.optional _) fun point => ?_
  extract_lets afterFraction
  have hafter : ∀ fraction, J (afterFraction fraction) (afterFraction fraction) := by
    intro fraction
    refine h.bind (h.optional _) fun letter => ?_
    extract_lets afterSign
    have hsign : ∀ sign, J (afterSign sign) (afterSign sign) := by
      intro exponentSign
      dsimp only [afterSign]
      refine h.ite (h.bind (h.pure _) fun exponent => ?_) (h.bind (h.readWhile _) fun exponent => ?_)
      all_goals
        split
        · exact h.pure _
        · exact h.fail
    exact h.ite (h.bind (h.pure _) hsign) (h.bind (h.optional _) hsign)
  exact h.ite (h.bind (h.pure _) hafter) (h.bind (h.readWhile _) hafter)

theorem patternText {fuel fuel' : Nat} (hfuel : fuel ≤ fuel') :
    J (patternText fuel) (patternText fuel') := by
  induction fuel generalizing fuel' with
  | zero => exact h.fail
  | succ fuel ih =>
      obtain ⟨fuel', rfl⟩ : ∃ inner, fuel' = inner + 1 := ⟨fuel' - 1, by omega⟩
      unfold Reader.patternText
      refine h.bind h.demand fun c => h.bind h.advance fun _ => h.ite (h.pure []) (h.ite ?_ ?_)
      · exact h.bind h.demand fun escaped => h.bind h.advance fun _ =>
          h.bind (ih (by omega)) fun rest => h.pure _
      · exact h.bind (ih (by omega)) fun rest => h.pure (c :: rest)

theorem pattern : J pattern pattern := by
  unfold Reader.pattern
  refine h.bind h.skipBlanks fun _ => h.bind h.current fun c => ?_
  extract_lets behindSlash
  have hbehind : ∀ u, J (behindSlash u) (behindSlash u) := by
    intro u
    refine h.bind h.advance fun _ => h.get fun _ _ hlength _ => ?_
    refine h.bind (h.patternText (Nat.succ_le_succ hlength)) fun text =>
      h.bind (h.readWhile _) fun letters => ?_
    cases patternFlags {} letters with
    | error flag => exact h.fail
    | ok flags =>
        dsimp only
        cases Pattern.ofText? (String.ofList text) flags with
        | error fault => exact h.fail
        | ok p => exact h.pure p
  exact h.ite (h.bind h.fail hbehind) (hbehind ())

end Coupling

end JsonQuery.Path.Reader
