/-
# JsonQuery.Proofs.Expr.Matching — the moves by which a part of a text is read.

A part of a text is read by the same moves as the text on its own, up to where its references stand.
What follows the part is a closer, a comma or nothing, and none of these is taken for something that
belongs to the part.
-/
import JsonQuery.Proofs.Expr.Regular

namespace JsonQuery.Expr

open Text (isBlank isIdentifierStart isIdentifierPart isAsciiDigit)

/-! ## What is around a part -/

/-- A character with which the part of a group ends. -/
def isClosing (c : Char) : Bool := c = ')' || c = ']' || c = '}' || c = ','

theorem eq_of_isClosing {c : Char} (h : isClosing c) : c = ')' ∨ c = ']' ∨ c = '}' ∨ c = ',' := by
  simpa [isClosing, or_assoc] using h

/-- What is around a part of a text: how many characters stand before it, what waits on the stacks
and is expected then, and the characters behind it. -/
structure Outer where
  shift : Nat
  waiting : Stacks
  states : List State
  tail : List Char

/-- **`o.Bounds`** — what is around a part keeps out of it. -/
structure Outer.Bounds (o : Outer) : Prop where
  waiting : o.waiting.KeepsOut
  states : o.states.head?.any State.isEscape = false
  tail : o.tail.head?.all isClosing

/-! ## Moves that match -/

/-- **`Matches n move move'`** — `move'` is `move` in a text that stands `n` characters further on. -/
structure Matches (n : Nat) (move move' : Move) : Prop where
  width : move'.width = move.width
  next : move'.next = move.next
  action : move'.action = move.action.shift n
  buffer : move'.scratch.buffer = move.scratch.buffer
  parts : move'.scratch.parts = move.scratch.parts
  codePoint : move.next.head?.any State.keepsCodePoint →
    move'.scratch.codePoint = move.scratch.codePoint
  lowCodePoint : move.next.head?.any State.keepsLowCodePoint →
    move'.scratch.lowCodePoint = move.scratch.lowCodePoint

/-- **`Follows n plan plan'`** — where there is a move, there is a move that matches it. -/
def Follows (n : Nat) (plan plan' : Except ParseError Move) : Prop :=
  ∀ move, plan = .ok move → ∃ move', plan' = .ok move' ∧ Matches n move move'

/-- **`Extends o s r r'`** — `r'` reads the whole text where `r` reads the part, in state `s`. -/
structure Extends (o : Outer) (s : State) (r r' : Reader) : Prop where
  registry : r'.registry = r.registry
  rest : r'.cursor.rest = r.cursor.rest ++ o.tail
  offset : r'.cursor.offset = r.cursor.offset + o.shift
  buffer : r'.scratch.buffer = r.scratch.buffer
  parts : r'.scratch.parts = r.scratch.parts
  codePoint : s.keepsCodePoint → r'.scratch.codePoint = r.scratch.codePoint
  lowCodePoint : s.keepsLowCodePoint → r'.scratch.lowCodePoint = r.scratch.lowCodePoint

namespace Follows

variable {n : Nat} {r : Reader} {plan plan' : Except ParseError Move}

theorem fail {cause : ParseError.Cause} : Follows n (r.fail cause) plan' := by
  intro move h
  cases h

theorem ite {c : Prop} [Decidable c] {other other' : Except ParseError Move}
    (h : Follows n plan plan') (hother : Follows n other other') :
    Follows n (if c then plan else other) (if c then plan' else other') := by
  split
  · exact h
  · exact hother

theorem note {scratch scratch' : Scratch} {width : Nat} {next : List State} {action action' : Action}
    (haction : action' = action.shift n) (hbuffer : scratch'.buffer = scratch.buffer)
    (hparts : scratch'.parts = scratch.parts)
    (hcode : next.head?.any State.keepsCodePoint → scratch'.codePoint = scratch.codePoint)
    (hlow : next.head?.any State.keepsLowCodePoint → scratch'.lowCodePoint = scratch.lowCodePoint) :
    Follows n (Reader.note scratch width next action) (Reader.note scratch' width next action') := by
  intro move h
  cases h
  exact ⟨_, rfl, rfl, rfl, haction, hbuffer, hparts, hcode, hlow⟩

/-- A move that keeps no code point. -/
theorem keeping {scratch scratch' : Scratch} {width : Nat} {next : List State}
    {action action' : Action} (haction : action' = action.shift n)
    (hbuffer : scratch'.buffer = scratch.buffer) (hparts : scratch'.parts = scratch.parts)
    (hnext : next.head?.any State.keepsCodePoint = false) :
    Follows n (Reader.note scratch width next action) (Reader.note scratch' width next action') := by
  refine note haction hbuffer hparts (fun hcode => ?_) fun hlow => ?_
  · rw [hnext] at hcode
    cases hcode
  · cases next with
    | nil => cases hlow
    | cons t next =>
        have hkeeps : t.keepsLowCodePoint := hlow
        rw [State.keepsLowCodePoint_of_not_keeps hnext] at hkeeps
        cases hkeeps

variable {o : Outer} {s : State} {r' : Reader}

theorem go (h : Extends o s r r') {width : Nat} {next : List State} {action action' : Action}
    (haction : action' = action.shift o.shift)
    (hnext : next.head?.any State.keepsCodePoint = false) :
    Follows o.shift (r.go width next action) (r'.go width next action') :=
  keeping haction h.buffer h.parts hnext

end Follows

/-! ## Plans that do not look ahead -/

/-- Whether more than the next character decides on a move. -/
def State.looksAhead : State → Bool
  | .identifier | .jsonText | .bracketOperand | .number => true
  | _ => false

namespace Extends

variable {o : Outer} {s : State} {r r' : Reader}

theorem closeWith (h : Extends o s r r') (ch : Option Char) (expected : Char) (closer : Closer)
    (cause : ParseError.Cause) :
    Follows o.shift (r.closeWith ch expected closer cause)
      (r'.closeWith ch expected closer cause) := by
  cases ch with
  | none => exact .fail
  | some c => exact .ite (.go h rfl rfl) .fail

theorem infixOperator (h : Extends o s r r') (width : Nat) {op : Operator}
    (hop : op.isPrefix = false) :
    Follows o.shift (r.infixOperator width op) (r'.infixOperator width op) := by
  refine .go h ?_ rfl
  cases op <;> first | rfl | cases hop

theorem comparison (h : Extends o s r r') (ch : Option Char) (withEquals : BinaryOperator)
    (alone : Option BinaryOperator) :
    Follows o.shift (r.comparison ch withEquals alone) (r'.comparison ch withEquals alone) := by
  refine .ite (h.infixOperator 1 rfl) ?_
  cases alone with
  | none => exact .fail
  | some op => exact h.infixOperator 0 rfl

theorem startOperand (h : Extends o s r r') (ch : Option Char) :
    Follows o.shift (r.startOperand ch) (r'.startOperand ch) := by
  have hreference : Action.token (.operator (.reference r'.cursor.offset)) =
      (Action.token (.operator (.reference r.cursor.offset))).shift o.shift := by
    rw [h.offset]
    rfl
  cases ch with
  | none => exact .fail
  | some c =>
      unfold Reader.startOperand
      simp only
      repeat' apply Follows.ite
      all_goals first
        | exact .go h rfl rfl
        | exact .go h hreference rfl
        | exact .keeping rfl h.buffer h.parts rfl
        | exact .fail

theorem continueOperand (h : Extends o s r r') (ch : Option Char) :
    Follows o.shift (r.continueOperand ch) (r'.continueOperand ch) := by
  cases ch with
  | none => exact .go h rfl rfl
  | some c =>
      unfold Reader.continueOperand
      simp only
      cases hlook : Reader.lookahead? c with
      | some state =>
          refine .go h rfl ?_
          unfold Reader.lookahead? at hlook
          split at hlook <;> cases hlook <;> rfl
      | none =>
          cases Reader.shortOperator? c with
          | some op => exact .go h rfl rfl
          | none => exact .ite (.go h rfl rfl) (.ite .fail .fail)

theorem stepAfterDot (h : Extends o s r r') (ch : Option Char) :
    Follows o.shift (r.stepAfterDot ch) (r'.stepAfterDot ch) := by
  cases ch with
  | none => exact .fail
  | some c =>
      unfold Reader.stepAfterDot
      simp only
      repeat' apply Follows.ite
      all_goals first
        | exact .go h rfl rfl
        | exact .fail

theorem quotedText (h : Extends o s r r') (quote : Char) {self escaped : State}
    (hself : self.keepsCodePoint = false) (hescaped : escaped.keepsCodePoint = false)
    (ch : Option Char) :
    Follows o.shift (r.quotedText quote self escaped ch) (r'.quotedText quote self escaped ch) := by
  cases ch with
  | none => exact .fail
  | some c =>
      refine .ite (.go h rfl rfl) (.ite (.go h rfl hescaped) ?_)
      exact .keeping rfl (congrArg (c :: ·) h.buffer) h.parts hself

theorem rawEscaped (h : Extends o s r r') (ch : Option Char) :
    Follows o.shift (r.rawEscaped ch) (r'.rawEscaped ch) := by
  cases ch with
  | none => exact .fail
  | some c =>
      refine .keeping rfl ?_ ?_ rfl
      · split <;> simp [Scratch.keep, h.buffer]
      · split <;> exact h.parts

theorem escaped (h : Extends o s r r') (ch : Option Char) :
    Follows o.shift (r.escaped ch) (r'.escaped ch) := by
  cases ch with
  | none => exact .fail
  | some c =>
      refine .ite (.note rfl h.buffer h.parts (fun _ => rfl) nofun) ?_
      cases Json.simpleEscape? c with
      | none => exact .fail
      | some unescaped => exact .keeping rfl (congrArg (unescaped :: ·) h.buffer) h.parts rfl

theorem keepCodePoint {n : Nat} {scratch scratch' : Scratch}
    (hbuffer : scratch'.buffer = scratch.buffer) (hparts : scratch'.parts = scratch.parts)
    (codePoint : Nat) :
    Follows n (r.keepCodePoint scratch codePoint) (r'.keepCodePoint scratch' codePoint) := by
  unfold Reader.keepCodePoint
  cases Text.charOfCodePoint? codePoint with
  | none => exact .fail
  | some c => exact .keeping rfl (congrArg (c :: ·) hbuffer) hparts rfl

theorem escapeDigit {remaining : Nat} {low : Bool} (h : Extends o (.escapeHex remaining low) r r')
    (ch : Option Char) :
    Follows o.shift (r.escapeDigit remaining low ch) (r'.escapeDigit remaining low ch) := by
  have hcode : r'.scratch.codePoint = r.scratch.codePoint := h.codePoint rfl
  cases ch with
  | none => exact .fail
  | some c =>
      unfold Reader.escapeDigit
      simp only
      cases Text.hexDigit? c with
      | none => exact .fail
      | some digit =>
          cases low with
          | true =>
              have hlow : r'.scratch.lowCodePoint = r.scratch.lowCodePoint := h.lowCodePoint rfl
              simp only [if_true, hcode, hlow]
              refine .ite (.note rfl h.buffer h.parts (fun _ => rfl) fun _ => rfl) (.ite ?_ .fail)
              refine keepCodePoint ?_ ?_ _
              · exact h.buffer
              · exact h.parts
          | false =>
              simp only [Bool.false_eq_true, if_false, hcode]
              refine .ite (.note rfl h.buffer h.parts (fun _ => rfl) nofun) (.ite ?_ (.ite .fail ?_))
              · exact .note rfl h.buffer h.parts (fun _ => rfl) nofun
              · refine keepCodePoint ?_ ?_ _
                · exact h.buffer
                · exact h.parts

theorem surrogateNext {scratch scratch' : Scratch} {next : State} (ch : Option Char) (expected : Char)
    (hbuffer : scratch'.buffer = scratch.buffer) (hparts : scratch'.parts = scratch.parts)
    (hcode : scratch'.codePoint = scratch.codePoint)
    (hlow : next.keepsLowCodePoint → scratch'.lowCodePoint = scratch.lowCodePoint) :
    Follows o.shift (r.surrogateNext ch expected scratch next)
      (r'.surrogateNext ch expected scratch' next) := by
  cases ch with
  | none => exact .fail
  | some c => exact .ite (.note rfl hbuffer hparts (fun _ => hcode) hlow) .fail

theorem finishIdentifier (h : Extends o s r r') (ch : Option Char) (chained : Bool) :
    Follows o.shift (r.finishIdentifier ch chained) (r'.finishIdentifier ch chained) := by
  have htext : r'.scratch.text = r.scratch.text := by
    rw [Scratch.text, h.buffer, Scratch.text]
  unfold Reader.finishIdentifier
  simp only [htext, h.registry]
  refine .ite ?_ (.keeping ?_ rfl h.parts rfl)
  · cases r.registry.find? r.scratch.text with
    | none => exact .fail
    | some function => exact .keeping rfl rfl h.parts rfl
  · cases chained <;> rfl

theorem finishLiteral (h : Extends o s r r') : Follows o.shift r.finishLiteral r'.finishLiteral := by
  have htext : r'.scratch.text = r.scratch.text := by
    rw [Scratch.text, h.buffer, Scratch.text]
  unfold Reader.finishLiteral
  rw [htext]
  cases Json.parse? r.scratch.text with
  | none =>
      intro move hmove
      cases hmove
  | some json => exact .keeping rfl rfl h.parts rfl

theorem bracketStep (h : Extends o s r r') (ch : Option Char) :
    Follows o.shift (r.bracketStep ch) (r'.bracketStep ch) := by
  cases ch with
  | none => exact .fail
  | some c =>
      unfold Reader.bracketStep
      simp only
      repeat' apply Follows.ite
      all_goals first
        | exact .go h rfl rfl
        | exact .fail

theorem wildcardEnd (h : Extends o s r r') (ch : Option Char) :
    Follows o.shift (r.wildcardEnd ch) (r'.wildcardEnd ch) := by
  cases ch with
  | none => exact .fail
  | some c => exact .ite (.go h rfl rfl) .fail

theorem sliceStep {step : Step} (h : Extends o s r r') (hstep : r.sliceStep = .ok step) :
    r'.sliceStep = .ok (step.shift o.shift) := by
  unfold Reader.sliceStep at hstep ⊢
  rw [h.parts]
  split at hstep
  · rename_i hplace
    rw [if_pos hplace]
    split at hstep
    · cases hstep
      rfl
    · cases hstep
  · rename_i hplace
    rw [if_neg hplace]
    simp only at hstep ⊢
    split at hstep
    · cases hstep
    · rename_i hzero
      rw [if_neg hzero]
      cases hstep
      rfl

theorem indexOrSlice (h : Extends o s r r') (self : State) (ch : Option Char) :
    Follows o.shift (r.indexOrSlice self ch) (r'.indexOrSlice self ch) := by
  cases ch with
  | none => exact .fail
  | some c =>
      unfold Reader.indexOrSlice
      simp only [h.parts]
      refine .ite (.go h rfl rfl) (.ite (.keeping rfl h.buffer rfl ?_) (.ite ?_ .fail))
      · split <;> rfl
      · intro move hmove
        obtain ⟨step, hstep, hmove⟩ := bind_eq_ok.mp hmove
        cases hmove
        refine ⟨_, bind_eq_ok.mpr ⟨_, h.sliceStep hstep, rfl⟩, ?_⟩
        exact ⟨rfl, rfl, rfl, h.buffer, rfl, nofun, nofun⟩

theorem hashKey (h : Extends o s r r') (ch : Option Char) :
    Follows o.shift (r.hashKey ch) (r'.hashKey ch) := by
  cases ch with
  | none => exact .fail
  | some c => exact .ite (.go h rfl rfl) (.ite (.go h rfl rfl) .fail)

theorem hashColon (h : Extends o s r r') (ch : Option Char) :
    Follows o.shift (r.hashColon ch) (r'.hashColon ch) := by
  cases ch with
  | none => exact .fail
  | some c => exact .ite (.go h rfl rfl) .fail

theorem secondAmpersand (h : Extends o s r r') (ch : Option Char) :
    Follows o.shift (r.secondAmpersand ch) (r'.secondAmpersand ch) := by
  cases ch with
  | none => exact .fail
  | some c => exact .ite (h.infixOperator 1 rfl) .fail

theorem planAt (h : Extends o s r r') (hs : s.looksAhead = false) (ch : Option Char) :
    Follows o.shift (r.planAt ch s) (r'.planAt ch s) := by
  have htext : r'.scratch.text = r.scratch.text := by
    rw [Scratch.text, h.buffer, Scratch.text]
  cases s with
  | finish => exact .fail
  | operand => exact h.startOperand ch
  | afterOperand => exact h.continueOperand ch
  | afterDot => exact h.stepAfterDot ch
  | identifier | jsonText | bracketOperand | number => cases hs
  | quoted => exact h.quotedText '"' rfl rfl ch
  | raw => exact h.quotedText '\'' rfl rfl ch
  | rawEscape => exact h.rawEscaped ch
  | escape => exact h.escaped ch
  | escapeHex remaining low => exact h.escapeDigit ch
  | surrogateBackslash => exact surrogateNext ch _ h.buffer h.parts (h.codePoint rfl) nofun
  | surrogateU => exact surrogateNext ch _ h.buffer h.parts (h.codePoint rfl) fun _ => rfl
  | identifierRead chained => exact h.finishIdentifier ch chained
  | quotedRead chained =>
      refine .keeping ?_ rfl h.parts rfl
      rw [htext]
      cases chained <;> rfl
  | rawRead =>
      refine .keeping ?_ rfl h.parts rfl
      rw [htext]
      rfl
  | jsonRead => exact h.finishLiteral
  | bracketStep => exact h.bracketStep ch
  | wildcardEnd => exact h.wildcardEnd ch
  | indexOrStart | sliceStop | sliceStep => exact h.indexOrSlice _ ch
  | filterEnd | parenEnd => exact h.closeWith ch _ _ _
  | listEnd | hashValueEnd | argumentEnd => exact .ite (.go h rfl rfl) (h.closeWith ch _ _ _)
  | hashKey => exact h.hashKey ch
  | hashKeyRead =>
      refine .keeping ?_ rfl h.parts rfl
      rw [htext]
      rfl
  | hashColon => exact h.hashColon ch
  | firstArgument => exact .ite (h.closeWith ch _ _ _) (.go h rfl rfl)
  | afterPipe | afterSlash => exact .ite (h.infixOperator 1 rfl) (h.infixOperator 0 rfl)
  | afterAmpersand => exact h.secondAmpersand ch
  | afterLess => exact h.comparison ch .lessEqual (some .lessThan)
  | afterGreater => exact h.comparison ch .greaterEqual (some .greaterThan)
  | afterEquals => exact h.comparison ch .equal none
  | afterBang => exact h.comparison ch .notEqual none

theorem blank (h : Extends o s r r') (hs : s.skipsBlanks) :
    Follows o.shift (r.go 1 [s]) (r'.go 1 [s]) := by
  refine .go h rfl ?_
  cases s <;> first | rfl | cases hs

theorem plan (h : Extends o s r r') (hs : s.looksAhead = false)
    (hcurrent : r'.cursor.current = r.cursor.current) : Follows o.shift (r.plan s) (r'.plan s) := by
  unfold Reader.plan
  simp only [hcurrent]
  by_cases hblank : s.skipsBlanks && r.cursor.current.any isBlank
  · rw [if_pos hblank, if_pos hblank]
    exact h.blank (Bool.and_eq_true_iff.mp hblank).1
  · rw [if_neg hblank, if_neg hblank]
    exact h.planAt hs _

/-! ## Plans that look ahead -/

theorem restOfIdentifier (h : Extends o s r r')
    (htail : o.tail.head?.any isIdentifierPart = false) :
    Follows o.shift r.restOfIdentifier r'.restOfIdentifier := by
  unfold Reader.restOfIdentifier
  simp only [h.rest, Text.takeWhile_append htail]
  exact .keeping rfl (congrArg (_ ++ ·) h.buffer) h.parts rfl

theorem readNumber (h : Extends o s r r') (htail : o.tail.head?.any isAsciiDigit = false) :
    Follows o.shift r.readNumber r'.readNumber := by
  intro move hmove
  cases hrest : r.cursor.rest with
  | nil => simp [Reader.readNumber, hrest] at hmove
  | cons c rest =>
      have hcurrent : r'.cursor.current = r.cursor.current := by
        rw [Text.Cursor.current, h.rest, hrest, Text.Cursor.current, hrest]
        rfl
      -- The digits end with the part, with a sign in front of them or without one.
      have hdrop : ∀ n ≤ 1, (r'.cursor.rest.drop n).takeWhile isAsciiDigit =
          (r.cursor.rest.drop n).takeWhile isAsciiDigit := by
        intro n hn
        rw [h.rest, List.drop_append_of_le_length (by rw [hrest, List.length_cons]; omega),
          Text.takeWhile_append htail]
      have hsign : (if r.cursor.current == some '-' then 1 else 0) ≤ 1 := by split <;> omega
      have hinvalid : ∀ {e : ParseError} {plan' : Except ParseError Move},
          Follows o.shift (.error e) plan' := by
        intro e plan' move hmove
        cases hmove
      refine (?_ : Follows o.shift r.readNumber r'.readNumber) move hmove
      unfold Reader.readNumber
      simp only [hcurrent, hdrop _ hsign]
      refine .ite hinvalid (.ite ?_ hinvalid)
      exact .keeping rfl h.buffer (by rw [h.parts]) rfl

theorem literalText (h : Extends o s r r') {c : Char} {rest : List Char}
    (hrest : r.cursor.rest = c :: rest) (htail : o.tail.head? ≠ some '\x60') :
    Follows o.shift (r.literalText (some c)) (r'.literalText (some c)) := by
  -- Behind a backslash only a grave accent matters, and no part of a group ends with one.
  have hpeek : (r'.cursor.peek 1 == some '\x60') = (r.cursor.peek 1 == some '\x60') := by
    rw [Text.Cursor.peek, Text.Cursor.peek, h.rest, hrest]
    cases rest with
    | nil =>
      cases htails : o.tail with
      | nil => rfl
      | cons d tail =>
        rw [htails] at htail
        simpa using fun hd => htail (congrArg some hd)
    | cons d rest => rfl
  unfold Reader.literalText
  simp only [hpeek]
  refine .ite (.go h rfl rfl) (.ite ?_ ?_)
  · exact .keeping rfl (congrArg (_ :: ·) h.buffer) h.parts rfl
  · exact .keeping rfl (congrArg (_ :: ·) h.buffer) h.parts rfl

theorem bracketOperand (h : Extends o s r r') {c : Char} {rest : List Char}
    (hrest : r.cursor.rest = c :: rest) (htail : o.tail.head?.any isAsciiDigit = false)
    (hstar : c = '*' → rest.any (!isBlank ·)) :
    Follows o.shift (r.bracketOperand (some c)) (r'.bracketOperand (some c)) := by
  -- The star looks for a bracket beyond blanks; the part has something else there.
  have hsignificant : (c = '*' && r'.cursor.peekSignificant == some ']') =
      (c = '*' && r.cursor.peekSignificant == some ']') := by
    by_cases hc : c = '*'
    · have hfound : (rest.find? (!isBlank ·)).isSome := by
        rw [List.find?_isSome]
        exact List.any_eq_true.mp (hstar hc)
      rw [Text.Cursor.peekSignificant, Text.Cursor.peekSignificant, h.rest, hrest]
      simp only [List.cons_append, List.drop_one, List.tail_cons, List.find?_append]
      rw [Option.or_of_isSome hfound]
    · simp [hc]
  -- A minus looks for a digit, which no closer is.
  have hdigit : (r'.cursor.peek 1).any isAsciiDigit = (r.cursor.peek 1).any isAsciiDigit := by
    rw [Text.Cursor.peek, Text.Cursor.peek, h.rest, hrest]
    cases rest with
    | nil =>
        cases htails : o.tail with
        | nil => rfl
        | cons d tail =>
            rw [htails] at htail
            exact htail
    | cons d rest => rfl
  unfold Reader.bracketOperand
  simp only [hsignificant, hdigit]
  repeat' apply Follows.ite
  all_goals exact .go h rfl rfl

/-! ## All plans -/

/-- At the end of a part, a closer behind it makes no difference; only after the parenthesis of a call
it would. -/
theorem planAt_end (h : Extends o s r r') (hs : s.looksAhead = false) (hargument : s ≠ .firstArgument)
    {c : Char} (hc : isClosing c) : Follows o.shift (r.planAt none s) (r'.planAt (some c) s) := by
  have hsame : r'.planAt (some c) s = r'.planAt none s →
      Follows o.shift (r.planAt none s) (r'.planAt (some c) s) := by
    intro heq
    rw [heq]
    exact h.planAt hs none
  have hc := eq_of_isClosing hc
  -- Where the text may end, a closer ends the token too; where it may not, there is no move.
  cases s with
  | afterOperand | quotedRead | rawRead | jsonRead | hashKeyRead | identifierRead | afterPipe
  | afterLess | afterGreater | afterSlash =>
      refine hsame ?_
      rcases hc with rfl | rfl | rfl | rfl <;> rfl
  | firstArgument => exact absurd rfl hargument
  | identifier | jsonText | bracketOperand | number => cases hs
  | _ => exact .fail

/-- **`plan_follows`** — in a whole text a part is read by the moves that it is read by alone. -/
theorem plan_follows (h : Extends o s r r') (hbounds : o.Bounds)
    (hstar : s = .bracketOperand → ∀ rest, r.cursor.rest = '*' :: rest → rest.any (!isBlank ·))
    (hargument : s = .firstArgument → r.cursor.rest ≠ []) :
    Follows o.shift (r.plan s) (r'.plan s) := by
  have htail : ∀ p : Char → Bool, p ')' = false → p ']' = false → p '}' = false → p ',' = false →
      o.tail.head?.any p = false := by
    intro p h₁ h₂ h₃ h₄
    cases htail : o.tail.head? with
    | none => rfl
    | some c =>
        have hc : isClosing c := by simpa [htail] using hbounds.tail
        rcases eq_of_isClosing hc with rfl | rfl | rfl | rfl <;> assumption
  -- What is left of a name or number ends where the part does, even if nothing is left.
  by_cases hidentifier : s = .identifier
  · subst hidentifier
    exact h.restOfIdentifier (htail _ rfl rfl rfl rfl)
  by_cases hnumber : s = .number
  · subst hnumber
    exact h.readNumber (htail _ rfl rfl rfl rfl)
  cases hrest : r.cursor.rest with
  | cons c rest =>
      have hcurrent : r.cursor.current = some c := by rw [Text.Cursor.current, hrest]; rfl
      have hcurrent' : r'.cursor.current = some c := by
        rw [Text.Cursor.current, h.rest, hrest]
        rfl
      -- Inside of the part the next character is the same.
      by_cases hahead : s.looksAhead
      · unfold Reader.plan
        simp only [hcurrent, hcurrent', Option.any_some]
        by_cases hblank : s.skipsBlanks && isBlank c
        · rw [if_pos hblank, if_pos hblank]
          exact h.blank (Bool.and_eq_true_iff.mp hblank).1
        · rw [if_neg hblank, if_neg hblank]
          cases s with
          | identifier => exact absurd rfl hidentifier
          | number => exact absurd rfl hnumber
          | jsonText =>
              refine h.literalText hrest fun hquote => ?_
              have hnot := htail (· == '\x60') rfl rfl rfl rfl
              simp [hquote] at hnot
          | bracketOperand =>
              refine h.bracketOperand hrest (htail _ rfl rfl rfl rfl) fun hc => ?_
              exact hstar rfl rest (by rw [hrest, hc])
          | _ => cases hahead
      · exact h.plan (Bool.eq_false_iff.mpr hahead) (hcurrent'.trans hcurrent.symm)
  | nil =>
      have hcurrent : r.cursor.current = none := by rw [Text.Cursor.current, hrest]; rfl
      have hplan : r.plan s = r.planAt none s := by simp [Reader.plan, hcurrent]
      have hcurrent' : r'.cursor.current = o.tail.head? := by
        rw [Text.Cursor.current, h.rest, hrest]
        rfl
      -- At its end a closer is seen in place of the end of the text.
      by_cases hahead : s.looksAhead
      · rw [hplan]
        cases s with
        | identifier => exact absurd rfl hidentifier
        | number => exact absurd rfl hnumber
        | jsonText | bracketOperand => exact .fail
        | _ => cases hahead
      · have hs := Bool.eq_false_iff.mpr hahead
        cases hend : o.tail.head? with
        | none => exact h.plan hs (by rw [hcurrent', hend, hcurrent])
        | some c =>
            have hc : isClosing c := by simpa [hend] using hbounds.tail
            have hplan' : r'.plan s = r'.planAt (some c) s := by
              have hblank : isBlank c = false := by
                rcases eq_of_isClosing hc with rfl | rfl | rfl | rfl <;> rfl
              simp [Reader.plan, hcurrent', hend, hblank]
            rw [hplan, hplan']
            exact h.planAt_end hs (fun hfirst => hargument hfirst hrest) hc

end Extends

end JsonQuery.Expr
