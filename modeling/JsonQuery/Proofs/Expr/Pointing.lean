/-
# JsonQuery.Proofs.Expr.Pointing — where the errors of expressions point.

An error is raised at the cursor, behind the characters that have just been stepped over, or where
the JSON literal starts that has been read.  Only the last place is not in sight when the error is
raised: it was saved with the opening grave and has been carried through all the states since.  So
the start of the literal is part of what every move must keep (`Points`), and along a run it stays a
place of the text (`Placed`).
-/
import JsonQuery.Proofs.Expr.Moves
import JsonQuery.Proofs.Text.Location

namespace JsonQuery.Expr

open Text (Cursor Position)
open ParseError (Cause)

/-! ## Moves -/

namespace Reader

/-- **`r.Knows p`** — `p` is a place from the cursor on, or the start of the literal being read. -/
def Knows (r : Reader) (p : Position) : Prop := r.cursor.Leads p ∨ p = r.scratch.literalStart

/-- **`r.Points x`** — `x` stops at a place that `r` knows, or goes on and keeps such a place as the
start of the literal. -/
def Points (r : Reader) : Except ParseError Move → Prop
  | .ok move => r.Knows move.scratch.literalStart
  | .error e => r.Knows e.position

variable {r : Reader} {x y : Except ParseError Move} {cause : Cause} {scratch : Scratch}
  {width n : Nat} {next : List State} {action : Action} {ch : Option Char} {c : Char}

namespace Points

theorem fail : r.Points (r.fail cause) := .inl r.cursor.leads_position

theorem go : r.Points (r.go width next action) := .inr rfl

/-- Most of what is kept is kept beside the start of the literal. -/
theorem note (h : scratch.literalStart = r.scratch.literalStart) :
    r.Points (note scratch width next action) := .inr h

theorem ite {p : Prop} [Decidable p] (hx : r.Points x) (hy : r.Points y) :
    r.Points (if p then x else y) := by
  split
  next => exact hx
  next => exact hy

/-! ### Operands and operators -/

theorem startOperand : r.Points (r.startOperand ch) := by
  cases ch with
  | none => exact .fail
  | some c =>
      -- The grave is where a literal starts; nothing else moves its start.
      refine .ite .go (.ite .go (.ite (.inl r.cursor.leads_position) ?_))
      exact .ite .go (.ite .go (.ite .go (.ite .go (.ite .go (.ite .go (.ite .go (.ite .go
        (.ite .go .fail))))))))

theorem infixOperator {op : Operator} : r.Points (r.infixOperator width op) := .go

theorem continueOperand : r.Points (r.continueOperand ch) := by
  unfold Reader.continueOperand
  split
  · exact .go
  · split
    · exact .go
    · split
      · exact .go
      · exact .ite .go (.ite .fail .fail)

theorem comparison {withEquals : BinaryOperator} {alone : Option BinaryOperator} :
    r.Points (r.comparison ch withEquals alone) := by
  unfold Reader.comparison
  refine .ite .infixOperator ?_
  cases alone with
  | none => exact .fail
  | some op => exact .infixOperator

theorem secondAmpersand : r.Points (r.secondAmpersand ch) :=
  match ch with
  | none => .fail
  | some _ => .ite .infixOperator .fail

theorem stepAfterDot : r.Points (r.stepAfterDot ch) :=
  match ch with
  | none => .fail
  | some _ => .ite .go (.ite .go (.ite .go (.ite .go (.ite .go .fail))))

/-! ### Names and literals -/

theorem restOfIdentifier : r.Points r.restOfIdentifier := .note rfl

theorem quotedText {quote : Char} {self escaped : State} :
    r.Points (r.quotedText quote self escaped ch) :=
  match ch with
  | none => .fail
  | some _ => .ite .go (.ite .go (.note rfl))

theorem literalText : r.Points (r.literalText ch) :=
  match ch with
  | none => .fail
  | some _ => .ite .go (.ite (.note rfl) (.note rfl))

theorem rawEscaped : r.Points (r.rawEscaped ch) := by
  cases ch with
  | none => exact .fail
  | some c =>
      refine .note ?_
      show Scratch.literalStart (if c = '\'' then _ else _) = _
      split <;> rfl

theorem keepCodePoint (h : scratch.literalStart = r.scratch.literalStart) :
    r.Points (r.keepCodePoint scratch n) := by
  unfold Reader.keepCodePoint
  split
  · exact .note h
  · exact .fail

theorem escaped : r.Points (r.escaped ch) := by
  cases ch with
  | none => exact .fail
  | some c =>
      refine .ite (.note rfl) ?_
      split
      · exact .note rfl
      · exact .fail

theorem escapeDigit {remaining : Nat} {low : Bool} : r.Points (r.escapeDigit remaining low ch) := by
  cases ch with
  | none => exact .fail
  | some c =>
      simp only [Reader.escapeDigit]
      cases Text.hexDigit? c with
      | none => exact .fail
      | some digit =>
          -- Each escape of a pair fills in its own code point and nothing else.
          cases low <;> simp only [Bool.false_eq_true, if_false, if_true]
          · refine .ite (.note rfl) (.ite (.note rfl) (.ite .fail ?_))
            exact .keepCodePoint rfl
          · refine .ite (.note rfl) (.ite ?_ .fail)
            generalize Json.joinSurrogates _ _ = joined
            exact .keepCodePoint rfl

theorem surrogateNext {expected : Char} {state : State}
    (h : scratch.literalStart = r.scratch.literalStart) :
    r.Points (r.surrogateNext ch expected scratch state) :=
  match ch with
  | none => .fail
  | some _ => .ite (.note h) .fail

theorem finishIdentifier {chained : Bool} : r.Points (r.finishIdentifier ch chained) := by
  refine .ite ?_ (.note rfl)
  split
  · exact .fail
  · exact .note rfl

/-- The error of a literal points at its start. -/
theorem finishLiteral : r.Points r.finishLiteral := by
  unfold Reader.finishLiteral
  split
  · exact .inr rfl
  · exact .note rfl

/-! ### Brackets and groups -/

theorem bracketStep : r.Points (r.bracketStep ch) :=
  match ch with
  | none => .fail
  | some _ => .ite .go (.ite .go (.ite .go (.ite .go .fail)))

theorem bracketOperand : r.Points (r.bracketOperand ch) :=
  match ch with
  | none => .fail
  | some _ => .ite .go (.ite .go (.ite .go (.ite .go .go)))

theorem wildcardEnd : r.Points (r.wildcardEnd ch) :=
  match ch with
  | none => .fail
  | some _ => .ite .go .fail

/-- A number that is none is reported behind its digits. -/
theorem readNumber : r.Points r.readNumber := by
  unfold Reader.readNumber
  extract_lets negative sign digits width invalid value signed
  have hinvalid : r.Points invalid := .inl (r.cursor.leads_advanceBy width)
  exact .ite hinvalid (.ite (.note rfl) hinvalid)

/-- Where a slice has no step, it is the cursor that says where. -/
theorem position_of_sliceStep {e : ParseError} (h : r.sliceStep = .error e) :
    e.position = r.cursor.position := by
  unfold Reader.sliceStep at h
  dsimp only at h
  repeat' split at h
  all_goals cases h
  all_goals rfl

theorem indexOrSlice {self : State} : r.Points (r.indexOrSlice self ch) := by
  cases ch with
  | none => exact .fail
  | some c =>
      refine .ite .go (.ite (.note rfl) (.ite ?_ .fail))
      cases hstep : r.sliceStep with
      | ok step => exact .note rfl
      | error e =>
          have hleads : r.cursor.Leads e.position := by
            rw [position_of_sliceStep hstep]
            exact r.cursor.leads_position
          exact .inl hleads

theorem closeWith {expected : Char} {closer : Closer} :
    r.Points (r.closeWith ch expected closer cause) :=
  match ch with
  | none => .fail
  | some _ => .ite .go .fail

theorem hashKey : r.Points (r.hashKey ch) :=
  match ch with
  | none => .fail
  | some _ => .ite .go (.ite .go .fail)

theorem hashColon : r.Points (r.hashColon ch) :=
  match ch with
  | none => .fail
  | some _ => .ite .go .fail

/-! ### All states -/

theorem planAt (s : State) : r.Points (r.planAt ch s) := by
  cases s with
  | finish => exact .fail
  | operand => exact .startOperand
  | afterOperand => exact .continueOperand
  | afterDot => exact .stepAfterDot
  | identifier => exact .restOfIdentifier
  | quoted | raw => exact .quotedText
  | rawEscape => exact .rawEscaped
  | jsonText => exact .literalText
  | escape => exact .escaped
  | escapeHex remaining low => exact .escapeDigit
  | surrogateBackslash | surrogateU => exact .surrogateNext rfl
  | identifierRead chained => exact .finishIdentifier
  | quotedRead | rawRead | hashKeyRead => exact .note rfl
  | jsonRead => exact .finishLiteral
  | bracketStep => exact .bracketStep
  | bracketOperand => exact .bracketOperand
  | wildcardEnd => exact .wildcardEnd
  | number => exact .readNumber
  | indexOrStart | sliceStop | sliceStep => exact .indexOrSlice
  | filterEnd | parenEnd => exact .closeWith
  | listEnd | hashValueEnd | argumentEnd => exact .ite .go .closeWith
  | firstArgument => exact .ite .closeWith .go
  | hashKey => exact .hashKey
  | hashColon => exact .hashColon
  | afterPipe | afterSlash => exact .ite .infixOperator .infixOperator
  | afterAmpersand => exact .secondAmpersand
  | afterLess | afterGreater | afterEquals | afterBang =>
      simp only [Reader.planAt]
      exact .comparison

end Points

/-- **`points_plan`** — in every state, the next move or the error in its place points at a place
that the reader knows. -/
theorem points_plan (r : Reader) (s : State) : r.Points (r.plan s) := .ite .go (.planAt s)

end Reader

/-! ## Runs -/

namespace Machine

variable {m m' : Machine} {text : String} {registry : Registry} {p : Position} {e : ParseError}

/-- **`m.Placed text`** — the cursor of a machine stands somewhere in a text, and the literal being
read started somewhere in it. -/
structure Placed (m : Machine) (text : String) : Prop where
  cursor : ∃ n, m.cursor = (Cursor.start text).advanceBy n
  literal : (Cursor.start text).Leads m.scratch.literalStart

theorem placed_start (text : String) (registry : Registry) : (start text registry).Placed text where
  cursor := ⟨0, rfl⟩
  literal := Cursor.leads_position (Cursor.start text)

/-- Wherever the cursor leads, the start of the text leads. -/
theorem Placed.leads (h : m.Placed text) (hp : m.cursor.Leads p) : (Cursor.start text).Leads p := by
  obtain ⟨n, hn⟩ := h.cursor
  rw [hn] at hp
  exact hp.of_advanceBy

theorem Placed.leads_of_knows (h : m.Placed text) (hp : m.Knows p) :
    (Cursor.start text).Leads p := by
  rcases hp with hp | rfl
  · exact h.leads hp
  · exact h.literal

theorem Placed.step (h : m.Placed text) (hstep : m.step = .ok m') : m'.Placed text := by
  obtain ⟨s, below, move, waiting, -, hplan, -, rfl⟩ := step_eq_ok.mp hstep
  have hpoints := m.points_plan s
  rw [hplan] at hpoints
  refine ⟨?_, h.leads_of_knows hpoints⟩
  obtain ⟨n, hn⟩ := h.cursor
  refine ⟨n + move.width, ?_⟩
  show m.cursor.advanceBy move.width = _
  rw [hn, Cursor.advanceBy_advanceBy]

theorem Placed.step_error (h : m.Placed text) (hstep : m.step = .error e) :
    (Cursor.start text).Leads e.position := by
  cases hstates : m.states with
  | nil =>
      unfold Machine.step at hstep
      rw [hstates] at hstep
      cases hstep
      exact h.leads m.cursor.leads_position
  | cons s below =>
      obtain hplan | ⟨move, cause, -, -, rfl⟩ := step_eq_error hstates hstep
      · have hpoints := m.points_plan s
        rw [hplan] at hpoints
        exact h.leads_of_knows hpoints
      · -- The stacks refuse a move behind its characters.
        exact h.leads (m.cursor.leads_advanceBy move.width)

theorem Placed.result_error (h : m.Placed text) (hresult : m.result = .error e) :
    (Cursor.start text).Leads e.position := by
  unfold Machine.result at hresult
  split at hresult
  · cases hresult
  · cases hresult
    exact h.leads m.cursor.leads_position

/-- A run that starts in the text fails in the text. -/
theorem Placed.ends (h : m.Placed text) (hends : m.Ends (.error e)) :
    (Cursor.start text).Leads e.position := by
  generalize hresult : Except.error e = result at hends
  induction hends with
  | done hdone => exact h.result_error hresult.symm
  | stuck hnot hstep =>
      cases hresult
      exact h.step_error hstep
  | move hnot hstep hends ih => exact ih (h.step hstep) hresult

end Machine

/-- **`leads_of_parse`** — the errors of expressions are places of their text. -/
theorem leads_of_parse {text : String} {registry : Registry} {e : ParseError}
    (h : parse text registry = .error e) : (Cursor.start text).Leads e.position :=
  (Machine.placed_start text registry).ends (parse_eq_iff.mp h)

end JsonQuery.Expr
