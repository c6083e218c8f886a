/-
# JsonQuery.Proofs.Expr.TextEnd — texts that end too early.

Where the text has been read and something is still expected, nearly every state says that the text
ends too early.  The few that say something else are those of a number without digits, of a literal
that has just ended and of half a comparison operator.  They are on top of the stack only right behind
the characters that led to them, so once the end has been met in another state they are not met again.
-/
import JsonQuery.Proofs.Expr.Agreement

namespace JsonQuery

/-! ## Where a text ends -/

/-- Where the text of a cursor ends. -/
def Text.Cursor.endPosition (c : Cursor) : Position := c.rest.foldl Position.advance c.position

namespace Text.Cursor

theorem endPosition_start (text : String) : (start text).endPosition = Position.after text.toList := rfl

theorem endPosition_of_nil {c : Cursor} (h : c.rest = []) : c.endPosition = c.position := by
  rw [endPosition, h]
  rfl

theorem endPosition_advance (c : Cursor) : c.advance.endPosition = c.endPosition := by
  obtain ⟨rest, offset, position⟩ := c
  cases rest <;> rfl

@[simp] theorem endPosition_advanceBy (c : Cursor) (n : Nat) :
    (c.advanceBy n).endPosition = c.endPosition := by
  induction n generalizing c with
  | zero => rfl
  | succ n ih => rw [advanceBy, ih, endPosition_advance]

end Text.Cursor

namespace Expr

open Text (Cursor Position isBlank)
open ParseError (Cause)

/-! ## States at the end -/

namespace State

/-- States behind half a comparison operator, which only an equals sign completes. -/
def awaitsEquals : State → Bool
  | .afterEquals | .afterBang => true
  | _ => false

/-- States that say something else of the end of the text than that it is too early. -/
def mistakesEnd : State → Bool
  | .number | .jsonRead | .afterEquals | .afterBang => true
  | _ => false

theorem mistakesEnd_of_awaitsEquals {s : State} (hs : s.awaitsEquals) : s.mistakesEnd := by
  cases s <;> first | rfl | cases hs

/-- Whether a state may stand right on another as far as the end of the text goes: on one that
mistakes the end only if it is the literal that will be read then, and on nothing if it expects the
end itself. -/
def covers : State → State → Bool
  | .finish, _ => false
  | .jsonText, t => t == .jsonRead
  | _, t => !t.mistakesEnd

theorem covers_eq {s : State} (hfinish : s ≠ .finish) (htext : s ≠ .jsonText) (t : State) :
    s.covers t = !t.mistakesEnd := by
  cases s with
  | finish => exact absurd rfl hfinish
  | jsonText => exact absurd rfl htext
  | _ => rfl

theorem covers_of_kind {s : State} (hs : s.isLookahead || s.isEscape || s.isSlicing) (t : State) :
    s.covers t = !t.mistakesEnd := by
  cases s <;> first | rfl | cases hs

theorem mistakesEnd_of_slicing {s : State} (hs : s.isSlicing) : s.mistakesEnd = false := by
  cases s <;> first | rfl | cases hs

end State

/-- **`Turn.covers`** — the states that come in place of another stand on what it stood on, as far as
the end of the text goes. -/
theorem Turn.covers {r : Reader} {s : State} {move : Move} (h : Turn r s move) :
    move.next.IsChain (State.covers · ·) ∧
      ∀ last ∈ move.next.getLast?, ∀ t, s.covers t → last.covers t := by
  -- Only a text in graves stands on a state that mistakes the end, and it stays there itself.
  cases h with
  | firstOfTwo hs =>
      refine ⟨by simp [State.covers_of_kind, hs, State.mistakesEnd], ?_⟩
      rintro _ ⟨⟩ t ht
      exact ht
  | longOperator hs =>
      refine ⟨by simp, ?_⟩
      rintro _ ⟨⟩ t ht
      rw [State.covers_of_kind (by simp [hs])] at ht
      exact ht
  | hexDigit kept hs hnext | colon parts hs hnext =>
      refine ⟨by simp, ?_⟩
      rintro _ ⟨⟩ t ht
      rw [State.covers_of_kind (by simp [hs])] at ht
      rw [State.covers_of_kind (by simp [hnext])]
      exact ht
  | part hs =>
      refine ⟨by simp [State.covers, State.mistakesEnd_of_slicing hs], ?_⟩
      rintro _ ⟨⟩ t ht
      exact ht
  | separator hs =>
      rcases hs with rfl | rfl
      all_goals
        refine ⟨by simp [State.covers, State.mistakesEnd, Reader.expressionThen], ?_⟩
        rintro _ ⟨⟩ t ht
        exact ht
  | _ =>
      refine ⟨by simp [State.covers, State.mistakesEnd, Reader.expressionThen], ?_⟩
      intro last hlast t ht
      cases hlast <;> exact ht

namespace Reader

variable {r : Reader} {s : State}

/-- At the end of the text a state that does not mistake it either says so or makes way for others
of its kind, without ending a group. -/
theorem plan_of_end (hr : r.cursor.rest = []) (hfinish : s ≠ .finish)
    (hs : s.mistakesEnd = false) : r.plan s = r.fail .unexpectedEndOfInput ∨
      ∃ next action scratch, r.plan s = .ok ⟨0, next, action, scratch⟩ ∧ s ≠ .jsonText ∧
        next.head?.any State.mistakesEnd = false ∧ action.isClosing = false := by
  have hcurrent : r.cursor.current = none := by rw [Cursor.current, hr]; rfl
  have hplan : r.plan s = r.planAt none s := by simp [plan, hcurrent]
  rw [hplan]
  cases s with
  | finish => exact absurd rfl hfinish
  | number | jsonRead | afterEquals | afterBang => cases hs
  | afterOperand | rawRead | hashKeyRead | firstArgument | afterPipe | afterLess | afterGreater
  | afterSlash => exact .inr ⟨_, _, _, rfl, by decide, rfl, rfl⟩
  | identifierRead chained | quotedRead chained =>
      refine .inr ⟨_, _, _, rfl, by simp, rfl, ?_⟩
      cases chained <;> rfl
  | identifier =>
      simp only [planAt, restOfIdentifier, hr, List.takeWhile_nil]
      exact .inr ⟨[], .nothing, _, rfl, by decide, rfl, rfl⟩
  | _ => exact .inl rfl

/-- Such a state does not come up at the end of the text, where it would mistake it. -/
theorem rest_ne_nil {t : State} {move : Move} (hplan : r.plan s = .ok move) (hfinish : s ≠ .finish)
    (hs : s.mistakesEnd = false) (hhead : move.next.head? = some t) (ht : t.mistakesEnd) :
    r.cursor.rest ≠ [] := by
  intro hr
  obtain hfail | ⟨next, action, scratch, hplan', -, hnext, -⟩ := plan_of_end hr hfinish hs
  · cases hfail.symm.trans hplan
  · obtain rfl := Except.ok.inj (hplan.symm.trans hplan')
    replace hhead : next.head? = some t := hhead
    rw [hhead] at hnext
    cases ht.symm.trans hnext

/-- Where a literal has been read, its value is all that is added. -/
theorem width_of_jsonRead {move : Move} (hplan : r.plan .jsonRead = .ok move) :
    move.width = 0 ∧ move.next = [] := by
  replace hplan : r.finishLiteral = .ok move := hplan
  unfold finishLiteral at hplan
  split at hplan
  · cases hplan
  · rw [note_ok hplan]
    exact ⟨rfl, rfl⟩

theorem plan_awaitsEquals (hs : s.awaitsEquals) (hcurrent : r.cursor.current ≠ some '=') :
    r.plan s = r.fail .expectedComparator := by
  cases s with
  | afterEquals | afterBang =>
      simp only [plan, State.skipsBlanks, Bool.false_and, Bool.false_eq_true, if_false]
      exact if_neg hcurrent
  | _ => cases hs

/-- Half a comparison operator is its first character. -/
theorem eq_of_awaitsEquals {c : Char} {rest : List Char} {t : State} {move : Move}
    (hrest : r.cursor.rest = c :: rest) (hplan : r.plan .afterOperand = .ok move)
    (hhead : move.next.head? = some t) (ht : t.awaitsEquals) : c = '=' ∨ c = '!' := by
  have hcurrent : r.cursor.current = some c := by rw [Cursor.current, hrest]; rfl
  simp only [plan, planAt, continueOperand, hcurrent] at hplan
  -- Every other move has another state on top, or none.
  repeat' split at hplan
  all_goals first | rw [go_ok hplan] at hhead | cases hplan
  · cases hhead
    cases ht
  · rename_i state hlook
    obtain rfl : state = t := Option.some.inj hhead
    unfold lookahead? at hlook
    split at hlook <;> cases hlook
    case h_7 => exact .inl rfl
    case h_8 => exact .inr rfl
    all_goals cases ht
  · cases hhead
    cases ht
  · cases hhead

end Reader

/-- A state that mistakes the end comes up in place of a part of a slice, to read a number, or behind
an operand. -/
theorem Turn.head_of_mistakesEnd {r : Reader} {s t : State} {move : Move} (h : Turn r s move)
    (ht : move.next.head? = some t) (hend : t.mistakesEnd) :
    (t = .number ∧ s.isSlicing ∧ move.width = 0) ∨
      (t.isLookahead ∧ s = .afterOperand ∧ move.width = 1) := by
  cases h with
  | part hs =>
      cases ht
      exact .inl ⟨rfl, hs, rfl⟩
  | firstOfTwo hs =>
      cases ht
      exact .inr ⟨hs, rfl, rfl⟩
  | blank hs | keep c hs =>
      cases ht
      cases s <;> first | cases hs; done | cases hend
  | hexDigit kept hs hnext | colon parts hs hnext =>
      cases ht
      cases t <;> first | cases hnext; done | cases hend
  | _ => cases ht <;> cases hend

/-! ## Machines at the end -/

namespace Machine

/-- **`m.Sound`** — what holds of a machine all along the run on a text. -/
structure Sound (m : Machine) : Prop where
  regular : m.Regular
  agrees : m.Agrees
  covers : m.states.IsChain (State.covers · ·)

variable {m m' : Machine}

theorem sound_start (text : String) (registry : Registry) : (start text registry).Sound where
  regular := regular_start text registry
  agrees := agrees_start text registry
  covers := by simp [start, State.covers, State.mistakesEnd]

theorem Sound.step (h : m.Sound) (hstep : m.step = .ok m') : m'.Sound := by
  refine ⟨h.regular.step hstep, h.agrees.step hstep, ?_⟩
  obtain ⟨s, below, move, waiting, hstates, hplan, -, rfl⟩ := step_eq_ok.mp hstep
  have hcovers := (Reader.plan_turn hplan).covers
  exact State.isChain_replace (hstates ▸ h.covers) hcovers.1 hcovers.2

theorem Sound.reaches (h : m.Sound) (hreach : m.Reaches m') : m'.Sound :=
  hreach.preserves (fun _ _ => Sound.step) h

/-- The end of the text is expected at the bottom only. -/
theorem Sound.below_finish (h : m.Sound) {below : List State} (hstates : m.states = .finish :: below) :
    below = [] := by
  have hcovers := h.covers
  rw [hstates] at hcovers
  cases below with
  | nil => rfl
  | cons t below => cases (List.isChain_cons_cons.mp hcovers).1

/-- A move does not change where the text ends. -/
theorem endPosition_after (below : List State) (move : Move) (waiting : Stacks) :
    (m.after below move waiting).cursor.endPosition = m.cursor.endPosition :=
  Cursor.endPosition_advanceBy _ _

/-- **`m.BreaksOff`** — where the run from `m` fails, the text ends too early or the nesting is too
deep. -/
def BreaksOff (m : Machine) : Prop :=
  ∀ e, m.Ends (.error e) →
    e = ⟨.unexpectedEndOfInput, m.cursor.endPosition⟩ ∨ e.cause = .nestingTooDeep

/-- A run breaks off where it does so behind its next move. -/
theorem BreaksOff.of_move (hm : m.Sound) (hdone : m.isDone = false) {s : State} {below : List State}
    {move : Move} (hstates : m.states = s :: below) (hplan : m.plan s = .ok move)
    (hclosing : move.action.isClosing = false)
    (h : ∀ waiting, (m.after below move waiting).Sound →
      (m.after below move waiting).BreaksOff) : m.BreaksOff := by
  intro e hends
  obtain ⟨hyes, -⟩ | ⟨-, ⟨e', hstep, hresult⟩ | ⟨m', hstep, hends⟩⟩ := hends.over_or_step
  · rw [hdone] at hyes
    cases hyes
  · -- The move is planned, so it is the stacks that refuse it.
    cases hresult
    obtain hfail | ⟨move', cause, hplan', hperform, rfl⟩ := step_eq_error hstates hstep
    · cases hplan.symm.trans hfail
    · obtain rfl := Except.ok.inj (hplan.symm.trans hplan')
      exact .inr (hm.agrees.refuses hstates hplan hclosing hperform)
  · have hsound := hm.step hstep
    obtain ⟨s', below', move', waiting, hstates', hplan', -, rfl⟩ := step_eq_ok.mp hstep
    obtain ⟨rfl, rfl⟩ := List.cons.inj (hstates.symm.trans hstates')
    obtain rfl := Except.ok.inj (hplan.symm.trans hplan')
    rw [← endPosition_after below move waiting]
    exact h waiting hsound e hends

/-- **`m.Drained`** — the text has been read, and the state on top does not mistake its end. -/
structure Drained (m : Machine) : Prop where
  sound : m.Sound
  rest : m.cursor.rest = []
  top : m.states.head?.any State.mistakesEnd = false

/-- Below a state other than a text in graves there is none that mistakes the end. -/
theorem Sound.head_below (h : m.Sound) {s : State} {below : List State} (hstates : m.states = s :: below)
    (htext : s ≠ .jsonText) : below.head?.any State.mistakesEnd = false := by
  have hcovers := h.covers
  rw [hstates] at hcovers
  cases below with
  | nil => rfl
  | cons t below =>
      have hst := (List.isChain_cons_cons.mp hcovers).1
      have hfinish : s ≠ .finish := by
        rintro rfl
        cases hst
      rw [State.covers_eq hfinish htext] at hst
      simpa using hst

theorem Drained.exists_cons (h : m.Drained) : ∃ s below, m.states = s :: below ∧
    s.mistakesEnd = false := by
  obtain ⟨inner, hlast⟩ := h.sound.regular.last
  obtain ⟨s, below, hstates⟩ := List.exists_cons_of_ne_nil
    (hlast ▸ List.append_ne_nil_of_right_ne_nil inner (List.cons_ne_nil _ _))
  have htop := h.top
  rw [hstates] at htop
  exact ⟨s, below, hstates, htop⟩

/-- At the end of the text only the states change, and they go on to say what is missing. -/
theorem Drained.step (h : m.Drained) (hstep : m.step = .ok m') :
    m'.Drained ∧ m'.cursor = m.cursor := by
  have hsound := h.sound.step hstep
  obtain ⟨s, below, move, waiting, hstates, hplan, -, rfl⟩ := step_eq_ok.mp hstep
  obtain ⟨hfinish, -⟩ := h.sound.regular.exists_below hstates hplan
  have hs : s.mistakesEnd = false := by
    have htop := h.top
    rw [hstates] at htop
    exact htop
  obtain hfail | ⟨next, action, scratch, hplan', htext, hnext, -⟩ :=
    Reader.plan_of_end h.rest hfinish hs
  · cases hfail.symm.trans hplan
  · obtain rfl := Except.ok.inj (hplan.symm.trans hplan')
    refine ⟨⟨hsound, h.rest, ?_⟩, rfl⟩
    -- What comes up is a state that the move brings, or the one below.
    show (next ++ below).head?.any State.mistakesEnd = false
    cases next with
    | nil => exact h.sound.head_below hstates htext
    | cons t next => exact hnext

theorem Drained.stuck {e : ParseError} (h : m.Drained) (hnot : m.isDone = false)
    (hstep : m.step = .error e) :
    e = ⟨.unexpectedEndOfInput, m.cursor.position⟩ ∨ e.cause = .nestingTooDeep := by
  obtain ⟨s, below, hstates, hs⟩ := h.exists_cons
  have hfinish : s ≠ .finish := by
    rintro rfl
    obtain rfl := h.sound.below_finish hstates
    rw [isDone, Cursor.atEnd, h.rest, hstates] at hnot
    cases hnot
  obtain hfail | ⟨move, cause, hplan, hperform, rfl⟩ := step_eq_error hstates hstep
  · obtain hend | ⟨_, _, _, hplan, -⟩ := Reader.plan_of_end h.rest hfinish hs
    · cases hfail.symm.trans hend
      exact .inl rfl
    · cases hfail.symm.trans hplan
  · obtain hend | ⟨_, _, _, hplan', -, -, hclosing⟩ := Reader.plan_of_end h.rest hfinish hs
    · cases hplan.symm.trans hend
    · obtain rfl := Except.ok.inj (hplan.symm.trans hplan')
      exact .inr (h.sound.agrees.refuses hstates hplan hclosing hperform)

/-- **`Drained.breaksOff`** — a run at the end of the text succeeds, or the text ends too early, or
the nesting is too deep. -/
theorem Drained.breaksOff (h : m.Drained) : m.BreaksOff := by
  intro e hends
  rw [Cursor.endPosition_of_nil h.rest]
  generalize hresult : Except.error e = result at hends
  -- The cursor stays where it is all along the run.
  induction hends with
  | done hdone => exact .inr (h.sound.agrees.result_error hdone hresult.symm)
  | stuck hnot hstep =>
      cases hresult
      exact h.stuck hnot hstep
  | move hnot hstep hends ih =>
      obtain ⟨h', hcursor⟩ := h.step hstep
      rw [← hcursor]
      exact ih h' hresult

end Machine

end Expr

end JsonQuery
