/-
# JsonQuery.Proofs.Text.Location — lines and columns are those of the characters read.

The position of a cursor is kept up to date character by character.  What it says is a fact about all
the characters read so far: the line feeds among them make the line, those behind the last line feed
the column.  The cursor itself has no longer what it has read; `Tracks` says that nothing gets lost,
that its rest, its offset and its position are those of one beginning of the text.  A cursor only
moves forward (`advanceBy`), so a position that was taken on the way is that of some beginning of the
text, however far the cursor has moved since (`Leads`).

A reader steps over one character, over blanks, or over the characters that pass some test, in any
order and as often as it likes, at the end of the text as well.  Which characters these are is said
apart from where the cursor is: `StepsOver` names them, and for the two loops they are the longest
beginning of the rest that passes the test (`LongestRun`).
-/
import JsonQuery.Proofs.Text.Cursor
import Mathlib.Data.List.DropRight
import Mathlib.Data.List.TakeWhile

namespace JsonQuery.Text

/-! ## Positions -/

namespace Position

variable {read : List Char} {c : Char}

theorem after_concat (read : List Char) (c : Char) :
    after (read ++ [c]) = (after read).advance c := by
  rw [after, List.foldl_append]
  rfl

/-- The line is one more than the line feeds that have been read. -/
theorem line_after (read : List Char) : (after read).line = 1 + read.count '\n' := by
  induction read using List.reverseRecOn with
  | nil => rfl
  | append_singleton read c ih =>
      rw [after_concat, List.count_append, advance]
      split
      next hfeed =>
        subst hfeed
        show (after read).line + 1 = _
        rw [ih, List.count_singleton_self]
        omega
      next hother =>
        have hnone : [c].count '\n' = 0 := List.count_eq_zero.mpr (by simpa using Ne.symm hother)
        show (after read).line = _
        rw [ih, hnone, Nat.add_zero]

/-- The column is one more than the characters behind the last line feed. -/
theorem column_after (read : List Char) :
    (after read).column = 1 + (read.rtakeWhile (· ≠ '\n')).length := by
  induction read using List.reverseRecOn with
  | nil => rfl
  | append_singleton read c ih =>
      rw [after_concat, advance, List.rtakeWhile_concat]
      split
      next hfeed => simp [hfeed]
      next hother =>
        show (after read).column + 1 = _
        rw [ih, if_pos (by simpa using hother), List.length_append, List.length_singleton]
        omega

end Position

/-! ## Where a cursor is -/

namespace Cursor

variable {c : Cursor} {p : Position} {text : List Char}

/-- **`c.Tracks text`** — the cursor has read some beginning of the text: the offset is its length, the
position is the place behind it, and the rest is what follows. -/
structure Tracks (c : Cursor) (text : List Char) : Prop where
  offset_le : c.offset ≤ text.length
  rest_eq : c.rest = text.drop c.offset
  position_eq : c.position = Position.after (text.take c.offset)

theorem tracks_start (text : String) : (start text).Tracks text.toList :=
  ⟨Nat.zero_le _, rfl, rfl⟩

theorem Tracks.advance (h : c.Tracks text) : c.advance.Tracks text := by
  obtain ⟨rest, offset, position⟩ := c
  obtain ⟨hle, hrest, hposition⟩ := h
  cases rest with
  | nil => exact ⟨hle, hrest, hposition⟩
  | cons ch rest =>
      -- The character that is stepped over is the one of the text at the offset.
      have hlt : offset < text.length := by
        have hlength := congrArg List.length hrest
        simp only [List.length_cons, List.length_drop] at hlength
        omega
      have hcons : ch :: rest = text[offset] :: text.drop (offset + 1) :=
        hrest.trans (List.drop_eq_getElem_cons hlt)
      obtain ⟨hch, htail⟩ := List.cons.inj hcons
      refine ⟨hlt, htail, ?_⟩
      show position.advance ch = Position.after (text.take (offset + 1))
      rw [List.take_succ_eq_append_getElem hlt, Position.after_concat, ← hch, ← hposition]

theorem Tracks.advanceBy (h : c.Tracks text) (n : Nat) : (c.advanceBy n).Tracks text := by
  induction n generalizing c with
  | zero => exact h
  | succ n ih => exact ih h.advance

/-! ## Where a cursor leads -/

theorem advanceBy_advanceBy (c : Cursor) (m n : Nat) :
    (c.advanceBy m).advanceBy n = c.advanceBy (m + n) := by
  induction m generalizing c with
  | zero => rw [Nat.zero_add, Cursor.advanceBy]
  | succ m ih =>
      rw [Nat.succ_add_eq_add_succ, Nat.add_succ]
      exact ih c.advance

/-- **`c.Leads p`** — `p` is the position of the cursor or of a place behind it. -/
def Leads (c : Cursor) (p : Position) : Prop := ∃ n, p = (c.advanceBy n).position

theorem leads_position (c : Cursor) : c.Leads c.position := ⟨0, rfl⟩

theorem leads_advanceBy (c : Cursor) (n : Nat) : c.Leads (c.advanceBy n).position := ⟨n, rfl⟩

/-- Where a cursor further on leads, the cursor leads. -/
theorem Leads.of_advanceBy {n : Nat} (h : (c.advanceBy n).Leads p) : c.Leads p := by
  obtain ⟨m, rfl⟩ := h
  exact ⟨n + m, by rw [advanceBy_advanceBy]⟩

/-- The start of a text leads to the ends of its beginnings only. -/
theorem Leads.eq_after {text : String} (h : (start text).Leads p) :
    ∃ k ≤ text.toList.length, p = Position.after (text.toList.take k) := by
  obtain ⟨n, rfl⟩ := h
  have htracks := (tracks_start text).advanceBy n
  exact ⟨_, htracks.offset_le, htracks.position_eq⟩

/-! ## What is stepped over -/

/-- **`LongestRun accept text run`** — `run` is the longest beginning of a text in which all characters
pass a test. -/
structure LongestRun (accept : Char → Bool) (text run : List Char) : Prop where
  begins : run <+: text
  passes : ∀ ch ∈ run, accept ch
  longest : ∀ other, other <+: text → (∀ ch ∈ other, accept ch) → other.length ≤ run.length

theorem longestRun_takeWhile (accept : Char → Bool) (text : List Char) :
    LongestRun accept text (text.takeWhile accept) where
  begins := List.takeWhile_prefix accept
  passes := fun _ hch => List.mem_takeWhile_imp hch
  longest := by
    rintro other ⟨behind, rfl⟩ hpasses
    rw [List.takeWhile_append_of_pos hpasses, List.length_append]
    omega

/-- **`c.StepsOver run c'`** — between the two cursors there are just the characters of `run`. -/
def StepsOver (c : Cursor) (run : List Char) (c' : Cursor) : Prop :=
  c.rest = run ++ c'.rest ∧ c'.offset = c.offset + run.length

theorem stepsOver_advanceBy {n : Nat} (h : n ≤ c.rest.length) :
    c.StepsOver (c.rest.take n) (c.advanceBy n) := by
  constructor
  · rw [advanceBy_rest, List.take_append_drop]
  · rw [advanceBy_offset h, List.length_take, Nat.min_eq_left h]

/-- One character, or none at the end of the text. -/
theorem stepsOver_advance (c : Cursor) : c.StepsOver (c.rest.take 1) c.advance := by
  rcases Nat.eq_zero_or_pos c.rest.length with hend | hmore
  · obtain ⟨rest, offset, position⟩ := c
    obtain rfl : rest = [] := List.eq_nil_of_length_eq_zero hend
    exact ⟨rfl, rfl⟩
  · exact stepsOver_advanceBy hmore

/-- Reading steps over what it returns. -/
theorem stepsOver_readWhile (c : Cursor) (accept : Char → Bool) :
    c.StepsOver (c.readWhile accept).1 (c.readWhile accept).2 := by
  have hprefix : c.rest.takeWhile accept <+: c.rest := List.takeWhile_prefix accept
  have hsteps := stepsOver_advanceBy hprefix.length_le
  rw [← List.prefix_iff_eq_take.mp hprefix] at hsteps
  exact hsteps

/-! ## Operations -/

/-- What can be done with a cursor. -/
inductive Operation where
  | advance
  | skipBlanks
  | readWhile (accept : Char → Bool)

/-- The cursor behind an operation. -/
def apply (c : Cursor) : Operation → Cursor
  | .advance => c.advance
  | .skipBlanks => c.skipBlanks
  | .readWhile accept => (c.readWhile accept).2

/-- The cursor behind some operations, one after another. -/
def applyAll (c : Cursor) (operations : List Operation) : Cursor := operations.foldl apply c

theorem applyAll_append (c : Cursor) (operations more : List Operation) :
    c.applyAll (operations ++ more) = (c.applyAll operations).applyAll more :=
  List.foldl_append

/-- An operation does not move the cursor back. -/
theorem offset_le_apply (c : Cursor) (operation : Operation) :
    c.offset ≤ (c.apply operation).offset := by
  obtain ⟨run, -, hoffset⟩ : ∃ run, c.StepsOver run (c.apply operation) := by
    cases operation with
    | advance => exact ⟨_, c.stepsOver_advance⟩
    | skipBlanks => exact ⟨_, c.stepsOver_readWhile isBlank⟩
    | readWhile accept => exact ⟨_, c.stepsOver_readWhile accept⟩
  rw [hoffset]
  exact Nat.le_add_right _ _

theorem offset_le_applyAll (c : Cursor) (operations : List Operation) :
    c.offset ≤ (c.applyAll operations).offset := by
  induction operations generalizing c with
  | nil => exact Nat.le_refl _
  | cons operation operations ih => exact Nat.le_trans (c.offset_le_apply operation) (ih _)

theorem Tracks.apply (h : c.Tracks text) (operation : Operation) :
    (c.apply operation).Tracks text := by
  cases operation with
  | advance => exact h.advance
  | skipBlanks => exact h.advanceBy _
  | readWhile accept => exact h.advanceBy _

theorem Tracks.applyAll (h : c.Tracks text) (operations : List Operation) :
    (c.applyAll operations).Tracks text := by
  induction operations generalizing c with
  | nil => exact h
  | cons operation operations ih => exact ih (h.apply operation)

/-- **`applyAll_tracks`** — whatever is done with a cursor from the start of a text on, in any order
and also at the end, it never moves back and never leaves the text; its line counts the line feeds
that have been read and its column the characters behind the last of them, both from one.  From there
on, stepping is over one character, if there is one, and skipping blanks and reading are over the
longest run of characters that pass the test, which is what reading returns. -/
theorem applyAll_tracks (text : String) (operations : List Operation) :
    let c := (start text).applyAll operations
    let read := text.toList.take c.offset
    (∀ more, c.offset ≤ ((start text).applyAll (operations ++ more)).offset) ∧
    c.offset ≤ text.toList.length ∧ c.rest = text.toList.drop c.offset ∧
    c.position.line = 1 + read.count '\n' ∧
    c.position.column = 1 + (read.rtakeWhile (· ≠ '\n')).length ∧
    c.StepsOver (c.rest.take 1) c.advance ∧
    (∃ run, LongestRun isBlank c.rest run ∧ c.StepsOver run c.skipBlanks) ∧
    ∀ accept, LongestRun accept c.rest (c.readWhile accept).1 ∧
      c.StepsOver (c.readWhile accept).1 (c.readWhile accept).2 := by
  intro c read
  have htracks : c.Tracks text.toList := (tracks_start text).applyAll operations
  refine ⟨?_, htracks.offset_le, htracks.rest_eq, ?_, ?_, c.stepsOver_advance, ?_, ?_⟩
  · intro more
    rw [applyAll_append]
    exact c.offset_le_applyAll more
  · rw [htracks.position_eq, Position.line_after]
  · rw [htracks.position_eq, Position.column_after]
  · exact ⟨_, longestRun_takeWhile isBlank c.rest, c.stepsOver_readWhile isBlank⟩
  · intro accept
    exact ⟨longestRun_takeWhile accept c.rest, c.stepsOver_readWhile accept⟩

example : (start "a\n  b").applyAll [.advance, .advance, .skipBlanks, .readWhile (· = 'b'), .advance] =
    ⟨[], 5, ⟨2, 4⟩⟩ := rfl

end Cursor

end JsonQuery.Text
