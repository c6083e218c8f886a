/-
# JsonQuery.Proofs.Text.Cursor — stepping through a text.

How far a cursor gets, and which characters can stand where.
-/
import JsonQuery.Text.Alphabetic
import JsonQuery.Text.Cursor

namespace JsonQuery.Text

/-! ## Classes of characters -/

theorem isIdentifierPart_of_isIdentifierStart {c : Char} (h : isIdentifierStart c) :
    isIdentifierPart c := by
  rw [isIdentifierPart, h, Bool.true_or]

/-- Blanks are no letters. -/
theorem isBlank_of_isIdentifierStart {c : Char} (h : isIdentifierStart c) : isBlank c = false := by
  have hrange : 65 ≤ c.toNat ∧ c.toNat ≤ 122 := by
    simp only [isIdentifierStart, Bool.or_eq_true, Bool.and_eq_true, decide_eq_true_eq,
      beq_iff_eq, Char.le_def, UInt32.le_iff_toNat_le] at h
    rcases h with (h | h) | rfl
    · exact ⟨Nat.le_trans (by decide) h.1, h.2⟩
    · exact ⟨h.1, Nat.le_trans h.2 (by decide)⟩
    · decide
  simp only [isBlank, Bool.or_eq_false_iff, Bool.and_eq_false_iff, decide_eq_false_iff_not,
    beq_eq_false_iff_ne]
  omega

theorem toNat_of_isAsciiDigit {c : Char} (h : isAsciiDigit c) : 48 ≤ c.toNat ∧ c.toNat ≤ 57 := by
  simp only [isAsciiDigit, Bool.and_eq_true, decide_eq_true_eq, Char.le_def,
    UInt32.le_iff_toNat_le] at h
  exact h

/-- Blanks are no digits. -/
theorem isBlank_of_isAsciiDigit {c : Char} (h : isAsciiDigit c) : isBlank c = false := by
  have hrange := toNat_of_isAsciiDigit h
  simp only [isBlank, Bool.or_eq_false_iff, Bool.and_eq_false_iff, decide_eq_false_iff_not,
    beq_eq_false_iff_ne]
  omega

/-- Blanks end an identifier. -/
theorem isIdentifierPart_of_isBlank {c : Char} (h : isBlank c) : isIdentifierPart c = false := by
  rw [Bool.eq_false_iff]
  intro hpart
  rcases Bool.or_eq_true_iff.mp hpart with hstart | hdigit
  · rw [isBlank_of_isIdentifierStart hstart] at h
    cases h
  · have hblank := isBlank_of_isAsciiDigit (c := c) hdigit
    rw [hblank] at h
    cases h

/-- Digits are no letters. -/
theorem isIdentifierStart_of_isAsciiDigit {c : Char} (h : isAsciiDigit c) :
    isIdentifierStart c = false := by
  have hrange := toNat_of_isAsciiDigit h
  rw [Bool.eq_false_iff]
  intro hstart
  simp only [isIdentifierStart, Bool.or_eq_true, Bool.and_eq_true, decide_eq_true_eq,
    beq_iff_eq, Char.le_def, UInt32.le_iff_toNat_le] at hstart
  rcases hstart with (hstart | hstart) | rfl
  · have hle : 97 ≤ c.toNat := hstart.1
    omega
  · have hle : 65 ≤ c.toNat := hstart.1
    omega
  · revert hrange
    decide

theorem isAlphabetic_of_isAsciiLetter {c : Char} (h : isAsciiLetter c) : isAlphabetic c := by
  have hrange : c.toNat < 0x80 := by
    simp only [isAsciiLetter, Bool.or_eq_true, Bool.and_eq_true, decide_eq_true_eq, Char.le_def,
      UInt32.le_iff_toNat_le] at h
    rcases h with h | h <;> exact Nat.lt_of_le_of_lt h.2 (by decide)
  rw [isAlphabetic, if_pos hrange]
  exact h

theorem isNumeric_of_isAsciiDigit {c : Char} (h : isAsciiDigit c) : isNumeric c := by
  have hrange := toNat_of_isAsciiDigit h
  rw [isNumeric, if_pos (by omega)]
  exact h

/-- A run of characters ends where the next text starts with another one. -/
theorem takeWhile_append {p : Char → Bool} {rest tail : List Char}
    (htail : tail.head?.any p = false) : (rest ++ tail).takeWhile p = rest.takeWhile p := by
  induction rest with
  | nil =>
      cases tail with
      | nil => rfl
      | cons c tail =>
          have hc : p c = false := htail
          simp [hc]
  | cons c rest ih => simp [List.takeWhile_cons, ih]

/-- Where there is a run of characters, it starts with the text. -/
theorem any_head_of_takeWhile_ne_nil {p : Char → Bool} {tail : List Char}
    (h : tail.takeWhile p ≠ []) : tail.head?.any p := by
  cases hhead : tail.head?.any p with
  | true => rfl
  | false =>
      have hnone : ([] ++ tail).takeWhile p = [] := takeWhile_append hhead
      exact absurd hnone h

/-! ## Stepping over characters -/

namespace Cursor

variable {c : Cursor}

@[simp] theorem advance_rest (c : Cursor) : c.advance.rest = c.rest.tail := by
  obtain ⟨rest, offset, position⟩ := c
  cases rest <;> rfl

@[simp] theorem advanceBy_rest (c : Cursor) (n : Nat) : (c.advanceBy n).rest = c.rest.drop n := by
  induction n generalizing c with
  | zero => rfl
  | succ n ih => rw [advanceBy, ih, advance_rest, List.drop_tail]

/-- Reading a run of characters leaves what follows it. -/
theorem readWhile_rest (c : Cursor) (accept : Char → Bool) :
    (c.readWhile accept).2.rest = c.rest.dropWhile accept := by
  have hsplit : c.rest.takeWhile accept ++ c.rest.dropWhile accept = c.rest :=
    List.takeWhile_append_dropWhile
  rw [readWhile, advanceBy_rest]
  exact (congrArg (List.drop _) hsplit).symm.trans List.drop_left

theorem skipBlanks_rest (c : Cursor) : c.skipBlanks.rest = c.rest.dropWhile isBlank :=
  c.readWhile_rest isBlank

theorem advance_offset (h : c.rest ≠ []) : c.advance.offset = c.offset + 1 := by
  obtain ⟨rest, offset, position⟩ := c
  cases rest with
  | nil => exact absurd rfl h
  | cons ch rest => rfl

theorem advanceBy_offset {n : Nat} (h : n ≤ c.rest.length) :
    (c.advanceBy n).offset = c.offset + n := by
  induction n generalizing c with
  | zero => rfl
  | succ n ih =>
      have hne : c.rest ≠ [] := List.ne_nil_of_length_pos (by omega)
      rw [advanceBy, ih (by simp; omega), advance_offset hne]
      omega

end Cursor

end JsonQuery.Text
