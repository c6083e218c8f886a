/-
# JsonQuery.Proofs.Text.Utf16 — texts are ordered as their code units.

Lists of code units are compared like words in a dictionary.  No two texts have the same units: those
of a pair are no characters, so the first unit tells how many belong to a character, and it can be read
back.  Hence the order of texts is linear, and only equal texts have the same place in it.
-/
import JsonQuery.Text.Encoding
import Mathlib.Data.List.Lex
import Mathlib.Order.Compare

namespace JsonQuery.Text

/-! ## Lists of units -/

/-- What comparison finds is so in the lexicographic order. -/
theorem compareUnits_compares (xs ys : List Nat) : (compareUnits xs ys).Compares xs ys := by
  induction xs generalizing ys with
  | nil =>
      cases ys with
      | nil => rfl
      | cons y ys => exact List.nil_lt_cons y ys
  | cons x xs ih =>
      cases ys with
      | nil => exact List.nil_lt_cons x xs
      | cons y ys =>
          rw [compareUnits]
          rcases lt_trichotomy x y with hlt | rfl | hgt
          · rw [if_pos hlt]
            exact List.cons_lt_cons_iff.mpr (.inl hlt)
          · rw [if_neg (lt_irrefl x), if_neg (lt_irrefl x)]
            have hrest := ih ys
            cases hunits : compareUnits xs ys with
            | lt =>
                rw [hunits] at hrest
                exact List.cons_lt_cons_self.mpr hrest
            | eq =>
                rw [hunits] at hrest
                exact congrArg (x :: ·) hrest
            | gt =>
                rw [hunits] at hrest
                exact List.cons_lt_cons_self.mpr hrest
          · rw [if_neg hgt.asymm, if_pos hgt]
            exact List.cons_lt_cons_iff.mpr (.inl hgt)

/-! ## Characters -/

/-- A character is one unit, which no pair starts with, or a pair of units that it can be read from. -/
theorem codeUnits_cases (c : Char) :
    (codeUnits c = [c.toNat] ∧ (c.toNat < 0xD800 ∨ 0xE000 ≤ c.toNat)) ∨
    ∃ high low, codeUnits c = [high, low] ∧ 0xD800 ≤ high ∧ high < 0xDC00 ∧
      c.toNat = 0x10000 + (high - 0xD800) * 0x400 + (low - 0xDC00) := by
  have hvalid : c.toNat.isValidChar := c.valid
  unfold Nat.isValidChar at hvalid
  by_cases hsmall : c.toNat < 0x10000
  · left
    exact ⟨by simp only [codeUnits, if_pos hsmall], by omega⟩
  · right
    refine ⟨0xD800 + (c.toNat - 0x10000) / 0x400, 0xDC00 + (c.toNat - 0x10000) % 0x400,
      by simp only [codeUnits, if_neg hsmall], ?_, ?_, ?_⟩ <;> omega

/-- The units of a character are read back, whatever comes behind. -/
theorem eq_of_codeUnits_append {c d : Char} {xs ys : List Nat}
    (h : codeUnits c ++ xs = codeUnits d ++ ys) : c = d ∧ xs = ys := by
  have heq : c.toNat = d.toNat ∧ xs = ys := by
    rcases codeUnits_cases c with ⟨hc, hsingle⟩ | ⟨high, low, hc, hfrom, hto, hvalue⟩ <;>
      rcases codeUnits_cases d with ⟨hd, hsingle'⟩ | ⟨high', low', hd, hfrom', hto', hvalue'⟩ <;>
      rw [hc, hd] at h <;>
      simp only [List.cons_append, List.nil_append, List.cons.injEq] at h
    · exact h
    · omega
    · omega
    · obtain ⟨rfl, rfl, rfl⟩ := h
      exact ⟨hvalue.trans hvalue'.symm, rfl⟩
  exact ⟨Char.toNat_inj.mp heq.1, heq.2⟩

/-! ## Texts -/

/-- **`utf16_injective`** — no two texts have the same code units. -/
theorem utf16_injective {s t : String} (h : utf16 s = utf16 t) : s = t := by
  have hlists : ∀ cs ds : List Char, cs.flatMap codeUnits = ds.flatMap codeUnits → cs = ds := by
    intro cs
    induction cs with
    | nil =>
        intro ds h
        cases ds with
        | nil => rfl
        | cons d ds => rcases codeUnits_cases d with ⟨hd, -⟩ | ⟨_, _, hd, -⟩ <;> simp [hd] at h
    | cons c cs ih =>
        intro ds h
        cases ds with
        | nil => rcases codeUnits_cases c with ⟨hc, -⟩ | ⟨_, _, hc, -⟩ <;> simp [hc] at h
        | cons d ds =>
            rw [List.flatMap_cons, List.flatMap_cons] at h
            obtain ⟨rfl, hrest⟩ := eq_of_codeUnits_append h
            rw [ih ds hrest]
  exact String.toList_injective (hlists _ _ h)

end JsonQuery.Text
