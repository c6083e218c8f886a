/-
# JsonQuery.Proofs.Path.QuotedName — names in double quotes as the reader of paths decodes them.

The reader of paths takes a name between double quotes apart character by character.  Whatever is
written as `QuotedText` says, it gives the characters that are meant, surrogate pairs included.
-/
import JsonQuery.Proofs.Json.StringText
import JsonQuery.Proofs.Path.Rereading

namespace JsonQuery.Path.Reader

open Text (charOfCodePoint?)

variable {g : Registry} {q : Spot} {text rest digits name : List Char} {depth roots fuel n : Nat}
  {c letter : Char}

/-! ## Escapes -/

theorem reads_hexText (h : HexText digits n) :
    Reads (hexDigits 4 0) g ⟨digits ++ rest, depth, roots⟩ n ⟨rest, depth, roots⟩ := by
  obtain ⟨d₁, d₂, d₃, d₄, v₁, v₂, v₃, v₄, rfl, h₁, h₂, h₃, h₄, rfl⟩ := h.exists_digits
  exact reads_hexDigit h₁ (reads_hexDigit h₂ (reads_hexDigit h₃ (reads_hexDigit h₄ (.pure _))))

/-- The digits of a character of its own. -/
theorem reads_unicode (h : HexText digits n) (hhigh : Json.isHighSurrogate n = false)
    (hc : charOfCodePoint? n = some c) :
    Reads unicodeEscape g ⟨digits ++ rest, depth, roots⟩ c ⟨rest, depth, roots⟩ := by
  unfold unicodeEscape
  refine (reads_hexText h).bind (.ite_neg (Bool.eq_false_iff.mp hhigh) ((Reads.pure n).bind ?_))
  dsimp only
  rw [hc]
  exact .pure c

/-- The digits of both halves of a surrogate pair. -/
theorem reads_surrogatePair {digits' : List Char} {high low : Nat} (h : HexText digits high)
    (hhigh : Json.isHighSurrogate high) (h' : HexText digits' low)
    (hlow : Json.isLowSurrogate low)
    (hc : charOfCodePoint? (Json.joinSurrogates high low) = some c) :
    Reads unicodeEscape g ⟨digits ++ '\\' :: 'u' :: (digits' ++ rest), depth, roots⟩ c
      ⟨rest, depth, roots⟩ := by
  unfold unicodeEscape
  refine (reads_hexText h).bind (.ite_pos hhigh (.current_bind (.next_bind ?_)))
  refine .ite_neg (by simp) (Reads.advance.bind (Reads.advance.bind ?_))
  refine (reads_hexText h').bind (.ite_pos hlow ((Reads.pure _).bind ?_))
  dsimp only
  rw [hc]
  exact .pure c

/-- A letter that stands for a character in documents does so in paths. -/
theorem letterEscape?_of_simpleEscape? (h : Json.simpleEscape? letter = some c) :
    letterEscape? letter = some c ∧ letter ≠ 'u' := by
  unfold Json.simpleEscape? at h
  split at h
  all_goals cases h
  all_goals exact ⟨rfl, by decide⟩

theorem reads_letter (h : Json.simpleEscape? letter = some c) :
    Reads escape g ⟨letter :: rest, depth, roots⟩ c ⟨rest, depth, roots⟩ := by
  obtain ⟨hletter, hu⟩ := letterEscape?_of_simpleEscape? h
  unfold escape
  refine Reads.demand.bind (.ite_neg hu ?_)
  rw [hletter]
  exact Reads.advance.bind (.pure c)

theorem reads_number (h : Reads unicodeEscape g ⟨text, depth, roots⟩ c ⟨rest, depth, roots⟩) :
    Reads escape g ⟨'u' :: text, depth, roots⟩ c ⟨rest, depth, roots⟩ := by
  unfold escape
  exact Reads.demand.bind (.ite_pos rfl (Reads.advance.bind h))

/-! ## Names -/

/-- An escape and the rest of the name. -/
theorem reads_quotedRest_escape {behind : List Char}
    (h : Reads escape g ⟨text, depth, roots⟩ c ⟨behind, depth, roots⟩)
    (hrest : Reads (quotedRest '"' fuel) g ⟨behind, depth, roots⟩ name q) :
    Reads (quotedRest '"' (fuel + 1)) g ⟨'\\' :: text, depth, roots⟩ (c :: name) q := by
  unfold quotedRest
  refine Reads.demand.bind (Reads.advance.bind (.ite_neg (by decide) (.ite_pos rfl ?_)))
  exact h.bind (hrest.bind (.pure _))

theorem reads_quotedRest_of_quotedText (h : QuotedText text name) (hfuel : name.length < fuel) :
    Reads (quotedRest '"' fuel) g ⟨text ++ '"' :: rest, depth, roots⟩ name
      ⟨rest, depth, roots⟩ := by
  induction h generalizing fuel with
  | nil =>
      obtain ⟨fuel, rfl⟩ : ∃ inner, fuel = inner + 1 := ⟨fuel - 1, by omega⟩
      unfold quotedRest
      exact Reads.demand.bind (Reads.advance.bind (.ite_pos rfl (.pure _)))
  | @plain c text name hquote hbackslash _ ih =>
      rw [List.length_cons] at hfuel
      obtain ⟨fuel, rfl⟩ : ∃ inner, fuel = inner + 1 := ⟨fuel - 1, by omega⟩
      unfold quotedRest
      refine Reads.demand.bind (Reads.advance.bind (.ite_neg hquote (.ite_neg hbackslash ?_)))
      exact (ih (by omega)).bind (.pure _)
  | escape hletter _ ih =>
      rw [List.length_cons] at hfuel
      obtain ⟨fuel, rfl⟩ : ∃ inner, fuel = inner + 1 := ⟨fuel - 1, by omega⟩
      exact reads_quotedRest_escape (reads_letter hletter) (ih (by omega))
  | unicode hhex hhigh hc _ ih =>
      rw [List.length_cons] at hfuel
      obtain ⟨fuel, rfl⟩ : ∃ inner, fuel = inner + 1 := ⟨fuel - 1, by omega⟩
      rw [List.cons_append, List.cons_append, List.append_assoc]
      exact reads_quotedRest_escape (reads_number (reads_unicode hhex hhigh hc)) (ih (by omega))
  | pair hhex hhigh hhex' hlow hc _ ih =>
      rw [List.length_cons] at hfuel
      obtain ⟨fuel, rfl⟩ : ∃ inner, fuel = inner + 1 := ⟨fuel - 1, by omega⟩
      rw [List.cons_append, List.cons_append, List.append_assoc, List.cons_append, List.cons_append,
        List.append_assoc]
      exact reads_quotedRest_escape (reads_number (reads_surrogatePair hhex hhigh hhex' hlow hc))
        (ih (by omega))

/-- A name has no more characters than there are to write it. -/
theorem length_le_of_quotedText (h : QuotedText text name) : name.length ≤ text.length := by
  induction h with
  | nil => exact Nat.le_refl 0
  | plain | escape | unicode | pair =>
      simp only [List.length_cons, List.length_append]
      omega

/-- **`reads_quoted_of_stringText`** — a JSON text of a string is read as a name in double quotes,
which is the string. -/
theorem reads_quoted_of_stringText (t : Json.StringText) :
    ∃ text, t.chars = '"' :: text ∧ ∀ rest depth roots,
      Reads (quoted '"') g ⟨'"' :: (text ++ rest), depth, roots⟩ t.string ⟨rest, depth, roots⟩ := by
  obtain ⟨text, hchars, htext⟩ := t.exists_quotedText
  refine ⟨text ++ ['"'], hchars, fun rest depth roots => ?_⟩
  rw [List.append_assoc, List.singleton_append]
  unfold quoted
  refine Reads.advance.bind (.get_bind fun r hr => ?_)
  have hrest : r.cursor.rest = text ++ '"' :: rest := congrArg Spot.text hr
  have hlength := length_le_of_quotedText htext
  have hfuel : t.string.toList.length < r.cursor.rest.length + 1 := by
    rw [hrest, List.length_append]
    omega
  refine (reads_quotedRest_of_quotedText htext hfuel).bind ?_
  rw [String.ofList_toList]
  exact .pure _

/-- In brackets it is a step to the member of that name. -/
theorem reads_brackets_stringText (t : Json.StringText) :
    Reads (brackets (fuel + 1) []) g ⟨t.chars ++ ']' :: rest, depth, roots⟩ (.name t.string)
      ⟨rest, depth, roots⟩ := by
  obtain ⟨written, hchars, hquoted⟩ := reads_quoted_of_stringText (g := g) t
  rw [hchars]
  unfold brackets
  refine (Reads.skipBlanks rfl).bind (Reads.demand.bind (.ite_neg (by decide) (.ite_pos rfl ?_)))
  exact (hquoted _ _ _).bind (reads_bracketEnd fuel _)

end JsonQuery.Path.Reader
