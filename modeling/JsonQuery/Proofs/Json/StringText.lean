/-
# JsonQuery.Proofs.Json.StringText — what the reader of documents accepts as a string.

Behind its opening quote a string is characters as they are, letters behind a backslash and numbers
of code points, up to the closing quote.  The reader of documents is stricter than `QuotedText`
about control characters; otherwise it accepts what is written that way and gives what it stands
for.
-/
import JsonQuery.Proofs.Expr.QuotedText

namespace JsonQuery

open Text (hexDigit? hexNumber? charOfCodePoint?)

namespace Json

/-! ## Escapes -/

theorem hexText_of_readHex4 {cs rest : List Char} {n : Nat} (h : readHex4 cs = some (n, rest)) :
    ∃ digits, cs = digits ++ rest ∧ HexText digits n := by
  unfold readHex4 at h
  split at h
  next d₁ d₂ d₃ d₄ tail =>
    simp only [Option.bind_eq_bind, Option.bind_eq_some_iff, Option.pure_def, Option.some.injEq,
      Prod.mk.injEq] at h
    obtain ⟨v₁, h₁, v₂, h₂, v₃, h₃, v₄, h₄, rfl, rfl⟩ := h
    refine ⟨[d₁, d₂, d₃, d₄], rfl, rfl, ?_⟩
    simp only [hexNumber?, List.foldl_cons, List.foldl_nil, Option.bind_eq_bind, Option.pure_def,
      Option.bind_some, h₁, h₂, h₃, h₄]
    exact congrArg some (by omega)
  next => cases h

/-- The characters behind `\\u` are those of one code point or of a surrogate pair. -/
theorem quotedText_of_readUnicodeEscape {cs rest : List Char} {c : Char}
    (h : readUnicodeEscape cs = some (c, rest)) :
    ∃ written, cs = written ++ rest ∧ ∀ text name, QuotedText text name →
      QuotedText ('\\' :: 'u' :: (written ++ text)) (c :: name) := by
  unfold readUnicodeEscape at h
  obtain ⟨⟨n, behind⟩, hdigits, hcode⟩ := Option.bind_eq_some_iff.mp h
  obtain ⟨digits, rfl, hhex⟩ := hexText_of_readHex4 hdigits
  dsimp only at hcode
  split at hcode
  next hhigh =>
    split at hcode
    next tail =>
      obtain ⟨⟨low, behind⟩, hdigits', hlow⟩ := Option.bind_eq_some_iff.mp hcode
      obtain ⟨digits', rfl, hhex'⟩ := hexText_of_readHex4 hdigits'
      dsimp only at hlow
      split at hlow
      next hpair =>
        obtain ⟨c', hc, hend⟩ := Option.bind_eq_some_iff.mp hlow
        obtain ⟨rfl, rfl⟩ := Prod.mk.inj (Option.some.inj hend)
        refine ⟨digits ++ '\\' :: 'u' :: digits', by simp, fun text name hrest => ?_⟩
        rw [List.append_assoc, List.cons_append, List.cons_append]
        exact .pair hhex hhigh hhex' hpair hc hrest
      next => cases hlow
    next => cases hcode
  next hhigh =>
    obtain ⟨c', hc, hend⟩ := Option.bind_eq_some_iff.mp hcode
    obtain ⟨rfl, rfl⟩ := Prod.mk.inj (Option.some.inj hend)
    exact ⟨digits, rfl, fun text name hrest =>
      .unicode hhex (Bool.eq_false_iff.mpr hhigh) hc hrest⟩

/-! ## Strings -/

/-- **`quotedText_of_readString`** — what is read up to the closing quote is how the characters of
the string are written, those read before aside. -/
theorem quotedText_of_readString {fuel : Nat} {acc cs rest : List Char} {s : String}
    (h : readString fuel acc cs = some (s, rest)) :
    ∃ text name, cs = text ++ '"' :: rest ∧ QuotedText text name ∧
      s = String.ofList (acc.reverse ++ name) := by
  induction fuel, acc, cs using readString.induct with
  | case1 => cases h
  | case2 => cases h
  | case3 fuel acc tail =>
      obtain ⟨rfl, rfl⟩ := Prod.mk.inj (Option.some.inj h)
      exact ⟨[], [], rfl, .nil, by rw [List.append_nil]⟩
  | case4 fuel acc tail ih =>
      rw [readString] at h
      obtain ⟨⟨c, behind⟩, hescape, hread⟩ := Option.bind_eq_some_iff.mp h
      obtain ⟨written, rfl, hwritten⟩ := quotedText_of_readUnicodeEscape hescape
      obtain ⟨text, name, rfl, htext, rfl⟩ := ih c behind hread
      exact ⟨'\\' :: 'u' :: (written ++ text), c :: name, by simp, hwritten text name htext,
        by simp⟩
  | case5 fuel acc letter tail hletter ih =>
      rw [readString] at h
      · obtain ⟨c, hescape, hread⟩ := Option.bind_eq_some_iff.mp h
        obtain ⟨text, name, rfl, htext, rfl⟩ := ih c hread
        exact ⟨'\\' :: letter :: text, c :: name, rfl, .escape hescape htext, by simp⟩
      · exact hletter
  | case6 fuel acc c tail hquote hunicode hescape hstop =>
      rw [readString, if_pos hstop] at h
      · cases h
      · exact hquote
      · exact hunicode
      · exact hescape
  | case7 fuel acc c tail hquote hunicode hescape hplain ih =>
      rw [readString, if_neg hplain] at h
      · obtain ⟨text, name, rfl, htext, rfl⟩ := ih h
        have hbackslash : c ≠ '\\' := by
          rintro rfl
          exact hplain rfl
        exact ⟨c :: text, c :: name, rfl, .plain hquote hbackslash htext, by simp⟩
      · exact hquote
      · exact hunicode
      · exact hescape

/-- **`StringText`** — a text from quote to quote that is a document, and the string that it is. -/
structure StringText where
  chars : List Char
  string : String
  opens : chars.head? = some '"'
  closes : chars.getLast? = some '"'
  parses : ofChars? chars = some (.string string)

/-- A document that starts with a quote is a string with blanks behind it. -/
theorem exists_readString {cs : List Char} {s : String}
    (h : ofChars? ('"' :: cs) = some (.string s)) :
    ∃ rest, readString (cs.length + 1) [] cs = some (s, rest) ∧ skipSpace rest = [] := by
  obtain ⟨⟨json, rest⟩, hvalue, hend⟩ := Option.bind_eq_some_iff.mp h
  have hread : (readString (cs.length + 1) [] cs).bind (fun r => some (Json.string r.1, r.2))
      = some (json, rest) := hvalue
  obtain ⟨⟨s', rest'⟩, hstring, hpair⟩ := Option.bind_eq_some_iff.mp hread
  obtain ⟨rfl, rfl⟩ := Prod.mk.inj (Option.some.inj hpair)
  dsimp only at hend
  split at hend
  next hempty =>
    obtain rfl := Json.string.inj (Option.some.inj hend)
    exact ⟨rest', hstring, List.isEmpty_iff.mp hempty⟩
  next => cases hend

/-- Between its quotes stands how the characters of the string are written. -/
theorem StringText.exists_quotedText (t : StringText) :
    ∃ text, t.chars = '"' :: (text ++ ['"']) ∧ QuotedText text t.string.toList := by
  obtain ⟨cs, hchars⟩ := List.head?_eq_some_iff.mp t.opens
  obtain ⟨rest, hread, hblank⟩ := exists_readString (hchars ▸ t.parses)
  obtain ⟨text, name, rfl, htext, hname⟩ := quotedText_of_readString hread
  have hnone : rest = [] := by
    by_contra hne
    have hlast : rest.getLast? = some '"' := by
      have hsplit : t.chars = ('"' :: text ++ ['"']) ++ rest := by simp [hchars]
      have hcloses := t.closes
      rw [hsplit, List.getLast?_append, List.getLast?_eq_some_getLast hne,
        Option.some_or] at hcloses
      rw [List.getLast?_eq_some_getLast hne, hcloses]
    have hspace := List.dropWhile_eq_nil_iff.mp hblank '"' (List.mem_of_getLast? hlast)
    cases hspace
  subst hnone
  refine ⟨text, hchars, ?_⟩
  rw [hname, String.toList_ofList]
  exact htext

end Json

end JsonQuery
