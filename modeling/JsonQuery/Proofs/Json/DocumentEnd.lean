/-
# JsonQuery.Proofs.Json.DocumentEnd — where documents end.

A backslash has a meaning in strings only, and a string goes on up to its closing quote.  So whatever
the reader of documents takes of a text, a backslash is not the last character that it takes.
-/
import JsonQuery.Proofs.Json.StringText

namespace JsonQuery.Json

/-- **`Takes cs rest`** — `rest` is what is left of `cs`, and what has been taken, if anything, does
not end with a backslash. -/
def Takes (cs rest : List Char) : Prop := ∃ taken, cs = taken ++ rest ∧ taken.getLast? ≠ some '\\'

namespace Takes

variable {cs rest rest' : List Char} {c : Char}

theorem refl (cs : List Char) : Takes cs cs := ⟨[], rfl, by simp⟩

theorem trans (h : Takes cs rest) (h' : Takes rest rest') : Takes cs rest' := by
  obtain ⟨taken, rfl, hlast⟩ := h
  obtain ⟨taken', rfl, hlast'⟩ := h'
  refine ⟨taken ++ taken', (List.append_assoc ..).symm, ?_⟩
  rw [List.getLast?_append]
  cases hend : taken'.getLast? with
  | none => exact hlast
  | some d => rwa [hend] at hlast'

theorem cons (hc : c ≠ '\\') (rest : List Char) : Takes (c :: rest) rest :=
  ⟨[c], rfl, fun h => hc (Option.some.inj h)⟩

/-- A run of characters of a kind that a backslash is not of. -/
theorem dropWhile {p : Char → Bool} (hp : p '\\' = false) (cs : List Char) :
    Takes cs (cs.dropWhile p) := by
  refine ⟨cs.takeWhile p, List.takeWhile_append_dropWhile.symm, fun hlast => ?_⟩
  have hmem := List.mem_takeWhile_imp (List.mem_of_getLast? hlast)
  rw [hp] at hmem
  cases hmem

theorem skipSpace (cs : List Char) : Takes cs (skipSpace cs) := dropWhile rfl cs

/-- A character behind blanks. -/
theorem spaced (h : Json.skipSpace cs = c :: rest) (hc : c ≠ '\\') : Takes cs rest :=
  (h ▸ skipSpace cs).trans (cons hc rest)

/-- A reader that makes something else of what another one has read. -/
theorem of_bind {α β : Type} {x : Option (α × List Char)} {f : α → β} {b : β}
    (h : (do let (a, rest) ← x; return (f a, rest)) = some (b, rest))
    (hx : ∀ {a : α}, x = some (a, rest) → Takes cs rest) : Takes cs rest := by
  obtain ⟨⟨a, behind⟩, hread, hend⟩ := Option.bind_eq_some_iff.mp h
  obtain ⟨-, rfl⟩ := Prod.mk.inj (Option.some.inj hend)
  exact hx hread

end Takes

variable {cs rest : List Char}

/-! ## Words and strings -/

theorem takes_of_expect {word : List Char} {value json : Json} (hword : word.getLast? ≠ some '\\')
    (h : (do return (value, ← expect word cs)) = some (json, rest)) : Takes cs rest := by
  obtain ⟨behind, hstarts, hend⟩ := Option.bind_eq_some_iff.mp h
  obtain ⟨-, rfl⟩ := Prod.mk.inj (Option.some.inj hend)
  unfold expect at hstarts
  split at hstarts
  next hprefix =>
    obtain rfl := Option.some.inj hstarts
    obtain ⟨tail, rfl⟩ := List.isPrefixOf_iff_prefix.mp hprefix
    exact ⟨word, by rw [List.drop_left], hword⟩
  next => cases hstarts

theorem takes_of_readString {fuel : Nat} {acc : List Char} {s : String}
    (h : readString fuel acc cs = some (s, rest)) : Takes cs rest := by
  obtain ⟨text, -, rfl, -, -⟩ := quotedText_of_readString h
  refine ⟨text ++ ['"'], by simp, ?_⟩
  rw [List.getLast?_concat]
  decide

/-! ## Numbers -/

theorem takes_of_readFraction {fraction : Option (List Char)}
    (h : readFraction cs = some (fraction, rest)) : Takes cs rest := by
  unfold readFraction at h
  split at h
  next tail =>
    split at h
    · cases h
    · obtain ⟨-, rfl⟩ := Prod.mk.inj (Option.some.inj h)
      exact (Takes.cons (by decide) tail).trans (.dropWhile rfl tail)
  next =>
    obtain ⟨-, rfl⟩ := Prod.mk.inj (Option.some.inj h)
    exact .refl cs

theorem takes_of_readExponent {written : Option (Bool × List Char)}
    (h : readExponent cs = some (written, rest)) : Takes cs rest := by
  unfold readExponent at h
  split at h
  next e tail =>
    split at h
    next hletter =>
      have he : e ≠ '\\' := by
        rintro rfl
        cases hletter
      split at h
      next negative digits hsigned =>
        have hsign : Takes tail digits := by
          split at hsigned
          all_goals obtain ⟨-, rfl⟩ := Prod.mk.inj hsigned
          · exact .cons (by decide) _
          · exact .cons (by decide) _
          · exact .refl _
        split at h
        · cases h
        · obtain ⟨-, rfl⟩ := Prod.mk.inj (Option.some.inj h)
          exact ((Takes.cons he tail).trans hsign).trans (.dropWhile rfl digits)
    next =>
      obtain ⟨-, rfl⟩ := Prod.mk.inj (Option.some.inj h)
      exact .refl _
  next =>
    obtain ⟨-, rfl⟩ := Prod.mk.inj (Option.some.inj h)
    exact .refl _

theorem takes_of_readNumber {n : Numeral} (h : readNumber cs = some (n, rest)) : Takes cs rest := by
  unfold readNumber at h
  split at h
  next negative digits hsigned =>
    have hsign : Takes cs digits := by
      split at hsigned
      all_goals obtain ⟨-, rfl⟩ := Prod.mk.inj hsigned
      · exact .cons (by decide) _
      · exact .refl _
    dsimp only at h
    split at h
    · cases h
    · cases h
    · obtain ⟨⟨fraction, behind⟩, hfraction, hmore⟩ := Option.bind_eq_some_iff.mp h
      obtain ⟨⟨written, behind'⟩, hwritten, hnumeral⟩ := Option.bind_eq_some_iff.mp hmore
      have hread : Takes cs behind' :=
        ((hsign.trans (.dropWhile rfl digits)).trans (takes_of_readFraction hfraction)).trans
          (takes_of_readExponent hwritten)
      -- What the numeral comes to does not change what is left.
      have hfloat : ∀ {f : Option Binary64}, (do pure (Numeral.float (← f), behind')) = some (n, rest) →
          rest = behind' := by
        intro f hf
        obtain ⟨x, -, hx⟩ := Option.bind_eq_some_iff.mp hf
        exact (Prod.mk.inj (Option.some.inj hx)).2.symm
      have hrest : rest = behind' := by
        dsimp only at hnumeral
        split at hnumeral
        · split at hnumeral
          · exact (Prod.mk.inj (Option.some.inj hnumeral)).2.symm
          · split at hnumeral
            · exact (Prod.mk.inj (Option.some.inj hnumeral)).2.symm
            · exact hfloat hnumeral
        · exact hfloat hnumeral
      exact hrest ▸ hread

/-! ## Documents -/

mutual

theorem takes_of_readValue : ∀ {fuel depth : Nat} {cs rest : List Char} {json : Json},
    readValue fuel depth cs = some (json, rest) → Takes cs rest
  | 0, _, _, _, _, h => by cases h
  | fuel + 1, depth, cs, rest, json, h => by
      rw [readValue] at h
      split at h
      next => cases h
      next c tail hspace =>
        have hfirst : c ≠ '\\' → Takes cs tail := Takes.spaced hspace
        split at h
        next hc => exact (hfirst (hc ▸ by decide)).trans (takes_of_expect (by decide) h)
        split at h
        next hc => exact (hfirst (hc ▸ by decide)).trans (takes_of_expect (by decide) h)
        split at h
        next hc => exact (hfirst (hc ▸ by decide)).trans (takes_of_expect (by decide) h)
        split at h
        next hc => exact (hfirst (hc ▸ by decide)).trans (.of_bind h takes_of_readString)
        split at h
        next hc =>
          have hbracket := hfirst (hc ▸ by decide)
          split at h
          · cases h
          split at h
          next behind hempty =>
            obtain ⟨-, rfl⟩ := Prod.mk.inj (Option.some.inj h)
            exact hbracket.trans (.spaced hempty (by decide))
          next => exact hbracket.trans (.of_bind h takes_of_readItems)
        split at h
        next hc =>
          have hbrace := hfirst (hc ▸ by decide)
          split at h
          · cases h
          split at h
          next behind hempty =>
            obtain ⟨-, rfl⟩ := Prod.mk.inj (Option.some.inj h)
            exact hbrace.trans (.spaced hempty (by decide))
          next => exact hbrace.trans (.of_bind h takes_of_readMembers)
        next => exact (hspace ▸ Takes.skipSpace cs).trans (.of_bind h takes_of_readNumber)

theorem takes_of_readItems : ∀ {fuel depth : Nat} {cs rest : List Char} {items : List Json},
    readItems fuel depth cs = some (items, rest) → Takes cs rest
  | 0, _, _, _, _, h => by cases h
  | fuel + 1, depth, cs, rest, items, h => by
      rw [readItems] at h
      obtain ⟨⟨item, behind⟩, hitem, hmore⟩ := Option.bind_eq_some_iff.mp h
      have hfirst := takes_of_readValue hitem
      dsimp only at hmore
      split at hmore
      next tail hcomma =>
        exact (hfirst.trans (.spaced hcomma (by decide))).trans (.of_bind hmore takes_of_readItems)
      next tail hbracket =>
        obtain ⟨-, rfl⟩ := Prod.mk.inj (Option.some.inj hmore)
        exact hfirst.trans (.spaced hbracket (by decide))
      next => cases hmore

theorem takes_of_readMembers : ∀ {fuel depth : Nat} {before members : List (String × Json)}
    {cs rest : List Char}, readMembers fuel depth before cs = some (members, rest) → Takes cs rest
  | 0, _, _, _, _, _, h => by cases h
  | fuel + 1, depth, before, members, cs, rest, h => by
      rw [readMembers] at h
      split at h
      next tail hquote =>
        obtain ⟨⟨name, behind⟩, hname, hmore⟩ := Option.bind_eq_some_iff.mp h
        dsimp only at hmore
        split at hmore
        next tail' hcolon =>
          obtain ⟨⟨value, behind'⟩, hvalue, hend⟩ := Option.bind_eq_some_iff.mp hmore
          have hmember : Takes cs behind' :=
            (((Takes.spaced hquote (by decide)).trans (takes_of_readString hname)).trans
              (.spaced hcolon (by decide))).trans (takes_of_readValue hvalue)
          dsimp only at hend
          split at hend
          next tail'' hcomma =>
            exact (hmember.trans (.spaced hcomma (by decide))).trans (takes_of_readMembers hend)
          next tail'' hbrace =>
            obtain ⟨-, rfl⟩ := Prod.mk.inj (Option.some.inj hend)
            exact hmember.trans (.spaced hbrace (by decide))
          next => cases hend
        next => cases hmore
      next => cases h

end

/-- **`getLast?_of_ofChars?`** — no document ends with a backslash. -/
theorem getLast?_of_ofChars? {cs : List Char} {json : Json} (h : ofChars? cs = some json) :
    cs.getLast? ≠ some '\\' := by
  obtain ⟨⟨value, rest⟩, hvalue, hend⟩ := Option.bind_eq_some_iff.mp h
  dsimp only at hend
  split at hend
  next hblank =>
    have hall : Takes cs (skipSpace rest) := (takes_of_readValue hvalue).trans (.skipSpace rest)
    obtain ⟨taken, hsplit, hlast⟩ := hall
    rwa [hsplit, List.isEmpty_iff.mp hblank, List.append_nil]
  next => cases hend

end JsonQuery.Json
