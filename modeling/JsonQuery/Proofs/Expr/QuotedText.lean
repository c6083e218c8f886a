/-
# JsonQuery.Proofs.Expr.QuotedText — names in quotes.

Between its quotes a name is written character by character: as it is, with a letter behind a
backslash, or with the four hexadecimal digits of its code point, of which a character beyond the
first plane takes two.  The parser keeps what the characters stand for.
-/
import JsonQuery.Proofs.Expr.OperatorText

namespace JsonQuery

open JsonQuery.Expr
open Text (hexDigit? hexNumber? charOfCodePoint?)

/-! ## Spelling -/

/-- **`HexText digits n`** — four hexadecimal digits of a number. -/
def HexText (digits : List Char) (n : Nat) : Prop := digits.length = 4 ∧ hexNumber? digits = some n

/-- **`QuotedText text name`** — `text` is how the characters of a name are written in quotes. -/
inductive QuotedText : List Char → List Char → Prop where
  | nil : QuotedText [] []
  | plain {c : Char} {text name : List Char} : c ≠ '"' → c ≠ '\\' → QuotedText text name →
      QuotedText (c :: text) (c :: name)
  | escape {letter c : Char} {text name : List Char} : Json.simpleEscape? letter = some c →
      QuotedText text name → QuotedText ('\\' :: letter :: text) (c :: name)
  | unicode {digits text name : List Char} {n : Nat} {c : Char} : HexText digits n →
      Json.isHighSurrogate n = false → charOfCodePoint? n = some c → QuotedText text name →
      QuotedText ('\\' :: 'u' :: (digits ++ text)) (c :: name)
  | pair {digits digits' text name : List Char} {high low : Nat} {c : Char} : HexText digits high →
      Json.isHighSurrogate high → HexText digits' low → Json.isLowSurrogate low →
      charOfCodePoint? (Json.joinSurrogates high low) = some c → QuotedText text name →
      QuotedText ('\\' :: 'u' :: (digits ++ '\\' :: 'u' :: (digits' ++ text))) (c :: name)

/-- The four digits one by one, the first one first. -/
theorem HexText.exists_digits {digits : List Char} {n : Nat} (h : HexText digits n) :
    ∃ d₁ d₂ d₃ d₄ v₁ v₂ v₃ v₄, digits = [d₁, d₂, d₃, d₄] ∧ hexDigit? d₁ = some v₁ ∧
      hexDigit? d₂ = some v₂ ∧ hexDigit? d₃ = some v₃ ∧ hexDigit? d₄ = some v₄ ∧
      n = (((0 * 16 + v₁) * 16 + v₂) * 16 + v₃) * 16 + v₄ := by
  obtain ⟨hlength, hnumber⟩ := h
  rcases digits with _ | ⟨d₁, _ | ⟨d₂, _ | ⟨d₃, _ | ⟨d₄, _ | ⟨d₅, ds⟩⟩⟩⟩⟩ <;>
    simp only [List.length_nil, List.length_cons] at hlength <;> try omega
  simp only [hexNumber?, List.foldl_cons, List.foldl_nil, bind, Option.bind_some, pure,
    Option.bind_eq_some_iff, Option.some.injEq] at hnumber
  obtain ⟨a, ⟨b, ⟨c, ⟨v₁, h₁, rfl⟩, v₂, h₂, rfl⟩, v₃, h₃, rfl⟩, v₄, h₄, rfl⟩ := hnumber
  exact ⟨d₁, d₂, d₃, d₄, v₁, v₂, v₃, v₄, rfl, h₁, h₂, h₃, h₄, rfl⟩

/-- Half of a surrogate pair is no character. -/
theorem isLowSurrogate_of_charOfCodePoint? {n : Nat} {c : Char} (h : charOfCodePoint? n = some c) :
    Json.isLowSurrogate n = false := by
  have hvalid : n.isValidChar := by
    by_contra hvalid
    rw [charOfCodePoint?, dif_neg hvalid] at h
    cases h
  rw [Bool.eq_false_iff]
  intro hlow
  simp only [Json.isLowSurrogate, Bool.and_eq_true, decide_eq_true_eq] at hlow
  rcases hvalid with hvalid | hvalid <;> omega

/-! ## Digits -/

namespace Expr.Reader

variable {r : Reader} {d c : Char} {k v n : Nat} {low : Bool} {scratch : Scratch}

/-- What is kept of a code point behind one more digit. -/
def withDigit (scratch : Scratch) (low : Bool) (v : Nat) : Scratch :=
  if low then { scratch with lowCodePoint := scratch.lowCodePoint * 16 + v }
  else { scratch with codePoint := scratch.codePoint * 16 + v }

theorem keepCodePoint_eq (hc : charOfCodePoint? n = some c) :
    r.keepCodePoint scratch n = note (scratch.keep c) 1 [] := by
  rw [keepCodePoint, hc]

theorem escapeDigit_more (hv : hexDigit? d = some v) :
    r.escapeDigit (k + 2) low (some d) =
      note (withDigit r.scratch low v) 1 [.escapeHex (k + 1) low] := by
  rw [escapeDigit, hv]
  exact if_pos (by omega)

/-- The last digit of a character of its own. -/
theorem escapeDigit_character (hv : hexDigit? d = some v)
    (hn : r.scratch.codePoint * 16 + v = n) (hhigh : Json.isHighSurrogate n = false)
    (hc : charOfCodePoint? n = some c) :
    r.escapeDigit 1 false (some d) = note ({ r.scratch with codePoint := n }.keep c) 1 [] := by
  have hlow : Json.isLowSurrogate n = false := isLowSurrogate_of_charOfCodePoint? hc
  subst hn
  rw [← keepCodePoint_eq hc, escapeDigit, hv]
  simp only [Nat.lt_irrefl, Bool.false_eq_true, if_false]
  rw [if_neg (Bool.eq_false_iff.mp hhigh), if_neg (Bool.eq_false_iff.mp hlow)]

/-- The last digit of the first half of a surrogate pair. -/
theorem escapeDigit_high (hv : hexDigit? d = some v) (hn : r.scratch.codePoint * 16 + v = n)
    (hhigh : Json.isHighSurrogate n) :
    r.escapeDigit 1 false (some d) =
      note { r.scratch with codePoint := n } 1 [.surrogateBackslash] := by
  subst hn
  rw [escapeDigit, hv]
  simp only [Nat.lt_irrefl, Bool.false_eq_true, if_false]
  rw [if_pos hhigh]

/-- The last digit of the second half of a surrogate pair. -/
theorem escapeDigit_low (hv : hexDigit? d = some v) (hn : r.scratch.lowCodePoint * 16 + v = n)
    (hlow : Json.isLowSurrogate n)
    (hc : charOfCodePoint? (Json.joinSurrogates r.scratch.codePoint n) = some c) :
    r.escapeDigit 1 true (some d) = note ({ r.scratch with lowCodePoint := n }.keep c) 1 [] := by
  subst hn
  rw [← keepCodePoint_eq hc, escapeDigit, hv]
  simp only [Nat.lt_irrefl, if_true, if_false]
  rw [if_pos hlow]

end Expr.Reader

namespace Expr.Place

/-- A place in the digits of a code point: `read` is what they come to so far, and `high` the first
half of the surrogate pair where they belong to the second. -/
def inDigits (setting : Setting) (remaining : Nat) (low : Bool) (below : List State)
    (waiting : Stacks) (rest buffer : List Char) (high read : Nat) : Place :=
  { inName setting (.escapeHex remaining low :: below) waiting rest buffer with
    codePoint := if low then high else read
    lowCodePoint := if low then read else 0 }

/-- A place between the halves of a surrogate pair, of which the first has been read. -/
def inPair (setting : Setting) (states : List State) (waiting : Stacks) (rest buffer : List Char)
    (high : Nat) : Place :=
  { inName setting states waiting rest buffer with codePoint := high }

end Expr.Place

namespace Expr.Machine

variable {limit : Prop} {m : Machine} {setting : Setting} {waiting : Stacks} {below : List State}
  {rest buffer digits : List Char}

theorem current_of_inName {c : Char} {states : List State}
    (hm : m.place = .inName setting states waiting (c :: rest) buffer) :
    m.cursor.current = some c ∧ m.scratch.buffer = buffer ∧ m.scratch.parts = {} :=
  ⟨current_of_place hm, congrArg Place.buffer hm, congrArg Place.parts hm⟩

theorem scratch_of_inDigits {k high read : Nat} {low : Bool}
    (hm : m.place = .inDigits setting k low below waiting rest buffer high read) :
    m.scratch.buffer = buffer ∧ m.scratch.parts = {} ∧
      m.scratch.codePoint = (if low then high else read) ∧
      (low = true → m.scratch.lowCodePoint = read) := by
  have hstates : m.states = .escapeHex k low :: below := congrArg Place.states hm
  have hcode := congrArg Place.codePoint hm
  have hlow := congrArg Place.lowCodePoint hm
  simp only [place, hstates] at hcode hlow
  refine ⟨congrArg Place.buffer hm, congrArg Place.parts hm, hcode, ?_⟩
  rintro rfl
  exact hlow

theorem scratch_of_inPair {high : Nat} {s : State} (hs : s.keepsCodePoint)
    (hm : m.place = .inPair setting (s :: below) waiting rest buffer high) :
    m.scratch.buffer = buffer ∧ m.scratch.parts = {} ∧ m.scratch.codePoint = high := by
  have hstates : m.states = s :: below := congrArg Place.states hm
  have hcode := congrArg Place.codePoint hm
  simp only [place, hstates, List.head?_cons, Option.any_some, hs, if_true] at hcode
  exact ⟨congrArg Place.buffer hm, congrArg Place.parts hm, hcode⟩

theorem plan_escapeHex {k : Nat} {low : Bool} {d : Char} (hcurrent : m.cursor.current = some d) :
    m.plan (.escapeHex k low) = m.escapeDigit k low (some d) := by
  simp only [Reader.plan, State.skipsBlanks, Bool.false_and, Bool.false_eq_true, if_false,
    Reader.planAt, hcurrent]

/-- A digit that more digits follow. -/
theorem leads_digit {k high read v : Nat} {low : Bool} {d : Char} (hv : hexDigit? d = some v)
    (hm : m.place = .inDigits setting (k + 2) low below waiting (d :: rest) buffer high read) :
    m.Leads limit
      (.inDigits setting (k + 1) low below waiting rest buffer high (read * 16 + v)) := by
  obtain ⟨hbuffer, hparts, hcode, hlow⟩ := scratch_of_inDigits hm
  have hplan : m.plan (.escapeHex (k + 2) low) =
      .ok ⟨1, [.escapeHex (k + 1) low], .nothing, Reader.withDigit m.scratch low v⟩ :=
    (plan_escapeHex (current_of_place hm)).trans (Reader.escapeDigit_more hv)
  have hlead := leads_move limit hm rfl (by simp) hplan (.inl rfl)
  cases low with
  | false =>
      simp only [Place.after, Reader.withDigit, hcode, Bool.false_eq_true, if_false, hbuffer,
        hparts] at hlead
      exact hlead
  | true =>
      simp only [Place.after, Reader.withDigit, hcode, hlow rfl, if_true, hbuffer, hparts] at hlead
      exact hlead

/-- **`leads_lastDigit`** — digits lead to the last one of them, which completes their number. -/
theorem leads_lastDigit (limit : Prop) {n high : Nat} {low : Bool} (h : HexText digits n)
    (hm : m.place = .inDigits setting 4 low below waiting (digits ++ rest) buffer high 0) :
    ∃ d v read, hexDigit? d = some v ∧ read * 16 + v = n ∧
      m.Leads limit (.inDigits setting 1 low below waiting (d :: rest) buffer high read) := by
  obtain ⟨d₁, d₂, d₃, d₄, v₁, v₂, v₃, v₄, rfl, h₁, h₂, h₃, h₄, hn⟩ := h.exists_digits
  refine ⟨d₄, v₄, ((0 * 16 + v₁) * 16 + v₂) * 16 + v₃, h₄, hn.symm, ?_⟩
  exact ((leads_digit h₁ hm).trans fun _ hm' => leads_digit h₂ hm').trans fun _ hm' =>
    leads_digit h₃ hm'

/-- The digits of a character of its own. -/
theorem leads_character {n : Nat} {c : Char} (h : HexText digits n)
    (hhigh : Json.isHighSurrogate n = false) (hc : charOfCodePoint? n = some c)
    (hbelow : below.head?.any State.keepsCodePoint = false)
    (hm : m.place = .inDigits setting 4 false below waiting (digits ++ rest) buffer 0 0) :
    m.Leads limit (.inName setting below waiting rest (c :: buffer)) := by
  obtain ⟨d, v, read, hv, hn, hlead⟩ := leads_lastDigit limit h hm
  refine hlead.trans fun m' hm' => ?_
  obtain ⟨hbuffer, hparts, hcode, -⟩ := scratch_of_inDigits hm'
  have hread : m'.scratch.codePoint * 16 + v = n := by
    rw [hcode]
    exact hn
  have hplan : m'.plan (.escapeHex 1 false) =
      .ok ⟨1, [], .nothing, { m'.scratch with codePoint := n }.keep c⟩ :=
    (plan_escapeHex (current_of_place hm')).trans (Reader.escapeDigit_character hv hread hhigh hc)
  exact leads_reading hm' rfl (by decide) hplan (.inl rfl) rfl (congrArg (c :: ·) hbuffer) hparts
    hbelow

/-- The digits of the second half of a surrogate pair. -/
theorem leads_low {n high : Nat} {c : Char} (h : HexText digits n) (hlow : Json.isLowSurrogate n)
    (hc : charOfCodePoint? (Json.joinSurrogates high n) = some c)
    (hbelow : below.head?.any State.keepsCodePoint = false)
    (hm : m.place = .inDigits setting 4 true below waiting (digits ++ rest) buffer high 0) :
    m.Leads limit (.inName setting below waiting rest (c :: buffer)) := by
  obtain ⟨d, v, read, hv, hn, hlead⟩ := leads_lastDigit limit h hm
  refine hlead.trans fun m' hm' => ?_
  obtain ⟨hbuffer, hparts, hcode, hlowCode⟩ := scratch_of_inDigits hm'
  have hread : m'.scratch.lowCodePoint * 16 + v = n := by
    rw [hlowCode rfl]
    exact hn
  have hjoin : charOfCodePoint? (Json.joinSurrogates m'.scratch.codePoint n) = some c := by
    rw [hcode]
    exact hc
  have hplan : m'.plan (.escapeHex 1 true) =
      .ok ⟨1, [], .nothing, { m'.scratch with lowCodePoint := n }.keep c⟩ :=
    (plan_escapeHex (current_of_place hm')).trans (Reader.escapeDigit_low hv hread hlow hjoin)
  exact leads_reading hm' rfl (by decide) hplan (.inl rfl) rfl (congrArg (c :: ·) hbuffer) hparts
    hbelow

/-- The last digit of the first half of a surrogate pair. -/
theorem leads_high {n : Nat} (h : HexText digits n) (hhigh : Json.isHighSurrogate n)
    (hm : m.place = .inDigits setting 4 false below waiting (digits ++ rest) buffer 0 0) :
    m.Leads limit (.inPair setting (.surrogateBackslash :: below) waiting rest buffer n) := by
  obtain ⟨d, v, read, hv, hn, hlead⟩ := leads_lastDigit limit h hm
  refine hlead.trans fun m' hm' => ?_
  obtain ⟨hbuffer, hparts, hcode, -⟩ := scratch_of_inDigits hm'
  have hread : m'.scratch.codePoint * 16 + v = n := by
    rw [hcode]
    exact hn
  have hplan : m'.plan (.escapeHex 1 false) =
      .ok ⟨1, [.surrogateBackslash], .nothing, { m'.scratch with codePoint := n }⟩ :=
    (plan_escapeHex (current_of_place hm')).trans (Reader.escapeDigit_high hv hread hhigh)
  have hmove := leads_move limit hm' rfl (by simp) hplan (.inl rfl)
  simp only [Place.after, hbuffer, hparts] at hmove
  exact hmove

/-- What stands between the halves of a surrogate pair. -/
theorem leads_halves {high : Nat}
    (hm : m.place = .inPair setting (.surrogateBackslash :: below) waiting ('\\' :: 'u' :: rest)
      buffer high) :
    m.Leads limit (.inDigits setting 4 true below waiting rest buffer high 0) := by
  have hplan : m.plan .surrogateBackslash = .ok ⟨1, [.surrogateU], .nothing, m.scratch⟩ := by
    have hcurrent : m.cursor.current = some '\\' := current_of_place hm
    simp only [Reader.plan, hcurrent]
    rfl
  have hbackslash : m.Leads limit (.inPair setting (.surrogateU :: below) waiting ('u' :: rest) buffer
      high) := by
    have hmove := leads_move limit hm rfl (by simp) hplan (.inl rfl)
    obtain ⟨hbuffer, hparts, hcode⟩ := scratch_of_inPair rfl hm
    simp only [Place.after, hbuffer, hparts, hcode] at hmove
    exact hmove
  refine hbackslash.trans fun m' hm' => ?_
  have hplan' : m'.plan .surrogateU =
      .ok ⟨1, [.escapeHex 4 true], .nothing, { m'.scratch with lowCodePoint := 0 }⟩ := by
    have hcurrent : m'.cursor.current = some 'u' := current_of_place hm'
    simp only [Reader.plan, hcurrent]
    rfl
  have hmove := leads_move limit hm' rfl (by simp) hplan' (.inl rfl)
  obtain ⟨hbuffer, hparts, hcode⟩ := scratch_of_inPair rfl hm'
  simp only [Place.after, hbuffer, hparts, hcode] at hmove
  exact hmove

/-! ## Names -/

theorem plan_quoted {c : Char} (hcurrent : m.cursor.current = some c) :
    m.plan .quoted = m.quotedText '"' .quoted .escape (some c) := by
  simp only [Reader.plan, State.skipsBlanks, Bool.false_and, Bool.false_eq_true, if_false,
    Reader.planAt, hcurrent]

/-- A character that stands for itself. -/
theorem leads_plain {c : Char} (hquote : c ≠ '"') (hbackslash : c ≠ '\\')
    (hm : m.place = .inName setting (.quoted :: below) waiting (c :: rest) buffer) :
    m.Leads limit (.inName setting (.quoted :: below) waiting rest (c :: buffer)) := by
  obtain ⟨hcurrent, hbuffer, hparts⟩ := current_of_inName hm
  have hplan : m.plan .quoted = .ok ⟨1, [.quoted], .nothing, m.scratch.keep c⟩ := by
    rw [plan_quoted hcurrent]
    exact (if_neg hquote).trans (if_neg hbackslash)
  exact leads_reading hm rfl (by decide) hplan (.inl rfl) rfl (congrArg (c :: ·) hbuffer) hparts rfl

theorem leads_backslash
    (hm : m.place = .inName setting (.quoted :: below) waiting ('\\' :: rest) buffer) :
    m.Leads limit (.inName setting (.escape :: .quoted :: below) waiting rest buffer) := by
  obtain ⟨hcurrent, hbuffer, hparts⟩ := current_of_inName hm
  have hplan : m.plan .quoted = .ok ⟨1, [.escape, .quoted], .nothing, m.scratch⟩ :=
    plan_quoted hcurrent
  exact leads_reading hm rfl (by decide) hplan (.inl rfl) rfl hbuffer hparts rfl

theorem plan_escape {c : Char} (hcurrent : m.cursor.current = some c) :
    m.plan .escape = m.escaped (some c) := by
  simp only [Reader.plan, State.skipsBlanks, Bool.false_and, Bool.false_eq_true, if_false,
    Reader.planAt, hcurrent]

/-- A letter behind a backslash. -/
theorem leads_letter {letter c : Char} (hletter : Json.simpleEscape? letter = some c)
    (hm : m.place = .inName setting (.escape :: .quoted :: below) waiting (letter :: rest) buffer) :
    m.Leads limit (.inName setting (.quoted :: below) waiting rest (c :: buffer)) := by
  obtain ⟨hcurrent, hbuffer, hparts⟩ := current_of_inName hm
  have hplan : m.plan .escape = .ok ⟨1, [], .nothing, m.scratch.keep c⟩ := by
    have hu : letter ≠ 'u' := by
      rintro rfl
      cases hletter
    rw [plan_escape hcurrent, Reader.escaped, if_neg hu, hletter]
    rfl
  exact leads_reading hm rfl (by decide) hplan (.inl rfl) rfl (congrArg (c :: ·) hbuffer) hparts rfl

/-- What stands in front of the digits of a code point. -/
theorem leads_u
    (hm : m.place = .inName setting (.escape :: .quoted :: below) waiting ('u' :: rest) buffer) :
    m.Leads limit (.inDigits setting 4 false (.quoted :: below) waiting rest buffer 0 0) := by
  obtain ⟨hcurrent, hbuffer, hparts⟩ := current_of_inName hm
  have hplan : m.plan .escape =
      .ok ⟨1, [.escapeHex 4 false], .nothing, { m.scratch with codePoint := 0 }⟩ := by
    rw [plan_escape hcurrent, Reader.escaped, if_pos rfl]
    rfl
  have hmove := leads_move limit hm rfl (by simp) hplan (.inl rfl)
  simp only [Place.after, hbuffer, hparts] at hmove
  exact hmove

/-- **`leads_quotedText`** — the characters of a name are kept one after another. -/
theorem leads_quotedText {text name : List Char} (h : QuotedText text name)
    (hm : m.place = .inName setting (.quoted :: below) waiting (text ++ rest) buffer) :
    m.Leads limit (.inName setting (.quoted :: below) waiting rest (name.reverse ++ buffer)) := by
  induction h generalizing m buffer with
  | nil => exact .refl hm
  | @plain c text name hquote hbackslash _ ih =>
      rw [List.reverse_cons, List.append_assoc]
      exact (leads_plain hquote hbackslash hm).trans fun m' hm' => ih hm'
  | @escape letter c text name hletter _ ih =>
      rw [List.reverse_cons, List.append_assoc]
      have hread : m.Leads limit (.inName setting (.quoted :: below) waiting (text ++ rest)
          (c :: buffer)) := (leads_backslash hm).trans fun m' hm' => leads_letter hletter hm'
      exact hread.trans fun m' hm' => ih hm'
  | @unicode digits text name n c hdigits hhigh hc _ ih =>
      rw [List.cons_append, List.cons_append, List.append_assoc] at hm
      rw [List.reverse_cons, List.append_assoc]
      have hopen : m.Leads limit (.inDigits setting 4 false (.quoted :: below) waiting
          (digits ++ (text ++ rest)) buffer 0 0) :=
        (leads_backslash hm).trans fun m' hm' => leads_u hm'
      have hread := hopen.trans fun m' hm' => leads_character hdigits hhigh hc rfl hm'
      exact hread.trans fun m' hm' => ih hm'
  | @pair digits digits' text name high low c hdigits hhigh hdigits' hlow hc _ ih =>
      rw [List.cons_append, List.cons_append, List.append_assoc, List.cons_append, List.cons_append,
        List.append_assoc] at hm
      rw [List.reverse_cons, List.append_assoc]
      have hopen : m.Leads limit (.inDigits setting 4 false (.quoted :: below) waiting
          (digits ++ '\\' :: 'u' :: (digits' ++ (text ++ rest))) buffer 0 0) :=
        (leads_backslash hm).trans fun m' hm' => leads_u hm'
      have hfirst := hopen.trans fun m' hm' => leads_high hdigits hhigh hm'
      have hsecond := hfirst.trans fun m' hm' => leads_halves hm'
      have hread := hsecond.trans fun m' hm' => leads_low hdigits' hlow hc rfl hm'
      exact hread.trans fun m' hm' => ih hm'

/-- **`leads_quotedName`** — a name and the quote behind it. -/
theorem leads_quotedName {text name : List Char} {s : State} (h : QuotedText text name)
    (hs : s.keepsCodePoint = false)
    (hm : m.place = .between setting (.quoted :: s :: below) waiting (text ++ '"' :: rest)) :
    m.Leads limit (.inName setting (s :: below) waiting rest name.reverse) := by
  have hname : m.Leads limit (.inName setting (.quoted :: s :: below) waiting ('"' :: rest)
      (name.reverse ++ [])) := leads_quotedText h hm
  refine hname.trans fun m' hm' => ?_
  obtain ⟨hcurrent, hbuffer, hparts⟩ := current_of_inName hm'
  have hplan : m'.plan .quoted = .ok ⟨1, [], .nothing, m'.scratch⟩ :=
    plan_quoted hcurrent
  rw [List.append_nil] at hbuffer
  exact leads_reading hm' rfl (by decide) hplan (.inl rfl) rfl hbuffer hparts hs

end Expr.Machine

end JsonQuery
