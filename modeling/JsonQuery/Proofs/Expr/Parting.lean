/-
# JsonQuery.Proofs.Expr.Parting — where the plans for a text and for its beginning part.

As long as something is left of the beginning, nearly every state decides on the next character alone,
and the same move is planned for the beginning as for the whole text.  Four states look further ahead.
A name and a number are read as far as they go, a backslash in a literal looks for a grave accent, and
the first character in a bracket for what tells a wildcard or an index from a list.
-/
import JsonQuery.Proofs.Expr.Matching
import JsonQuery.Proofs.Expr.TextEnd

namespace JsonQuery

/-! ## Texts that go on -/

/-- The same place in a text that goes on. -/
def Text.Cursor.followedBy (c : Cursor) (tail : List Char) : Cursor :=
  { c with rest := c.rest ++ tail }

namespace Text.Cursor

variable {c : Cursor} {tail : List Char}

theorem start_append (text rest : String) :
    start (text ++ rest) = (start text).followedBy rest.toList := by
  rw [start, String.toList_append]
  rfl

theorem current_followedBy (h : c.rest ≠ []) : (c.followedBy tail).current = c.current := by
  obtain ⟨ch, rest, hrest⟩ := List.exists_cons_of_ne_nil h
  rw [current, followedBy, current, hrest]
  rfl

theorem peek_followedBy {n : Nat} (h : n < c.rest.length) : (c.followedBy tail).peek n = c.peek n :=
  List.getElem?_append_left h

theorem advanceBy_followedBy {n : Nat} (h : n ≤ c.rest.length) :
    (c.followedBy tail).advanceBy n = (c.advanceBy n).followedBy tail := by
  induction n generalizing c with
  | zero => rfl
  | succ n ih =>
      obtain ⟨rest, offset, position⟩ := c
      cases rest with
      | nil => simp at h
      | cons ch rest =>
          refine ih (c := ⟨rest, offset + 1, position.advance ch⟩) ?_
          simpa using h

end Text.Cursor

namespace Expr

open Text (Cursor Position isBlank isIdentifierPart isAsciiDigit)
open Reader (expressionThen)

/-- The same reader in a text that goes on. -/
def Reader.followedBy (r : Reader) (tail : List Char) : Reader :=
  { r with cursor := r.cursor.followedBy tail }

namespace Reader

variable {r : Reader} {tail : List Char} {s : State} {move : Move}

/-! ## Where plans part -/

/-- **`r.Parts tail s`** — ways in which the plan at `r` in state `s` is another one when the text
goes on with `tail`: what is read reaches up to the end, a sign is all there is of a number, or a
bracket is taken for a list. -/
inductive Parts (r : Reader) (tail : List Char) : State → Prop where
  | short {s : State} {next : List State} {scratch : Scratch} :
      r.plan s = .ok ⟨r.cursor.rest.length, next, .nothing, scratch⟩ →
      (next = [s] ∧ s.mistakesEnd = false ∨ next = [] ∧ s ≠ .jsonText) → Parts r tail s
  | sign : r.cursor.rest = ['-'] → tail.head?.any isAsciiDigit → Parts r tail .number
  | list : r.plan .bracketOperand =
        .ok ⟨0, expressionThen .listEnd, .token (.opening (.list false)), r.scratch⟩ →
      (r.cursor.rest = ['-'] ∨ ∃ blanks, r.cursor.rest = '*' :: blanks ∧ ∀ c ∈ blanks, isBlank c) →
      Parts r tail .bracketOperand

theorem escapeDigit_congr {r r' : Reader} (hscratch : r'.scratch = r.scratch)
    (hposition : r'.cursor.position = r.cursor.position) (remaining : Nat) (low : Bool)
    (ch : Option Char) : r'.escapeDigit remaining low ch = r.escapeDigit remaining low ch := by
  have hfail : ∀ cause : ParseError.Cause, r'.fail (α := Move) cause = r.fail cause := by
    intro cause
    rw [fail, fail, hposition]
  have hkeep : ∀ scratch n, r'.keepCodePoint scratch n = r.keepCodePoint scratch n := by
    intro scratch n
    rw [keepCodePoint, keepCodePoint, hfail]
  unfold escapeDigit
  rw [hscratch]
  simp only [hfail, hkeep]

/-- Where no more than the next character decides, what follows it makes no difference. -/
theorem planAt_followedBy (hs : s.looksAhead = false) (ch : Option Char) :
    (r.followedBy tail).planAt ch s = r.planAt ch s := by
  cases s with
  | identifier | jsonText | bracketOperand | number => cases hs
  | operand | afterOperand | afterDot | bracketStep => cases ch <;> rfl
  | escapeHex remaining low =>
      show (r.followedBy tail).escapeDigit remaining low ch = r.escapeDigit remaining low ch
      refine escapeDigit_congr ?_ ?_ remaining low ch <;> rfl
  | _ => rfl

theorem restOfIdentifier_parts (h : (r.followedBy tail).restOfIdentifier = .ok move) :
    r.restOfIdentifier = .ok move ∨ Parts r tail .identifier := by
  have happend : (r.followedBy tail).cursor.rest.takeWhile isIdentifierPart =
      if (r.cursor.rest.takeWhile isIdentifierPart).length = r.cursor.rest.length then
        r.cursor.rest ++ tail.takeWhile isIdentifierPart
      else r.cursor.rest.takeWhile isIdentifierPart := List.takeWhile_append
  by_cases hall : (r.cursor.rest.takeWhile isIdentifierPart).length = r.cursor.rest.length
  · have hplan : r.plan .identifier = r.restOfIdentifier := rfl
    rw [restOfIdentifier, hall] at hplan
    exact .inr (.short hplan (.inr ⟨rfl, by decide⟩))
  · rw [if_neg hall] at happend
    rw [restOfIdentifier, happend] at h
    exact .inl h

theorem literalText_parts {c : Char} {rest : List Char} (hrest : r.cursor.rest = c :: rest)
    (h : (r.followedBy tail).literalText (some c) = .ok move) :
    r.literalText (some c) = .ok move ∨ Parts r tail .jsonText := by
  by_cases hquote : c = '\x60'
  · subst hquote
    exact .inl h
  cases rest with
  | nil =>
      -- A backslash may be the first half of an escape, but at the end it is not.
      have hcurrent : r.cursor.current = some c := by rw [Cursor.current, hrest]; rfl
      have hpeek : r.cursor.peek 1 = none := by rw [Cursor.peek, hrest]; rfl
      have hplan : r.plan .jsonText =
          .ok ⟨r.cursor.rest.length, [.jsonText], .nothing, r.scratch.keep c⟩ := by
        show r.literalText r.cursor.current = _
        rw [hcurrent, literalText, if_neg hquote, hpeek, hrest]
        simp [note]
      exact .inr (.short hplan (.inl ⟨rfl, rfl⟩))
  | cons d rest =>
      have hpeek : (r.followedBy tail).cursor.peek 1 = r.cursor.peek 1 :=
        Cursor.peek_followedBy (by rw [hrest]; simp)
      rw [literalText, hpeek] at h
      exact .inl h

/-- A star asks for what follows it beyond blanks, and a minus for what follows it. -/
theorem bracketOperand_parts {c : Char} {rest : List Char} (hrest : r.cursor.rest = c :: rest)
    (h : (r.followedBy tail).bracketOperand (some c) = .ok move) :
    r.bracketOperand (some c) = .ok move ∨ Parts r tail .bracketOperand := by
  have hcurrent : r.cursor.current = some c := by rw [Cursor.current, hrest]; rfl
  have hplan : isBlank c = false → r.plan .bracketOperand = r.bracketOperand (some c) := by
    intro hc
    simp [plan, planAt, hcurrent, hc]
  by_cases hminus : c = '-' ∧ rest = []
  · obtain ⟨rfl, rfl⟩ := hminus
    have hpeek : r.cursor.peek 1 = none := by rw [Cursor.peek, hrest]; rfl
    refine .inr (.list ?_ (.inl hrest))
    rw [hplan rfl, bracketOperand, hpeek]
    rfl
  by_cases hstar : c = '*' ∧ ∀ b ∈ rest, isBlank b
  · obtain ⟨rfl, hblanks⟩ := hstar
    have hpeek : r.cursor.peekSignificant = none := by
      rw [Cursor.peekSignificant, hrest]
      exact List.find?_eq_none.mpr fun b hb => by simp [hblanks b hb]
    refine .inr (.list ?_ (.inr ⟨rest, hrest, hblanks⟩))
    rw [hplan rfl, bracketOperand, hpeek]
    rfl
  -- Otherwise what they ask for stands in the beginning.
  have hsignificant : (c = '*' && (r.followedBy tail).cursor.peekSignificant == some ']') =
      (c = '*' && r.cursor.peekSignificant == some ']') := by
    by_cases hc : c = '*'
    · have hfound : (rest.find? (!isBlank ·)).isSome := by
        simpa [List.find?_isSome, hc] using hstar
      have happend : (r.followedBy tail).cursor.peekSignificant =
          (rest ++ tail).find? (!isBlank ·) := by
        show ((r.cursor.rest ++ tail).drop 1).find? _ = _
        rw [hrest]
        rfl
      rw [happend, List.find?_append, Option.or_of_isSome hfound, Cursor.peekSignificant, hrest]
      rfl
    · simp [hc]
  have hdigit : (c = '-' && ((r.followedBy tail).cursor.peek 1).any isAsciiDigit) =
      (c = '-' && (r.cursor.peek 1).any isAsciiDigit) := by
    by_cases hc : c = '-'
    · have hne : rest ≠ [] := fun hnil => hminus ⟨hc, hnil⟩
      have hlength : 1 < r.cursor.rest.length := by
        rw [hrest, List.length_cons]
        exact Nat.succ_lt_succ (List.length_pos_iff.mpr hne)
      have hpeek : (r.followedBy tail).cursor.peek 1 = r.cursor.peek 1 :=
        Cursor.peek_followedBy hlength
      rw [hpeek]
    · simp [hc]
  rw [bracketOperand, hsignificant, hdigit] at h
  exact .inl h

/-- The number of a sign and digits. -/
def signedNumber (negative : Bool) (digits : List Char) : Int :=
  let n : Int := digits.foldl (fun acc c => acc * 10 + Json.digitValue c) 0
  if negative then -n else n

theorem inIndexRange_iff {n : Int} :
    inIndexRange n ↔ -0x8000000000000000 ≤ n ∧ n < 0x8000000000000000 := by
  simp [inIndexRange]

/-- More digits make a number no smaller. -/
theorem le_foldl_digitValue (digits : List Char) {n : Int} (hn : 0 ≤ n) :
    n ≤ digits.foldl (fun (acc : Int) c => acc * 10 + Json.digitValue c) n := by
  induction digits generalizing n with
  | nil => exact Int.le_refl n
  | cons c digits ih =>
      have hstep : n ≤ n * 10 + Json.digitValue c := by omega
      exact Int.le_trans hstep (ih (Int.le_trans hn hstep))

/-- The first digits of a number that is in the range of indices are in it as well. -/
theorem inIndexRange_of_append {negative : Bool} {digits more : List Char}
    (h : inIndexRange (signedNumber negative (digits ++ more))) :
    inIndexRange (signedNumber negative digits) := by
  have hdigits := le_foldl_digitValue digits (Int.le_refl 0)
  have hmore := le_foldl_digitValue more hdigits
  rw [inIndexRange_iff, signedNumber, List.foldl_append] at h
  rw [inIndexRange_iff, signedNumber]
  -- More digits take a number away from zero, on whichever side it is.
  cases negative with
  | true =>
      simp only [if_true] at h ⊢
      omega
  | false =>
      simp only [Bool.false_eq_true, if_false] at h ⊢
      omega

/-- What an integer is read from, and what is kept of it. -/
theorem readNumber_eq_ok : r.readNumber = .ok move ↔ ∃ negative digits,
    (r.cursor.current == some '-') = negative ∧
    (r.cursor.rest.drop negative.toNat).takeWhile isAsciiDigit = digits ∧ digits ≠ [] ∧
    inIndexRange (signedNumber negative digits) ∧
    move = ⟨negative.toNat + digits.length, [], .nothing,
      { r.scratch with parts := r.scratch.parts.fill (signedNumber negative digits) }⟩ := by
  have hsign : ∀ negative : Bool, (if negative then 1 else 0) = negative.toNat := by decide
  have hunfold : r.readNumber =
      let negative := r.cursor.current == some '-'
      let digits := (r.cursor.rest.drop negative.toNat).takeWhile isAsciiDigit
      let n := signedNumber negative digits
      let width := negative.toNat + digits.length
      let invalid := .error ⟨.invalidNumber, (r.cursor.advanceBy width).position⟩
      if digits.isEmpty then invalid
      else if inIndexRange n then
        note { r.scratch with parts := r.scratch.parts.fill n } width []
      else invalid := by
    unfold readNumber
    simp only [hsign]
    rfl
  rw [hunfold]
  simp only
  generalize hnegative : (r.cursor.current == some '-') = negative
  generalize hdigits : (r.cursor.rest.drop negative.toNat).takeWhile isAsciiDigit = digits
  constructor
  · intro h
    split at h
    · cases h
    · split at h
      · rename_i hempty hrange
        refine ⟨negative, digits, rfl, hdigits, ?_, hrange, note_ok h⟩
        rintro rfl
        exact hempty rfl
      · cases h
  · rintro ⟨_, _, rfl, rfl, hne, hrange, rfl⟩
    rw [hdigits] at hne hrange ⊢
    rw [if_neg (by simpa using hne)]
    exact if_pos hrange

/-- Where nothing is left behind the sign, there is only the sign. -/
theorem rest_of_drop_sign {negative : Bool} (hrest : r.cursor.rest ≠ [])
    (hnegative : (r.cursor.current == some '-') = negative)
    (hnil : r.cursor.rest.drop negative.toNat = []) : r.cursor.rest = ['-'] := by
  obtain ⟨c, rest, hcons⟩ := List.exists_cons_of_ne_nil hrest
  rw [hcons] at hnil
  cases negative with
  | false => cases hnil
  | true =>
      obtain rfl : rest = [] := hnil
      obtain rfl : c = '-' := by simpa [Cursor.current, hcons] using hnegative
      exact hcons

/-- The digits may go on behind the beginning, or start there. -/
theorem readNumber_parts (hrest : r.cursor.rest ≠ [])
    (h : (r.followedBy tail).readNumber = .ok move) :
    r.readNumber = .ok move ∨ Parts r tail .number := by
  obtain ⟨negative, digits, hnegative, hdigits, hne, hrange, hmove⟩ := readNumber_eq_ok.mp h
  have hcurrent : (r.cursor.current == some '-') = negative := by
    rw [← hnegative, followedBy, Cursor.current_followedBy hrest]
  have hsign : negative.toNat ≤ r.cursor.rest.length := by
    have hpos := List.length_pos_iff.mpr hrest
    cases negative with
    | false => exact Nat.zero_le _
    | true => exact hpos
  have hdrop : (r.followedBy tail).cursor.rest.drop negative.toNat =
      r.cursor.rest.drop negative.toNat ++ tail := List.drop_append_of_le_length hsign
  rw [hdrop, List.takeWhile_append] at hdigits
  split at hdigits
  · rename_i hall
    have hself : (r.cursor.rest.drop negative.toNat).takeWhile isAsciiDigit =
        r.cursor.rest.drop negative.toNat :=
      (List.takeWhile_prefix _).eq_of_length hall
    refine .inr ?_
    by_cases hnil : r.cursor.rest.drop negative.toNat = []
    · -- The digits of the whole text stand behind the beginning.
      rw [hnil, List.nil_append] at hdigits
      rw [← hdigits] at hne
      exact .sign (rest_of_drop_sign hrest hcurrent hnil) (Text.any_head_of_takeWhile_ne_nil hne)
    · have hplan : r.plan .number = r.readNumber := rfl
      have hwidth : negative.toNat + (r.cursor.rest.drop negative.toNat).length =
          r.cursor.rest.length := by
        rw [List.length_drop]
        omega
      rw [← hdigits] at hrange
      rw [readNumber_eq_ok.mpr ⟨negative, _, hcurrent, hself, hnil, inIndexRange_of_append hrange,
        rfl⟩, hwidth] at hplan
      exact .short hplan (.inr ⟨rfl, by decide⟩)
  · exact .inl (readNumber_eq_ok.mpr ⟨negative, digits, hcurrent, hdigits, hne, hrange, hmove⟩)

/-- **`plan_parts`** — as long as something is left of the beginning, the same move is planned for it
as for the whole text, or the plans part in one of these ways. -/
theorem plan_parts (hrest : r.cursor.rest ≠ []) (h : (r.followedBy tail).plan s = .ok move) :
    r.plan s = .ok move ∨ Parts r tail s := by
  obtain ⟨c, rest, hcons⟩ := List.exists_cons_of_ne_nil hrest
  have hcurrent : r.cursor.current = some c := by rw [Cursor.current, hcons]; rfl
  have hcurrent' : (r.followedBy tail).cursor.current = some c :=
    (Cursor.current_followedBy hrest).trans hcurrent
  unfold plan at h ⊢
  simp only [hcurrent, hcurrent'] at h ⊢
  by_cases hblank : s.skipsBlanks && isBlank c
  · rw [Option.any_some, if_pos hblank] at h ⊢
    exact .inl h
  rw [Option.any_some, if_neg hblank] at h ⊢
  by_cases hs : s.looksAhead
  · cases s with
    | identifier => exact restOfIdentifier_parts h
    | jsonText => exact literalText_parts hcons h
    | bracketOperand => exact bracketOperand_parts hcons h
    | number => exact readNumber_parts hrest h
    | _ => cases hs
  · rw [planAt_followedBy (Bool.eq_false_iff.mpr hs)] at h
    exact .inl h

end Reader

end Expr

end JsonQuery
