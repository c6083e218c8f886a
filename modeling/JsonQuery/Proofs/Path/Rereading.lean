/-
# JsonQuery.Proofs.Path.Rereading — reading a normalized path.

A normalized path is written step by step, and the reader of paths takes it apart again step by step.
`Reads` says of a reader that from a given text it goes on, to what and to where; what remains of the
text is all that the next reader depends on, so that what is read of a name or an index is said
without what follows it.
-/
import JsonQuery.Proofs.Path.Reading
import JsonQuery.Proofs.Json.Pointer
import JsonQuery.Proofs.Text.Cursor
import JsonQuery.Path.Location
import Mathlib.Data.List.TakeWhile
import Mathlib.Tactic.SplitIfs

namespace JsonQuery

namespace Location.Element

/-- The step of a path that leads where the step of a location leads. -/
def toStep : Location.Element → Path.Step
  | .index i => .index i
  | .name s => .name s

/-- Whether an index is in the range of the integers of paths; names are not limited. -/
def isSmall : Location.Element → Bool
  | .index i => i < 0x8000000000000000
  | .name _ => true

end Location.Element

namespace Path

open Text (isBlank isAsciiDigit)
open Location (Element)

/-- What the further course of a reader depends on: the rest of the text, the depth, and how many
root signs there were. -/
structure Spot where
  text : List Char
  depth : Nat
  roots : Nat

/-- Where a reader is, its position in the text aside. -/
def Reading.spot (r : Reading) : Spot := ⟨r.cursor.rest, r.depth, r.roots⟩

namespace Reader

variable {α β : Type} {g : Registry} {p q s : Spot} {text rest : List Char} {depth roots : Nat}

/-! ## Going on -/

/-- **`Reads x g p a q`** — from `p`, `x` reads `a` and then is at `q`. -/
def Reads (x : Reader α) (g : Registry) (p : Spot) (a : α) (q : Spot) : Prop :=
  ∀ r, r.spot = p → ∃ r', x g r = .ok (a, r') ∧ r'.spot = q

namespace Reads

theorem pure (a : α) : Reads (Pure.pure a) g p a p := fun r hr => ⟨r, rfl, hr⟩

theorem bind {x : Reader α} {f : α → Reader β} {a : α} {b : β} (hx : Reads x g p a q)
    (hf : Reads (f a) g q b s) : Reads (x >>= f) g p b s := by
  intro r hr
  obtain ⟨r', hrun, hr'⟩ := hx r hr
  obtain ⟨r'', hrest, hr''⟩ := hf r' hr'
  exact ⟨r'', bind_eq_ok.mpr ⟨a, r', hrun, hrest⟩, hr''⟩

theorem get_bind {f : Reading → Reader β} {b : β} (h : ∀ r, r.spot = p → Reads (f r) g p b q) :
    Reads (get >>= f) g p b q := fun r hr => h r hr r hr

theorem current_bind {f : Option Char → Reader β} {b : β}
    (h : Reads (f text.head?) g ⟨text, depth, roots⟩ b q) :
    Reads (current >>= f) g ⟨text, depth, roots⟩ b q := by
  intro r hr
  obtain rfl : r.cursor.rest = text := congrArg Spot.text hr
  exact h r hr

theorem next_bind {f : Option Char → Reader β} {b : β}
    (h : Reads (f text[1]?) g ⟨text, depth, roots⟩ b q) :
    Reads (next >>= f) g ⟨text, depth, roots⟩ b q := by
  intro r hr
  obtain rfl : r.cursor.rest = text := congrArg Spot.text hr
  exact h r hr

theorem ite_pos {c : Prop} [Decidable c] {x y : Reader α} {a : α} (hc : c) (h : Reads x g p a q) :
    Reads (if c then x else y) g p a q := by
  rwa [if_pos hc]

theorem ite_neg {c : Prop} [Decidable c] {x y : Reader α} {a : α} (hc : ¬ c) (h : Reads y g p a q) :
    Reads (if c then x else y) g p a q := by
  rwa [if_neg hc]

/-- A reader that does nothing but change the reading. -/
theorem modify {f : Reading → Reading} (h : ∀ r, r.spot = p → (f r).spot = q) :
    Reads (modify f) g p () q := fun r hr => ⟨f r, rfl, h r hr⟩

theorem set {r' : Reading} (h : r'.spot = q) : Reads (set r') g p () q := fun _ _ => ⟨r', rfl, h⟩

theorem setDepth (depth' : Nat) :
    Reads (setDepth depth') g ⟨text, depth, roots⟩ () ⟨text, depth', roots⟩ :=
  modify fun r hr => by
    obtain ⟨rfl, -, rfl⟩ := Spot.mk.inj hr
    rfl

theorem advance {c : Char} : Reads advance g ⟨c :: rest, depth, roots⟩ () ⟨rest, depth, roots⟩ :=
  modify fun r hr => by
    obtain ⟨htext, rfl, rfl⟩ := Spot.mk.inj hr
    rw [Reading.spot, Text.Cursor.advance_rest, htext]
    rfl

theorem demand {c : Char} :
    Reads demand g ⟨c :: rest, depth, roots⟩ c ⟨c :: rest, depth, roots⟩ :=
  current_bind (pure c)

theorem readWhile {accept : Char → Bool} {run : List Char} (hrun : run.all accept = true)
    (hrest : rest.head?.any accept = false) :
    Reads (readWhile accept) g ⟨run ++ rest, depth, roots⟩ run ⟨rest, depth, roots⟩ := by
  intro r hr
  obtain ⟨htext, rfl, rfl⟩ := Spot.mk.inj hr
  have htake : r.cursor.rest.takeWhile accept = run := by
    rw [htext, Text.takeWhile_append hrest, List.takeWhile_eq_self_iff]
    exact List.all_eq_true.mp hrun
  refine ⟨{ r with cursor := r.cursor.advanceBy run.length }, ?_, ?_⟩
  · change Except.ok ((r.cursor.readWhile accept).1,
      { r with cursor := (r.cursor.readWhile accept).2 }) = _
    rw [Text.Cursor.readWhile, htake]
  · rw [Reading.spot, Text.Cursor.advanceBy_rest, htext, List.drop_left]

theorem skipBlanks (h : text.head?.any isBlank = false) :
    Reads skipBlanks g ⟨text, depth, roots⟩ () ⟨text, depth, roots⟩ :=
  modify fun r hr => by
    obtain ⟨rfl, rfl, rfl⟩ := Spot.mk.inj hr
    have htake : ([] ++ r.cursor.rest).takeWhile isBlank = [] := Text.takeWhile_append h
    rw [List.nil_append] at htake
    rw [Reading.spot, Text.Cursor.skipBlanks, Text.Cursor.readWhile, htake]
    rfl

end Reads

/-! ## Names -/

/-- **`NameText c text`** — the ways to write a character of a name: as it is, with a letter that
stands for it, or, if it is a control character, with its number. -/
inductive NameText (c : Char) : List Char → Prop where
  | plain : c ≠ '\'' → c ≠ '\\' → NameText c [c]
  | letter {l : Char} : letterEscape? l = some c → l ≠ 'u' → NameText c ['\\', l]
  | number : c.toNat < 0x20 → NameText c ['\\', 'u', '0', '0',
      Text.lowerHexDigit (c.toNat / 16), Text.lowerHexDigit (c.toNat % 16)]

theorem nameText_escapeNameChar (c : Char) : NameText c (Location.escapeNameChar c) := by
  unfold Location.escapeNameChar
  split_ifs with hquote hbackslash hbackspace hfeed hnewline hreturn htab hcontrol
  · subst hquote
    exact .letter rfl (by decide)
  · subst hbackslash
    exact .letter rfl (by decide)
  · subst hbackspace
    exact .letter rfl (by decide)
  · subst hfeed
    exact .letter rfl (by decide)
  · subst hnewline
    exact .letter rfl (by decide)
  · subst hreturn
    exact .letter rfl (by decide)
  · subst htab
    exact .letter rfl (by decide)
  · exact .number hcontrol
  · exact .plain hquote hbackslash

theorem hexDigit?_lowerHexDigit {n : Nat} (h : n < 16) :
    Text.hexDigit? (Text.lowerHexDigit n) = some n := by
  revert n
  decide

theorem charOfCodePoint?_toNat (c : Char) : Text.charOfCodePoint? c.toNat = some c := by
  have hvalid : c.toNat.isValidChar := c.valid
  rw [Text.charOfCodePoint?, dif_pos hvalid]
  rfl

theorem reads_hexDigit {d : Char} {v n value result : Nat} (hd : Text.hexDigit? d = some v)
    (h : Reads (hexDigits n (value * 16 + v)) g ⟨rest, depth, roots⟩ result q) :
    Reads (hexDigits (n + 1) value) g ⟨d :: rest, depth, roots⟩ result q := by
  unfold hexDigits
  refine .current_bind ?_
  simp only [List.head?_cons, Option.bind_some, hd]
  exact Reads.advance.bind h

/-- The number of a control character is read back as the character. -/
theorem reads_unicodeEscape {c : Char} (hc : c.toNat < 0x20) :
    Reads unicodeEscape g ⟨'0' :: '0' :: Text.lowerHexDigit (c.toNat / 16)
      :: Text.lowerHexDigit (c.toNat % 16) :: rest, depth, roots⟩ c ⟨rest, depth, roots⟩ := by
  have hdigits : Reads (hexDigits 4 0) g ⟨'0' :: '0' :: Text.lowerHexDigit (c.toNat / 16)
      :: Text.lowerHexDigit (c.toNat % 16) :: rest, depth, roots⟩ c.toNat ⟨rest, depth, roots⟩ := by
    refine reads_hexDigit (v := 0) (by decide) (reads_hexDigit (v := 0) (by decide) ?_)
    refine reads_hexDigit (hexDigit?_lowerHexDigit (by omega)) ?_
    refine reads_hexDigit (hexDigit?_lowerHexDigit (by omega)) ?_
    have hvalue : (((0 * 16 + 0) * 16 + 0) * 16 + c.toNat / 16) * 16 + c.toNat % 16 = c.toNat := by
      omega
    rw [hvalue]
    exact .pure _
  have hhigh : Json.isHighSurrogate c.toNat = false := by
    rw [Json.isHighSurrogate, Bool.and_eq_false_iff]
    exact .inl (decide_eq_false (by omega))
  unfold unicodeEscape
  refine hdigits.bind ?_
  simp only [hhigh, Bool.false_eq_true, if_false]
  refine (Reads.pure c.toNat).bind ?_
  rw [charOfCodePoint?_toNat]
  exact .pure c

/-- **`reads_nameText`** — one written character of a name is read as the character. -/
theorem reads_nameText {c : Char} {written chars : List Char} {fuel : Nat} (hc : NameText c written)
    (h : Reads (quotedRest '\'' fuel) g ⟨rest, depth, roots⟩ chars q) :
    Reads (quotedRest '\'' (fuel + 1)) g ⟨written ++ rest, depth, roots⟩ (c :: chars) q := by
  unfold quotedRest
  cases hc with
  | plain hquote hbackslash =>
      refine Reads.demand.bind (Reads.advance.bind ?_)
      rw [if_neg hquote, if_neg hbackslash]
      exact h.bind (.pure _)
  | @letter l hl hu =>
      refine Reads.demand.bind (Reads.advance.bind ?_)
      rw [if_neg (by decide), if_pos rfl]
      have hescape : Reads escape g ⟨l :: rest, depth, roots⟩ c ⟨rest, depth, roots⟩ := by
        unfold escape
        refine Reads.demand.bind ?_
        rw [if_neg hu, hl]
        exact Reads.advance.bind (.pure c)
      exact hescape.bind (h.bind (.pure _))
  | number hcontrol =>
      refine Reads.demand.bind (Reads.advance.bind ?_)
      rw [if_neg (by decide), if_pos rfl]
      have hescape : Reads escape g ⟨'u' :: '0' :: '0' :: Text.lowerHexDigit (c.toNat / 16)
          :: Text.lowerHexDigit (c.toNat % 16) :: rest, depth, roots⟩ c ⟨rest, depth, roots⟩ := by
        unfold escape
        refine Reads.demand.bind ?_
        rw [if_pos rfl]
        exact Reads.advance.bind (reads_unicodeEscape hcontrol)
      exact hescape.bind (h.bind (.pure _))

theorem length_pos_of_nameText {c : Char} {written : List Char} (h : NameText c written) :
    0 < written.length := by
  cases h <;> simp

/-- The written characters of a name are read as the name, up to the closing quote. -/
theorem reads_quotedRest (name : List Char) {fuel : Nat} (hfuel : name.length < fuel) :
    Reads (quotedRest '\'' fuel) g
      ⟨name.flatMap Location.escapeNameChar ++ '\'' :: rest, depth, roots⟩ name
      ⟨rest, depth, roots⟩ := by
  induction name generalizing fuel with
  | nil =>
      obtain ⟨fuel, rfl⟩ := Nat.exists_eq_succ_of_ne_zero (Nat.ne_of_gt hfuel)
      unfold quotedRest
      refine Reads.demand.bind (Reads.advance.bind ?_)
      rw [if_pos rfl]
      exact .pure _
  | cons c name ih =>
      obtain ⟨fuel, rfl⟩ := Nat.exists_eq_succ_of_ne_zero (Nat.ne_of_gt (Nat.zero_lt_of_lt hfuel))
      rw [List.flatMap_cons, List.append_assoc]
      exact reads_nameText (nameText_escapeNameChar c) (ih (by simpa using hfuel))

theorem length_le_flatMap_escapeNameChar (name : List Char) :
    name.length ≤ (name.flatMap Location.escapeNameChar).length := by
  induction name with
  | nil => exact Nat.le_refl 0
  | cons c name ih =>
      have hpos := length_pos_of_nameText (nameText_escapeNameChar c)
      rw [List.flatMap_cons, List.length_append, List.length_cons]
      omega

theorem reads_quoted (name : String) :
    Reads (quoted '\'') g ⟨'\'' :: (name.toList.flatMap Location.escapeNameChar ++ '\'' :: rest),
      depth, roots⟩ name ⟨rest, depth, roots⟩ := by
  unfold quoted
  refine Reads.advance.bind (.get_bind fun r hr => ?_)
  have hlength := length_le_flatMap_escapeNameChar name.toList
  have htext : r.cursor.rest = name.toList.flatMap Location.escapeNameChar ++ '\'' :: rest :=
    congrArg Spot.text hr
  have hread : Reads (quotedRest '\'' (r.cursor.rest.length + 1)) g
      ⟨name.toList.flatMap Location.escapeNameChar ++ '\'' :: rest, depth, roots⟩ name.toList
      ⟨rest, depth, roots⟩ := by
    refine reads_quotedRest name.toList ?_
    rw [htext, List.length_append]
    omega
  refine hread.bind ?_
  rw [String.ofList_toList]
  exact .pure name

/-! ## Indices -/

theorem any_isAsciiDigit_bracket (rest : List Char) :
    (']' :: rest).head?.any isAsciiDigit = false := rfl

theorem exists_toString_eq_cons (i : Nat) :
    ∃ c digits, (toString i).toList = c :: digits ∧ isAsciiDigit c = true := by
  obtain ⟨c, digits, hdigits⟩ := List.exists_cons_of_ne_nil
    (Json.toList_toString i ▸ Nat.toDigits_ne_nil : (toString i).toList ≠ [])
  exact ⟨c, digits, hdigits, Json.isAsciiDigit_of_mem_toString (hdigits ▸ List.mem_cons_self)⟩

theorem ne_of_isAsciiDigit {c d : Char} (hc : isAsciiDigit c = true) (hd : isAsciiDigit d = false) :
    c ≠ d := by
  rintro rfl
  rw [hc] at hd
  cases hd

/-- The digits of an index are read as the index, in brackets. -/
theorem reads_integer {i : Nat} (hi : i < 0x8000000000000000) :
    Reads integer g ⟨(toString i).toList ++ ']' :: rest, depth, roots⟩ i
      ⟨']' :: rest, depth, roots⟩ := by
  obtain ⟨c, digits, hdigits, hc⟩ := exists_toString_eq_cons i
  have hhead : ((toString i).toList ++ ']' :: rest).head? = some c := by
    rw [hdigits]
    rfl
  have hminus : some c ≠ some '-' := fun h => ne_of_isAsciiDigit hc (by decide) (Option.some.inj h)
  have hrun : (toString i).toList.all isAsciiDigit = true :=
    List.all_eq_true.mpr fun c => Json.isAsciiDigit_of_mem_toString
  unfold integer
  refine .current_bind ?_
  rw [hhead]
  simp only [hminus, if_false]
  refine (Reads.readWhile hrun (any_isAsciiDigit_bracket rest)).bind ?_
  have hempty : (toString i).toList.isEmpty = false := by
    rw [hdigits]
    rfl
  rw [hempty, Json.value_toString]
  simp only [Bool.false_eq_true, if_false]
  rw [if_pos (by omega)]
  exact .pure _

theorem reads_indexOrSlice {i : Nat} (hi : i < 0x8000000000000000) :
    Reads indexOrSlice g ⟨(toString i).toList ++ ']' :: rest, depth, roots⟩ (.index i)
      ⟨']' :: rest, depth, roots⟩ := by
  obtain ⟨c, digits, hdigits, hc⟩ := exists_toString_eq_cons i
  have hhead : ((toString i).toList ++ ']' :: rest).head? = some c := by
    rw [hdigits]
    rfl
  have hinteger : Reads integer? g ⟨(toString i).toList ++ ']' :: rest, depth, roots⟩
      (some (i : Int)) ⟨']' :: rest, depth, roots⟩ := by
    unfold integer?
    refine (Reads.skipBlanks ?_).bind (.current_bind ?_)
    · rw [hhead]
      exact Text.isBlank_of_isAsciiDigit hc
    · rw [hhead]
      simp only [hc, Bool.or_true, if_true]
      exact (reads_integer hi).bind (.pure _)
  unfold indexOrSlice
  refine hinteger.bind ((Reads.skipBlanks rfl).bind (.current_bind ?_))
  exact .ite_pos rfl (.pure _)

/-! ## Paths -/

/-- Behind a step in brackets, the closing one ends them. -/
theorem reads_bracketEnd (fuel : Nat) (step : Step) : Reads (do
      skipBlanks
      let c ← demand
      if c = ',' then do
        advance
        brackets fuel [step]
      else if c = ']' then do
        advance
        return if ([] : List Step).isEmpty then step else .union [step].reverse
      else fail .expectedRightBracket) g ⟨']' :: rest, depth, roots⟩ step ⟨rest, depth, roots⟩ :=
  (Reads.skipBlanks rfl).bind (Reads.demand.bind
    (.ite_neg (by decide) (.ite_pos rfl (Reads.advance.bind (.pure step)))))

/-- What stands in brackets is read as the step that is written there. -/
theorem reads_brackets {e : Element} (he : e.isSmall = true) (fuel : Nat) :
    ∃ inside, e.normalized = '[' :: inside ∧ ∀ rest depth roots, Reads (brackets (fuel + 1) []) g
      ⟨inside ++ rest, depth, roots⟩ e.toStep ⟨rest, depth, roots⟩ := by
  cases e with
  | index i =>
      refine ⟨(toString i).toList ++ [']'], rfl, fun rest depth roots => ?_⟩
      obtain ⟨c, digits, hdigits, hc⟩ := exists_toString_eq_cons i
      have hother : ∀ d, isAsciiDigit d = false → c ≠ d := fun d => ne_of_isAsciiDigit hc
      have hindex : Reads indexOrSlice g ⟨(toString i).toList ++ ']' :: rest, depth, roots⟩
          (.index i) ⟨']' :: rest, depth, roots⟩ := reads_indexOrSlice (of_decide_eq_true he)
      unfold brackets
      rw [List.append_assoc, List.singleton_append]
      rw [hdigits, List.cons_append] at hindex ⊢
      have hblank : (c :: (digits ++ ']' :: rest)).head?.any isBlank = false :=
        Text.isBlank_of_isAsciiDigit hc
      refine (Reads.skipBlanks hblank).bind (Reads.demand.bind ?_)
      refine .ite_neg (hother '*' (by decide)) (.ite_neg ?_ (.ite_neg (hother '?' (by decide)) ?_))
      · simp [hother '\'' (by decide), hother '"' (by decide)]
      · exact .ite_pos (by simp [hc]) (hindex.bind (reads_bracketEnd fuel _))
  | name s =>
      refine ⟨'\'' :: s.toList.flatMap Location.escapeNameChar ++ ['\'', ']'], rfl,
        fun rest depth roots => ?_⟩
      unfold brackets
      rw [List.append_assoc, List.cons_append]
      refine (Reads.skipBlanks rfl).bind (Reads.demand.bind ?_)
      refine .ite_neg (by decide) (.ite_pos rfl ?_)
      exact (reads_quoted s).bind (reads_bracketEnd fuel _)

/-- A character that a step of a path may start with. -/
def startsStep (c : Char) : Bool := c = '.' || c = '[' || c = '^'

/-- A path ends before what is no step. -/
theorem reads_pathSteps_end {outer : Nat} {before : List Step}
    (hdeep : outer + before.length ≤ maxNesting) (fuel : Nat)
    (hrest : rest.head?.any startsStep = false) :
    Reads (pathSteps (fuel + 1) outer before) g ⟨rest, depth, roots⟩ before.reverse
      ⟨rest, outer + before.length, roots⟩ := by
  unfold pathSteps
  refine (Reads.setDepth _).bind (.get_bind fun r hr => ?_)
  have hdepth : r.depth = outer + before.length := congrArg Spot.depth hr
  refine .ite_neg (by rw [hdepth]; exact Nat.not_lt.mpr hdeep) (.current_bind ?_)
  split
  next hdot => rw [hdot] at hrest; cases hrest
  next hbracket => rw [hbracket] at hrest; cases hrest
  next hcaret => rw [hcaret] at hrest; cases hrest
  next => exact .pure _

/-- A path goes on with what stands in brackets. -/
theorem reads_pathSteps_brackets {outer : Nat} {before steps : List Step} {step : Step}
    (hdeep : outer + before.length ≤ maxNesting) {fuel : Nat}
    (hstep : Reads (brackets fuel []) g ⟨text, outer + before.length, roots⟩ step q)
    (hrest : Reads (pathSteps fuel outer (step :: before)) g q steps s) :
    Reads (pathSteps (fuel + 1) outer before) g ⟨'[' :: text, depth, roots⟩ steps s := by
  unfold pathSteps
  refine (Reads.setDepth _).bind (.get_bind fun r hr => ?_)
  have hdepth : r.depth = outer + before.length := congrArg Spot.depth hr
  refine .ite_neg (by rw [hdepth]; exact Nat.not_lt.mpr hdeep) (.current_bind ?_)
  exact Reads.advance.bind (hstep.bind hrest)

/-- **`reads_pathSteps`** — the written steps of a location are read as its steps, up to what is no
step. -/
theorem reads_pathSteps {l : Location} (hsmall : l.all Element.isSmall = true) {outer : Nat}
    {before : List Step} (hdeep : outer + before.length + l.length ≤ maxNesting) {fuel : Nat}
    (hfuel : l.length + 1 < fuel) (hrest : rest.head?.any startsStep = false) :
    Reads (pathSteps fuel outer before) g
      ⟨l.flatMap Element.normalized ++ rest, depth, roots⟩
      (before.reverse ++ l.map Element.toStep)
      ⟨rest, outer + before.length + l.length, roots⟩ := by
  induction l generalizing before fuel depth with
  | nil =>
      obtain ⟨fuel, rfl⟩ := Nat.exists_eq_succ_of_ne_zero (Nat.ne_of_gt (Nat.zero_lt_of_lt hfuel))
      rw [List.flatMap_nil, List.nil_append, List.map_nil, List.append_nil]
      exact reads_pathSteps_end hdeep fuel hrest
  | cons e tail ih =>
      rw [List.all_cons, Bool.and_eq_true] at hsmall
      rw [List.length_cons] at hdeep hfuel
      obtain ⟨fuel, rfl⟩ : ∃ inner, fuel = inner + 2 := ⟨fuel - 2, by omega⟩
      obtain ⟨inside, hnormalized, hstep⟩ := reads_brackets (g := g) hsmall.1 fuel
      have htail : Reads (pathSteps (fuel + 1) outer (e.toStep :: before)) g
          ⟨tail.flatMap Element.normalized ++ rest, outer + before.length, roots⟩
          ((e.toStep :: before).reverse ++ tail.map Element.toStep)
          ⟨rest, outer + (e.toStep :: before).length + tail.length, roots⟩ := by
        refine ih hsmall.2 ?_ (by omega)
        rw [List.length_cons]
        omega
      have hplace : outer + (before.length + 1) + tail.length
          = outer + before.length + (tail.length + 1) := by
        omega
      rw [List.length_cons, List.reverse_cons, List.append_assoc, hplace] at htail
      rw [List.flatMap_cons, hnormalized, List.append_assoc, List.cons_append]
      exact reads_pathSteps_brackets (by omega) (hstep _ _ _) htail

theorem reads_headStep : Reads headStep g ⟨'$' :: rest, depth, roots⟩ (.root roots)
    ⟨rest, depth, roots + 1⟩ := by
  unfold headStep
  refine .current_bind (.get_bind fun r hr => ?_)
  obtain ⟨htext, rfl, rfl⟩ := Spot.mk.inj hr
  refine (Reads.set ?_).bind (.pure _)
  rw [Reading.spot, Text.Cursor.advance_rest, htext]
  rfl

/-- A path is its sign and its steps. -/
theorem reads_path {head : Step} {steps : List Step} {fuel roots' depth' : Nat}
    (hhead : Reads headStep g p head ⟨text, depth, roots⟩)
    (hsteps : Reads (pathSteps fuel depth [head]) g ⟨text, depth, roots⟩ steps
      ⟨rest, depth', roots'⟩) :
    Reads (path (fuel + 1)) g p steps ⟨rest, depth, roots'⟩ := by
  unfold path
  refine hhead.bind (.get_bind fun r hr => ?_)
  have hdepth : r.depth = depth := congrArg Spot.depth hr
  rw [hdepth]
  exact hsteps.bind ((Reads.setDepth depth).bind (.pure _))

/-- A whole text is a path from the root, with no more to follow. -/
theorem reads_whole {steps : List Step} (hpath : ∀ fuel, 8 * (text.length + 2) < fuel →
      Reads (path fuel) g ⟨'$' :: text, 0, 0⟩ steps ⟨[], depth, roots⟩) :
    Reads whole g ⟨'$' :: text, 0, 0⟩ steps ⟨[], depth, roots⟩ := by
  unfold whole
  refine (Reads.skipBlanks rfl).bind (Reads.demand.bind (.ite_neg (by decide) ?_))
  refine .get_bind fun r hr => ?_
  have htext : r.cursor.rest = '$' :: text := congrArg Spot.text hr
  refine (hpath _ ?_).bind ((Reads.skipBlanks rfl).bind (.get_bind fun r' hr' => ?_))
  · rw [htext, List.length_cons]
    omega
  · have hdone : r'.cursor.rest = [] := congrArg Spot.text hr'
    have hend : r'.cursor.atEnd = true := by
      rw [Text.Cursor.atEnd, hdone]
      rfl
    exact .ite_pos hend (.pure _)

theorem length_le_flatMap_normalized (l : Location) :
    l.length ≤ (l.flatMap Element.normalized).length := by
  induction l with
  | nil => exact Nat.le_refl 0
  | cons e rest ih =>
      have hpos : 0 < e.normalized.length := by
        cases e <;> exact Nat.zero_lt_succ _
      rw [List.flatMap_cons, List.length_append, List.length_cons]
      omega

end Reader

/-- What the whole of a text is read as are the steps of the path. -/
theorem compile_of_reads {chars : List Char} {registry : Registry} {steps : List Step}
    {q : Spot} (h : Reader.Reads Reader.whole registry ⟨chars, 0, 0⟩ steps q) :
    Path.compile (String.ofList chars) registry = .ok ⟨String.ofList chars, steps⟩ := by
  have hstart : Reading.spot { cursor := .start (String.ofList chars) } = ⟨chars, 0, 0⟩ := by
    rw [Reading.spot, Text.Cursor.start, String.toList_ofList]
  obtain ⟨r, hrun, -⟩ := h _ hstart
  have hsteps : parseSteps (String.ofList chars) registry = .ok steps := by
    change (Reader.whole registry { cursor := .start (String.ofList chars) }).map (·.1) = _
    rw [hrun]
    rfl
  rw [Path.compile, hsteps]
  rfl

/-- **`compile_normalized`** — the normalized path of a location that is not too long is a path: the
root and one step for every step of the location. -/
theorem compile_normalized {l : Location} (hsmall : l.all Element.isSmall = true)
    (hlength : l.length < maxNesting) (registry : Registry) :
    Path.compile l.normalized registry
      = .ok ⟨l.normalized, .root 0 :: l.map Element.toStep⟩ := by
  have hlong := Reader.length_le_flatMap_normalized l
  have hpath : ∀ fuel, 8 * ((l.flatMap Element.normalized).length + 2) < fuel →
      Reader.Reads (Reader.path fuel) registry ⟨'$' :: l.flatMap Element.normalized, 0, 0⟩
        (.root 0 :: l.map Element.toStep) ⟨[], 0, 1⟩ := by
    intro fuel hfuel
    obtain ⟨fuel, rfl⟩ : ∃ inner, fuel = inner + 1 := ⟨fuel - 1, by omega⟩
    have hsteps : Reader.Reads (Reader.pathSteps fuel 0 [.root 0]) registry
        ⟨l.flatMap Element.normalized ++ [], 0, 1⟩ ([Step.root 0].reverse ++ l.map Element.toStep)
        ⟨[], 0 + 1 + l.length, 1⟩ :=
      Reader.reads_pathSteps hsmall (by rw [List.length_singleton]; omega) (by omega) rfl
    rw [List.append_nil] at hsteps
    exact Reader.reads_path Reader.reads_headStep hsteps
  exact compile_of_reads (Reader.reads_whole hpath)

end Path

end JsonQuery
