/-
# JsonQuery.Proofs.Expr.ChainReading — how the parser reads a chain.

Behind an operand the parser stands with the operand on its stack and the text in front of it.  Every
step leads it to the same place behind the step, where the operand has grown by it: a name, an integer
or the predicate of a filter is read in between and leaves nothing else.
-/
import JsonQuery.Proofs.Expr.ChainText
import JsonQuery.Proofs.Expr.Enclosure

namespace JsonQuery

open JsonQuery.Expr
open Text (isBlank isAsciiDigit)

namespace Expr.Machine

variable {limit : Prop} {registry : Registry} {m : Machine} {setting : Setting}
  {waiting waiting' : Stacks} {below next : List State} {s : State} {gap rest : List Char}

/-! ## Blanks -/

theorem leads_behindBlanks {p : Place} (hp : m.place = p) (hstates : p.states = s :: below)
    (hs : s.skipsBlanks) : m.Leads limit { p with rest := behindBlanks p.rest } :=
  leads_blanks hp hstates hs (fun _ hc => List.mem_takeWhile_imp hc)
    List.takeWhile_append_dropWhile.symm

/-- A character that decides on a move, with blanks in front of it. -/
theorem leads_spaced {c : Char} {action : Action} (hgap : ∀ b ∈ gap, isBlank b)
    (hs : s.skipsBlanks) (hc : isBlank c = false)
    (hplan : ∀ r : Reader, r.planAt (some c) s = r.go 1 next action)
    (hwaiting : OrTooDeep limit (waiting.perform action) waiting')
    (hnext : (next ++ below).head?.any State.isEscape = false)
    (hm : m.place = .between setting (s :: below) waiting (gap ++ c :: rest)) :
    m.Leads limit (.between setting (next ++ below) waiting' rest) := by
  have hfinish : s ≠ .finish := by
    rintro rfl
    cases hs
  have hskip : m.Leads limit (.between setting (s :: below) waiting (c :: rest)) :=
    leads_blanks hm rfl hs hgap rfl
  exact hskip.trans fun m' hm' => leads_char hm' hc hfinish hplan hwaiting hnext

/-! ## Names -/

/-- A name that has been read, behind which a step may follow. -/
theorem leads_nameEnd {chained : Bool} {name : List Char}
    (hwaiting : OrTooDeep limit
      (waiting.perform (Reader.pushField (String.ofList name) chained)) waiting')
    (hrest : StepFollows rest)
    (hm : m.place = .inName setting (.identifierRead chained :: .afterOperand :: below) waiting rest
      name.reverse) :
    m.Leads limit (.between setting (.afterOperand :: below) waiting' (behindBlanks rest)) := by
  have hskip : m.Leads limit (.inName setting (.identifierRead chained :: .afterOperand :: below) waiting
      (behindBlanks rest) name.reverse) := leads_behindBlanks hm rfl rfl
  exact hskip.trans fun m' hm' =>
    leads_wordEnd hrest.not_blank hrest.head_ne_paren hwaiting rfl hm'

/-- **`leads_named`** — a name, as an operand or behind a dot. -/
theorem leads_named {text : List Char} {name : String} (h : NameText text name) (chained : Bool)
    (hwaiting : OrTooDeep limit (waiting.perform (Reader.pushField name chained)) waiting')
    (hrest : StepFollows rest)
    (hm : m.place = .between setting (nameState chained :: .afterOperand :: below) waiting
      (text ++ rest)) :
    m.Leads limit (.between setting (.afterOperand :: below) waiting' (behindBlanks rest)) := by
  cases h with
  | plain name =>
      have hread : m.Leads limit (.inName setting (.identifierRead chained :: .afterOperand :: below)
          waiting rest name.chars.reverse) := leads_word chained hrest.ends_name hm
      exact hread.trans fun m' hm' => leads_nameEnd hwaiting hrest hm'
  | @quoted text name hquoted =>
      obtain ⟨hbuffer, hparts⟩ := scratch_between hm
      have hplan : m.plan (nameState chained) =
          .ok ⟨1, [.quoted, .quotedRead chained], .nothing, m.scratch⟩ := by
        rw [plan_of_place rfl hm]
        cases chained <;> rfl
      have hfinish : nameState chained ≠ .finish := by cases chained <;> decide
      have hopen : m.Leads limit (.between setting (.quoted :: .quotedRead chained :: .afterOperand ::
          below) waiting (text ++ '"' :: rest)) := by
        refine leads_between hm rfl hfinish hplan (.inl rfl) ?_ hbuffer hparts rfl
        simp [Place.between]
      have hread := hopen.trans fun m' hm' => leads_quotedName hquoted rfl hm'
      have hpush : m.Leads limit (.between setting (.afterOperand :: below) waiting' rest) := by
        refine hread.trans fun m' hm' => ?_
        have htext : m'.scratch.text = String.ofList name := text_of_place hm' rfl
        have hplan' : m'.plan (.quotedRead chained) =
            .ok ⟨0, [], Reader.pushField (String.ofList name) chained, m'.scratch.clearText⟩ := by
          rw [← htext]
          rfl
        have hparts' : m'.scratch.parts = {} := congrArg Place.parts hm'
        exact leads_between hm' rfl (by simp) hplan' hwaiting rfl rfl hparts' rfl
      exact hpush.trans fun m' hm' => leads_behindBlanks hm' rfl rfl

/-! ## Integers and slices -/

/-- The digits of an integer are read up to what is no digit. -/
theorem takeWhile_digits (t : IntegerText) (hrest : rest.head?.any isAsciiDigit = false) :
    (t.digits ++ rest).takeWhile isAsciiDigit = t.digits := by
  rw [Text.takeWhile_append hrest, List.takeWhile_eq_self_iff.mpr t.areDigits]

theorem head_digits_ne_minus (t : IntegerText) : (t.digits ++ rest).head? ≠ some '-' := by
  obtain ⟨d, ds, hd⟩ := List.exists_cons_of_ne_nil t.nonempty
  rw [hd, List.cons_append, List.head?_cons]
  rintro ⟨⟩
  have hdigit := t.areDigits '-' (hd ▸ List.mem_cons_self)
  cases hdigit

theorem plan_number {parts : SliceParts} (t : IntegerText)
    (hrange : Reader.inIndexRange t.value) (hrest : rest.head?.any isAsciiDigit = false)
    (hm : m.place = { Place.between setting (.number :: below) waiting (t.chars ++ rest) with
      parts := parts }) :
    m.plan .number = .ok ⟨t.chars.length, [], .nothing,
      { m.scratch with parts := parts.fill t.value }⟩ := by
  have htext : m.cursor.rest = t.chars ++ rest := congrArg Place.rest hm
  have hparts : m.scratch.parts = parts := congrArg Place.parts hm
  have hcurrent : m.cursor.current = (t.chars ++ rest).head? := current_of_place hm
  have hnonempty : t.digits.isEmpty = false := by
    rw [Bool.eq_false_iff]
    exact fun h => t.nonempty (List.isEmpty_iff.mp h)
  have hplan : m.plan .number = m.readNumber := by
    simp only [Reader.plan, State.skipsBlanks, Bool.false_and, Bool.false_eq_true, if_false]
    rfl
  have hsign : ((t.chars ++ rest).head? == some '-') = t.negative := by
    cases hnegative : t.negative with
    | true => simp [IntegerText.chars, hnegative]
    | false => simpa [IntegerText.chars, hnegative] using head_digits_ne_minus t
  have hdigits : ((t.chars ++ rest).drop (if t.negative then 1 else 0)).takeWhile isAsciiDigit
      = t.digits := by
    rw [← takeWhile_digits t hrest]
    cases hnegative : t.negative <;> simp [IntegerText.chars, hnegative]
  have hwidth : (if t.negative then 1 else 0) + t.digits.length = t.chars.length := by
    cases hnegative : t.negative <;> simp [IntegerText.chars, hnegative, Nat.add_comm]
  rw [hplan, Reader.readNumber, hcurrent, htext]
  simp only [hsign, hdigits, hwidth, hnonempty, Bool.false_eq_true, if_false]
  refine (if_pos hrange).trans ?_
  rw [hparts]
  rfl

/-- The first character of an integer. -/
theorem exists_head_integer (t : IntegerText) : ∃ c cs, t.chars = c :: cs ∧
    (c = '-' || isAsciiDigit c) = true ∧ isBlank c = false := by
  obtain ⟨d, ds, hd⟩ := List.exists_cons_of_ne_nil t.nonempty
  have hdigit := t.areDigits d (hd ▸ List.mem_cons_self)
  cases hnegative : t.negative with
  | true => exact ⟨'-', t.digits, by simp [IntegerText.chars, hnegative], rfl, rfl⟩
  | false =>
      refine ⟨d, ds, by simp [IntegerText.chars, hnegative, hd], ?_, Text.isBlank_of_isAsciiDigit hdigit⟩
      rw [hdigit, Bool.or_true]

theorem planAt_of_isSlicing (hs : s.isSlicing) (r : Reader) (c : Char) :
    r.planAt (some c) s = r.indexOrSlice s (some c) := by
  cases s <;> first | rfl | cases hs

theorem skipsBlanks_of_isSlicing (hs : s.isSlicing) : s.skipsBlanks := by
  cases s <;> first | rfl | cases hs

theorem ne_finish_of_isSlicing (hs : s.isSlicing) : s ≠ .finish := by
  rintro rfl
  cases hs

theorem keepsCodePoint_of_isSlicing (hs : s.isSlicing) : s.keepsCodePoint = false := by
  cases s <;> first | rfl | cases hs

/-- A place of a bracket that has been read, filled or left empty. -/
def put (parts : SliceParts) (bound : Option Int) : SliceParts := bound.elim parts parts.fill

@[simp] theorem put_place (parts : SliceParts) (bound : Option Int) :
    (put parts bound).place = parts.place := by
  cases bound with
  | none => rfl
  | some n =>
      show (parts.fill n).place = parts.place
      unfold SliceParts.fill
      split <;> rfl

/-- Where a part of a bracket is expected, the next character decides on the move. -/
theorem plan_of_isSlicing {parts : SliceParts} {c : Char} (hs : s.isSlicing) (hc : isBlank c = false)
    (hm : m.place = .inBracket setting (s :: below) waiting (c :: rest) parts) :
    m.plan s = m.indexOrSlice s (some c) := by
  have hcurrent : m.cursor.current = some c := current_of_place hm
  rw [Reader.plan, hcurrent, Option.any_some, hc, Bool.and_false, if_neg Bool.false_ne_true,
    planAt_of_isSlicing hs]

/-- A move inside a bracket. -/
theorem leads_inBracket {parts parts' : SliceParts} {text : List Char} {width : Nat}
    {scratch : Scratch} (hs : s ≠ .finish) (hplan : m.plan s = .ok ⟨width, next, .nothing, scratch⟩)
    (hbuffer : scratch.buffer = m.scratch.buffer) (hparts : scratch.parts = parts')
    (hrest : text.drop width = rest) (hnext : (next ++ below).head?.any State.keepsCodePoint = false)
    (hm : m.place = .inBracket setting (s :: below) waiting text parts) :
    m.Leads True (.inBracket setting (next ++ below) waiting rest parts') := by
  have hempty : m.scratch.buffer = [] := congrArg Place.buffer hm
  have hlead : m.Leads True _ := leads_keeping hm rfl hs hplan (.inl rfl) hrest hnext
  rw [hbuffer, hempty, hparts] at hlead
  exact hlead

theorem leads_integer {parts : SliceParts} (t : IntegerText)
    (hrange : Reader.inIndexRange t.value) (hs : s.isSlicing) (hpart : parts.part = none)
    (hrest : rest.head?.any isAsciiDigit = false)
    (hm : m.place = .inBracket setting (s :: below) waiting (t.chars ++ rest) parts) :
    m.Leads True (.inBracket setting (s :: below) waiting rest (parts.fill t.value)) := by
  obtain ⟨c, cs, hchars, hc, hblank⟩ := exists_head_integer t
  have hparts : m.scratch.parts = parts := congrArg Place.parts hm
  have hplan : m.plan s = .ok ⟨0, [.number, s], .nothing, m.scratch⟩ := by
    rw [hchars] at hm
    rw [plan_of_isSlicing hs hblank hm, Reader.indexOrSlice, hparts, hpart, hc]
    rfl
  have hnumber : m.Leads True (.inBracket setting (.number :: s :: below) waiting (t.chars ++ rest)
      parts) := leads_inBracket (ne_finish_of_isSlicing hs) hplan rfl hparts rfl rfl hm
  exact hnumber.trans fun m' hm' => leads_inBracket (by decide) (plan_number t hrange hrest hm') rfl
    rfl List.drop_left (keepsCodePoint_of_isSlicing hs) hm'

/-- **`leads_bound`** — a place of a bracket, up to the colon or the end of the bracket. -/
theorem leads_bound {parts : SliceParts} {text : List Char} {bound : Option Int} {d : Char}
    (h : BoundText text bound) (hs : s.isSlicing) (hpart : parts.part = none)
    (hd : d = ':' ∨ d = ']')
    (hm : m.place = .inBracket setting (s :: below) waiting (text ++ d :: rest) parts) :
    m.Leads True (.inBracket setting (s :: below) waiting (d :: rest) (put parts bound)) := by
  have hskips := skipsBlanks_of_isSlicing hs
  cases h with
  | missing hgap => exact leads_blanks hm rfl hskips hgap rfl
  | @integer gap gap' t hgap hgap' hrange =>
      have hnumber : m.Leads True (.inBracket setting (s :: below) waiting
          (t.chars ++ (gap' ++ d :: rest)) parts) := by
        refine leads_blanks hm rfl hskips hgap ?_
        simp [Place.inBracket, Place.between]
      have hbehind : (gap' ++ d :: rest).head?.any isAsciiDigit = false := by
        cases gap' with
        | nil => rcases hd with rfl | rfl <;> rfl
        | cons b gap' =>
            rw [List.cons_append, List.head?_cons, Option.any_some, Bool.eq_false_iff]
            intro hdigit
            have hb := hgap' b List.mem_cons_self
            rw [Text.isBlank_of_isAsciiDigit hdigit] at hb
            cases hb
      refine (hnumber.trans fun m' hm' => leads_integer t hrange hs hpart hbehind hm').trans
        fun m' hm' => ?_
      exact leads_blanks hm' rfl hskips hgap' rfl

/-- A colon behind the start or the stop of a slice. -/
theorem leads_nextPlace {parts : SliceParts} {t : State} (hs : s.isSlicing)
    (hplace : parts.place < 2) (ht : t = if parts.place + 1 = 1 then .sliceStop else .sliceStep)
    (hm : m.place = .inBracket setting (s :: below) waiting (':' :: rest) parts) :
    m.Leads True (.inBracket setting (t :: below) waiting rest
      { parts with place := parts.place + 1 }) := by
  have hparts : m.scratch.parts = parts := congrArg Place.parts hm
  have hplan : m.plan s = .ok ⟨1, [t], .nothing,
      { m.scratch with parts := { parts with place := parts.place + 1 } }⟩ := by
    have hdigit : (decide (':' = '-') || isAsciiDigit ':') = false := rfl
    rw [plan_of_isSlicing hs rfl hm, Reader.indexOrSlice, hparts, hdigit, Bool.false_and,
      if_neg Bool.false_ne_true, if_pos (by simp [hplace]), ht]
    rfl
  have hkeeps : t.keepsCodePoint = false := by
    rw [ht]
    split <;> rfl
  exact leads_inBracket (ne_finish_of_isSlicing hs) hplan rfl rfl rfl hkeeps hm

/-- The step of a slice whose parts have been read. -/
theorem sliceStep_of_parts {r : Reader} {a b c : Option Int} {place : Nat} (hplace : place ≠ 0)
    (hc : c ≠ some 0) (hr : r.scratch.parts = ⟨a, b, c, place⟩) :
    r.sliceStep = .ok (.slice ⟨a, b, c.getD 1⟩) := by
  have hstep : c.getD 1 ≠ 0 := by
    cases c with
    | none => decide
    | some n => exact fun h => hc (congrArg some h)
  rw [Reader.sliceStep, hr]
  exact (if_neg hplace).trans (if_neg hstep)

/-- The end of a bracket with an index or a slice. -/
theorem leads_bracketEnd {parts : SliceParts} (step : Step) (hs : s.isSlicing)
    (hstep : ∀ r : Reader, r.scratch.parts = parts → r.sliceStep = .ok step)
    (hwaiting : OrTooDeep True (waiting.perform (.attach step)) waiting')
    (hbelow : below.head?.any State.isEscape = false)
    (hm : m.place = .inBracket setting (s :: below) waiting (']' :: rest) parts) :
    m.Leads True (.between setting below waiting' rest) := by
  have hparts : m.scratch.parts = parts := congrArg Place.parts hm
  have hbuffer : m.scratch.buffer = [] := congrArg Place.buffer hm
  have hplan : m.plan s = .ok ⟨1, [], .attach step, { m.scratch with parts := {} }⟩ := by
    have hdigit : (decide (']' = '-') || isAsciiDigit ']') = false := rfl
    rw [plan_of_isSlicing hs rfl hm, Reader.indexOrSlice, hdigit, Bool.false_and,
      if_neg Bool.false_ne_true, if_neg (by simp), if_pos rfl, hstep _ hparts]
    rfl
  exact leads_between hm rfl (ne_finish_of_isSlicing hs) hplan hwaiting rfl hbuffer rfl hbelow

theorem bracketStep_integer (r : Reader) {c : Char} (hc : (c = '-' || isAsciiDigit c) = true) :
    r.bracketStep (some c) = r.go 0 [.indexOrStart] := by
  have hne : ∀ d, (d = '-' || isAsciiDigit d) = false → c ≠ d := by
    rintro d hd rfl
    rw [hc] at hd
    cases hd
  have hplace : (decide (c = '-') || decide (c = ':') || isAsciiDigit c) = true := by
    rw [Bool.or_right_comm, hc, Bool.true_or]
  simp only [Reader.bracketStep, hne '*' rfl, hne ']' rfl, hne '?' rfl, hplace, if_true, if_false]

/-- The first place of a bracket behind an operand. -/
theorem leads_firstPlace {text : List Char} {bound : Option Int} {d : Char}
    (h : BoundText text bound) (hd : d = ':' ∨ d = ']' ∧ bound ≠ none)
    (hm : m.place = .between setting (.bracketStep :: below) waiting (text ++ d :: rest)) :
    m.Leads True (.inBracket setting (.indexOrStart :: below) waiting (d :: rest) (put {} bound)) := by
  cases h with
  | missing hgap =>
      obtain rfl : d = ':' := hd.resolve_right fun h => h.2 rfl
      have hskip : m.Leads True (.between setting (.bracketStep :: below) waiting (':' :: rest)) :=
        leads_blanks hm rfl rfl hgap rfl
      exact hskip.trans fun m' hm' => leads_char hm' rfl (by decide) (fun _ => rfl) (.inl rfl) rfl
  | @integer gap gap' t hgap hgap' hrange =>
      have hskip : m.Leads True (.between setting (.bracketStep :: below) waiting
          (t.chars ++ (gap' ++ d :: rest))) := by
        refine leads_blanks hm rfl rfl hgap ?_
        simp [Place.between]
      obtain ⟨c, cs, hchars, hc, hblank⟩ := exists_head_integer t
      have hopen : m.Leads True (.between setting (.indexOrStart :: below) waiting
          (t.chars ++ (gap' ++ d :: rest))) := by
        rw [hchars, List.cons_append] at hskip ⊢
        exact hskip.trans fun m' hm' =>
          leads_char hm' hblank (by decide) (fun r => bracketStep_integer r hc) (.inl rfl) rfl
      refine hopen.trans fun m' hm' => leads_bound (.integer t (List.forall_mem_nil _) hgap' hrange) rfl
        rfl (hd.imp_right (·.1)) ?_
      rw [hm', List.nil_append, List.append_assoc]
      rfl

/-- The start and the stop of a slice. -/
theorem leads_startStop {start stop : List Char} {a b : Option Int} {d : Char}
    (hstart : BoundText start a) (hstop : BoundText stop b) (hd : d = ':' ∨ d = ']')
    (hm : m.place = .between setting (.bracketStep :: below) waiting
      (start ++ ':' :: (stop ++ d :: rest))) :
    m.Leads True (.inBracket setting (.sliceStop :: below) waiting (d :: rest) ⟨a, b, none, 1⟩) := by
  have hcolon := (leads_firstPlace hstart (.inl rfl) hm).trans fun m' hm' =>
    leads_nextPlace (t := .sliceStop) rfl (by simp) (by simp) hm'
  have hparts : put { put {} a with place := (put {} a).place + 1 } b = ⟨a, b, none, 1⟩ := by
    cases a <;> cases b <;> rfl
  rw [← hparts]
  exact hcolon.trans fun m' hm' => leads_bound hstop rfl (by cases a <;> rfl) hd hm'

/-! ## Steps -/

/-- The stacks with an operand only. -/
def single (e : Expr) (projecting : Bool) (height : Nat) : Stacks :=
  ⟨[.operand ⟨e, projecting, height⟩], [], 0⟩

/-- The stacks with an operand only that has grown by a step. -/
def grown (step : Step) (inner : Nat) (e : Expr) (projecting : Bool) (height : Nat) : Stacks :=
  single (if projecting then step.extend e else step.apply e) (projecting || step.projects)
    (step.heightAfter projecting height inner)

theorem attachStep_single (step : Step) (inner : Nat) (e : Expr) (projecting : Bool) (height : Nat) :
    OrTooDeep True (attachStep step inner (single e projecting height).items)
      (grown step inner e projecting height).items :=
  .pushNode _ _ _ fun _ => trivial

theorem perform_attach_single (step : Step) (e : Expr) (projecting : Bool) (height : Nat) :
    OrTooDeep True ((single e projecting height).perform (.attach step))
      (grown step 0 e projecting height) :=
  (attachStep_single step 0 e projecting height).bind (.inl rfl)

theorem close_filter_single (part : Part registry) (n : Nat) (e : Expr) (projecting : Bool)
    (height : Nat) :
    OrTooDeep True
      (Group.close (.filter true) .filter [.operand (part.operand.shift n)]
        (single e projecting height).items)
      (grown (.filter (part.tree.shift n)) part.operand.height e projecting height).items := by
  rw [← part.operand_expr]
  exact attachStep_single _ _ e projecting height

theorem perform_flatten_single (e : Expr) (projecting : Bool) (height : Nat) :
    OrTooDeep True ((single e projecting height).perform .flatten)
      (single (projectAll .flatten e) true (height + 2)) :=
  OrTooDeep.bind (.pushNode _ _ _ fun _ => trivial) (.inl rfl)

/-- The closer of a group with one part. -/
theorem leads_lastPart {o : Operand} {items items' : List Item} {group : Group} {closer : Closer}
    {c : Char} (hs : s.closer? = some closer)
    (hplan : ∀ r : Reader, r.planAt (some c) s = r.go 1 [] (.token (.closing closer)))
    (hc : isBlank c = false)
    (hreduce : waiting.reduceToBarrier =
      .ok ⟨.operand o :: .opened group :: items, [.barrier], 1⟩)
    (hclose : OrTooDeep True (group.close closer [.operand o] items) items')
    (hm : m.place = .between setting (s :: .afterOperand :: below) waiting (c :: rest)) :
    m.Leads True (.between setting (.afterOperand :: below) ⟨items', [], 0⟩ rest) := by
  have hparts : ∀ g, Item.opened g ∉ [Item.operand o] := by simp
  exact leads_close hs hplan hc rfl hreduce hparts hclose hm

theorem leads_dot
    (hm : m.place = .between setting (.afterOperand :: below) waiting ('.' :: rest)) :
    m.Leads True (.between setting (.afterDot :: .afterOperand :: below) waiting rest) :=
  leads_char hm rfl (by decide) (fun _ => rfl) (.inl rfl) rfl

theorem leads_leftBracket
    (hm : m.place = .between setting (.afterOperand :: below) waiting ('[' :: rest)) :
    m.Leads True (.between setting (.bracketStep :: .afterOperand :: below) waiting rest) :=
  leads_char hm rfl (by decide) (fun _ => rfl) (.inl rfl) rfl

/-- `.name` -/
theorem leads_fieldLink {text : List Char} {name : String} (hgap : ∀ c ∈ gap, isBlank c)
    (hname : NameText text name)
    (hwaiting : OrTooDeep True (waiting.perform (.attach (.field name))) waiting')
    (hrest : StepFollows rest)
    (hm : m.place = .between setting (.afterOperand :: below) waiting ('.' :: (gap ++ text) ++ rest)) :
    m.Leads True (.between setting (.afterOperand :: below) waiting' (behindBlanks rest)) := by
  rw [List.cons_append, List.append_assoc] at hm
  have hspace := (leads_dot hm).trans fun m' hm' => leads_blanks hm' rfl rfl hgap rfl
  exact hspace.trans fun m' hm' => leads_named hname true hwaiting hrest hm'

/-- `.*` -/
theorem leads_valuesLink (hgap : ∀ c ∈ gap, isBlank c)
    (hwaiting : OrTooDeep True (waiting.perform (.attach .values)) waiting')
    (hm : m.place = .between setting (.afterOperand :: below) waiting
      ('.' :: (gap ++ ['*']) ++ rest)) :
    m.Leads True (.between setting (.afterOperand :: below) waiting' rest) := by
  rw [List.cons_append, List.append_assoc] at hm
  exact (leads_dot hm).trans fun m' hm' =>
    leads_spaced hgap rfl rfl (fun _ => rfl) hwaiting rfl hm'

/-- `[*]` -/
theorem leads_itemsLink {gap' : List Char} (hgap : ∀ c ∈ gap, isBlank c)
    (hgap' : ∀ c ∈ gap', isBlank c)
    (hwaiting : OrTooDeep True (waiting.perform (.attach .items)) waiting')
    (hm : m.place = .between setting (.afterOperand :: below) waiting
      ('[' :: (gap ++ '*' :: (gap' ++ [']'])) ++ rest)) :
    m.Leads True (.between setting (.afterOperand :: below) waiting' rest) := by
  rw [List.cons_append, List.append_assoc, List.cons_append, List.append_assoc] at hm
  have hstar : m.Leads True (.between setting (.wildcardEnd :: .afterOperand :: below) waiting
      (gap' ++ ']' :: rest)) :=
    (leads_leftBracket hm).trans fun m' hm' =>
      leads_spaced hgap rfl rfl (fun _ => rfl) (.inl rfl) rfl hm'
  exact hstar.trans fun m' hm' => leads_spaced hgap' rfl rfl (fun _ => rfl) hwaiting rfl hm'

/-- `[i]` -/
theorem leads_indexLink {text : List Char} {i : Int} (hi : BoundText text (some i))
    (hwaiting : OrTooDeep True (waiting.perform (.attach (.index i))) waiting')
    (hm : m.place = .between setting (.afterOperand :: below) waiting
      ('[' :: (text ++ [']']) ++ rest)) :
    m.Leads True (.between setting (.afterOperand :: below) waiting' rest) := by
  rw [List.cons_append, List.append_assoc] at hm
  have hplace := (leads_leftBracket hm).trans fun m' hm' =>
    leads_firstPlace hi (.inr ⟨rfl, by simp⟩) hm'
  exact hplace.trans fun m' hm' =>
    leads_bracketEnd (.index i) rfl (fun r hr => by rw [Reader.sliceStep, hr]; rfl) hwaiting rfl hm'

/-- `[start:stop]` -/
theorem leads_sliceLink {start stop : List Char} {a b : Option Int} (hstart : BoundText start a)
    (hstop : BoundText stop b)
    (hwaiting : OrTooDeep True (waiting.perform (.attach (.slice ⟨a, b, 1⟩))) waiting')
    (hm : m.place = .between setting (.afterOperand :: below) waiting
      ('[' :: (start ++ ':' :: (stop ++ [']'])) ++ rest)) :
    m.Leads True (.between setting (.afterOperand :: below) waiting' rest) := by
  rw [List.cons_append, List.append_assoc, List.cons_append, List.append_assoc] at hm
  have hplaces := (leads_leftBracket hm).trans fun m' hm' =>
    leads_startStop hstart hstop (.inr rfl) hm'
  exact hplaces.trans fun m' hm' =>
    leads_bracketEnd (.slice ⟨a, b, 1⟩) rfl
      (fun r => sliceStep_of_parts (c := none) (by decide) (by simp)) hwaiting rfl hm'

/-- `[start:stop:step]` -/
theorem leads_steppedLink {start stop step : List Char} {a b c : Option Int}
    (hstart : BoundText start a) (hstop : BoundText stop b) (hstep : BoundText step c)
    (hne : c ≠ some 0)
    (hwaiting : OrTooDeep True (waiting.perform (.attach (.slice ⟨a, b, c.getD 1⟩))) waiting')
    (hm : m.place = .between setting (.afterOperand :: below) waiting
      ('[' :: (start ++ ':' :: (stop ++ ':' :: (step ++ [']']))) ++ rest)) :
    m.Leads True (.between setting (.afterOperand :: below) waiting' rest) := by
  rw [List.cons_append, List.append_assoc, List.cons_append, List.append_assoc, List.cons_append,
    List.append_assoc] at hm
  have hplaces := (leads_leftBracket hm).trans fun m' hm' =>
    leads_startStop hstart hstop (.inl rfl) hm'
  have hcolon := hplaces.trans fun m' hm' =>
    leads_nextPlace (t := .sliceStep) rfl (by simp) rfl hm'
  have hthird := hcolon.trans fun m' hm' => leads_bound hstep rfl rfl (.inr rfl) hm'
  have hparts : put ⟨a, b, none, 2⟩ c = ⟨a, b, c, 2⟩ := by cases c <;> rfl
  exact hthird.trans fun m' hm' =>
    leads_bracketEnd (.slice ⟨a, b, c.getD 1⟩) rfl
      (fun r hr => sliceStep_of_parts (by decide) hne (hr.trans hparts)) hwaiting rfl hm'

/-- `[?predicate]` -/
theorem leads_filterLink {n : Nat} (part : Part registry) (hgap : ∀ c ∈ gap, isBlank c) (e : Expr)
    (projecting : Bool) (height : Nat)
    (hsetting : setting = ⟨registry,
      n + ('[' :: (gap ++ '?' :: (part.chars ++ [']']))).length + rest.length⟩)
    (hm : m.place = .between setting (.afterOperand :: below) (single e projecting height)
      ('[' :: (gap ++ '?' :: (part.chars ++ [']'])) ++ rest)) :
    m.Leads True (.between setting (.afterOperand :: below)
      (grown (.filter (part.tree.shift (n + gap.length + 2))) part.operand.height e projecting height)
      rest) := by
  have hwhole : setting = ⟨registry, n + gap.length + 2 + part.length + (']' :: rest).length⟩ := by
    rw [hsetting]
    simp [Part.length]
    omega
  obtain ⟨waiting, hreduce, hlead⟩ := leads_part .filterEnd (.afterOperand :: below)
    (.opened (.filter true) :: (single e projecting height).items) [] _ (']' :: rest) rfl rfl
    (Nat.le_refl 1) (fun _ => trivial) (List.nil_append part.chars).symm (List.forall_mem_nil _)
    hwhole
  rw [List.cons_append, List.append_assoc, List.cons_append, List.append_assoc] at hm
  have hgroup : OrTooDeep True
      ((single e projecting height).perform (.token (.opening (.filter true))))
      ⟨.opened (.filter true) :: (single e projecting height).items, [.barrier], 1⟩ :=
    .openGroup (single e projecting height) (.filter true) fun _ => trivial
  have hopen := (leads_leftBracket hm).trans fun m' hm' =>
    leads_spaced hgap rfl rfl (fun _ => rfl) hgroup rfl hm'
  have hpart := hopen.trans hlead
  exact hpart.trans fun m' hm' =>
    leads_lastPart rfl (fun _ => rfl) rfl hreduce (close_filter_single part _ e projecting height) hm'

/-- **`leads_link`** — a link leads from behind an operand to behind the operand that it makes. -/
theorem leads_link {n : Nat} {text : List Char} {link : Link} (h : LinkText registry n text link)
    (below : List State) (e : Expr) (projecting : Bool) (height : Nat) (hrest : StepFollows rest)
    (hsetting : setting = ⟨registry, n + text.length + rest.length⟩) :
    ∃ inner, ∀ m : Machine,
      m.place = .between setting (.afterOperand :: below) (single e projecting height) (text ++ rest) →
      m.Leads True (.between setting (.afterOperand :: below)
        (grown link.step inner e projecting height) (behindBlanks rest)) := by
  have hattach (step : Step) : OrTooDeep True ((single e projecting height).perform (.attach step))
      (grown step 0 e projecting height) := perform_attach_single step e projecting height
  have hbehind : ∀ {waiting : Stacks} (m : Machine),
      m.place = .between setting (.afterOperand :: below) waiting rest →
      m.Leads True (.between setting (.afterOperand :: below) waiting (behindBlanks rest)) :=
    fun m hm => leads_behindBlanks hm rfl rfl
  cases h with
  | field hgap hname => exact ⟨0, fun m hm => leads_fieldLink hgap hname (hattach _) hrest hm⟩
  | values hgap => exact ⟨0, fun m hm => (leads_valuesLink hgap (hattach _) hm).trans hbehind⟩
  | items hgap hgap' => exact ⟨0, fun m hm => (leads_itemsLink hgap hgap' (hattach _) hm).trans hbehind⟩
  | index hi => exact ⟨0, fun m hm => (leads_indexLink hi (hattach _) hm).trans hbehind⟩
  | slice hstart hstop =>
      exact ⟨0, fun m hm => (leads_sliceLink hstart hstop (hattach _) hm).trans hbehind⟩
  | stepped hstart hstop hstep hne =>
      exact ⟨0, fun m hm => (leads_steppedLink hstart hstop hstep hne (hattach _) hm).trans hbehind⟩
  | filter part hgap =>
      exact ⟨part.operand.height, fun m hm =>
        (leads_filterLink part hgap e projecting height hsetting hm).trans hbehind⟩

/-! ## Chains -/

/-- **`leads_links`** — links lead from behind an operand to behind the operand grown by all of
them. -/
theorem leads_links {n : Nat} {text : List Char} {links : List Link}
    (h : LinksText registry n text links) (below : List State) (e : Expr) (projecting : Bool)
    (height : Nat) (hrest : StepFollows rest)
    (hsetting : setting = ⟨registry, n + text.length + rest.length⟩) :
    ∃ projecting' height', ∀ m : Machine,
      m.place = .between setting (.afterOperand :: below) (single e projecting height)
        (behindBlanks (text ++ rest)) →
      m.Leads True (.between setting (.afterOperand :: below)
        (single (Link.grow links projecting e) projecting' height') (behindBlanks rest)) := by
  induction h generalizing e projecting height with
  | nil hgap =>
      refine ⟨projecting, height, fun m hm => ?_⟩
      rw [behindBlanks_append hgap] at hm
      exact .refl hm
  | @cons n gap text others link links hgap hlink hothers ih =>
      have hfollows : StepFollows (others ++ rest) := hothers.follows hrest
      have hfirstSetting :
          setting = ⟨registry, n + gap.length + text.length + (others ++ rest).length⟩ := by
        rw [hsetting]
        simp
        omega
      have hlaterSetting :
          setting = ⟨registry, n + gap.length + text.length + others.length + rest.length⟩ := by
        rw [hsetting]
        simp
        omega
      obtain ⟨inner, hfirst⟩ := leads_link hlink below e projecting height hfollows hfirstSetting
      obtain ⟨projecting', height', hlater⟩ := ih
        (if projecting then link.step.extend e else link.step.apply e)
        (projecting || link.step.projects) (link.step.heightAfter projecting height inner)
        hlaterSetting
      refine ⟨projecting', height', fun m hm => ?_⟩
      rw [List.append_assoc, behindBlanks_append hgap, List.append_assoc,
        hlink.behindBlanks_append] at hm
      exact (hfirst m hm).trans hlater

/-- The brackets of a flattening. -/
theorem leads_flatten {e : Expr} {projecting : Bool} {height : Nat} (hgap : ∀ c ∈ gap, isBlank c)
    (hm : m.place = .between setting (.afterOperand :: below) (single e projecting height)
      ('[' :: (gap ++ ']' :: rest))) :
    m.Leads True (.between setting (.afterOperand :: below)
      (single (projectAll .flatten e) true (height + 2)) (behindBlanks rest)) := by
  have hclosed := (leads_leftBracket hm).trans fun m' hm' =>
    leads_spaced hgap rfl rfl (fun _ => rfl) (perform_flatten_single e projecting height) rfl hm'
  exact hclosed.trans fun m' hm' => leads_behindBlanks hm' rfl rfl

/-- **`leads_chain`** — a chain leads from behind an operand to behind the tree of the chain. -/
theorem leads_chain {n : Nat} {text : List Char} {chain : Chain}
    (h : ChainText registry n text chain) (below : List State) (e : Expr) (height : Nat)
    (hrest : StepFollows rest) (hsetting : setting = ⟨registry, n + text.length + rest.length⟩) :
    ∃ projecting' height', ∀ m : Machine,
      m.place = .between setting (.afterOperand :: below) (single e false height)
        (behindBlanks (text ++ rest)) →
      m.Leads True (.between setting (.afterOperand :: below)
        (single (chain.tree e) projecting' height') (behindBlanks rest)) := by
  induction h generalizing rest with
  | direct hlinks =>
      rw [Chain.tree, ← Link.grow_eq_tree]
      exact leads_links hlinks below e false height hrest hsetting
  | @flatten text gap rest' before after hbefore hgap hafter ih =>
      have hfollows : StepFollows ('[' :: (gap ++ ']' :: (rest' ++ rest))) :=
        .inr ⟨_, .inr (behindBlanks_cons rfl _)⟩
      have hlaterSetting : setting =
          ⟨registry, n + text.length + gap.length + 2 + rest'.length + rest.length⟩ := by
        rw [hsetting]
        simp
        omega
      obtain ⟨projecting₁, height₁, hfirst⟩ := ih hfollows (by rw [hsetting]; simp; omega)
      obtain ⟨projecting', height', hlater⟩ := leads_links hafter below
        (projectAll .flatten (before.tree e)) true (height₁ + 2) hrest hlaterSetting
      refine ⟨projecting', height', fun m hm => ?_⟩
      rw [List.append_assoc, List.cons_append, List.append_assoc, List.cons_append] at hm
      rw [Chain.tree, ← Link.grow_flatten]
      have hflat := (hfirst m hm).trans fun m' hm' =>
        leads_flatten hgap (hm'.trans (by rw [behindBlanks_cons rfl]))
      exact hflat.trans hlater

/-- **`leads_head`** — the operand that a chain starts from. -/
theorem leads_head {text : List Char} {e : Expr} (h : HeadText registry text e)
    (below : List State) (hrest : StepFollows rest)
    (hsetting : setting = ⟨registry, text.length + rest.length⟩) :
    ∃ height, ∀ m : Machine,
      m.place = .between setting (.operand :: .afterOperand :: below) {} (text ++ rest) →
      m.Leads True (.between setting (.afterOperand :: below) (single e false height)
        (behindBlanks rest)) := by
  cases h with
  | @name gap text name hgap hname =>
      refine ⟨2, fun m hm => ?_⟩
      rw [List.append_assoc] at hm
      have hskip : m.Leads True (.between setting (.operand :: .afterOperand :: below) {}
          (text ++ rest)) := leads_blanks hm rfl rfl hgap rfl
      exact hskip.trans fun m' hm' => leads_named hname false (.inl rfl) hrest hm'
  | current hgap =>
      refine ⟨1, fun m hm => ?_⟩
      rw [List.append_assoc] at hm
      have hread : m.Leads True (.between setting (.afterOperand :: below) (single .current false 1)
          rest) := leads_spaced hgap rfl rfl (fun _ => rfl) (.inl rfl) rfl hm
      exact hread.trans fun m' hm' => leads_behindBlanks hm' rfl rfl
  | @paren gap part hgap =>
      have hwhole : setting = ⟨registry, gap.length + 1 + part.length + (')' :: rest).length⟩ := by
        rw [hsetting]
        simp [Part.length]
        omega
      obtain ⟨waiting, hreduce, hlead⟩ := leads_part .parenEnd (.afterOperand :: below)
        [.opened .paren] [] _ (')' :: rest) rfl rfl (Nat.le_refl 1) (fun _ => trivial)
        (List.nil_append part.chars).symm (List.forall_mem_nil _) hwhole
      refine ⟨part.operand.height, fun m hm => ?_⟩
      rw [List.append_assoc, List.cons_append, List.append_assoc] at hm
      have hgroup : OrTooDeep True (({} : Stacks).perform (.token (.opening .paren)))
          ⟨[.opened .paren], [.barrier], 1⟩ := .inl rfl
      have hopen := leads_spaced hgap rfl rfl (fun _ => rfl) hgroup rfl hm
      have hclose := (hopen.trans hlead).trans fun m' hm' =>
        leads_lastPart rfl (fun _ => rfl) rfl hreduce (close_paren _ fun _ => trivial) hm'
      exact hclose.trans fun m' hm' => leads_behindBlanks hm' rfl rfl

end Expr.Machine

end JsonQuery
