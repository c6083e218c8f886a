/-
# JsonQuery.Proofs.Expr.OperatorText — operator expressions as texts.

The tokens of an operator expression are written with a blank between them.  The parser reads them in
two or three moves each, and comes by the places where the yard stands after each of them.
-/
import JsonQuery.Proofs.Expr.OperatorStacks
import Mathlib.Data.List.TakeWhile

namespace JsonQuery

open JsonQuery.Expr

/-! ## Spelling -/

namespace Joint

/-- The symbol of an infix operator. -/
def symbol : Joint → String
  | .binary op => op.symbol
  | .pipe => "|"

end Joint

/-- The text of a token. -/
def OperatorToken.text : OperatorToken Identifier → String
  | .operand name => name.text
  | .sign .not => "!"
  | .sign .minus => "-"
  | .opening => "("
  | .closing => ")"
  | .joint j => j.symbol

/-- Tokens with a blank between them. -/
def spell (tokens : List (OperatorToken Identifier)) : String :=
  " ".intercalate (tokens.map OperatorToken.text)

theorem spell_cons_cons (token token' : OperatorToken Identifier)
    (tokens : List (OperatorToken Identifier)) :
    spell (token :: token' :: tokens) = token.text ++ " " ++ spell (token' :: tokens) :=
  String.intercalate_cons_cons

/-- The text of a token starts with a character that is no blank, and with a parenthesis only if it
is one. -/
theorem OperatorToken.head_text (token : OperatorToken Identifier) :
    ∃ c cs, token.text.toList = c :: cs ∧ Text.isBlank c = false ∧
      (token ≠ .opening → c ≠ '(') := by
  cases token with
  | operand name =>
      refine ⟨name.first, name.rest, String.toList_ofList,
        Text.isBlank_of_isIdentifierStart name.starts, fun _ h => ?_⟩
      have hstarts := name.starts
      rw [h] at hstarts
      cases hstarts
  | sign op => cases op <;> exact ⟨_, _, rfl, rfl, fun _ => by decide⟩
  | opening => exact ⟨_, _, rfl, rfl, fun h => absurd rfl h⟩
  | closing => exact ⟨_, _, rfl, rfl, fun _ => by decide⟩
  | joint j =>
      cases j with
      | pipe => exact ⟨_, _, rfl, rfl, fun _ => by decide⟩
      | binary op => cases op <;> exact ⟨_, _, rfl, rfl, fun _ => by decide⟩

theorem head_of_spell (token : OperatorToken Identifier)
    (tokens : List (OperatorToken Identifier)) :
    ∃ c cs, (spell (token :: tokens)).toList = c :: cs ∧ Text.isBlank c = false ∧
      (token ≠ .opening → c ≠ '(') := by
  obtain ⟨c, cs, htext, hblank, hopening⟩ := token.head_text
  cases tokens with
  | nil => exact ⟨c, cs, by rw [← htext]; rfl, hblank, hopening⟩
  | cons token' tokens =>
      rw [spell_cons_cons, String.toList_append, String.toList_append, htext]
      exact ⟨c, _, rfl, hblank, hopening⟩

/-! ## Places -/

namespace Frame

/-- What is expected around the expression that is being read. -/
def outerStates : List (Frame Identifier) → List State
  | [] => [.finish]
  | .group :: frames => .parenEnd :: .afterOperand :: outerStates frames
  | _ :: frames => outerStates frames

theorem outerStates_applyWhile (test : Nat → Bool) (frames : List (Frame Identifier))
    (t : OperatorTree Identifier) :
    outerStates (applyWhile test frames t).1 = outerStates frames := by
  fun_induction applyWhile test frames t with
  | case1 | case3 => assumption
  | case2 | case4 | case5 => rfl

end Frame

namespace Yard

/-- The states of the parser where the yard stands. -/
def states : Yard Identifier → List State
  | .expecting frames => .operand :: .afterOperand :: Frame.outerStates frames
  | .holding frames _ => .afterOperand :: Frame.outerStates frames

/-- The place of the parser where the yard stands, before a text. -/
def place (y : Yard Identifier) (setting : Setting) (rest : List Char) : Place :=
  .between setting y.states y.stacks rest

end Yard

/-- **`Gap gap rest`** — what stands behind a token: a blank, and then no blank and no parenthesis
that would make a call of a name; or the end of the text. -/
inductive Gap : List Char → List Char → Prop where
  | none : Gap [] []
  | blank {c : Char} {rest : List Char} : Text.isBlank c = false → Gap (' ' :: c :: rest) (c :: rest)

namespace Expr

/-- The second character of an operator stands right behind the first. -/
theorem Reader.plan_lookahead (r : Reader) {s : State} (hs : s.isLookahead) :
    r.plan s = r.planAt r.cursor.current s := by
  cases s <;> first | rfl | cases hs

theorem Reader.startOperand_name (r : Reader) {c : Char} (hc : Text.isIdentifierStart c) :
    r.startOperand (some c) = r.go 0 [.identifier, .identifierRead false] := by
  have hne : ∀ d, Text.isIdentifierStart d = false → c ≠ d := by
    rintro d hd rfl
    rw [hc] at hd
    cases hd
  simp only [startOperand, hne '"' rfl, hne '\'' rfl, hne '\x60' rfl, hne '[' rfl, hne '{' rfl,
    hne '*' rfl, hne '@' rfl, hne '(' rfl, hne '!' rfl, hne '-' rfl, hne '&' rfl, hc, if_true,
    if_false]

theorem Reader.plan_identifier (r : Reader) :
    r.plan .identifier = .ok ⟨(r.cursor.rest.takeWhile Text.isIdentifierPart).length, [], .nothing,
      { r.scratch with
        buffer := (r.cursor.rest.takeWhile Text.isIdentifierPart).reverse ++ r.scratch.buffer }⟩ :=
  rfl

namespace Machine

variable {limit : Prop} {m : Machine} {setting : Setting} {waiting waiting' : Stacks}
  {below : List State} {gap rest : List Char}

theorem leads_gap {s : State} (hgap : Gap gap rest) (hs : s.skipsBlanks)
    (hm : m.place = .between setting (s :: below) waiting gap) :
    m.Leads limit (.between setting (s :: below) waiting rest) := by
  cases hgap with
  | none => exact .refl hm
  | blank hc => exact leads_blank hm rfl hs (by decide) rfl

/-- A sign. -/
theorem leads_sign {op : UnaryOperator}
    (hm : m.place = .between setting (.operand :: below) waiting
      ((OperatorToken.sign op).text.toList ++ gap)) :
    m.Leads limit (.between setting (.operand :: below) (waiting.pushPrefix (.unary op)) gap) := by
  cases op with
  | not => exact leads_char hm rfl (by decide) (fun _ => rfl) (.inl rfl) rfl
  | minus => exact leads_char hm rfl (by decide) (fun _ => rfl) (.inl rfl) rfl

/-- An opening parenthesis. -/
theorem leads_opening {outer : List State}
    (hwaiting : OrTooDeep limit (waiting.perform (.token (.opening .paren))) waiting')
    (hm : m.place = .between setting (.operand :: outer) waiting
      ((OperatorToken.opening).text.toList ++ gap)) :
    m.Leads limit (.between setting (.operand :: .afterOperand :: .parenEnd :: outer) waiting' gap) :=
  leads_char hm rfl (by decide) (fun _ => rfl) hwaiting rfl

/-- A closing parenthesis. -/
theorem leads_closing {outer : List State}
    (hwaiting : OrTooDeep limit (waiting.perform (.token (.closing .paren))) waiting')
    (hm : m.place = .between setting (.afterOperand :: .parenEnd :: .afterOperand :: outer) waiting
      ((OperatorToken.closing).text.toList ++ gap)) :
    m.Leads limit (.between setting (.afterOperand :: outer) waiting' gap) := by
  have hend : m.Leads limit (.between setting (.parenEnd :: .afterOperand :: outer) waiting
      ((OperatorToken.closing).text.toList ++ gap)) :=
    leads_char hm rfl (by decide) (fun _ => rfl) (.inl rfl) rfl
  exact hend.trans fun m' hm' => leads_char hm' rfl (by decide) (fun _ => rfl) hwaiting rfl

/-- An infix operator of one character. -/
theorem leads_short {c : Char} {op : BinaryOperator} (hlook : Reader.lookahead? c = none)
    (hop : Reader.shortOperator? c = some op) (hblank : Text.isBlank c = false)
    (hwaiting : OrTooDeep limit (waiting.perform (.token (.operator (.binary op)))) waiting')
    (hm : m.place = .between setting (.afterOperand :: below) waiting (c :: gap)) :
    m.Leads limit (.between setting (.operand :: .afterOperand :: below) waiting' gap) := by
  have hplan : ∀ r : Reader, r.planAt (some c) .afterOperand =
      r.go 1 [.operand, .afterOperand] (.token (.operator (.binary op))) := by
    intro r
    simp only [Reader.planAt, Reader.continueOperand, hlook, hop]
  exact leads_char hm hblank (by decide) hplan hwaiting rfl

/-- An infix operator whose second character, if it has one, is read in a state of its own. -/
theorem leads_long {c : Char} {s : State} {op : Operator} {second : List Char} (width : Nat)
    (hlook : Reader.lookahead? c = some s) (hs : s.isLookahead) (hblank : Text.isBlank c = false)
    (hsecond : ∀ r : Reader, r.cursor.rest = second →
      r.plan s = .ok ⟨width, [.operand], .token (.operator op), r.scratch⟩)
    (hdrop : second.drop width = gap)
    (hwaiting : OrTooDeep limit (waiting.perform (.token (.operator op))) waiting')
    (hm : m.place = .between setting (.afterOperand :: below) waiting (c :: second)) :
    m.Leads limit (.between setting (.operand :: .afterOperand :: below) waiting' gap) := by
  have hplan : ∀ r : Reader, r.planAt (some c) .afterOperand = r.go 1 [s, .afterOperand] := by
    intro r
    simp only [Reader.planAt, Reader.continueOperand, hlook]
  have hnext : s ≠ .finish ∧ s.isEscape = false := by
    cases s <;> first | exact ⟨by decide, rfl⟩ | cases hs
  have hfirst : m.Leads limit (.between setting (s :: .afterOperand :: below) waiting second) :=
    leads_char hm hblank (by decide) hplan (.inl rfl) hnext.2
  refine hfirst.trans fun m' hm' => ?_
  obtain ⟨hbuffer, hparts⟩ := scratch_between hm'
  have hplan := hsecond m'.toReader (congrArg Place.rest hm')
  exact leads_between hm' rfl hnext.1 hplan hwaiting hdrop hbuffer hparts rfl

/-- An infix operator of two characters. -/
theorem leads_double {c d : Char} {s : State} {op : Operator} (hlook : Reader.lookahead? c = some s)
    (hs : s.isLookahead) (hblank : Text.isBlank c = false)
    (hsecond : ∀ r : Reader, r.planAt (some d) s =
      .ok ⟨1, [.operand], .token (.operator op), r.scratch⟩)
    (hwaiting : OrTooDeep limit (waiting.perform (.token (.operator op))) waiting')
    (hm : m.place = .between setting (.afterOperand :: below) waiting (c :: d :: gap)) :
    m.Leads limit (.between setting (.operand :: .afterOperand :: below) waiting' gap) := by
  refine leads_long 1 hlook hs hblank (fun r hr => ?_) rfl hwaiting hm
  have hcurrent : r.cursor.current = some d := by rw [Text.Cursor.current, hr]; rfl
  rw [r.plan_lookahead hs, hcurrent, hsecond]

/-- An infix operator of one character with which longer ones start. -/
theorem leads_single {c : Char} {s : State} {op : Operator} (hlook : Reader.lookahead? c = some s)
    (hs : s.isLookahead) (hblank : Text.isBlank c = false) (hgap : Gap gap rest)
    (hsecond : ∀ (r : Reader) (next : Option Char), next = none ∨ next = some ' ' →
      r.planAt next s = .ok ⟨0, [.operand], .token (.operator op), r.scratch⟩)
    (hwaiting : OrTooDeep limit (waiting.perform (.token (.operator op))) waiting')
    (hm : m.place = .between setting (.afterOperand :: below) waiting (c :: gap)) :
    m.Leads limit (.between setting (.operand :: .afterOperand :: below) waiting' gap) := by
  -- What stands behind is a blank or the end, and neither makes the operator longer.
  refine leads_long 0 hlook hs hblank (fun r hr => ?_) rfl hwaiting hm
  rw [r.plan_lookahead hs, Text.Cursor.current, hr]
  refine hsecond r _ ?_
  cases hgap with
  | none => exact .inl rfl
  | blank => exact .inr rfl

/-- An infix operator. -/
theorem leads_joint {j : Joint} (hgap : Gap gap rest)
    (hwaiting : OrTooDeep limit (waiting.perform (.token (.operator j.operator))) waiting')
    (hm : m.place = .between setting (.afterOperand :: below) waiting
      ((OperatorToken.joint j).text.toList ++ gap)) :
    m.Leads limit (.between setting (.operand :: .afterOperand :: below) waiting' gap) := by
  have hsingle : ∀ {s : State} {op : Operator},
      (∀ r : Reader, r.planAt none s = .ok ⟨0, [.operand], .token (.operator op), r.scratch⟩) →
      (∀ r : Reader, r.planAt (some ' ') s =
        .ok ⟨0, [.operand], .token (.operator op), r.scratch⟩) →
      ∀ (r : Reader) (next : Option Char), next = none ∨ next = some ' ' →
        r.planAt next s = .ok ⟨0, [.operand], .token (.operator op), r.scratch⟩ := by
    rintro s op hend hblank r next (rfl | rfl)
    · exact hend r
    · exact hblank r
  cases j with
  | pipe =>
      exact leads_single rfl rfl rfl hgap (hsingle (fun _ => rfl) fun _ => rfl) hwaiting hm
  | binary op =>
      cases op with
      | add => exact leads_short rfl rfl rfl hwaiting hm
      | subtract => exact leads_short rfl rfl rfl hwaiting hm
      | multiply => exact leads_short rfl rfl rfl hwaiting hm
      | modulo => exact leads_short rfl rfl rfl hwaiting hm
      | lessThan =>
          exact leads_single rfl rfl rfl hgap (hsingle (fun _ => rfl) fun _ => rfl) hwaiting hm
      | greaterThan =>
          exact leads_single rfl rfl rfl hgap (hsingle (fun _ => rfl) fun _ => rfl) hwaiting hm
      | divide =>
          exact leads_single rfl rfl rfl hgap (hsingle (fun _ => rfl) fun _ => rfl) hwaiting hm
      | or => exact leads_double rfl rfl rfl (fun _ => rfl) hwaiting hm
      | and => exact leads_double rfl rfl rfl (fun _ => rfl) hwaiting hm
      | equal => exact leads_double rfl rfl rfl (fun _ => rfl) hwaiting hm
      | notEqual => exact leads_double rfl rfl rfl (fun _ => rfl) hwaiting hm
      | lessEqual => exact leads_double rfl rfl rfl (fun _ => rfl) hwaiting hm
      | greaterEqual => exact leads_double rfl rfl rfl (fun _ => rfl) hwaiting hm
      | integerDivide => exact leads_double rfl rfl rfl (fun _ => rfl) hwaiting hm

/-! ## Names -/

/-- Where a name may stand: as an operand, or behind a dot. -/
def nameState (chained : Bool) : State := if chained then .afterDot else .operand

theorem leads_identifier {name : Identifier} {s : State} (hs : s.isEscape = false)
    (hgap : gap.head?.any Text.isIdentifierPart = false)
    (hm : m.place = .between setting (.identifier :: s :: below) waiting (name.chars ++ gap)) :
    m.Leads limit (.inName setting (s :: below) waiting gap name.chars.reverse) := by
  have htake : (name.chars ++ gap).takeWhile Text.isIdentifierPart = name.chars := by
    have hpart : ∀ c ∈ name.chars, Text.isIdentifierPart c :=
      List.forall_mem_cons.mpr
        ⟨Text.isIdentifierPart_of_isIdentifierStart name.starts, name.continues⟩
    rw [Text.takeWhile_append hgap, List.takeWhile_eq_self_iff.mpr hpart]
  have hplan := m.plan_identifier
  rw [show m.cursor.rest = name.chars ++ gap from congrArg Place.rest hm, htake,
    (scratch_between hm).1] at hplan
  have hrest : (name.chars ++ gap).drop name.chars.length = gap := List.drop_left
  refine leads_reading hm rfl (by decide) hplan (.inl rfl) hrest (List.append_nil _)
    (scratch_between hm).2 ?_
  exact State.keepsCodePoint_of_not_escape hs

/-- A name of which it is not decided yet whether it is a call. -/
theorem leads_word {name : Identifier} (chained : Bool)
    (hgap : gap.head?.any Text.isIdentifierPart = false)
    (hm : m.place = .between setting (nameState chained :: below) waiting (name.chars ++ gap)) :
    m.Leads limit (.inName setting (.identifierRead chained :: below) waiting gap
      name.chars.reverse) := by
  have hplan : m.plan (nameState chained) =
      .ok ⟨0, [.identifier, .identifierRead chained], .nothing, m.scratch⟩ := by
    rw [plan_of_place (Text.isBlank_of_isIdentifierStart name.starts) hm]
    cases chained with
    | false => exact m.startOperand_name name.starts
    | true =>
        simp only [nameState, if_true, Reader.planAt, Reader.stepAfterDot, name.starts]
        rfl
  have hfinish : nameState chained ≠ .finish := by cases chained <;> decide
  obtain ⟨hbuffer, hparts⟩ := scratch_between hm
  refine (leads_between hm rfl hfinish hplan (.inl rfl) rfl hbuffer hparts rfl).trans
    fun m' hm' => ?_
  exact leads_identifier rfl hgap hm'

theorem text_of_place {p : Place} {chars : List Char} (hm : m.place = p)
    (hp : p.buffer = chars.reverse) : m.scratch.text = String.ofList chars := by
  have hbuffer : m.scratch.buffer = p.buffer := congrArg Place.buffer hm
  rw [Scratch.text, hbuffer, hp, List.reverse_reverse]

/-- The end of a name that no parenthesis makes a call. -/
theorem leads_wordEnd {chained : Bool} {name : List Char} {waiting' : Stacks}
    (hblank : rest.head?.any Text.isBlank = false) (hcall : rest.head? ≠ some '(')
    (hwaiting : OrTooDeep limit
      (waiting.perform (Reader.pushField (String.ofList name) chained)) waiting')
    (hbelow : below.head?.any State.isEscape = false)
    (hm : m.place = .inName setting (.identifierRead chained :: below) waiting rest name.reverse) :
    m.Leads limit (.between setting below waiting' rest) := by
  have hcurrent : m.cursor.current = rest.head? := current_of_place hm
  have hplan : m.plan (.identifierRead chained) = .ok ⟨0, [],
      Reader.pushField (String.ofList name) chained, m.scratch.clearText⟩ := by
    have htext : m.scratch.text = String.ofList name := text_of_place hm rfl
    simp only [Reader.plan, hcurrent, hblank, Bool.and_false, Bool.false_eq_true, if_false,
      Reader.planAt, Reader.finishIdentifier, hcall, htext]
    rfl
  have hparts : m.scratch.parts = {} := congrArg Place.parts hm
  exact leads_between hm rfl (by simp) hplan hwaiting rfl rfl hparts hbelow

/-- A name, behind which no parenthesis makes it a call. -/
theorem leads_name {name : Identifier} (hgap : Gap gap rest) (hcall : rest.head? ≠ some '(')
    (hbelow : below.head?.any State.isEscape = false)
    (hm : m.place = .between setting (.operand :: below) waiting (name.chars ++ gap)) :
    m.Leads limit (.between setting below (waiting.pushOperand (.field name.text) false 2) rest) := by
  have hhead : gap.head?.any Text.isIdentifierPart = false := by
    cases hgap <;> rfl
  refine (leads_word false hhead hm).trans fun m' hm' => ?_
  -- The blank, if there is one, is stepped over before it is decided that this is no call.
  have hskip : m'.Leads limit (.inName setting (.identifierRead false :: below) waiting rest
      name.chars.reverse) := by
    cases hgap with
    | none => exact .refl hm'
    | blank hc => exact leads_blank hm' rfl rfl (by decide) rfl
  have hblank : rest.head?.any Text.isBlank = false := by
    cases hgap with
    | none => rfl
    | blank hc => exact hc
  exact hskip.trans fun m' hm' => leads_wordEnd hblank hcall (.inl rfl) hbelow hm'

end Machine

end Expr

/-! ## Expressions -/

namespace Expr.Machine

variable {limit : Prop}

/-- **`leads_feed`** — the parser goes over a token from where the yard stands before it to where it
stands after it. -/
theorem leads_feed {m : Machine} {setting : Setting} {y y' : Yard Identifier}
    {token : OperatorToken Identifier} {gap rest : List Char} (hfeed : y.feed token = some y')
    (hgap : Gap gap rest)
    (hcall : (∃ frames t, y' = .holding frames t) → rest.head? ≠ some '(')
    (hheight : maxNesting < y'.size .height → limit)
    (hnesting : maxNesting < y'.size .nesting → limit)
    (hm : m.place = y.place setting (token.text.toList ++ gap)) :
    m.Leads limit (y'.place setting rest) := by
  have hperform := perform_feed hfeed hheight hnesting
  -- The blank behind a token is skipped in whatever state comes next.
  have hafter : ∀ {s : State} {below : List State} {waiting : Stacks}, s.skipsBlanks →
      m.Leads limit (.between setting (s :: below) waiting gap) →
      m.Leads limit (.between setting (s :: below) waiting rest) :=
    fun hs h => h.trans fun m' hm' => leads_gap hgap hs hm'
  cases y with
  | expecting frames =>
      cases token with
      | operand name =>
          obtain rfl := Option.some.inj hfeed
          show m.Leads limit (.between setting (.afterOperand :: Frame.outerStates frames)
            ((Yard.expecting frames).stacks.pushOperand (.field name.text) false 2) rest)
          refine leads_name hgap (hcall ⟨_, _, rfl⟩) rfl ?_
          rw [OperatorToken.text, Identifier.text, String.toList_ofList] at hm
          exact hm
      | sign op =>
          obtain rfl := Option.some.inj hfeed
          exact hafter rfl (leads_sign hm)
      | opening =>
          obtain rfl := Option.some.inj hfeed
          exact hafter rfl (leads_opening hperform hm)
      | closing | joint => cases hfeed
  | holding frames t =>
      cases token with
      | operand | sign | opening => cases hfeed
      | joint j =>
          obtain rfl := Option.some.inj hfeed
          have hstates := Frame.outerStates_applyWhile (· ≤ j.level) frames t
          refine hafter rfl ?_
          simp only [Frame.outerStates, hstates]
          exact leads_joint hgap hperform hm
      | closing =>
          simp only [Yard.feed] at hfeed
          split at hfeed
          · rename_i frames' body happly
            obtain rfl := Option.some.inj hfeed
            have hstates := Frame.outerStates_applyWhile (fun _ => true) frames t
            rw [happly] at hstates
            refine hafter rfl (leads_closing hperform ?_)
            rw [hm, Yard.place, Yard.states, ← hstates]
            rfl
          · cases hfeed

/-- The parser goes over all tokens. -/
theorem leads_feedAll {tokens : List (OperatorToken Identifier)} {m : Machine} {setting : Setting}
    {y y' : Yard Identifier} (hfeed : y.feedAll tokens = some y')
    (hheight : maxNesting < y'.size .height → limit)
    (hnesting : maxNesting < y'.size .nesting → limit)
    (hm : m.place = y.place setting (spell tokens).toList) :
    m.Leads limit (y'.place setting []) := by
  induction tokens generalizing m y with
  | nil =>
      obtain rfl := Option.some.inj hfeed
      exact .refl hm
  | cons token tokens ih =>
      rw [Yard.feedAll_cons, Option.bind_eq_some_iff] at hfeed
      obtain ⟨next, hnext, hfeed⟩ := hfeed
      cases tokens with
      | nil =>
          obtain rfl := Option.some.inj hfeed
          refine leads_feed hnext .none (fun _ => nofun) hheight hnesting ?_
          rw [List.append_nil]
          exact hm
      | cons token' tokens =>
          rw [spell_cons_cons, String.toList_append, String.toList_append, List.append_assoc] at hm
          obtain ⟨c, cs, htext, hblank, hopening⟩ := head_of_spell token' tokens
          -- What has been read so far is no larger than what will have been read.
          have hheight' : maxNesting < next.size .height → limit :=
            fun hdeep => hheight (Nat.lt_of_lt_of_le hdeep (Yard.size_feedAll hfeed))
          have hnesting' : maxNesting < next.size .nesting → limit :=
            fun hdeep => hnesting (Nat.lt_of_lt_of_le hdeep (Yard.size_feedAll hfeed))
          refine (leads_feed hnext ?_ ?_ hheight' hnesting' hm).trans fun m' hm' => ih hfeed hm'
          · rw [htext]
            exact .blank hblank
          · rintro ⟨frames, t, rfl⟩
            have hne : token' ≠ .opening := by
              rintro rfl
              cases hfeed
            rw [htext, List.head?_cons]
            exact fun h => hopening hne (Option.some.inj h)

end Expr.Machine

/-- What the yard comes to at the end of the tokens is read from their text, unless it is too high or
its parentheses nest too deep. -/
theorem parse_of_feedAll {tokens : List (OperatorToken Identifier)}
    {frames : List (Frame Identifier)} {t t' : OperatorTree Identifier}
    (hfeed : (Yard.expecting []).feedAll tokens = some (.holding frames t'))
    (happly : applyWhile (fun _ => true) frames t' = ([], t)) (registry : Registry) :
    parse (spell tokens) registry = .ok t.toExpr ∨
      ((maxNesting < t.size .height ∨ maxNesting < t.size .nesting) ∧
        ∃ position, parse (spell tokens) registry = .error ⟨.nestingTooDeep, position⟩) := by
  have hstates : (Yard.holding frames t').states = [.afterOperand, .finish] := by
    have houter := Frame.outerStates_applyWhile (fun _ => true) frames t'
    rw [happly] at houter
    rw [Yard.states, ← houter]
    rfl
  have hsize : ∀ gauge, (Yard.holding frames t').size gauge = t.size gauge :=
    fun gauge => Yard.size_holding happly
  simp only [parse_eq_iff]
  have hstart := Machine.place_start (spell tokens) registry
  refine (Machine.leads_feedAll hfeed (fun hdeep => ?_) (fun hdeep => ?_) hstart).ends
    fun m hm => ?_
  · exact .inl (hsize .height ▸ hdeep)
  · exact .inr (hsize .nesting ▸ hdeep)
  · rw [Yard.place, hstates] at hm
    exact (Machine.leads_end hm rfl).ends fun m' hm' =>
      Machine.ends_of_finish hm' (result_holding happly .inl)

/-- **`parse_operators`** — an operator expression is read as the one tree that groups it well, unless
the tree is too high or its parentheses nest too deep. -/
theorem parse_operators {tokens : List (OperatorToken Identifier)}
    (htokens : IsOperatorExpression tokens) (registry : Registry) :
    ∃ t : OperatorTree Identifier, t.reading = tokens ∧ t.WellGrouped ∧
      (∀ t' : OperatorTree Identifier, t'.reading = tokens → t'.WellGrouped → t' = t) ∧
      (parse (spell tokens) registry = .ok t.toExpr ∨
        ((maxNesting < t.size .height ∨ maxNesting < t.size .nesting) ∧
          ∃ position, parse (spell tokens) registry = .error ⟨.nestingTooDeep, position⟩)) := by
  obtain ⟨t, rfl, hgrouped⟩ := htokens.exists_tree
  refine ⟨t, rfl, hgrouped, fun t' hreading hgrouped' =>
    OperatorTree.reading_injective hgrouped' hgrouped hreading, ?_⟩
  obtain ⟨frames, t', hfeed, happly⟩ := exists_holding hgrouped
  exact parse_of_feedAll hfeed happly registry

/-- `! a | b`: the sign binds tighter than the pipe. -/
theorem parse_operators_not_pipe :
    let a : Identifier := ⟨'a', [], rfl, nofun⟩
    let b : Identifier := ⟨'b', [], rfl, nofun⟩
    let tokens : List (OperatorToken Identifier) :=
      [.sign .not, .operand a, .joint .pipe, .operand b]
    IsOperatorExpression tokens ∧
      parse (spell tokens) .builtins = .ok (.pipe (.unary .not (.field "a")) (.field "b")) := by
  intro a b tokens
  have htokens : IsOperatorExpression tokens :=
    .join .pipe (.operand (.sign .not (.operand a))) (.operand b)
  refine ⟨htokens, ?_⟩
  obtain ⟨t, -, -, hunique, hparse⟩ := parse_operators htokens .builtins
  have hgrouped : (OperatorTree.join .pipe (.sign .not (.operand a)) (.operand b)).WellGrouped :=
    ⟨Nat.le_of_lt Joint.pipe.one_lt_level, Nat.zero_lt_of_lt Joint.pipe.one_lt_level,
      ⟨Nat.zero_le _, trivial⟩, trivial⟩
  obtain rfl := hunique _ rfl hgrouped
  refine hparse.resolve_right ?_
  rintro ⟨hdeep | hdeep, -⟩
  · exact absurd hdeep (by unfold a b; decide)
  · exact absurd hdeep (by unfold a b; decide)

end JsonQuery
