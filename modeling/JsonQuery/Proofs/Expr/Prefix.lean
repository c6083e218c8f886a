/-
# JsonQuery.Proofs.Expr.Prefix — the beginning of an expression.

The runs on a text and on its beginning make the same moves until their plans part, or until the
beginning has been read.  From there on the shorter run has next to nothing left to read: it succeeds,
it finds that the text ends too early, or the nesting gets too deep.  Only half a comparison operator
and the sign of a number are told by errors of their own, and then the whole text goes on with the
other half or with digits.
-/
import JsonQuery.Proofs.Expr.Parting

namespace JsonQuery.Expr

open Text (Cursor Position isBlank isAsciiDigit)

/-- The same machine in a text that goes on. -/
def Machine.followedBy (m : Machine) (tail : List Char) : Machine :=
  { m with cursor := m.cursor.followedBy tail }

namespace Machine

variable {m m' : Machine} {tail : List Char}

/-! ## Where runs part -/

/-- Blanks behind an operand do not keep a run from breaking off. -/
theorem breaksOff_blanks (hm : m.Sound) {s : State} {below : List State}
    (hstates : m.states = s :: below) (hs : s.skipsBlanks) (hend : s.mistakesEnd = false)
    (hblanks : ∀ c ∈ m.cursor.rest, isBlank c) : m.BreaksOff := by
  generalize hrest : m.cursor.rest = rest at hblanks
  induction rest generalizing m with
  | nil =>
      refine Drained.breaksOff ⟨hm, hrest, ?_⟩
      rw [hstates]
      exact hend
  | cons c rest ih =>
      have hplan : m.plan s = .ok ⟨1, [s], .nothing, m.scratch⟩ := by
        have hcurrent : m.cursor.current = some c := by rw [Cursor.current, hrest]; rfl
        have hblank : (s.skipsBlanks && m.cursor.current.any isBlank) = true := by
          rw [hs, hcurrent]
          exact hblanks c List.mem_cons_self
        exact if_pos hblank
      have hdone : m.isDone = false := isDone_of_rest (hrest ▸ List.cons_ne_nil c rest)
      refine .of_move hm hdone hstates hplan rfl fun waiting hsound => ?_
      refine ih hsound rfl ?_ fun b hb => hblanks b (List.mem_cons_of_mem c hb)
      show (m.cursor.advanceBy 1).rest = rest
      rw [Cursor.advanceBy_rest, hrest]
      rfl

/-- What a bracket that is taken for a list starts with is read as an operand or as its sign. -/
theorem breaksOff_operand (hm : m.Sound) {below : List State}
    (hstates : m.states = .operand :: .afterOperand :: below)
    (hrest : m.cursor.rest = ['-'] ∨
      ∃ blanks, m.cursor.rest = '*' :: blanks ∧ ∀ c ∈ blanks, isBlank c) : m.BreaksOff := by
  obtain hrest | ⟨blanks, hrest, hblanks⟩ := hrest
  · have hdone := isDone_of_rest (hrest ▸ List.cons_ne_nil _ _)
    have hplan : m.plan .operand =
        .ok ⟨1, [.operand], .token (.operator (.unary .minus)), m.scratch⟩ := by
      simp only [Reader.plan, Cursor.current, hrest]
      rfl
    refine .of_move hm hdone hstates hplan rfl fun waiting hsound => ?_
    refine Drained.breaksOff ⟨hsound, ?_, rfl⟩
    show (m.cursor.advanceBy 1).rest = []
    rw [Cursor.advanceBy_rest, hrest]
    rfl
  · have hdone := isDone_of_rest (hrest ▸ List.cons_ne_nil _ _)
    have hplan : m.plan .operand =
        .ok ⟨1, [], .leaf (projectAll .object .current) true, m.scratch⟩ := by
      simp only [Reader.plan, Cursor.current, hrest]
      rfl
    refine .of_move hm hdone hstates hplan rfl fun waiting hsound => ?_
    refine breaksOff_blanks hsound rfl rfl rfl ?_
    show ∀ c ∈ (m.cursor.advanceBy 1).rest, isBlank c
    rw [Cursor.advanceBy_rest, hrest]
    exact hblanks

/-- **`breaksOff_of_parts`** — where the plans for a text and its beginning part, the run on the
beginning breaks off, unless all that is left of it is the sign of a number. -/
theorem breaksOff_of_parts (hm : m.Sound) {s : State} {below : List State}
    (hstates : m.states = s :: below) (hrest : m.cursor.rest ≠ [])
    (hparts : m.toReader.Parts tail s) : m.BreaksOff ∨
      s = .number ∧ m.cursor.rest = ['-'] ∧ tail.head?.any isAsciiDigit := by
  have hdone := isDone_of_rest hrest
  cases hparts with
  | sign hsign hdigit => exact .inr ⟨rfl, hsign, hdigit⟩
  | short hplan hnext =>
      refine .inl (.of_move hm hdone hstates hplan rfl fun waiting hsound => ?_)
      refine Drained.breaksOff ⟨hsound, ?_, ?_⟩
      · show (m.cursor.advanceBy m.cursor.rest.length).rest = []
        rw [Cursor.advanceBy_rest, List.drop_length]
      · obtain ⟨rfl, hend⟩ | ⟨rfl, htext⟩ := hnext
        · exact hend
        · exact hm.head_below hstates htext
  | list hplan hleft =>
      refine .inl (.of_move hm hdone hstates hplan rfl fun waiting hsound => ?_)
      exact breaksOff_operand hsound rfl hleft

/-! ## Where the end is mistaken -/

variable {text : String} {registry : Registry} {s : State} {below : List State}

/-- Where the end could be mistaken, the move before has brought the state that does. -/
theorem exists_last_move (hreach : (start text registry).Reaches m) (hstates : m.states = s :: below)
    (hs : s.mistakesEnd) (hread : s ≠ .jsonRead) : ∃ last t below' move waiting,
      (start text registry).Reaches last ∧ last.states = t :: below' ∧ last.plan t = .ok move ∧
      move.next.head? = some s ∧ m = last.after below' move waiting := by
  obtain rfl | ⟨last, hlast, hstep⟩ := hreach.eq_or_step
  · cases hstates
    cases hs
  · have hsound := (sound_start text registry).reaches hlast
    obtain ⟨t, below', move, waiting, hstates', hplan, -, rfl⟩ := step_eq_ok.mp hstep
    refine ⟨last, t, below', move, waiting, hlast, hstates', hplan, ?_, rfl⟩
    replace hstates : move.next ++ below' = s :: below := hstates
    cases hnext : move.next with
    | cons u next =>
        rw [hnext] at hstates
        exact congrArg some (List.cons.inj hstates).1
    | nil =>
        -- It cannot have been below the state that goes.
        obtain rfl : below' = s :: below := by rwa [hnext] at hstates
        have hcovers := hsound.covers
        rw [hstates', List.isChain_cons_cons] at hcovers
        by_cases htext : t = .jsonText
        · subst htext
          exact absurd (beq_iff_eq.mp hcovers.1) hread
        · have hbelow := hsound.head_below hstates' htext
          cases hs.symm.trans hbelow

/-- A number is only asked for where something is left to read. -/
theorem rest_ne_nil_of_number (hreach : (start text registry).Reaches m)
    (hstates : m.states = .number :: below) : m.cursor.rest ≠ [] := by
  obtain ⟨last, t, below', move, waiting, -, -, hplan, hhead, rfl⟩ :=
    exists_last_move hreach hstates rfl (by decide)
  obtain ⟨-, hslicing, hwidth⟩ | ⟨hlookahead, -⟩ :=
    (Reader.plan_turn hplan).head_of_mistakesEnd hhead rfl
  · have hfinish : t ≠ .finish := by
      rintro rfl
      cases hslicing
    show (last.cursor.advanceBy move.width).rest ≠ []
    rw [hwidth]
    exact Reader.rest_ne_nil hplan hfinish (State.mistakesEnd_of_slicing hslicing) hhead rfl
  · cases hlookahead

/-- Half a comparison operator stands behind an operand. -/
theorem exists_before_comparator (hreach : (start text registry).Reaches m)
    (hstates : m.states = s :: below) (hs : s.awaitsEquals) :
    ∃ last c, (start text registry).Reaches last ∧ last.states.head? = some .afterOperand ∧
      last.cursor.rest = c :: m.cursor.rest ∧ (c = '=' ∨ c = '!') := by
  have hend := State.mistakesEnd_of_awaitsEquals hs
  have hread : s ≠ .jsonRead := by
    rintro rfl
    cases hs
  obtain ⟨last, t, below', move, waiting, hlast, hstates', hplan, hhead, rfl⟩ :=
    exists_last_move hreach hstates hend hread
  obtain ⟨rfl, -⟩ | ⟨-, rfl, hwidth⟩ := (Reader.plan_turn hplan).head_of_mistakesEnd hhead hend
  · cases hs
  · have hne := Reader.rest_ne_nil hplan (by decide) rfl hhead hend
    obtain ⟨c, rest, hrest⟩ := List.exists_cons_of_ne_nil hne
    refine ⟨last, c, hlast, by rw [hstates']; rfl, ?_, ?_⟩
    · show last.cursor.rest = c :: (last.cursor.advanceBy move.width).rest
      rw [Cursor.advanceBy_rest, hwidth, hrest]
      rfl
    · exact Reader.eq_of_awaitsEquals hrest hplan hhead hs

/-- What a run on a text has not read yet is the end of the text. -/
theorem rest_suffix (h : (start text registry).Reaches m) : m.cursor.rest <:+ text.toList := by
  refine h.preserves (P := fun m => m.cursor.rest <:+ text.toList) ?_ (List.suffix_refl _)
  intro m m' hm hstep
  obtain ⟨s, below, move, waiting, -, -, -, rfl⟩ := step_eq_ok.mp hstep
  show (m.cursor.advanceBy move.width).rest <:+ text.toList
  rw [Cursor.advanceBy_rest]
  exact (List.drop_suffix _ _).trans hm

/-- A run does not change where the text ends. -/
theorem endPosition_eq (h : (start text registry).Reaches m) :
    m.cursor.endPosition = Position.after text.toList := by
  refine h.preserves (P := fun m => m.cursor.endPosition = Position.after text.toList) ?_
    (Cursor.endPosition_start text)
  intro m m' hm hstep
  obtain ⟨s, below, move, waiting, -, -, -, rfl⟩ := step_eq_ok.mp hstep
  exact (endPosition_after below move waiting).trans hm

/-- A number is read for a part of an index or a slice. -/
theorem Sound.exists_slicing (h : m.Sound) (hstates : m.states = .number :: below) :
    ∃ s below', below = s :: below' ∧ s.isSlicing := by
  obtain ⟨inner, hlast⟩ := h.regular.last
  have hrests := h.regular.rests
  rw [hstates] at hlast hrests
  cases below with
  | nil =>
      cases inner with
      | nil => cases hlast
      | cons t inner => simp at hlast
  | cons s below' => exact ⟨s, below', rfl, (List.isChain_cons_cons.mp hrests).1⟩

theorem after_followedBy {move : Move} (hwidth : move.width ≤ m.cursor.rest.length)
    (below : List State) (waiting : Stacks) : (m.after below move waiting).followedBy tail =
      (m.followedBy tail).after below move waiting := by
  have hadvance : (m.cursor.followedBy tail).advanceBy move.width =
      (m.cursor.advanceBy move.width).followedBy tail := Cursor.advanceBy_followedBy hwidth
  unfold after
  rw [followedBy, followedBy, hadvance]

end Machine

/-! ## Beginnings of texts -/

/-- **`Interrupted registry text rest e`** — ways in which reading a text may fail that `rest` goes
on. -/
inductive Interrupted (registry : Registry) (text rest : String) : ParseError → Prop where
  /-- The text ends too early. -/
  | endOfInput : Interrupted registry text rest ⟨.unexpectedEndOfInput, Position.after text.toList⟩
  /-- The nesting is too deep. -/
  | tooDeep (position : Position) : Interrupted registry text rest ⟨.nestingTooDeep, position⟩
  /-- The text ends behind the first character of `==` or `!=`, which stands behind an operand. -/
  | comparator {m : Machine} {before : List Char} {c : Char} : text.toList = before ++ [c] →
      c = '=' ∨ c = '!' → rest.toList.head? = some '=' → (Machine.start text registry).Reaches m →
      m.states.head? = some .afterOperand → m.cursor.rest = [c] →
      Interrupted registry text rest ⟨.expectedComparator, Position.after text.toList⟩
  /-- The text ends behind the sign of a number in a bracket. -/
  | sign {m : Machine} {s : State} {below : List State} {before : List Char} :
      text.toList = before ++ ['-'] → rest.toList.head?.any isAsciiDigit →
      (Machine.start text registry).Reaches m → m.states = .number :: s :: below → s.isSlicing →
      m.cursor.rest = ['-'] →
      Interrupted registry text rest ⟨.invalidNumber, Position.after text.toList⟩

variable {text rest : String} {registry : Registry} {m : Machine} {e : ParseError}

theorem Interrupted.of_breaksOff (hreach : (Machine.start text registry).Reaches m)
    (hbreaks : m.BreaksOff) (hends : m.Ends (.error e)) : Interrupted registry text rest e := by
  obtain ⟨cause, position⟩ := e
  obtain hend | hdeep := hbreaks _ hends
  · rw [hend, Machine.endPosition_eq hreach]
    exact .endOfInput
  · obtain rfl : cause = .nestingTooDeep := hdeep
    exact .tooDeep position

/-- At the end of a text that goes on, half a comparison operator is the beginning of one. -/
theorem Interrupted.of_comparator (hreach : (Machine.start text registry).Reaches m) {s : State}
    {below : List State} (hstates : m.states = s :: below) (hs : s.awaitsEquals)
    (hnil : m.cursor.rest = []) (hhead : rest.toList.head? = some '=')
    (hends : m.Ends (.error e)) : Interrupted registry text rest e := by
  have hplan : m.plan s = m.fail .expectedComparator := by
    refine Reader.plan_awaitsEquals hs ?_
    rw [Cursor.current, hnil]
    simp
  have hfinish : s ≠ .finish := by
    rintro rfl
    cases hs
  have hdone := Machine.isDone_eq_false hstates hfinish
  cases hends.unique (.stuck hdone (Machine.step_of_plan_error hstates hplan))
  rw [← Cursor.endPosition_of_nil hnil, Machine.endPosition_eq hreach]
  obtain ⟨last, c, hlast, htop, hleft, hc⟩ := Machine.exists_before_comparator hreach hstates hs
  rw [hnil] at hleft
  obtain ⟨before, hbefore⟩ : [c] <:+ text.toList := hleft ▸ Machine.rest_suffix hlast
  exact .comparator hbefore.symm hc hhead hlast htop hleft

/-- A number of which there is only the sign has its digits behind the beginning. -/
theorem Interrupted.of_sign (hreach : (Machine.start text registry).Reaches m) {below : List State}
    (hstates : m.states = .number :: below) (hleft : m.cursor.rest = ['-'])
    (hdigit : rest.toList.head?.any isAsciiDigit) (hends : m.Ends (.error e)) :
    Interrupted registry text rest e := by
  have hsound := (Machine.sound_start text registry).reaches hreach
  have hplan : m.plan .number = .error ⟨.invalidNumber, (m.cursor.advanceBy 1).position⟩ := by
    simp only [Reader.plan, Reader.planAt, Reader.readNumber, State.skipsBlanks, Cursor.current, hleft]
    rfl
  have hdone := Machine.isDone_eq_false hstates (by decide)
  cases hends.unique (.stuck hdone (Machine.step_of_plan_error hstates hplan))
  have hposition : (m.cursor.advanceBy 1).position = Position.after text.toList := by
    have hnil : (m.cursor.advanceBy 1).rest = [] := by
      rw [Cursor.advanceBy_rest, hleft]
      rfl
    rw [← Cursor.endPosition_of_nil hnil, Cursor.endPosition_advanceBy,
      Machine.endPosition_eq hreach]
  rw [hposition]
  obtain ⟨before, hbefore⟩ : ['-'] <:+ text.toList := hleft ▸ Machine.rest_suffix hreach
  obtain ⟨s, below', rfl, hs⟩ := hsound.exists_slicing hstates
  exact .sign hbefore.symm hdigit hreach hstates hs hleft

/-- **`Interrupted.of_end`** — at the end of a text, a move of the whole text shows what is missing. -/
theorem Interrupted.of_end (hreach : (Machine.start text registry).Reaches m)
    (hnil : m.cursor.rest = []) {next : Machine} (hstep : (m.followedBy rest.toList).step = .ok next)
    (hends : m.Ends (.error e)) : Interrupted registry text rest e := by
  have hsound := (Machine.sound_start text registry).reaches hreach
  obtain ⟨s, below, move, waiting, hstates, hplan, hperform, -⟩ := Machine.step_eq_ok.mp hstep
  replace hstates : m.states = s :: below := hstates
  replace hplan : (m.toReader.followedBy rest.toList).plan s = .ok move := hplan
  cases hend : s.mistakesEnd with
  | false =>
      refine .of_breaksOff hreach (Machine.Drained.breaksOff ⟨hsound, hnil, ?_⟩) hends
      rw [hstates]
      exact hend
  | true =>
      have hcurrent : (m.toReader.followedBy rest.toList).cursor.current = rest.toList.head? := by
        show (m.cursor.rest ++ rest.toList).head? = _
        rw [hnil]
        rfl
      have hequals : s.awaitsEquals → rest.toList.head? = some '=' := by
        intro hs
        rw [← hcurrent]
        by_contra hne
        cases (Reader.plan_awaitsEquals hs hne).symm.trans hplan
      cases s with
      | number => exact absurd hnil (Machine.rest_ne_nil_of_number hreach hstates)
      | afterEquals | afterBang => exact .of_comparator hreach hstates rfl hnil (hequals rfl) hends
      | jsonRead =>
          -- The literal is the same one in the whole text.
          replace hplan : m.plan .jsonRead = .ok move := hplan
          have hstep' := Machine.step_eq_ok.mpr ⟨_, _, _, _, hstates, hplan, hperform, rfl⟩
          have hdone := Machine.isDone_eq_false hstates (by decide)
          have hnext := Machine.Reaches.move hdone hstep' (.refl _)
          obtain ⟨hwidth, hempty⟩ := Reader.width_of_jsonRead hplan
          refine .of_breaksOff (hreach.trans hnext) (Machine.Drained.breaksOff ?_)
            (hnext.ends_of_ends hends)
          refine ⟨hsound.step hstep', ?_, ?_⟩
          · show (m.cursor.advanceBy move.width).rest = []
            rw [hwidth]
            exact hnil
          · show (move.next ++ below).head?.any State.mistakesEnd = false
            rw [hempty]
            exact hsound.head_below hstates (by decide)
      | _ => cases hend

/-- **`Interrupted.of_ends`** — where the run on the whole text has a result, a failure of the run on
its beginning is one of these. -/
theorem Interrupted.of_ends {tree : Expr} (hrest : rest.toList ≠ [])
    (hreach : (Machine.start text registry).Reaches m)
    (hwhole : (m.followedBy rest.toList).Ends (.ok tree)) (hends : m.Ends (.error e)) :
    Interrupted registry text rest e := by
  generalize hfollowed : m.followedBy rest.toList = whole at hwhole
  generalize hresult : Except.ok tree = result at hwhole
  -- Both runs make the same moves until they part, and then the shorter one breaks off.
  induction hwhole generalizing m with
  | @done whole hdone =>
      subst hfollowed
      rw [Machine.isDone, Bool.and_eq_true] at hdone
      have hempty : m.cursor.rest ++ rest.toList = [] := List.isEmpty_iff.mp hdone.1
      exact absurd (List.append_eq_nil_iff.mp hempty).2 hrest
  | stuck => cases hresult
  | @move whole next result hnot hstep hwhole ih =>
      subst hfollowed
      by_cases hnil : m.cursor.rest = []
      · exact .of_end hreach hnil hstep hends
      obtain ⟨s, below, move, waiting, hstates, hplan, hperform, rfl⟩ := Machine.step_eq_ok.mp hstep
      replace hstates : m.states = s :: below := hstates
      replace hplan : (m.toReader.followedBy rest.toList).plan s = .ok move := hplan
      have hsound := (Machine.sound_start text registry).reaches hreach
      obtain hsame | hparts := Reader.plan_parts hnil hplan
      · have hstep' := Machine.step_eq_ok.mpr ⟨_, _, _, _, hstates, hsame, hperform, rfl⟩
        have hnext := Machine.Reaches.move (Machine.isDone_of_rest hnil) hstep' (.refl _)
        refine ih (hreach.trans hnext) (hnext.ends_of_ends hends) ?_ hresult
        exact Machine.after_followedBy (Reader.width_le hsame) below waiting
      · obtain hbreaks | ⟨rfl, hsign, hdigit⟩ :=
          Machine.breaksOff_of_parts hsound hstates hnil hparts
        · exact .of_breaksOff hreach hbreaks hends
        · exact .of_sign hreach hstates hsign hdigit hends

/-- **`parse_prefix`** — errors before the end of a text are final: where a text is read, every
beginning of it is read, or it fails at its end for what is missing there, or for its nesting. -/
theorem parse_prefix {tree : Expr} (h : parse (text ++ rest) registry = .ok tree) :
    (∃ tree', parse text registry = .ok tree') ∨
      ∃ e, parse text registry = .error e ∧ Interrupted registry text rest e := by
  cases hparse : parse text registry with
  | ok tree' => exact .inl ⟨tree', rfl⟩
  | error e =>
      refine .inr ⟨e, rfl, ?_⟩
      by_cases hrest : rest.toList = []
      · -- A beginning that leaves nothing is the text itself.
        obtain rfl : rest = "" := String.toList_inj.mp hrest
        rw [String.append_empty, hparse] at h
        cases h
      · have hwhole := parse_eq_iff.mp h
        have hstart : Machine.start (text ++ rest) registry =
            (Machine.start text registry).followedBy rest.toList := by
          rw [Machine.start, Cursor.start_append]
          rfl
        rw [hstart] at hwhole
        exact .of_ends hrest (.refl _) hwhole (parse_eq_iff.mp hparse)

/-- A comparison of an item from the end of a list, cut off behind the sign of its index and in the
middle of its operator. -/
theorem parse_prefix_comparison :
    (∃ tree, parse "a[-1] == b" .builtins = .ok tree) ∧
      parse "a[-" .builtins = .error ⟨.invalidNumber, ⟨1, 4⟩⟩ ∧
      Interrupted .builtins "a[-" "1] == b" ⟨.invalidNumber, ⟨1, 4⟩⟩ ∧
      parse "a[-1] =" .builtins = .error ⟨.expectedComparator, ⟨1, 8⟩⟩ ∧
      Interrupted .builtins "a[-1] =" "= b" ⟨.expectedComparator, ⟨1, 8⟩⟩ := by
  have hwhole : ∃ tree, parse "a[-1] == b" .builtins = .ok tree := ⟨_, rfl⟩
  have hsign : parse "a[-" .builtins = .error ⟨.invalidNumber, ⟨1, 4⟩⟩ := by rfl
  have hhalf : parse "a[-1] =" .builtins = .error ⟨.expectedComparator, ⟨1, 8⟩⟩ := by rfl
  obtain ⟨tree, htree⟩ := hwhole
  refine ⟨⟨tree, htree⟩, hsign, ?_, hhalf, ?_⟩
  · have hcut : parse ("a[-" ++ "1] == b") .builtins = .ok tree := htree
    obtain ⟨_, hok⟩ | ⟨e, he, hinterrupted⟩ := parse_prefix hcut
    · cases hok.symm.trans hsign
    · cases he.symm.trans hsign
      exact hinterrupted
  · have hcut : parse ("a[-1] =" ++ "= b") .builtins = .ok tree := htree
    obtain ⟨_, hok⟩ | ⟨e, he, hinterrupted⟩ := parse_prefix hcut
    · cases hok.symm.trans hhalf
    · cases he.symm.trans hhalf
      exact hinterrupted

end JsonQuery.Expr
