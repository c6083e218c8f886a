/-
# JsonQuery.Proofs.Expr.Place — where a run of the parser stands.

Of a machine only a part decides how its run goes on: not where in the text it is, which only errors
and references tell, and not the code points of an escape that has ended.  The rest is its `Place`.
Proofs that follow a text token by token go from place to place.
-/
import JsonQuery.Proofs.Expr.Moves

namespace JsonQuery.Expr

open ParseError (Cause)

/-! ## Up to the limits on nesting -/

/-- **`OrTooDeep limit r a`** — `r` is `a` unless something nests too deep, which takes `limit`. -/
def OrTooDeep {α : Type} (limit : Prop) (r : Except Cause α) (a : α) : Prop :=
  r = .ok a ∨ (limit ∧ r = .error .nestingTooDeep)

namespace OrTooDeep

variable {α β : Type} {limit : Prop}

theorem bind {r : Except Cause α} {a : α} {f : α → Except Cause β} {b : β}
    (hr : OrTooDeep limit r a) (hf : OrTooDeep limit (f a) b) : OrTooDeep limit (r >>= f) b := by
  rcases hr with rfl | ⟨hlimit, rfl⟩
  · exact hf
  · exact .inr ⟨hlimit, rfl⟩

theorem pushNode (e : Expr) (projecting : Bool) {height : Nat} (items : List Item)
    (hlimit : maxNesting < height → limit) :
    OrTooDeep limit (pushNode e projecting height items)
      (.operand ⟨e, projecting, height⟩ :: items) := by
  unfold Expr.pushNode
  split
  · exact .inr ⟨hlimit ‹_›, rfl⟩
  · exact .inl rfl

theorem openGroup (s : Stacks) (g : Group) (hlimit : maxNesting < s.depth + 1 → limit) :
    OrTooDeep limit (s.openGroup g) ⟨.opened g :: s.items, .barrier :: s.pending, s.depth + 1⟩ := by
  unfold Stacks.openGroup
  split
  · exact .inr ⟨hlimit ‹_›, rfl⟩
  · exact .inl rfl

end OrTooDeep

/-! ## Places -/

namespace State

/-- Whether the code point of an escape is being put together, or waits for its second half. -/
def keepsCodePoint : State → Bool
  | .escapeHex _ _ | .surrogateBackslash | .surrogateU => true
  | _ => false

/-- Whether the second half of a surrogate pair is being put together. -/
def keepsLowCodePoint : State → Bool
  | .escapeHex _ low => low
  | _ => false

theorem keepsCodePoint_of_not_escape {s : State} (h : s.isEscape = false) :
    s.keepsCodePoint = false := by
  cases s <;> first | rfl | cases h

theorem keepsLowCodePoint_of_not_keeps {s : State} (h : s.keepsCodePoint = false) :
    s.keepsLowCodePoint = false := by
  cases s <;> first | rfl | cases h

theorem keepsLowCodePoint_of_not_escape {s : State} (h : s.isEscape = false) :
    s.keepsLowCodePoint = false :=
  keepsLowCodePoint_of_not_keeps (keepsCodePoint_of_not_escape h)

end State

/-- What stays the same along a run: the functions that there are, and how long the text is. -/
structure Setting where
  registry : Registry
  length : Nat

/-- All of a machine that decides how its run goes on. -/
structure Place where
  setting : Setting
  states : List State
  waiting : Stacks
  rest : List Char
  buffer : List Char := []
  parts : SliceParts := {}
  codePoint : Nat := 0
  lowCodePoint : Nat := 0

/-- A place between tokens: no name, literal or bracket is being read. -/
def Place.between (setting : Setting) (states : List State) (waiting : Stacks)
    (rest : List Char) : Place :=
  { setting := setting, states := states, waiting := waiting, rest := rest }

/-- A place in a name or a literal, of which `buffer` has been read, the last character first. -/
def Place.inName (setting : Setting) (states : List State) (waiting : Stacks)
    (rest buffer : List Char) : Place :=
  { between setting states waiting rest with buffer := buffer }

/-- A place in a bracket, of which `parts` have been read. -/
def Place.inBracket (setting : Setting) (states : List State) (waiting : Stacks) (rest : List Char)
    (parts : SliceParts) : Place :=
  { between setting states waiting rest with parts := parts }

/-- The place behind a move, with the stacks that the move leaves. -/
def Place.after (p : Place) (below : List State) (move : Move) (waiting : Stacks) : Place where
  setting := p.setting
  states := move.next ++ below
  waiting := waiting
  rest := p.rest.drop move.width
  buffer := move.scratch.buffer
  parts := move.scratch.parts
  codePoint :=
    if (move.next ++ below).head?.any State.keepsCodePoint then move.scratch.codePoint else 0
  lowCodePoint :=
    if (move.next ++ below).head?.any State.keepsLowCodePoint then move.scratch.lowCodePoint else 0

namespace Machine

/-- The place of a machine; code points that have been used up count as nought. -/
def place (m : Machine) : Place where
  setting := ⟨m.registry, m.cursor.offset + m.cursor.rest.length⟩
  states := m.states
  waiting := m.waiting
  rest := m.cursor.rest
  buffer := m.scratch.buffer
  parts := m.scratch.parts
  codePoint := if m.states.head?.any State.keepsCodePoint then m.scratch.codePoint else 0
  lowCodePoint := if m.states.head?.any State.keepsLowCodePoint then m.scratch.lowCodePoint else 0

theorem place_start (text : String) (registry : Registry) :
    (start text registry).place =
      .between ⟨registry, text.toList.length⟩ [.operand, .afterOperand, .finish] {}
        text.toList := by
  simp only [place, start, Text.Cursor.start, Nat.zero_add]
  rfl

theorem place_after {m : Machine} {below : List State} {move : Move} {waiting : Stacks}
    (h : move.width ≤ m.cursor.rest.length) :
    (m.after below move waiting).place = m.place.after below move waiting := by
  have hlength : (m.cursor.advanceBy move.width).offset + (m.cursor.rest.drop move.width).length =
      m.cursor.offset + m.cursor.rest.length := by
    rw [Text.Cursor.advanceBy_offset h, List.length_drop]
    omega
  simp only [place, after, Text.Cursor.advanceBy_rest, hlength]
  rfl

/-- The place of a machine that is done. -/
theorem place_of_isDone {m : Machine} (hdone : m.isDone) (hbuffer : m.scratch.buffer = [])
    (hparts : m.scratch.parts = {}) :
    m.place = .between m.place.setting [.finish] m.waiting [] := by
  simp only [isDone, Text.Cursor.atEnd, Bool.and_eq_true, List.isEmpty_iff, beq_iff_eq] at hdone
  obtain ⟨hrest, hstates⟩ := hdone
  simp only [place, hrest, hstates, hbuffer, hparts]
  rfl

/-- The text stays the same along a run. -/
theorem Reaches.setting {m m' : Machine} (h : m.Reaches m') : m'.place.setting = m.place.setting := by
  induction h with
  | refl => rfl
  | move _ hstep _ ih =>
      obtain ⟨s, below, move, waiting, -, hplan, -, rfl⟩ := step_eq_ok.mp hstep
      rw [ih, place_after (Reader.width_le hplan)]
      rfl

/-- **`m.EndsTooDeep limit`** — the run from `m` ends because something nests too deep, which takes
`limit`. -/
def EndsTooDeep (limit : Prop) (m : Machine) : Prop :=
  limit ∧ ∃ position, m.Ends (.error ⟨.nestingTooDeep, position⟩)

/-- **`m.Leads limit p`** — the run from `m` comes by a place, unless something nests too deep, which
takes `limit`. -/
def Leads (limit : Prop) (m : Machine) (p : Place) : Prop :=
  (∃ m', m.Reaches m' ∧ m'.place = p) ∨ m.EndsTooDeep limit

variable {limit : Prop}

theorem Reaches.endsTooDeep {m m' : Machine} (h : m.Reaches m') (hdeep : m'.EndsTooDeep limit) :
    m.EndsTooDeep limit :=
  ⟨hdeep.1, hdeep.2.imp fun _ hends => h.ends hends⟩

theorem Leads.refl {m : Machine} {p : Place} (h : m.place = p) : m.Leads limit p :=
  .inl ⟨m, .refl m, h⟩

/-- Where nothing can nest too deep, the run comes by the place. -/
theorem Leads.reaches {m : Machine} {p : Place} (h : m.Leads False p) :
    ∃ m', m.Reaches m' ∧ m'.place = p :=
  h.resolve_right fun hdeep => hdeep.1

theorem Leads.trans {m : Machine} {p q : Place} (h : m.Leads limit p)
    (hpq : ∀ m' : Machine, m'.place = p → m'.Leads limit q) : m.Leads limit q := by
  rcases h with ⟨m', hreach, hp⟩ | hdeep
  · rcases hpq m' hp with ⟨m'', hreach', hq⟩ | hdeep
    · exact .inl ⟨m'', hreach.trans hreach', hq⟩
    · exact .inr (hreach.endsTooDeep hdeep)
  · exact .inr hdeep

theorem isDone_eq_false {m : Machine} {s : State} {below : List State}
    (hstates : m.states = s :: below) (hs : s ≠ .finish) : m.isDone = false := by
  rw [isDone, hstates, Bool.and_eq_false_iff]
  refine .inr ?_
  rw [beq_eq_false_iff_ne]
  exact fun h => hs (List.cons.inj h).1

theorem isDone_of_rest {m : Machine} (hrest : m.cursor.rest ≠ []) : m.isDone = false := by
  rw [isDone, Text.Cursor.atEnd, Bool.and_eq_false_iff, List.isEmpty_eq_false_iff]
  exact .inl hrest

/-- **`leads_move`** — one planned move. -/
theorem leads_move {m : Machine} {p : Place} {s : State} {below : List State} {move : Move}
    {waiting : Stacks} (limit : Prop) (hp : m.place = p) (hstates : p.states = s :: below)
    (hs : s ≠ .finish) (hplan : m.plan s = .ok move)
    (hwaiting : OrTooDeep limit (p.waiting.perform move.action) waiting) :
    m.Leads limit (p.after below move waiting) := by
  subst hp
  have hdone := isDone_eq_false hstates hs
  -- Either the stacks allow the move, or only their limit refuses it.
  rcases hwaiting with hok | ⟨hlimit, hdeep⟩
  · refine .inl ⟨m.after below move waiting, ?_, place_after (Reader.width_le hplan)⟩
    exact .move hdone (step_eq_ok.mpr ⟨s, below, _, waiting, hstates, hplan, hok, rfl⟩) (.refl _)
  · refine .inr ⟨hlimit, (m.cursor.advanceBy move.width).position, .stuck hdone ?_⟩
    have hmake : m.waiting.perform move.action = .error .nestingTooDeep := hdeep
    unfold step
    simp only [show m.states = s :: below from hstates, hplan]
    show m.make below _ = _
    unfold make
    simp only [hmake]

/-- One planned move, behind which no code point is being put together. -/
theorem leads_keeping {m : Machine} {p : Place} {s : State} {below next : List State}
    {waiting : Stacks} {rest : List Char} {width : Nat} {action : Action} {scratch : Scratch}
    (hp : m.place = p) (hstates : p.states = s :: below) (hs : s ≠ .finish)
    (hplan : m.plan s = .ok ⟨width, next, action, scratch⟩)
    (hwaiting : OrTooDeep limit (p.waiting.perform action) waiting) (hrest : p.rest.drop width = rest)
    (hnext : (next ++ below).head?.any State.keepsCodePoint = false) :
    m.Leads limit { Place.between p.setting (next ++ below) waiting rest with
      buffer := scratch.buffer, parts := scratch.parts } := by
  have hlead := leads_move limit hp hstates hs hplan hwaiting
  -- Where no first code point is kept, no second one is.
  have hlow : (next ++ below).head?.any State.keepsLowCodePoint = false := by
    cases hhead : (next ++ below).head? with
    | none => rfl
    | some t => exact State.keepsLowCodePoint_of_not_keeps (by simpa [hhead] using hnext)
  simp only [Place.after, hnext, hlow] at hlead
  subst hrest
  exact hlead

/-- One planned move, behind which at most a name or a literal is being read. -/
theorem leads_reading {m : Machine} {p : Place} {s : State} {below next : List State}
    {waiting : Stacks} {rest buffer : List Char} {width : Nat} {action : Action} {scratch : Scratch}
    (hp : m.place = p) (hstates : p.states = s :: below) (hs : s ≠ .finish)
    (hplan : m.plan s = .ok ⟨width, next, action, scratch⟩)
    (hwaiting : OrTooDeep limit (p.waiting.perform action) waiting) (hrest : p.rest.drop width = rest)
    (hbuffer : scratch.buffer = buffer) (hparts : scratch.parts = {})
    (hnext : (next ++ below).head?.any State.keepsCodePoint = false) :
    m.Leads limit (.inName p.setting (next ++ below) waiting rest buffer) := by
  have hlead := leads_keeping hp hstates hs hplan hwaiting hrest hnext
  rw [hbuffer, hparts] at hlead
  exact hlead

/-- One planned move, behind which nothing is being read. -/
theorem leads_between {m : Machine} {p : Place} {s : State} {below next : List State}
    {waiting : Stacks} {rest : List Char} {width : Nat} {action : Action} {scratch : Scratch}
    (hp : m.place = p) (hstates : p.states = s :: below) (hs : s ≠ .finish)
    (hplan : m.plan s = .ok ⟨width, next, action, scratch⟩)
    (hwaiting : OrTooDeep limit (p.waiting.perform action) waiting) (hrest : p.rest.drop width = rest)
    (hbuffer : scratch.buffer = []) (hparts : scratch.parts = {})
    (hnext : (next ++ below).head?.any State.isEscape = false) :
    m.Leads limit (.between p.setting (next ++ below) waiting rest) := by
  refine leads_reading hp hstates hs hplan hwaiting hrest hbuffer hparts ?_
  cases hhead : (next ++ below).head? with
  | none => rfl
  | some t => exact State.keepsCodePoint_of_not_escape (by simpa [hhead] using hnext)

theorem scratch_between {m : Machine} {setting : Setting} {states : List State}
    {waiting : Stacks} {rest : List Char} (hp : m.place = .between setting states waiting rest) :
    m.scratch.buffer = [] ∧ m.scratch.parts = {} := by
  simp only [place, Place.between, Place.mk.injEq] at hp
  exact ⟨hp.2.2.2.2.1, hp.2.2.2.2.2.1⟩

theorem current_of_place {m : Machine} {p : Place} (hp : m.place = p) :
    m.cursor.current = p.rest.head? := by
  rw [← hp]
  rfl

theorem plan_of_place {m : Machine} {setting : Setting} {s : State} {below : List State}
    {waiting : Stacks} {c : Char} {rest : List Char} (hblank : Text.isBlank c = false)
    (hm : m.place = .between setting (s :: below) waiting (c :: rest)) :
    m.plan s = m.planAt (some c) s := by
  have hcurrent : m.cursor.current = some c := current_of_place hm
  simp only [Reader.plan, hcurrent, Option.any_some, hblank, Bool.and_false, Bool.false_eq_true,
    if_false]

/-- A move that the next character decides on, and that keeps nothing. -/
theorem leads_char {m : Machine} {setting : Setting} {s : State} {below next : List State}
    {waiting waiting' : Stacks} {c : Char} {rest : List Char} {width : Nat} {action : Action}
    (hm : m.place = .between setting (s :: below) waiting (c :: rest))
    (hblank : Text.isBlank c = false) (hs : s ≠ .finish)
    (hplan : ∀ r : Reader, r.planAt (some c) s = r.go width next action)
    (hwaiting : OrTooDeep limit (waiting.perform action) waiting')
    (hnext : (next ++ below).head?.any State.isEscape = false) :
    m.Leads limit (.between setting (next ++ below) waiting' ((c :: rest).drop width)) := by
  obtain ⟨hbuffer, hparts⟩ := scratch_between hm
  have hplan' : m.plan s = .ok ⟨width, next, action, m.scratch⟩ :=
    (plan_of_place hblank hm).trans (hplan _)
  exact leads_between hm rfl hs hplan' hwaiting rfl hbuffer hparts hnext

/-- A blank where blanks may stand. -/
theorem leads_blank {m : Machine} {p : Place} {s : State} {below : List State} {c : Char}
    {rest : List Char} (hp : m.place = p) (hstates : p.states = s :: below)
    (hs : s.skipsBlanks) (hc : Text.isBlank c) (hrest : p.rest = c :: rest) :
    m.Leads limit { p with rest := rest } := by
  have hcurrent := current_of_place hp
  rw [hrest, List.head?_cons] at hcurrent
  have hplan : m.plan s = .ok ⟨1, [s], .nothing, m.scratch⟩ := by
    simp only [Reader.plan, hcurrent, hs, Option.any_some, hc, Bool.and_self, if_true]
    rfl
  have hne : s ≠ .finish := by
    rintro rfl
    cases hs
  have hlead := leads_move limit hp hstates hne hplan (.inl rfl)
  subst hp
  simp only [Place.after, List.singleton_append, ← hstates] at hlead
  simp only [hrest, List.drop_one, List.tail_cons] at hlead
  exact hlead

/-- Blanks where blanks may stand. -/
theorem leads_blanks {m : Machine} {p : Place} {s : State} {below : List State}
    {blanks rest : List Char} (hp : m.place = p) (hstates : p.states = s :: below)
    (hs : s.skipsBlanks) (hblanks : ∀ c ∈ blanks, Text.isBlank c) (hrest : p.rest = blanks ++ rest) :
    m.Leads limit { p with rest := rest } := by
  induction blanks generalizing m p with
  | nil =>
      refine .refl (hp.trans ?_)
      rw [← List.nil_append rest, ← hrest]
  | cons c blanks ih =>
      obtain ⟨hc, hblanks⟩ := List.forall_mem_cons.mp hblanks
      refine (leads_blank hp hstates hs hc hrest).trans fun m' hm' => ?_
      have hlead := ih hm' hstates hblanks rfl
      exact hlead

/-- The end of a text: the operand on the stacks is the result. -/
theorem ends_of_finish {m : Machine} {setting : Setting} {waiting : Stacks} {o : Operand}
    (hp : m.place = .between setting [.finish] waiting [])
    (hresult : OrTooDeep limit waiting.result o) :
    m.Ends (.ok o.expr) ∨ m.EndsTooDeep limit := by
  have hrest : m.cursor.rest = [] := congrArg Place.rest hp
  have hstates : m.states = [.finish] := congrArg Place.states hp
  have hdone : m.isDone := by
    rw [isDone, Text.Cursor.atEnd, hrest, hstates]
    rfl
  have hwaiting : m.waiting = waiting := congrArg Place.waiting hp
  have hends := Ends.done hdone
  rcases hresult with hok | ⟨hlimit, hdeep⟩
  · rw [result, hwaiting, hok] at hends
    exact .inl hends
  · rw [result, hwaiting, hdeep] at hends
    exact .inr ⟨hlimit, m.cursor.position, hends⟩

/-- A place to which a run leads decides how it ends. -/
theorem Leads.ends {m : Machine} {p : Place} {e : Expr} (h : m.Leads limit p)
    (hends : ∀ m' : Machine, m'.place = p → m'.Ends (.ok e) ∨ m'.EndsTooDeep limit) :
    m.Ends (.ok e) ∨ m.EndsTooDeep limit := by
  rcases h with ⟨m', hreach, hp⟩ | hdeep
  · rcases hends m' hp with hok | hdeep
    · exact .inl (hreach.ends hok)
    · exact .inr (hreach.endsTooDeep hdeep)
  · exact .inr hdeep

/-- A run that leads to a failure has no result. -/
theorem Leads.not_ends {m : Machine} {p : Place} {e : Expr} (h : m.Leads limit p)
    (hfails : ∀ m' : Machine, m'.place = p → ¬ m'.Ends (.ok e)) : ¬ m.Ends (.ok e) := by
  intro hends
  -- A run has one end, so one that nests too deep has no result either.
  rcases h with ⟨m', hreach, hp⟩ | ⟨-, position, hdeep⟩
  · exact hfails m' hp (hreach.ends_of_ends hends)
  · cases hends.unique hdeep

theorem not_ends_of_plan {m : Machine} {s : State} {below : List State} {cause : ParseError}
    {e : Expr} (hstates : m.states = s :: below) (hdone : m.isDone = false) (hplan : m.plan s = .error cause) :
    ¬ m.Ends (.ok e) := by
  intro hends
  cases hends.unique (.stuck hdone (step_of_plan_error hstates hplan))

/-- At the end of a text an operand may stand that nothing follows. -/
theorem leads_end {m : Machine} {setting : Setting} {below : List State} {waiting : Stacks}
    (hp : m.place = .between setting (.afterOperand :: below) waiting [])
    (hbelow : below.head?.any State.isEscape = false) :
    m.Leads limit (.between setting below waiting []) := by
  have hcurrent := current_of_place hp
  have hplan : m.plan .afterOperand = .ok ⟨0, [], .nothing, m.scratch⟩ := by
    simp only [Reader.plan, hcurrent]
    rfl
  obtain ⟨hbuffer, hparts⟩ := scratch_between hp
  exact leads_between hp rfl (by decide) hplan (.inl rfl) rfl hbuffer hparts hbelow

end Machine

open Machine in
/-- **`parse_of_leads`** — a text that leads to one operand, with nothing behind it, is the tree of
the operand. -/
theorem parse_of_leads {text : String} {registry : Registry} {setting : Setting} {o : Operand}
    (h : (start text registry).Leads False
      (.between setting [.afterOperand, .finish] ⟨[.operand o], [], 0⟩ [])) :
    parse text registry = .ok o.expr := by
  have hfinish := h.trans fun m' hm' => leads_end hm' rfl
  have hends := hfinish.ends fun m' hm' => ends_of_finish (o := o) hm' (.inl rfl)
  exact parse_eq_iff.mpr (hends.resolve_right fun hdeep => hdeep.1)

end JsonQuery.Expr
