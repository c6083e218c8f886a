/-
# JsonQuery.Proofs.Expr.Embedding — a text read as a part of another one.

The run over a text on its own is repeated where the text is a part of another one: what is expected
behind the part waits below the states of the run, and what stands before it below its stacks.  At the
end of the part nothing is left of it but its tree.
-/
import JsonQuery.Proofs.Expr.Matching

namespace JsonQuery.Expr

open Text (isBlank)

/-- The place in a whole text where a part is at a place of its own. -/
def Place.within (p : Place) (o : Outer) : Place where
  setting := ⟨p.setting.registry, p.setting.length + o.shift + o.tail.length⟩
  states := p.states.dropLast ++ o.states
  waiting := p.waiting.within o.shift o.waiting
  rest := p.rest ++ o.tail
  buffer := p.buffer
  parts := p.parts
  codePoint := p.codePoint
  lowCodePoint := p.lowCodePoint

/-- Whether an escape is read next does not depend on what is expected behind the part. -/
theorem keeps_within {keeps : State → Bool} {next below : List State} {o : Outer}
    (hkeeps : ∀ t : State, t.isEscape = false → keeps t = false) (hbounds : o.Bounds)
    (hne : below ≠ []) (hbelow : below.head?.any State.isEscape = false) :
    (next ++ (below.dropLast ++ o.states)).head?.any keeps = (next ++ below).head?.any keeps := by
  cases next with
  | cons t next => rfl
  | nil =>
      have hlast : o.states.head?.any keeps = false := by
        cases hhead : o.states.head? with
        | none => rfl
        | some t => exact hkeeps t (by simpa [hhead] using hbounds.states)
      obtain ⟨t, rest, rfl⟩ := List.exists_cons_of_ne_nil hne
      have ht : keeps t = false := hkeeps t hbelow
      -- The last state of the part is the one that the outer states come in place of.
      cases rest with
      | nil => simp [hlast, ht]
      | cons => rfl

/-- An escape that is read next is one of the new states. -/
theorem keeps_of_next {keeps : State → Bool} {next below : List State}
    (hkeeps : ∀ t : State, t.isEscape = false → keeps t = false) (hne : below ≠ [])
    (hbelow : below.head?.any State.isEscape = false) (h : (next ++ below).head?.any keeps) :
    next.head?.any keeps := by
  cases next with
  | cons t next => exact h
  | nil =>
      obtain ⟨t, rest, rfl⟩ := List.exists_cons_of_ne_nil hne
      have ht : keeps t = false := hkeeps t hbelow
      simp [ht] at h

/-- Moves that match lead from a part within a whole text to the part within it. -/
theorem Place.after_within {p : Place} {o : Outer} {below : List State} {move move' : Move}
    {waiting : Stacks} (hbounds : o.Bounds) (hmatches : Matches o.shift move move')
    (hne : below ≠ []) (hbelow : below.head?.any State.isEscape = false)
    (hwidth : move.width ≤ p.rest.length) :
    (p.within o).after (below.dropLast ++ o.states) move' (waiting.within o.shift o.waiting) =
      (p.after below move waiting).within o := by
  have hcode : (move'.next ++ (below.dropLast ++ o.states)).head?.any State.keepsCodePoint =
      (move.next ++ below).head?.any State.keepsCodePoint := by
    rw [hmatches.next]
    exact keeps_within (fun _ => State.keepsCodePoint_of_not_escape) hbounds hne hbelow
  have hlow : (move'.next ++ (below.dropLast ++ o.states)).head?.any State.keepsLowCodePoint =
      (move.next ++ below).head?.any State.keepsLowCodePoint := by
    rw [hmatches.next]
    exact keeps_within (fun _ => State.keepsLowCodePoint_of_not_escape) hbounds hne hbelow
  have hstates : move'.next ++ (below.dropLast ++ o.states) =
      (move.next ++ below).dropLast ++ o.states := by
    rw [hmatches.next, List.dropLast_append_of_ne_nil hne, List.append_assoc]
  have hrest : (p.rest ++ o.tail).drop move'.width = p.rest.drop move.width ++ o.tail := by
    rw [hmatches.width, List.drop_append_of_le_length hwidth]
  unfold Place.after Place.within
  simp only [hcode, hlow, Place.mk.injEq, true_and]
  refine ⟨hstates, hrest, hmatches.buffer, hmatches.parts, ?_, ?_⟩
  · split
    · rename_i hkept
      exact hmatches.codePoint
        (keeps_of_next (fun _ => State.keepsCodePoint_of_not_escape) hne hbelow hkept)
    · rfl
  · split
    · rename_i hkept
      exact hmatches.lowCodePoint
        (keeps_of_next (fun _ => State.keepsLowCodePoint_of_not_escape) hne hbelow hkept)
    · rfl

namespace Machine

variable {limit : Prop} {m m' whole : Machine} {o : Outer}

/-- The machine in the whole text reads on where the machine on the part does. -/
theorem extends_of_place {s : State} {below : List State} (hstates : m.states = s :: below)
    (hne : below ≠ []) (hwhole : whole.place = m.place.within o) :
    Extends o s m.toReader whole.toReader := by
  have hsetting := congrArg Place.setting hwhole
  have hrest : whole.cursor.rest = m.cursor.rest ++ o.tail := congrArg Place.rest hwhole
  have hhead : whole.states.head? = some s := by
    have hwhole' : whole.states = m.states.dropLast ++ o.states := congrArg Place.states hwhole
    obtain ⟨t, rest, rfl⟩ := List.exists_cons_of_ne_nil hne
    rw [hwhole', hstates]
    rfl
  have hlength : whole.cursor.offset + whole.cursor.rest.length =
      m.cursor.offset + m.cursor.rest.length + o.shift + o.tail.length :=
    congrArg Setting.length hsetting
  refine ⟨congrArg Setting.registry hsetting, hrest, ?_, congrArg Place.buffer hwhole,
    congrArg Place.parts hwhole, fun hs => ?_, fun hs => ?_⟩
  · rw [hrest, List.length_append] at hlength
    omega
  · have hcode := congrArg Place.codePoint hwhole
    simpa [place, Place.within, hhead, hstates, hs] using hcode
  · have hlow := congrArg Place.lowCodePoint hwhole
    simpa [place, Place.within, hhead, hstates, hs] using hlow

theorem leads_step (hbounds : o.Bounds) (hregular : m.Regular) (hstep : m.step = .ok m')
    (hstar : ∀ below rest, m.states = .bracketOperand :: below → m.cursor.rest = '*' :: rest →
      rest.any (!isBlank ·))
    (hargument : ∀ below, m.states = .firstArgument :: below → m.cursor.rest ≠ [])
    (hlimit : maxNesting < m'.waiting.depth + o.waiting.depth → limit)
    (hwhole : whole.place = m.place.within o) : whole.Leads limit (m'.place.within o) := by
  obtain ⟨s, below, move, waiting, hstates, hplan, hperform, rfl⟩ := step_eq_ok.mp hstep
  obtain ⟨hne, t, rest, rfl, hrests⟩ := hregular.exists_below hstates hplan
  have hextends := extends_of_place hstates (List.cons_ne_nil t rest) hwhole
  obtain ⟨move', hplan', hmatches⟩ := hextends.plan_follows hbounds
    (fun hs rest' hrest => hstar _ rest' (hs ▸ hstates) hrest)
    (fun hs => hargument _ (hs ▸ hstates)) move hplan
  -- The state on top is one of the part, so the whole text makes the matching move.
  have hwidth := Reader.width_le hplan
  have hstates' : (m.place.within o).states = s :: ((t :: rest).dropLast ++ o.states) := by
    show m.states.dropLast ++ o.states = _
    rw [hstates]
    rfl
  have hperform' : OrTooDeep limit ((m.place.within o).waiting.perform move'.action)
      (waiting.within o.shift o.waiting) := by
    rw [hmatches.action]
    exact Stacks.perform_within hperform (hregular.fitsIn hstates hplan) hbounds.waiting hlimit
  have hlead := leads_move limit hwhole hstates' hne hplan' hperform'
  rw [Place.after_within hbounds hmatches (List.cons_ne_nil t rest)
    (State.not_isEscape_of_restsOn hrests) hwidth, ← place_after hwidth] at hlead
  exact hlead

/-! ## What a part cannot end in -/

/-- A call that has been opened is not the end of a text. -/
theorem not_ends_of_argument {e : Expr} {below : List State}
    (hstates : m.states = .firstArgument :: below) (hrest : m.cursor.rest = []) :
    ¬ m.Ends (.ok e) := by
  have hcurrent : m.cursor.current = none := by rw [Text.Cursor.current, hrest]; rfl
  have hplan : m.plan .firstArgument =
      .ok ⟨0, Reader.expressionThen .argumentEnd, .nothing, m.scratch⟩ := by
    simp only [Reader.plan, hcurrent]
    rfl
  -- An argument is asked for, but no operand starts at the end of the text.
  refine (leads_move True rfl hstates (by decide) hplan (.inl rfl)).not_ends fun m' hm' => ?_
  have hcurrent' : m'.cursor.current = none := by
    rw [current_of_place hm']
    show (m.cursor.rest.drop 0).head? = none
    rw [hrest]
    rfl
  have hfail : m'.plan .operand = m'.fail .unexpectedEndOfInput := by
    simp only [Reader.plan, hcurrent']
    rfl
  have hstates' : m'.states = _ := congrArg Place.states hm'
  exact not_ends_of_plan hstates' (isDone_eq_false hstates' (by decide)) hfail

/-- A bracket with a star that nothing but blanks follows is not the end of a text. -/
theorem not_ends_of_star {e : Expr} {below : List State} {blanks : List Char} (hregular : m.Regular)
    (hstates : m.states = .bracketOperand :: below) (hrest : m.cursor.rest = '*' :: blanks)
    (hblanks : ∀ c ∈ blanks, isBlank c) : ¬ m.Ends (.ok e) := by
  have hbuffer : m.scratch.buffer = [] := by
    have hkept := hregular.buffer
    rw [hstates] at hkept
    exact hkept.resolve_right nofun
  have hparts : m.scratch.parts = {} := by
    have hkept := hregular.parts
    rw [hstates] at hkept
    exact hkept.resolve_right nofun
  have hcurrent : m.cursor.current = some '*' := by rw [Text.Cursor.current, hrest]; rfl
  have hpeek : (m.cursor.peekSignificant == some ']') = false := by
    rw [Text.Cursor.peekSignificant, hrest, List.drop_one, List.tail_cons,
      List.find?_eq_none.mpr fun c hc => by simp [hblanks c hc]]
    rfl
  have hplan : m.plan .bracketOperand = .ok ⟨0, Reader.expressionThen .listEnd,
      .token (.opening (.list false)), m.scratch⟩ := by
    simp only [Reader.plan, hcurrent, Reader.planAt, Reader.bracketOperand, hpeek]
    rfl
  -- The star is taken for an operand, and the end of the list is still expected at the end.
  have hopened : m.Leads True (.between m.place.setting
      (Reader.expressionThen .listEnd ++ below) _ ('*' :: blanks)) :=
    leads_between rfl hstates (by decide) hplan (.openGroup _ _ fun _ => trivial) hrest hbuffer
      hparts rfl
  refine hopened.not_ends fun m₁ hm₁ => ?_
  have hcurrent₁ : m₁.cursor.current = some '*' := current_of_place hm₁
  have hplan₁ : m₁.plan .operand =
      .ok ⟨1, [], .leaf (projectAll .object .current) true, m₁.scratch⟩ := by
    simp only [Reader.plan, hcurrent₁]
    rfl
  obtain ⟨hbuffer₁, hparts₁⟩ := scratch_between hm₁
  have hstar : m₁.Leads True (.between _ (.afterOperand :: .listEnd :: below) _ blanks) :=
    leads_between hm₁ rfl (by decide) hplan₁ (.inl rfl) rfl hbuffer₁ hparts₁ rfl
  have hafter : m₁.Leads True (.between _ (.afterOperand :: .listEnd :: below) _ []) :=
    hstar.trans fun m₂ hm₂ => leads_blanks hm₂ rfl rfl hblanks (List.append_nil blanks).symm
  refine (hafter.trans fun m₂ hm₂ => leads_end hm₂ rfl).not_ends fun m₃ hm₃ => ?_
  have hcurrent₃ : m₃.cursor.current = none := current_of_place hm₃
  have hfail : m₃.plan .listEnd = m₃.fail .unexpectedEndOfInput := by
    simp only [Reader.plan, hcurrent₃]
    rfl
  have hstates₃ : m₃.states = _ := congrArg Place.states hm₃
  exact not_ends_of_plan hstates₃ (isDone_eq_false hstates₃ (by decide)) hfail

/-- **`leads_within`** — where the run over a part comes by a machine and has a result, the run over
the whole text comes by that machine within it. -/
theorem leads_within {e : Expr} (hbounds : o.Bounds) (hregular : m.Regular) (hreach : m.Reaches m')
    (hends : m'.Ends (.ok e))
    (hlimit : ∀ m', m.Reaches m' → maxNesting < m'.waiting.depth + o.waiting.depth → limit)
    (hwhole : whole.place = m.place.within o) : whole.Leads limit (m'.place.within o) := by
  -- The induction is on the run over the part.  As it has a result, it never stands where the text
  -- behind the part would be taken for something else.
  induction hreach generalizing whole with
  | refl => exact .refl hwhole
  | @move m m₁ m₂ hnot hstep hreach ih =>
      have hends' : m.Ends (.ok e) := .move hnot hstep (hreach.ends hends)
      have hlead : whole.Leads limit (m₁.place.within o) := by
        refine leads_step hbounds hregular hstep (fun below rest hstates hrest => ?_)
          (fun below hstates hrest => not_ends_of_argument hstates hrest hends')
          (hlimit m₁ (.move hnot hstep (.refl m₁))) hwhole
        by_contra hblanks
        refine not_ends_of_star hregular hstates hrest (fun c hc => ?_) hends'
        simp only [List.any_eq_true, not_exists, not_and] at hblanks
        simpa using hblanks c hc
      refine hlead.trans fun whole' hwhole' => ih (hregular.step hstep) hends ?_ hwhole'
      exact fun m' hreach' => hlimit m' (.move hnot hstep hreach')

end Machine

end JsonQuery.Expr
