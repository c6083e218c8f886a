/-
# JsonQuery.Proofs.Expr.Regular — what holds of the parser all along a run.

The states of the parser stand on one another in few ways only, a name or a bracket is kept no longer
than it is being read, and the groups that the states expect to end are those that are open on the
stacks.  It follows that no move looks below what the text has put on the stacks itself.
-/
import JsonQuery.Proofs.Expr.Within
import Mathlib.Data.List.Chain

namespace JsonQuery.Expr

open Reader (expressionThen pushField)
open ParseError (Cause)

/-! ## Stacks of states -/

namespace State

/-- Whether a state may stand right on another: the states of names, literals and numbers on those
that wait for them, and only these on states inside an escape. -/
def restsOn : State → State → Bool
  | .identifier, t => t == .identifierRead false || t == .identifierRead true || t == .hashKeyRead
  | .quoted, t => t == .quotedRead false || t == .quotedRead true || t == .hashKeyRead
  | .raw, t => t == .rawRead
  | .rawEscape, t => t == .raw
  | .jsonText, t => t == .jsonRead
  | .escape, t | .escapeHex _ _, t | .surrogateBackslash, t | .surrogateU, t => t == .quoted
  | .number, t => t.isSlicing
  | _, t => !t.isEscape

/-- Whether part of a name or a literal may have been read. -/
def isReading : State → Bool
  | .identifier | .quoted | .raw | .rawEscape | .jsonText | .escape | .escapeHex _ _
  | .surrogateBackslash | .surrogateU | .identifierRead _ | .quotedRead _ | .rawRead | .jsonRead
  | .hashKeyRead => true
  | _ => false

/-- Whether part of an index or a slice may have been read. -/
def isCounting (s : State) : Bool := s.isSlicing || s == .number

/-- Whether a state expects what can only follow an operand. -/
def followsOperand (s : State) : Bool := s.isLookahead || s == .afterOperand

/-- Whether a group is open as long as the state is there. -/
def isInGroup : State → Bool
  | .parenEnd | .listEnd | .filterEnd | .hashKey | .hashKeyRead | .hashColon | .hashValueEnd
  | .firstArgument | .argumentEnd => true
  | _ => false

/-- How many groups are open where states are expected. -/
def groups : List State → Nat
  | [] => 0
  | s :: rest => if s.isInGroup then groups rest + 1 else groups rest

/-- Whether a state is on top only while a name or a literal is being read. -/
def isLexing (s : State) : Bool :=
  s.isQuoting || s.isEscape || s == .identifier || s == .rawEscape

theorem isReading_of_lexing {s : State} (hs : s.isLexing) : s.isReading := by
  cases s <;> first | rfl | cases hs

/-- What such a state rests on waits for the name or literal. -/
theorem restsOn_of_lexing {s t : State} (hs : s.isLexing) (h : s.restsOn t) :
    t.isReading ∧ t.followsOperand = false := by
  cases s with
  | identifier | quoted | raw | rawEscape | jsonText | escape | escapeHex | surrogateBackslash
  | surrogateU => cases t <;> first | exact ⟨rfl, rfl⟩ | cases h
  | _ => cases hs

theorem restsOn_of_escape {s t : State} (hs : s.isEscape) : s.restsOn t ↔ t = .quoted := by
  cases s with
  | escape | escapeHex | surrogateBackslash | surrogateU => exact beq_iff_eq
  | _ => cases hs

theorem not_isEscape_of_restsOn {s t : State} (h : s.restsOn t) : t.isEscape = false := by
  cases t with
  | escape | escapeHex | surrogateBackslash | surrogateU => cases s <;> cases h
  | _ => rfl

end State

theorem State.restsOn_of_lookahead {s : State} (hs : s.isLookahead) (t : State) :
    s.restsOn t = !t.isEscape := by
  cases s <;> first | rfl | cases hs

theorem State.restsOn_of_slicing {s : State} (hs : s.isSlicing) (t : State) :
    s.restsOn t = !t.isEscape := by
  cases s <;> first | rfl | cases hs

/-- **`Turn.restsOn`** — the states that come in place of another rest on what it rested on. -/
theorem Turn.restsOn {r : Reader} {s : State} {move : Move} (h : Turn r s move) :
    move.next.IsChain (State.restsOn · ·) ∧
      ∀ last ∈ move.next.getLast?, ∀ t, s.restsOn t → last.restsOn t := by
  -- A state that stays is of the kind of the one before, and the kind decides what it rests
  -- on; what is put on top of it asks for no more.
  cases h with
  | firstOfTwo hs =>
      refine ⟨by simp [State.restsOn_of_lookahead hs, State.isEscape], ?_⟩
      rintro _ ⟨⟩ t ht
      exact ht
  | longOperator hs =>
      refine ⟨by simp, ?_⟩
      rintro _ ⟨⟩ t ht
      rw [State.restsOn_of_lookahead hs] at ht
      exact ht
  | hexDigit kept hs hnext =>
      refine ⟨by simp, ?_⟩
      rintro _ ⟨⟩ t ht
      rw [State.restsOn_of_escape hs] at ht
      exact (State.restsOn_of_escape hnext).mpr ht
  | part hs =>
      refine ⟨by simpa [State.restsOn] using hs, ?_⟩
      rintro _ ⟨⟩ t ht
      exact ht
  | colon parts hs hnext =>
      refine ⟨by simp, ?_⟩
      rintro _ ⟨⟩ t ht
      rw [State.restsOn_of_slicing hs] at ht
      exact (State.restsOn_of_slicing hnext t).trans ht
  | separator hs =>
      rcases hs with rfl | rfl
      all_goals
        refine ⟨by simp [State.restsOn, State.isEscape, expressionThen], ?_⟩
        rintro _ ⟨⟩ t ht
        exact ht
  | _ =>
      refine ⟨by simp [State.restsOn, State.isEscape, expressionThen], ?_⟩
      intro last hlast t ht
      cases hlast <;> exact ht

/-- Where the states in place of another stand on what it stood on, the stack stays a chain. -/
theorem State.isChain_replace {R : State → State → Prop} {s : State} {next below : List State}
    (hchain : (s :: below).IsChain R) (hnext : next.IsChain R)
    (hlast : ∀ last ∈ next.getLast?, ∀ t, R s t → R last t) : (next ++ below).IsChain R := by
  refine List.isChain_append.mpr ⟨hnext, hchain.tail, ?_⟩
  intro last hmem t ht
  cases below with
  | nil => cases ht
  | cons t' rest =>
      cases ht
      exact hlast last hmem t (List.isChain_cons_cons.mp hchain).1

/-! ## What is kept -/

theorem Turn.buffer {r : Reader} {s t : State} {move : Move} {below : List State} (h : Turn r s move)
    (hrests : s.restsOn t) (hbuffer : r.scratch.buffer = [] ∨ s.isReading) :
    move.scratch.buffer = [] ∨ (move.next ++ t :: below).head?.any State.isReading := by
  have hnone : s.isReading = false → r.scratch.buffer = [] := by
    intro hs
    rw [hs] at hbuffer
    exact hbuffer.resolve_right nofun
  cases h with
  | blank => exact hbuffer
  | longOperator hs => exact .inl (hnone (by cases s <;> first | rfl | cases hs))
  | part hs | colon parts hs | sliceEnd hs =>
      exact .inl (hnone (by cases s <;> first | rfl | cases hs))
  | separator hs => exact .inl (hnone (by rcases hs with rfl | rfl <;> rfl))
  | close hs => exact .inl (hnone (by cases s <;> first | rfl | cases hs))
  | identifier | rawEscaped => exact .inr (State.restsOn_of_lexing rfl hrests).1
  | closeQuote hs => exact .inr (State.restsOn_of_lexing (by simp [State.isLexing, hs]) hrests).1
  | escaped kept hs => exact .inr (State.restsOn_of_lexing (by simp [State.isLexing, hs]) hrests).1
  | keep c hs => exact .inr (State.isReading_of_lexing (by simp [State.isLexing, hs]))
  | hexDigit kept hs hnext =>
      exact .inr (State.isReading_of_lexing (by simp [State.isLexing, hnext]))
  | escape | rawEscape => exact .inr rfl
  | call | nameRead | quotedRead | rawRead | jsonRead | key => exact .inl rfl
  | _ => exact .inl (hnone rfl)

theorem Turn.parts {r : Reader} {s t : State} {move : Move} {below : List State} (h : Turn r s move)
    (hrests : s.restsOn t) (hparts : r.scratch.parts = {} ∨ s.isCounting) :
    move.scratch.parts = {} ∨ (move.next ++ t :: below).head?.any State.isCounting := by
  have hnone : s.isCounting = false → r.scratch.parts = {} := by
    intro hs
    rw [hs] at hparts
    exact hparts.resolve_right nofun
  cases h with
  | blank => exact hparts
  | longOperator hs => exact .inl (hnone (by cases s <;> first | rfl | cases hs))
  | separator hs => exact .inl (hnone (by rcases hs with rfl | rfl <;> rfl))
  | close hs => exact .inl (hnone (by cases s <;> first | rfl | cases hs))
  | closeQuote hs | keep c hs => exact .inl (hnone (by cases s <;> first | rfl | cases hs))
  | rawEscaped kept hkept => exact .inl (hkept.trans (hnone rfl))
  | hexDigit kept hs hnext hbuffer hkept =>
      exact .inl (hkept.trans (hnone (by cases s <;> first | rfl | cases hs)))
  | escaped kept hs hkept =>
      exact .inl (hkept.trans (hnone (by cases s <;> first | rfl | cases hs)))
  | number parts =>
      have ht : t.isSlicing := hrests
      exact .inr (by simp [State.isCounting, ht])
  | part => exact .inr rfl
  | colon parts hs hnext => exact .inr (by simp [State.isCounting, hnext])
  | sliceEnd => exact .inl rfl
  | _ => exact .inl (hnone rfl)

/-! ## Groups -/

/-- How many groups are open after a move, of so many before. -/
def Action.groupsAfter (before : Nat) : Action → Nat
  | .token (.opening _) => before + 1
  | .token (.closing _) => before - 1
  | _ => before

theorem State.groups_cons {s : State} (hs : s.isInGroup = false) (rest : List State) :
    groups (s :: rest) = groups rest := by
  rw [groups, hs]
  rfl

theorem State.isInGroup_of_escape {s : State} (hs : s.isEscape) : s.isInGroup = false := by
  cases s <;> first | rfl | cases hs

theorem State.isInGroup_of_slicing {s : State} (hs : s.isSlicing) : s.isInGroup = false := by
  cases s <;> first | rfl | cases hs

theorem State.isInGroup_of_lookahead {s : State} (hs : s.isLookahead) : s.isInGroup = false := by
  cases s <;> first | rfl | cases hs

theorem State.isInGroup_of_quoting {s : State} (hs : s.isQuoting) : s.isInGroup = false := by
  cases s <;> first | rfl | cases hs

theorem State.isInGroup_of_closer {s : State} {closer : Closer} (hs : s.closer? = some closer) :
    s.isInGroup := by
  cases s <;> first | rfl | cases hs

theorem Turn.groups {r : Reader} {s : State} {move : Move} (h : Turn r s move) (below : List State) :
    State.groups (move.next ++ below) = move.action.groupsAfter (State.groups (s :: below)) := by
  cases h with
  | firstOfTwo hs => exact State.groups_cons (State.isInGroup_of_lookahead hs) _
  | longOperator hs => exact (State.groups_cons (State.isInGroup_of_lookahead hs) _).symm
  | closeQuote hs => exact (State.groups_cons (State.isInGroup_of_quoting hs) _).symm
  | hexDigit kept hs hnext =>
      show State.groups (_ :: below) = State.groups (s :: below)
      rw [State.groups_cons (State.isInGroup_of_escape hs),
        State.groups_cons (State.isInGroup_of_escape hnext)]
  | escaped kept hs => exact (State.groups_cons (State.isInGroup_of_escape hs) _).symm
  | colon parts hs hnext =>
      show State.groups (_ :: below) = State.groups (s :: below)
      rw [State.groups_cons (State.isInGroup_of_slicing hs),
        State.groups_cons (State.isInGroup_of_slicing hnext)]
  | sliceEnd hs => exact (State.groups_cons (State.isInGroup_of_slicing hs) _).symm
  | separator hs => rcases hs with rfl | rfl <;> rfl
  | close hs =>
      show State.groups below = State.groups (s :: below) - 1
      rw [State.groups, State.isInGroup_of_closer hs]
      rfl
  | @nameRead chained | @quotedRead chained => cases chained <;> rfl
  | _ => rfl

/-! ## Operands -/

/-- Whether a move that succeeds leaves an operand on top. -/
def Action.yields : Action → Bool
  | .leaf _ _ | .attach _ | .flatten | .token .current | .token (.literal _) | .token (.operand _)
  | .token (.closing _) => true
  | _ => false

theorem pushNode_ne_nil {e : Expr} {projecting : Bool} {height : Nat} {items items' : List Item}
    (h : pushNode e projecting height items = .ok items') : items' ≠ [] := by
  unfold pushNode at h
  split at h
  · cases h
  · cases h
    exact List.cons_ne_nil _ _

theorem attachStep_ne_nil {step : Step} {inner : Nat} {items items' : List Item}
    (h : attachStep step inner items = .ok items') : items' ≠ [] := by
  obtain ⟨_, -, h⟩ := bind_eq_ok.mp h
  exact pushNode_ne_nil h

theorem pushGroup_ne_nil {e : Expr} {chained : Bool} {height : Nat} {items items' : List Item}
    (h : pushGroup e chained height items = .ok items') : items' ≠ [] := by
  cases chained with
  | false => exact pushNode_ne_nil h
  | true => exact attachStep_ne_nil h

theorem close_ne_nil {group : Group} {closer : Closer} {parts items items' : List Item}
    (h : group.close closer parts items = .ok items') : items' ≠ [] := by
  match group, closer, parts, h with
  | .paren, .paren, [part], h | .filter false, .filter, [part], h =>
      obtain ⟨_, -, h⟩ := bind_eq_ok.mp h
      exact pushNode_ne_nil h
  | .filter true, .filter, [part], h =>
      obtain ⟨_, -, h⟩ := bind_eq_ok.mp h
      exact attachStep_ne_nil h
  | .list chained, .list, parts, h | .hash chained, .hash, parts, h =>
      obtain ⟨_, -, h⟩ := bind_eq_ok.mp h
      exact pushGroup_ne_nil h
  | .call function chained, .call, parts, h =>
      obtain ⟨_, -, h⟩ := bind_eq_ok.mp h
      obtain ⟨_, -, h⟩ := bind_eq_ok.mp h
      exact pushGroup_ne_nil h

theorem Stacks.items_ne_nil {s s' : Stacks} {action : Action} (hyields : action.yields)
    (h : s.perform action = .ok s') : s'.items ≠ [] := by
  match action, hyields, h with
  | .leaf _ _, _, h | .token .current, _, h | .token (.literal _), _, h
  | .token (.operand _), _, h =>
      cases h
      exact List.cons_ne_nil _ _
  | .attach step, _, h =>
      obtain ⟨_, hitems, h⟩ := bind_eq_ok.mp h
      cases h
      exact attachStep_ne_nil hitems
  | .flatten, _, h =>
      obtain ⟨_, hitems, h⟩ := bind_eq_ok.mp h
      cases h
      obtain ⟨_, -, h⟩ := bind_eq_ok.mp hitems
      exact pushNode_ne_nil h
  | .token (.closing closer), _, h =>
      obtain ⟨reduced, -, h⟩ := bind_eq_ok.mp h
      split at h
      · obtain ⟨_, hclose, h⟩ := bind_eq_ok.mp h
        cases h
        exact close_ne_nil hclose
      · cases h

/-- Where something is expected that can only follow an operand, there is one. -/
theorem Turn.yields {r : Reader} {s t : State} {move : Move} {below : List State} (h : Turn r s move)
    (hrests : s.restsOn t)
    (hnext : (move.next ++ t :: below).head?.any State.followsOperand) :
    move.action.yields ∨ (move.action = .nothing ∧ s.followsOperand) := by
  have hlexing : s.isLexing → t.followsOperand = false :=
    fun hs => (State.restsOn_of_lexing hs hrests).2
  cases h with
  | blank => exact .inr ⟨rfl, hnext⟩
  | endOperand | firstOfTwo => exact .inr ⟨rfl, rfl⟩
  | identifier | rawEscaped => exact absurd hnext (by simp [hlexing rfl])
  | closeQuote hs | escaped kept hs =>
      exact absurd hnext (by simp [hlexing (by simp [State.isLexing, hs])])
  | keep c hs => cases s <;> first | cases hs; done | cases hnext
  | @hexDigit _ next kept hs hescape => cases next <;> first | cases hescape; done | cases hnext
  | number => cases t <;> first | cases hrests; done | cases hnext
  | @colon _ next parts hs hslicing => cases next <;> first | cases hslicing; done | cases hnext
  | separator hs => cases hnext
  | @nameRead chained | @quotedRead chained => cases chained <;> exact .inl rfl
  | _ => first | exact .inl rfl | cases hnext

/-! ## Regular machines -/

theorem barriers_perform {s s' : Stacks} {action : Action} (h : s.perform action = .ok s') :
    action = .token .finish ∨
      (barriers s'.pending = action.groupsAfter (barriers s.pending) ∧
        s'.depth = action.groupsAfter s.depth) := by
  -- Applying operators leaves the barriers where they are.
  match action, h with
  | .token .finish, _ => exact .inl rfl
  | .nothing, h | .leaf _ _, h | .token .current, h | .token (.literal _), h
  | .token (.key _), h | .token (.operand _), h | .token (.operator (.unary _)), h
  | .token (.operator (.reference _)), h =>
      cases h
      exact .inr ⟨rfl, rfl⟩
  | .attach _, h | .flatten, h =>
      obtain ⟨_, -, h⟩ := bind_eq_ok.mp h
      cases h
      exact .inr ⟨rfl, rfl⟩
  | .token .separator, h =>
      obtain ⟨⟨items, pending⟩, hreduce, h⟩ := bind_eq_ok.mp h
      cases h
      exact .inr ⟨barriers_reduceWhile hreduce, rfl⟩
  | .token (.operator (.binary _)), h | .token (.operator .pipe), h =>
      obtain ⟨reduced, hreduced, h⟩ := bind_eq_ok.mp h
      obtain ⟨⟨items, pending⟩, hreduce, hrest⟩ := bind_eq_ok.mp hreduced
      have hsame := barriers_reduceWhile hreduce
      cases hrest
      cases h
      exact .inr ⟨hsame, rfl⟩
  | .token (.opening _), h =>
      simp only [Stacks.perform, Stacks.accept, Stacks.openGroup] at h
      split at h
      · cases h
      · cases h
        exact .inr ⟨rfl, rfl⟩
  | .token (.closing _), h =>
      obtain ⟨reduced, hreduced, h⟩ := bind_eq_ok.mp h
      obtain ⟨⟨items, pending⟩, hreduce, hrest⟩ := bind_eq_ok.mp hreduced
      cases hrest
      have hsame := barriers_reduceWhile hreduce
      split at h
      · rename_i pending' _ _ _ hpending _
        obtain ⟨_, -, h⟩ := bind_eq_ok.mp h
        cases h
        rw [show pending = .barrier :: pending' from hpending, barriers] at hsame
        refine .inr ⟨?_, rfl⟩
        show barriers pending' = barriers _ - 1
        omega
      · cases h

namespace Machine

/-- **`m.Regular`** — what holds of a machine all along a run. -/
structure Regular (m : Machine) : Prop where
  rests : m.states.IsChain (State.restsOn · ·)
  last : ∃ inner, m.states = inner ++ [.finish]
  buffer : m.scratch.buffer = [] ∨ m.states.head?.any State.isReading
  parts : m.scratch.parts = {} ∨ m.states.head?.any State.isCounting
  operand : m.states.head?.any State.followsOperand → m.waiting.items ≠ []
  groups : State.groups m.states = barriers m.waiting.pending
  depth : m.waiting.depth = barriers m.waiting.pending

theorem regular_start (text : String) (registry : Registry) : (start text registry).Regular where
  rests := by simp [start, State.restsOn, State.isEscape]
  last := ⟨[.operand, .afterOperand], rfl⟩
  buffer := .inl rfl
  parts := .inl rfl
  operand := nofun
  groups := rfl
  depth := rfl

/-- Before a move there is something to do, and the end of the text is expected below. -/
theorem Regular.exists_below {m : Machine} (h : m.Regular) {s : State} {below : List State}
    {move : Move} (hstates : m.states = s :: below) (hplan : m.plan s = .ok move) :
    s ≠ .finish ∧ ∃ t rest, below = t :: rest ∧ s.restsOn t := by
  have hne : s ≠ .finish := by
    rintro rfl
    have hfail : m.plan .finish = m.fail .syntaxError := rfl
    rw [hfail] at hplan
    cases hplan
  obtain ⟨inner, hlast⟩ := h.last
  rw [hstates] at hlast
  cases inner with
  | nil => exact absurd (List.cons.inj hlast).1 hne
  | cons _ inner =>
      have hbelow : below ≠ [] := by
        rw [(List.cons.inj hlast).2]
        simp
      obtain ⟨t, rest, rfl⟩ := List.exists_cons_of_ne_nil hbelow
      have hrests := h.rests
      rw [hstates, List.isChain_cons_cons] at hrests
      exact ⟨hne, t, rest, rfl, hrests.1⟩

/-- **`Regular.fitsIn`** — no move of a regular machine looks below its stacks. -/
theorem Regular.fitsIn {m : Machine} (h : m.Regular) {s : State} {below : List State} {move : Move}
    (hstates : m.states = s :: below) (hplan : m.plan s = .ok move) :
    move.action.FitsIn m.waiting := by
  have hoperand := h.operand
  have hgroups := h.groups
  rw [hstates] at hoperand hgroups
  have hopen : s.isInGroup → 0 < barriers m.waiting.pending := by
    intro hs
    rw [← hgroups, State.groups, hs]
    exact Nat.succ_pos _
  -- Operators are read behind an operand, separators and closers in the states of a group.
  have hturn := Reader.plan_turn hplan
  cases hturn with
  | shortOperator => exact fun _ => hoperand rfl
  | longOperator hs => exact fun _ => hoperand (by simp [State.followsOperand, hs])
  | sign hop => exact fun hnot => absurd (hop.symm.trans hnot) nofun
  | separator hs => exact hopen (by rcases hs with rfl | rfl <;> rfl)
  | nextEntry => exact hopen rfl
  | close hs =>
      have hpos := hopen (State.isInGroup_of_closer hs)
      refine ⟨hpos, ?_⟩
      rw [h.depth]
      exact hpos
  | @nameRead chained | @quotedRead chained => cases chained <;> trivial
  | _ => trivial

/-- **`Regular.step`** — every move keeps a machine regular. -/
theorem Regular.step {m m' : Machine} (h : m.Regular) (hstep : m.step = .ok m') : m'.Regular := by
  obtain ⟨s, below, move, waiting, hstates, hplan, hperform, rfl⟩ := step_eq_ok.mp hstep
  obtain ⟨hne, t, rest, rfl, hrests⟩ := h.exists_below hstates hplan
  have hturn := Reader.plan_turn hplan
  have hfits := h.fitsIn hstates hplan
  have hcounts : barriers waiting.pending = move.action.groupsAfter (barriers m.waiting.pending) ∧
      waiting.depth = move.action.groupsAfter m.waiting.depth := by
    rcases barriers_perform hperform with hfinish | hcounts
    · rw [hfinish] at hfits
      cases hfits
    · exact hcounts
  -- Each field follows from what the move does, and from what the state on top rests on.
  refine ⟨?_, ?_, hturn.buffer hrests ?_, hturn.parts hrests ?_, fun hnext => ?_, ?_, ?_⟩
  · exact State.isChain_replace (hstates ▸ h.rests) hturn.restsOn.1 hturn.restsOn.2
  · obtain ⟨inner, hlast⟩ := h.last
    rw [hstates] at hlast
    cases inner with
    | nil => exact absurd (List.cons.inj hlast).1 hne
    | cons _ inner => exact ⟨move.next ++ inner, by simp [after, (List.cons.inj hlast).2]⟩
  · have hbuffer := h.buffer
    rw [hstates] at hbuffer
    exact hbuffer
  · have hparts := h.parts
    rw [hstates] at hparts
    exact hparts
  · rcases hturn.yields hrests hnext with hyields | ⟨hnothing, hs⟩
    · exact Stacks.items_ne_nil hyields hperform
    · rw [hnothing] at hperform
      cases hperform
      refine h.operand ?_
      rw [hstates]
      exact hs
  · show State.groups (move.next ++ t :: rest) = barriers waiting.pending
    rw [hturn.groups, hcounts.1, ← h.groups, hstates]
  · show waiting.depth = barriers waiting.pending
    rw [hcounts.1, hcounts.2, h.depth]

theorem Regular.reaches {m m' : Machine} (h : m.Regular) (hreach : m.Reaches m') : m'.Regular :=
  hreach.preserves (fun _ _ => Regular.step) h

/-- At the end of a text nothing is being read, and no group is open. -/
theorem Regular.of_isDone {m : Machine} (h : m.Regular) (hdone : m.isDone) :
    m.scratch.buffer = [] ∧ m.scratch.parts = {} ∧ m.waiting.depth = 0 := by
  have hstates : m.states = [.finish] := by
    rw [isDone, Bool.and_eq_true, beq_iff_eq] at hdone
    exact hdone.2
  obtain ⟨-, -, hbuffer, hparts, -, hgroups, hdepth⟩ := h
  rw [hstates] at hbuffer hparts hgroups
  have hreading : ¬ [State.finish].head?.any State.isReading := by decide
  have hcounting : ¬ [State.finish].head?.any State.isCounting := by decide
  exact ⟨hbuffer.resolve_right hreading, hparts.resolve_right hcounting, hdepth.trans hgroups.symm⟩

end Machine

end JsonQuery.Expr
