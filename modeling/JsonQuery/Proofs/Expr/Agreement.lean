/-
# JsonQuery.Proofs.Expr.Agreement — the three stacks of the parser agree.

The states tell what comes next and which groups are to be ended, the other two stacks hold what
has been read of these groups.  Neither looks at the other: a state is put there long before the
operand it expects.  Yet all along a run the operands and operators lie as the states say, so the
branches of the parser for stacks that do not fit are never taken.
-/
import JsonQuery.Proofs.Expr.Layout
import JsonQuery.Proofs.Expr.Regular

namespace JsonQuery.Expr

open Reader (expressionThen pushField)
open ParseError (Cause)

/-! ## What states say -/

namespace State

/-- What a state says comes next, if it is not about the characters of a name or literal. -/
def phase : State → Phase
  | .operand | .bracketOperand | .identifierRead false | .quotedRead false | .rawRead | .jsonRead
  | .hashColon => .wanting
  | .hashKey | .hashKeyRead | .firstArgument => .between
  | _ => .holding

/-- The closer of the group that is open as long as the state is there. -/
def awaited? : State → Option Closer
  | .hashKey | .hashKeyRead | .hashColon => some .hash
  | s => s.closer?

/-- What states say comes next; those that read a name or a literal leave it to the one below. -/
def phaseOf : List State → Phase
  | [] => .holding
  | s :: rest => if s.isLexing then phaseOf rest else s.phase

/-- The closers of the groups that states await, the innermost first. -/
def closers (states : List State) : List Closer := states.filterMap awaited?

/-- **`Settled states`** — below every state that is not about characters, something is expected
that follows the operand to which the state leads. -/
def Settled : List State → Prop
  | [] => True
  | s :: rest => (s.isLexing = false → phaseOf rest = .holding) ∧ Settled rest

variable {s : State}

theorem isLexing_of_quoting (hs : s.isQuoting) : s.isLexing := by
  rw [isLexing, hs]
  rfl

theorem isLexing_of_escape (hs : s.isEscape) : s.isLexing := by
  cases s <;> first | rfl | cases hs

/-- While a name or a literal is read, the states below say what comes next. -/
theorem says_lexing (hs : s.isLexing) (rest : List State) :
    phaseOf (s :: rest) = phaseOf rest ∧ closers (s :: rest) = closers rest := by
  refine ⟨by rw [phaseOf, if_pos hs], ?_⟩
  cases s <;> first | rfl | cases hs

/-- The second character of an operator and the parts of a slice follow an operand. -/
theorem says_holding (hs : s.isLookahead ∨ s.isSlicing) (rest : List State) : s.isLexing = false ∧
    phaseOf (s :: rest) = .holding ∧ closers (s :: rest) = closers rest := by
  rcases hs with hs | hs
  all_goals cases s <;> first | exact ⟨rfl, rfl, rfl⟩ | cases hs

end State

/-! ## What moves do -/

/-- **`action.Leads phase closers phase' closers'`** — an action may be taken in a phase inside of
some groups, and leads to another phase inside of others. -/
inductive Action.Leads : Action → Phase → List Closer → Phase → List Closer → Prop where
  | nothing {phase : Phase} {closers : List Closer} : Leads .nothing phase closers phase closers
  | leaf {closers : List Closer} (e : Expr) (projecting : Bool) :
      Leads (.leaf e projecting) .wanting closers .holding closers
  | current {closers : List Closer} : Leads (.token .current) .wanting closers .holding closers
  | literal {closers : List Closer} (json : Json) :
      Leads (.token (.literal json)) .wanting closers .holding closers
  | attach {closers : List Closer} (step : Step) :
      Leads (.attach step) .holding closers .holding closers
  | flatten {closers : List Closer} : Leads .flatten .holding closers .holding closers
  | sign {closers : List Closer} {op : Operator} : op.isPrefix →
      Leads (.token (.operator op)) .wanting closers .wanting closers
  | operator {closers : List Closer} {op : Operator} : op.isPrefix = false →
      Leads (.token (.operator op)) .holding closers .wanting closers
  | opening {closers : List Closer} (g : Group) :
      Leads (.token (.opening g)) g.outside closers g.inside (g.closer :: closers)
  | key {closers : List Closer} (name : String) :
      Leads (.token (.key name)) .between (.hash :: closers) .wanting (.hash :: closers)
  | argument {closers : List Closer} :
      Leads .nothing .between (.call :: closers) .wanting (.call :: closers)
  | nextPart {closer : Closer} {closers : List Closer} : closer = .list ∨ closer = .call →
      Leads (.token .separator) .holding (closer :: closers) .wanting (closer :: closers)
  | nextEntry {closers : List Closer} :
      Leads (.token .separator) .holding (.hash :: closers) .between (.hash :: closers)
  | closing {closers : List Closer} (closer : Closer) :
      Leads (.token (.closing closer)) .holding (closer :: closers) .holding closers
  | closingCall {closers : List Closer} :
      Leads (.token (.closing .call)) .between (.call :: closers) .holding closers

/-- **`IsRefusal cause`** — the causes for which well-formed stacks refuse a move: the nesting is too
deep, or a call has another number of arguments than its function demands. -/
def IsRefusal (cause : Cause) : Prop :=
  cause = .nestingTooDeep ∨ ∃ name expected found, cause = .invalidArity name expected found

/-- Whether an action ends a group. -/
def Action.isClosing : Action → Bool
  | .token (.closing _) => true
  | _ => false

/-- **`Leads.delivers`** — on stacks that lie as the phase says, an action is refused for its nesting
or, where it ends a group, for the number of arguments, and leaves them as the next phase says. -/
theorem Action.Leads.delivers {C : Cause → Prop} {action : Action} {phase phase' : Phase}
    {cs cs' : List Closer} (h : action.Leads phase cs phase' cs') (hC : C .nestingTooDeep)
    (harity : action.isClosing → ∀ name expected found, C (.invalidArity name expected found))
    {s : Stacks} (hs : Layout phase cs s.items s.pending) :
    Delivers C (s.perform action) fun s' => Layout phase' cs' s'.items s'.pending := by
  cases h with
  | nothing => exact hs
  | leaf | current | literal => exact hs.operand _
  | attach step => exact (hs.delivers_attachStep hC step 0).bind fun _ h => h
  | flatten => exact (hs.delivers_flattenTop hC).bind fun _ h => h
  | @sign _ op hop =>
      cases op with
      | unary | reference => exact hs.prefixed rfl
      | binary | pipe => cases hop
  | @operator _ op hop =>
      cases op with
      | unary | reference => cases hop
      | binary | pipe => exact hs.delivers_pushInfix hC rfl
  | opening g => exact hs.delivers_openGroup hC
  | key name => exact hs.key name
  | argument => exact hs.argument
  | nextPart hcloser =>
      rcases hcloser with rfl | rfl
      · exact hs.delivers_separator hC (.inl rfl)
      · exact hs.delivers_separator hC (.inr (.inr rfl))
  | nextEntry => exact hs.delivers_separator hC (.inr (.inl rfl))
  | closing closer => exact hs.delivers_closeGroup hC (harity rfl)
  | closingCall => exact hs.delivers_closeGroup_call hC (harity rfl)

/-- **`Turn.leads`** — what a move does to the stacks is what the states before and after it say. -/
theorem Turn.leads {r : Reader} {s : State} {move : Move} {below : List State} (h : Turn r s move)
    (hbelow : s.isLexing = false → State.phaseOf below = .holding) :
    move.action.Leads (State.phaseOf (s :: below)) (State.closers (s :: below))
      (State.phaseOf (move.next ++ below)) (State.closers (move.next ++ below)) := by
  cases h with
  | blank => exact .nothing
  | quote | rawQuote | backtick | bracket | name | dot | stepBracket | dotName | dotQuote | escape
  | rawEscape | stepStar | stepIndex | keyQuote | keyName | value | identifier | rawEscaped =>
      exact .nothing
  | star | operandFlatten => exact hbelow rfl ▸ .leaf _ _
  | current => exact hbelow rfl ▸ .current
  | rawRead | jsonRead => exact hbelow rfl ▸ .literal _
  | operandStar | operandIndex => exact .leaf _ _
  | @nameRead chained | @quotedRead chained =>
      cases chained with
      | false => exact hbelow rfl ▸ .leaf _ _
      | true => exact hbelow rfl ▸ .attach _
  | dotStar | wildcardEnd => exact hbelow rfl ▸ .attach _
  | flatten => exact hbelow rfl ▸ .flatten
  | sign hop => exact .sign hop
  | shortOperator hop => exact .operator hop
  | openHash => exact .opening (.hash false)
  | openParen => exact .opening .paren
  | dotList => exact .opening (.list true)
  | dotHash => exact .opening (.hash true)
  | @call chained function =>
      cases chained with
      | false => exact .opening (.call function false)
      | true => exact .opening (.call function true)
  | stepFilter => exact .opening (.filter true)
  | operandFilter => exact .opening (.filter false)
  | openList => exact .opening (.list false)
  | nextEntry => exact .nextEntry
  | key => exact .key _
  | firstArgument => exact .argument
  | endOperand | number => exact hbelow rfl ▸ .nothing
  | @firstOfTwo state hs =>
      obtain ⟨-, hphase, hclosers⟩ := State.says_holding (.inl hs) (.afterOperand :: below)
      show Action.Leads .nothing .holding (State.closers below)
        (State.phaseOf (state :: .afterOperand :: below))
        (State.closers (state :: .afterOperand :: below))
      rw [hphase, hclosers]
      exact .nothing
  | longOperator hs _ hop =>
      obtain ⟨-, hphase, hclosers⟩ := State.says_holding (.inl hs) below
      rw [hphase, hclosers]
      exact .operator hop
  | closeQuote hs =>
      obtain ⟨hphase, hclosers⟩ := State.says_lexing (State.isLexing_of_quoting hs) below
      rw [hphase, hclosers]
      exact .nothing
  | keep => exact .nothing
  | hexDigit _ hs hnext =>
      obtain ⟨hphase, hclosers⟩ := State.says_lexing (State.isLexing_of_escape hs) below
      obtain ⟨hphase', hclosers'⟩ :=
        State.says_lexing (State.isLexing_of_escape hnext) below
      rw [List.singleton_append, hphase, hclosers, hphase', hclosers']
      exact .nothing
  | escaped _ hs =>
      obtain ⟨hphase, hclosers⟩ := State.says_lexing (State.isLexing_of_escape hs) below
      rw [hphase, hclosers]
      exact .nothing
  | part hs =>
      obtain ⟨-, hphase, hclosers⟩ := State.says_holding (.inr hs) below
      rw [hphase]
      exact .nothing
  | colon _ hs hnext =>
      obtain ⟨-, hphase, hclosers⟩ := State.says_holding (.inr hs) below
      obtain ⟨-, hphase', hclosers'⟩ := State.says_holding (.inr hnext) below
      rw [List.singleton_append, hphase, hclosers, hphase', hclosers']
      exact .nothing
  | sliceEnd hs =>
      obtain ⟨hlexing, hphase, hclosers⟩ := State.says_holding (.inr hs) below
      rw [hphase, hclosers, List.nil_append, hbelow hlexing]
      exact .attach _
  | separator hs =>
      rcases hs with rfl | rfl
      · exact .nextPart (.inl rfl)
      · exact .nextPart (.inr rfl)
  | close hs =>
      cases s <;> cases hs
      all_goals
        rw [List.nil_append, hbelow rfl]
        first | exact .closing _ | exact .closingCall

/-- Below the states that a move brings, what follows an operand is expected as well. -/
theorem Turn.settled {r : Reader} {s : State} {move : Move} {below : List State} (h : Turn r s move)
    (hs : State.Settled (s :: below)) : State.Settled (move.next ++ below) := by
  obtain ⟨hbelow, hrest⟩ := hs
  have hlexing : ∀ {t : State} {rest : List State}, t.isLexing → t.isLexing = false →
      State.phaseOf rest = .holding := fun hyes hno => nomatch hyes.symm.trans hno
  cases h with
  | blank | keep => exact ⟨hbelow, hrest⟩
  | endOperand | star | current | dotStar | identifier | closeQuote | rawEscaped | escaped
  | nameRead | quotedRead | rawRead | jsonRead | flatten | operandFlatten | wildcardEnd | number
  | sliceEnd | close => exact hrest
  | bracket | sign | openHash | dotHash | call | stepStar | stepIndex | operandStar | operandIndex
  | nextEntry | key => exact ⟨fun _ => hbelow rfl, hrest⟩
  | longOperator hs =>
      exact ⟨fun _ => hbelow (State.says_holding (.inl hs) below).1, hrest⟩
  | colon _ hs =>
      exact ⟨fun _ => hbelow (State.says_holding (.inr hs) below).1, hrest⟩
  | quote | rawQuote | backtick | name | dotName | dotQuote | keyQuote | keyName =>
      exact ⟨hlexing rfl, fun _ => hbelow rfl, hrest⟩
  | escape | rawEscape => exact ⟨hlexing rfl, hbelow, hrest⟩
  | hexDigit _ _ hnext => exact ⟨hlexing (State.isLexing_of_escape hnext), hrest⟩
  | part hs => exact ⟨fun _ => (State.says_holding (.inr hs) below).2.1, hbelow, hrest⟩
  | dot | stepBracket | shortOperator | firstOfTwo =>
      exact ⟨fun _ => rfl, fun _ => hbelow rfl, hrest⟩
  | openParen | dotList | stepFilter | operandFilter | openList | value | firstArgument =>
      exact ⟨fun _ => rfl, fun _ => rfl, fun _ => hbelow rfl, hrest⟩
  | separator hs =>
      rcases hs with rfl | rfl
      all_goals exact ⟨fun _ => rfl, fun _ => rfl, fun _ => hbelow rfl, hrest⟩

namespace Machine

/-! ## Runs -/

/-- **`m.Agrees`** — the operands, operators and open groups lie on the stacks as the states say. -/
structure Agrees (m : Machine) : Prop where
  settled : State.Settled m.states
  layout :
    Layout (State.phaseOf m.states) (State.closers m.states) m.waiting.items m.waiting.pending

theorem agrees_start (text : String) (registry : Registry) : (start text registry).Agrees where
  settled := ⟨fun _ => rfl, fun _ => rfl, fun _ => rfl, trivial⟩
  layout := .wanting [] [] rfl .bottom

theorem Agrees.delivers_of {C : Cause → Prop} {m : Machine} (h : m.Agrees) {s : State}
    {below : List State} {move : Move} (hstates : m.states = s :: below)
    (hplan : m.plan s = .ok move) (hC : C .nestingTooDeep)
    (harity : move.action.isClosing → ∀ name expected found, C (.invalidArity name expected found)) :
    Delivers C (m.waiting.perform move.action) fun waiting =>
      (m.after below move waiting).Agrees := by
  obtain ⟨hsettled, hlayout⟩ := h
  rw [hstates] at hsettled hlayout
  have hturn := Reader.plan_turn hplan
  refine ((hturn.leads hsettled.1).delivers hC harity hlayout).imp fun waiting hwaiting => ?_
  exact ⟨hturn.settled hsettled, hwaiting⟩

/-- **`Agrees.delivers`** — where the stacks agree, a planned move is only refused for its nesting
or the number of arguments, and otherwise leaves the stacks in agreement. -/
theorem Agrees.delivers {m : Machine} (h : m.Agrees) {s : State} {below : List State} {move : Move}
    (hstates : m.states = s :: below) (hplan : m.plan s = .ok move) :
    Delivers IsRefusal (m.waiting.perform move.action) fun waiting =>
      (m.after below move waiting).Agrees :=
  h.delivers_of hstates hplan (.inl rfl) fun _ _ _ _ => .inr ⟨_, _, _, rfl⟩

/-- A move that ends no group is only refused for its nesting. -/
theorem Agrees.refuses {m : Machine} (h : m.Agrees) {s : State} {below : List State} {move : Move}
    {cause : Cause} (hstates : m.states = s :: below) (hplan : m.plan s = .ok move)
    (hclosing : move.action.isClosing = false)
    (hperform : m.waiting.perform move.action = .error cause) : cause = .nestingTooDeep := by
  have hdelivers := h.delivers_of (C := (· = .nestingTooDeep)) hstates hplan rfl fun hyes => by
    cases hyes.symm.trans hclosing
  exact hdelivers.of_error hperform

/-- **`Agrees.step`** — every move keeps the stacks in agreement. -/
theorem Agrees.step {m m' : Machine} (h : m.Agrees) (hstep : m.step = .ok m') : m'.Agrees := by
  obtain ⟨s, below, move, waiting, hstates, hplan, hperform, rfl⟩ := step_eq_ok.mp hstep
  exact (h.delivers hstates hplan).of_ok hperform

theorem Agrees.reaches {m m' : Machine} (h : m.Agrees) (hreach : m.Reaches m') : m'.Agrees :=
  hreach.preserves (fun _ _ => Agrees.step) h

/-- At the end of a text the stacks hold one operand, as far as its nesting allows. -/
theorem Agrees.delivers_result {m : Machine} (h : m.Agrees) (hdone : m.isDone) :
    Delivers (· = .nestingTooDeep) m.waiting.result fun _ => True := by
  rw [isDone, Bool.and_eq_true, beq_iff_eq] at hdone
  have hlayout := h.layout
  rw [hdone.2] at hlayout
  exact hlayout.delivers_result (C := (· = .nestingTooDeep)) rfl

theorem Agrees.result_error {m : Machine} {e : ParseError} (h : m.Agrees) (hdone : m.isDone)
    (hresult : m.result = .error e) : e.cause = .nestingTooDeep := by
  unfold Machine.result at hresult
  cases hfound : m.waiting.result with
  | ok o =>
      rw [hfound] at hresult
      cases hresult
  | error cause =>
      rw [hfound] at hresult
      cases hresult
      exact (h.delivers_result hdone).of_error hfound

end Machine

/-- **`stacks_agree`** — all along the run on a text there is a state to look at, the three stacks
agree, and so the groups that the states await, the markers among the items and the barriers among
the operators are those of the same open groups.  A planned move is refused only for its nesting or
for the number of arguments of a call, and at the end of the text only the nesting can be refused. -/
theorem stacks_agree {text : String} {registry : Registry} {m : Machine}
    (h : (Machine.start text registry).Reaches m) :
    m.states ≠ [] ∧ m.Agrees
    ∧ (openGroups m.waiting.items).map Group.closer = State.closers m.states
    ∧ barriers m.waiting.pending = (openGroups m.waiting.items).length
    ∧ (∀ s below move cause, m.states = s :: below → m.plan s = .ok move →
        m.waiting.perform move.action = .error cause →
        cause = .nestingTooDeep ∨ ∃ name expected found, cause = .invalidArity name expected found)
    ∧ (m.isDone → ∀ e, m.result = .error e → e.cause = .nestingTooDeep) := by
  have hagrees := (Machine.agrees_start text registry).reaches h
  have hgroups := hagrees.layout.openGroups_eq
  refine ⟨?_, hagrees, hgroups, ?_, ?_, ?_⟩
  · obtain ⟨inner, hlast⟩ := ((Machine.regular_start text registry).reaches h).last
    rw [hlast]
    exact List.append_ne_nil_of_right_ne_nil _ (List.cons_ne_nil _ _)
  · rw [hagrees.layout.barriers_eq, ← hgroups, List.length_map]
  · intro s below move cause hstates hplan hperform
    exact (hagrees.delivers hstates hplan).of_error hperform
  · intro hdone e hresult
    exact hagrees.result_error hdone hresult

/-- In the middle of `a.[b || (c`, a parenthesis is open in a list that hangs off a field. -/
theorem stacks_agree_open : ∃ m, (Machine.start "a.[b || (c" .builtins).Reaches m ∧
    m.states = [.afterOperand, .parenEnd, .afterOperand, .listEnd, .afterOperand, .finish] ∧
    (openGroups m.waiting.items).map Group.closer = [.paren, .list] ∧
    barriers m.waiting.pending = 2 := by
  have hfound : ∃ m ∈ Machine.trail (moveBound 10) (Machine.start "a.[b || (c" .builtins),
      m.states = [.afterOperand, .parenEnd, .afterOperand, .listEnd, .afterOperand, .finish] := by
    decide +kernel
  obtain ⟨m, hm, hstates⟩ := hfound
  have hreach := (Machine.mem_trail (Machine.weight_start "a.[b || (c" .builtins)).mp hm
  obtain ⟨-, -, hgroups, hbarriers, -⟩ := stacks_agree hreach
  have hclosers : (openGroups m.waiting.items).map Group.closer = [.paren, .list] := by
    rw [hgroups, hstates]
    rfl
  refine ⟨m, hreach, hstates, hclosers, ?_⟩
  rw [hbarriers, ← List.length_map Group.closer, hclosers]
  rfl

end JsonQuery.Expr
