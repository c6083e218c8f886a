/-
# JsonQuery.Proofs.Expr.Moves — the moves of the parser come to an end.

Every move steps over characters or simplifies the stack of states.  A weight of the machine that
counts both goes down with every move, so the fuel that `parse` gives to `run` never runs out.  What
is left is `Machine.Ends`, the run without fuel, and every later proof speaks of that.

The states have a weight of their own, in which the scratch does not count: the one state that is
pushed on top of the same one, a number in a bracket, weighs less than nothing and so pays for itself.
A move that steps over characters may put on at most five, so that six iterations for each character
and six for the end are always enough (`parse_iterations`).
-/
import JsonQuery.Proofs.Expr.Turn
import JsonQuery.Proofs.Text.Cursor

namespace JsonQuery.Expr

open Text (Cursor isBlank)

/-! ## Weights -/

/-- How many moves a state is good for before a character is stepped over. -/
def State.weight : State → Nat
  | .finish | .number => 0
  | .bracketStep | .hashKeyRead => 2
  | .operand | .afterDot => 3
  | .hashKey | .afterPipe | .afterAmpersand | .afterLess | .afterGreater | .afterEquals
  | .afterBang | .afterSlash => 4
  | .bracketOperand | .firstArgument => 6
  | _ => 1

/-- The weight of a stack of states.  A number is expected on top of the state that asked for it, and
reading one needs a character, so it weighs less than nothing. -/
def weightOf : List State → Nat
  | [] => 0
  | .number :: rest => weightOf rest - 1
  | s :: rest => s.weight + weightOf rest

theorem weightOf_cons {s : State} (h : s ≠ .number) (rest : List State) :
    weightOf (s :: rest) = s.weight + weightOf rest := by
  cases s <;> first | rfl | exact absurd rfl h

theorem weightOf_number (rest : List State) : weightOf (.number :: rest) = weightOf rest - 1 := rfl

theorem weightOf_le (s : State) (rest : List State) : weightOf rest ≤ weightOf (s :: rest) + 1 := by
  by_cases h : s = .number
  · subst h
    rw [weightOf_number]
    omega
  · rw [weightOf_cons h]
    omega

/-- Every move steps over characters that are there. -/
theorem Turn.width_le {r : Reader} {s : State} {move : Move} (h : Turn r s move) :
    move.width ≤ 1 ∨ move.width ≤ r.cursor.rest.length := by
  cases h <;> first | exact .inl (Nat.le_refl _) | exact .inl (Nat.zero_le 1) | skip
  · exact .inl ‹_›
  · rename_i hname
    rw [hname]
    exact .inr (List.takeWhile_prefix _).length_le
  · exact .inr ‹_›
  · exact .inr ‹_›

/-- At the end of the text there is nothing to step over. -/
theorem Reader.plan_end {r : Reader} {s : State} {move : Move} (hr : r.cursor.rest = [])
    (h : r.plan s = .ok move) : move.width = 0 := by
  have hcurrent : r.cursor.current = none := by rw [Cursor.current, hr]; rfl
  simp only [plan, hcurrent, Option.any_none, Bool.and_false, Bool.false_eq_true, if_false] at h
  cases s with
  | operand | afterDot | quoted | raw | rawEscape | jsonText | escape | escapeHex
  | surrogateBackslash | surrogateU | bracketStep | bracketOperand | wildcardEnd | indexOrStart
  | sliceStop | sliceStep | filterEnd | listEnd | hashKey | hashColon | hashValueEnd | parenEnd
  | argumentEnd | afterAmpersand | afterEquals | afterBang | finish => cases h
  | afterOperand | quotedRead | rawRead | hashKeyRead | firstArgument | afterPipe | afterLess
  | afterGreater | afterSlash | identifierRead => cases h; rfl
  | identifier =>
      simp only [planAt, restOfIdentifier, hr, List.takeWhile_nil] at h
      rw [note_ok h]
      rfl
  | number =>
      simp [planAt, readNumber, hr] at h
  | jsonRead =>
      simp only [planAt, finishLiteral] at h
      split at h
      · cases h
      · rw [note_ok h]

theorem Reader.width_le {r : Reader} {s : State} {move : Move} (h : r.plan s = .ok move) :
    move.width ≤ r.cursor.rest.length := by
  rcases (plan_turn h).width_le with hle | hle
  · cases hr : r.cursor.rest with
    | nil => exact Nat.le_of_eq (plan_end hr h)
    | cons c rest => exact Nat.le_trans hle (by simp +arith)
  · exact hle

theorem weightOf_lookahead {s : State} (h : s.isLookahead) (rest : List State) :
    weightOf (s :: rest) = 4 + weightOf rest := by
  cases s <;> first | rfl | cases h

theorem weightOf_quoting {s : State} (h : s.isQuoting) (rest : List State) :
    weightOf (s :: rest) = 1 + weightOf rest := by
  cases s <;> first | rfl | cases h

theorem weightOf_escape {s : State} (h : s.isEscape) (rest : List State) :
    weightOf (s :: rest) = 1 + weightOf rest := by
  cases s <;> first | rfl | cases h

theorem weightOf_slicing {s : State} (h : s.isSlicing) (rest : List State) :
    weightOf (s :: rest) = 1 + weightOf rest := by
  cases s <;> first | rfl | cases h

/-- **`Turn.weight_lt`** — a move takes more off the characters than it adds to the states. -/
theorem Turn.weight_lt {r : Reader} {s : State} {move : Move} (h : Turn r s move)
    (below : List State) :
    weightOf (move.next ++ below) < 6 * move.width + weightOf (s :: below) := by
  -- The states in place of the one on top are good for five moves more at most.
  cases h with
  | blank => simp
  | firstOfTwo hs =>
      simp only [List.cons_append, List.nil_append, weightOf_lookahead hs]
      simp +arith [weightOf, State.weight]
  | longOperator hs hwidth =>
      simp only [List.cons_append, List.nil_append, weightOf_lookahead hs]
      simp [weightOf, State.weight]
      omega
  | closeQuote hs =>
      simp only [weightOf_quoting hs]
      simp +arith
  | keep c hs hwidth =>
      simp only [List.cons_append, List.nil_append, weightOf_quoting hs]
      omega
  | escape | rawEscape | rawEscaped => simp +arith [weightOf, State.weight]
  | hexDigit kept hs hnext =>
      simp only [List.cons_append, List.nil_append, weightOf_escape hs, weightOf_escape hnext]
      omega
  | escaped kept hs =>
      simp only [List.nil_append, weightOf_escape hs]
      omega
  | number parts hwidth =>
      have := weightOf_le .number below
      simp only [List.nil_append]
      omega
  | part hs =>
      simp only [List.cons_append, List.nil_append, weightOf_number, weightOf_slicing hs]
      omega
  | colon parts hs hnext =>
      simp only [List.cons_append, List.nil_append, weightOf_slicing hs, weightOf_slicing hnext]
      omega
  | sliceEnd hs =>
      simp only [List.nil_append, weightOf_slicing hs]
      omega
  | separator hs =>
      rcases hs with rfl | rfl <;> simp +arith [weightOf, State.weight, Reader.expressionThen]
  | close hs =>
      have := weightOf_le s below
      simp only [List.nil_append]
      omega
  | _ => simp +arith [weightOf, State.weight, Reader.expressionThen]

/-! ## Steps -/

namespace Machine

/-- The parser before its first move. -/
def start (text : String) (registry : Registry) : Machine :=
  { cursor := Cursor.start text, registry := registry }

/-- The machine after a move, with the stacks that the move leaves. -/
def after (m : Machine) (below : List State) (move : Move) (waiting : Stacks) : Machine :=
  ⟨⟨m.cursor.advanceBy move.width, m.registry, move.scratch⟩, move.next ++ below, waiting⟩

theorem step_eq_ok {m m' : Machine} : m.step = .ok m' ↔
    ∃ s below move waiting, m.states = s :: below ∧ m.plan s = .ok move ∧
      m.waiting.perform move.action = .ok waiting ∧ m' = m.after below move waiting := by
  constructor
  · intro h
    unfold step at h
    cases hstates : m.states with
    | nil =>
        rw [hstates] at h
        cases h
    | cons s below =>
        rw [hstates] at h
        cases hplan : m.plan s with
        | error e =>
            simp only [hplan] at h
            cases h
        | ok move =>
            simp only [hplan] at h
            replace h : m.make below move = .ok m' := h
            unfold make at h
            cases hwaiting : m.waiting.perform move.action with
            | error cause =>
                simp only [hwaiting] at h
                cases h
            | ok waiting =>
                simp only [hwaiting] at h
                exact ⟨s, below, move, waiting, rfl, hplan, hwaiting, (Except.ok.inj h).symm⟩
  · rintro ⟨s, below, move, waiting, hstates, hplan, hwaiting, rfl⟩
    unfold step
    rw [hstates]
    simp only [hplan]
    show m.make below move = _
    unfold make
    simp only [hwaiting]
    rfl

/-- Where no move is planned there is no step. -/
theorem step_of_plan_error {m : Machine} {s : State} {below : List State} {e : ParseError}
    (hstates : m.states = s :: below) (hplan : m.plan s = .error e) : m.step = .error e := by
  unfold step
  rw [hstates]
  simp only [hplan]
  rfl

/-- Where there is no step, either no move is planned or the stacks refuse the one that is. -/
theorem step_eq_error {m : Machine} {s : State} {below : List State} {e : ParseError}
    (hstates : m.states = s :: below) (h : m.step = .error e) :
    m.plan s = .error e ∨ ∃ move cause, m.plan s = .ok move ∧
      m.waiting.perform move.action = .error cause ∧
      e = ⟨cause, (m.cursor.advanceBy move.width).position⟩ := by
  unfold step at h
  rw [hstates] at h
  cases hplan : m.plan s with
  | error e' =>
      simp only [hplan] at h
      cases h
      exact .inl rfl
  | ok move =>
      simp only [hplan] at h
      replace h : m.make below move = .error e := h
      unfold make at h
      cases hwaiting : m.waiting.perform move.action with
      | ok waiting =>
          simp only [hwaiting] at h
          cases h
      | error cause =>
          simp only [hwaiting] at h
          cases h
          exact .inr ⟨move, cause, rfl, hwaiting, rfl⟩

/-- How many moves the machine has left at most. -/
def weight (m : Machine) : Nat := 6 * m.cursor.rest.length + weightOf m.states

theorem step_weight_lt {m m' : Machine} (h : m.step = .ok m') : m'.weight < m.weight := by
  obtain ⟨s, below, move, waiting, hstates, hplan, -, rfl⟩ := step_eq_ok.mp h
  have hwidth := Reader.width_le hplan
  have hlt := (Reader.plan_turn hplan).weight_lt below
  simp only [weight, after, Cursor.advanceBy_rest, List.length_drop, hstates]
  omega

/-! ## Runs -/

/-- **`m.Ends result`** — the run from `m` ends with a result. -/
inductive Ends : Machine → Except ParseError Expr → Prop where
  | done {m : Machine} : m.isDone → Ends m m.result
  | stuck {m : Machine} {e : ParseError} : m.isDone = false → m.step = .error e → Ends m (.error e)
  | move {m m' : Machine} {result : Except ParseError Expr} : m.isDone = false → m.step = .ok m' →
      Ends m' result → Ends m result

/-- A run is over, or it takes a step. -/
theorem Ends.over_or_step {m : Machine} {result : Except ParseError Expr} (h : m.Ends result) :
    (m.isDone ∧ m.result = result) ∨ (m.isDone = false ∧
      ((∃ e, m.step = .error e ∧ result = .error e) ∨ ∃ m', m.step = .ok m' ∧ m'.Ends result)) := by
  cases h with
  | done hdone => exact .inl ⟨hdone, rfl⟩
  | stuck hnot hstep => exact .inr ⟨hnot, .inl ⟨_, hstep, rfl⟩⟩
  | move hnot hstep hends => exact .inr ⟨hnot, .inr ⟨_, hstep, hends⟩⟩

/-- A run has one end only. -/
theorem Ends.unique {m : Machine} {result result' : Except ParseError Expr} (h : m.Ends result)
    (h' : m.Ends result') : result = result' := by
  -- Being done, being stuck and making a move exclude each other.
  induction h with
  | done hdone =>
      cases h' with
      | done => rfl
      | stuck hnot | move hnot => rw [hdone] at hnot; cases hnot
  | stuck hnot hstep =>
      cases h' with
      | done hdone => rw [hdone] at hnot; cases hnot
      | stuck _ hstep' =>
          rw [hstep] at hstep'
          obtain rfl := Except.error.inj hstep'
          rfl
      | move _ hstep' => rw [hstep] at hstep'; cases hstep'
  | move hnot hstep _ ih =>
      cases h' with
      | done hdone => rw [hdone] at hnot; cases hnot
      | stuck _ hstep' => rw [hstep] at hstep'; cases hstep'
      | move _ hstep' hends =>
          rw [hstep] at hstep'
          exact ih (Except.ok.inj hstep' ▸ hends)

/-- **`m.Reaches m'`** — the run from `m` comes by `m'`. -/
inductive Reaches : Machine → Machine → Prop where
  | refl (m : Machine) : Reaches m m
  | move {m m' m'' : Machine} : m.isDone = false → m.step = .ok m' → Reaches m' m'' → Reaches m m''

theorem Reaches.trans {m m' m'' : Machine} (h : m.Reaches m') (h' : m'.Reaches m'') :
    m.Reaches m'' := by
  induction h with
  | refl => exact h'
  | move hnot hstep _ ih => exact .move hnot hstep (ih h')

/-- **`Reaches.preserves`** — what every move keeps holds of all that a run comes by. -/
theorem Reaches.preserves {P : Machine → Prop} {m m' : Machine} (h : m.Reaches m')
    (hkeeps : ∀ m m', P m → m.step = .ok m' → P m') (hm : P m) : P m' := by
  induction h with
  | refl => exact hm
  | move _ hstep _ ih => exact ih (hkeeps _ _ hm hstep)

/-- What a run comes by is where it starts, or what a move leads to. -/
theorem Reaches.eq_or_step {m m' : Machine} (h : m.Reaches m') :
    m' = m ∨ ∃ last, m.Reaches last ∧ last.step = .ok m' := by
  induction h with
  | refl => exact .inl rfl
  | move hnot hstep hreach ih =>
      obtain rfl | ⟨last, hlast, hstep'⟩ := ih
      · exact .inr ⟨_, .refl _, hstep⟩
      · exact .inr ⟨last, .move hnot hstep hlast, hstep'⟩

theorem Reaches.ends {m m' : Machine} {result : Except ParseError Expr} (h : m.Reaches m')
    (hends : m'.Ends result) : m.Ends result := by
  induction h with
  | refl => exact hends
  | move hnot hstep _ ih => exact .move hnot hstep (ih hends)

/-- What a run comes by lies before its end. -/
theorem Reaches.before_done {m m' last : Machine} (h : m.Reaches m') (hlast : m.Reaches last)
    (hdone : last.isDone) : m'.Reaches last := by
  induction h with
  | refl => exact hlast
  | move hnot hstep _ ih =>
      cases hlast with
      | refl => rw [hdone] at hnot; cases hnot
      | move _ hstep' hlast =>
          rw [hstep] at hstep'
          exact ih (Except.ok.inj hstep' ▸ hlast)

/-- The rest of a run has the end of the run. -/
theorem Reaches.ends_of_ends {m m' : Machine} {result : Except ParseError Expr} (h : m.Reaches m')
    (hends : m.Ends result) : m'.Ends result := by
  induction h with
  | refl => exact hends
  | move hnot hstep _ ih =>
      cases hends with
      | done hdone => rw [hdone] at hnot; cases hnot
      | stuck _ hstep' => rw [hstep] at hstep'; cases hstep'
      | move _ hstep' hends =>
          rw [hstep] at hstep'
          exact ih (Except.ok.inj hstep' ▸ hends)

/-- A run that ends with a tree comes by a machine that is done. -/
theorem Ends.exists_done {m : Machine} {e : Expr} (h : m.Ends (.ok e)) :
    ∃ m', m.Reaches m' ∧ m'.isDone ∧ m'.result = .ok e := by
  generalize hresult : Except.ok e = result at h
  induction h with
  | @done m hdone => exact ⟨m, .refl m, hdone, rfl⟩
  | stuck => cases hresult
  | move hnot hstep _ ih =>
      obtain ⟨m', hreach, hdone⟩ := ih hresult
      exact ⟨m', .move hnot hstep hreach, hdone⟩

theorem ends_run {fuel : Nat} {m : Machine} (h : m.weight < fuel) : m.Ends (run fuel m) := by
  -- Every step takes one off the fuel and at least one off the weight.
  induction fuel generalizing m with
  | zero => omega
  | succ fuel ih =>
      unfold run
      cases hdone : m.isDone with
      | true => exact .done hdone
      | false =>
          simp only [Bool.false_eq_true, if_false]
          cases hstep : m.step with
          | error e => exact .stuck hdone hstep
          | ok m' =>
              have hlt := step_weight_lt hstep
              exact .move hdone hstep (ih (by omega))

/-- The machines that a run comes by. -/
def trail : Nat → Machine → List Machine
  | 0, _ => []
  | fuel + 1, m =>
    m :: if m.isDone then [] else
      match m.step with
      | .error _ => []
      | .ok m' => trail fuel m'

/-- With enough fuel the trail shows the whole run. -/
theorem mem_trail {fuel : Nat} {m m' : Machine} (h : m.weight < fuel) :
    m' ∈ trail fuel m ↔ m.Reaches m' := by
  induction fuel generalizing m with
  | zero => omega
  | succ fuel ih =>
      rw [trail, List.mem_cons]
      constructor
      · rintro (rfl | hlater)
        · exact .refl m'
        · split at hlater
          · cases hlater
          · rename_i hnot
            split at hlater
            · cases hlater
            · rename_i m₁ hstep
              have hlt := step_weight_lt hstep
              exact .move (Bool.eq_false_iff.mpr hnot) hstep ((ih (by omega)).mp hlater)
      · intro hreach
        cases hreach with
        | refl => exact .inl rfl
        | @move _ m₁ _ hnot hstep hreach =>
            have hlt := step_weight_lt hstep
            refine .inr ?_
            rw [hnot, hstep]
            exact (ih (by omega)).mpr hreach

/-- The states of the beginning are good for four moves. -/
theorem weight_start_eq (text : String) (registry : Registry) :
    (start text registry).weight = 6 * text.toList.length + 4 := rfl

theorem weight_start (text : String) (registry : Registry) :
    (start text registry).weight < moveBound text.toList.length := by
  rw [weight_start_eq, moveBound]
  omega

end Machine

open Machine in
/-- **`parse_eq_iff`** — the fuel of `parse` is enough: its result is the end of the run. -/
theorem parse_eq_iff {text : String} {registry : Registry} {result : Except ParseError Expr} :
    parse text registry = result ↔ (start text registry).Ends result := by
  have hends : (start text registry).Ends (parse text registry) :=
    ends_run (weight_start text registry)
  constructor
  · rintro rfl
    exact hends
  · exact hends.unique

/-! ## Iterations -/

namespace Machine

/-- **`m.Consumes m'`** — from `m` to `m'` the cursor has stepped over characters of the text. -/
def Consumes (m m' : Machine) : Prop :=
  ∃ width, 0 < width ∧ width ≤ m.cursor.rest.length ∧ m'.cursor = m.cursor.advanceBy width

/-- **`m.Simplifies m'`** — from `m` to `m'` the cursor has not moved, and the states weigh less. -/
def Simplifies (m m' : Machine) : Prop :=
  m'.cursor = m.cursor ∧ weightOf m'.states < weightOf m.states

theorem consumes_or_simplifies {m m' : Machine} (h : m.step = .ok m') :
    m.Consumes m' ∨ m.Simplifies m' := by
  obtain ⟨s, below, move, waiting, hstates, hplan, -, rfl⟩ := step_eq_ok.mp h
  have hwidth : move.width ≤ m.cursor.rest.length := Reader.width_le hplan
  have hlt : weightOf (move.next ++ below) < 6 * move.width + weightOf (s :: below) :=
    (Reader.plan_turn hplan).weight_lt below
  rcases Nat.eq_zero_or_pos move.width with hzero | hpos
  · refine .inr ⟨?_, ?_⟩
    · show m.cursor.advanceBy move.width = m.cursor
      rw [hzero]
      rfl
    · show weightOf (move.next ++ below) < weightOf m.states
      rw [hstates]
      omega
  · exact .inl ⟨move.width, hpos, hwidth, rfl⟩

/-- The loop of the parser, cut off after so many iterations: its result, if it has ended by then. -/
def resultWithin : Nat → Machine → Option (Except ParseError Expr)
  | 0, _ => none
  | limit + 1, m =>
    if m.isDone then some m.result
    else match m.step with
      | .error e => some (.error e)
      | .ok m' => resultWithin limit m'

theorem resultWithin_succ_of_done {m : Machine} (limit : Nat) (hdone : m.isDone) :
    resultWithin (limit + 1) m = some m.result :=
  if_pos hdone

theorem resultWithin_succ_of_not_done {m : Machine} (limit : Nat) (hnot : m.isDone = false) :
    resultWithin (limit + 1) m = match m.step with
      | .error e => some (.error e)
      | .ok m' => resultWithin limit m' :=
  if_neg (by rw [hnot]; exact Bool.false_ne_true)

/-- A run that ends does so within as many iterations as its start weighs, and one. -/
theorem Ends.resultWithin {limit : Nat} {m : Machine} {result : Except ParseError Expr}
    (h : m.Ends result) (hlimit : m.weight < limit) : resultWithin limit m = some result := by
  induction limit generalizing m with
  | zero => omega
  | succ limit ih =>
      cases h with
      | done hdone => exact resultWithin_succ_of_done limit hdone
      | stuck hnot hstep => rw [resultWithin_succ_of_not_done limit hnot, hstep]
      | move hnot hstep hends =>
          have hlt := step_weight_lt hstep
          rw [resultWithin_succ_of_not_done limit hnot, hstep]
          exact ih hends (by omega)

end Machine

open Machine in
/-- **`parse_iterations`** — whatever the text and the functions that there are, the loop of the parser
ends with its result within six iterations for each character and six more.  Each iteration ends the
loop, or it consumes characters, or it leaves the cursor where it is and simplifies the states. -/
theorem parse_iterations (text : String) (registry : Registry) :
    resultWithin (6 * (text.toList.length + 1)) (start text registry) =
      some (parse text registry) ∧
    ∀ m : Machine, (resultWithin 1 m).isSome ∨
      ∃ m', m.step = .ok m' ∧ (m.Consumes m' ∨ m.Simplifies m') := by
  constructor
  · have hends : (start text registry).Ends (parse text registry) := parse_eq_iff.mp rfl
    refine hends.resultWithin ?_
    rw [weight_start_eq]
    omega
  · intro m
    cases hdone : m.isDone with
    | true =>
        refine .inl ?_
        rw [resultWithin_succ_of_done 0 hdone]
        rfl
    | false =>
        cases hstep : m.step with
        | error e =>
            refine .inl ?_
            rw [resultWithin_succ_of_not_done 0 hdone, hstep]
            rfl
        | ok m' => exact .inr ⟨m', rfl, consumes_or_simplifies hstep⟩

/-- A name of one letter takes its start, its end, what it stands for, the end of the operand, and the
last look at the states. -/
example : Machine.resultWithin 5 (.start "a" .builtins) = some (.ok (.field "a")) ∧
    Machine.resultWithin 4 (.start "a" .builtins) = none := ⟨rfl, rfl⟩

end JsonQuery.Expr
