/-
# JsonQuery.Proofs.Expr.Part — texts that are parts of others.

A `Part` is a text that is an expression on its own.  Wherever an operand is expected, and a closer, a
comma or the end of the text follows, the parser reads it as that expression, and comes out behind it
with the operand on top of its stacks as soon as what waits in between has been applied.
-/
import JsonQuery.Proofs.Expr.Embedding
import Mathlib.Data.List.TakeWhile

namespace JsonQuery

open JsonQuery.Expr
open Text (isBlank isAsciiDigit)

/-- A text that is an expression on its own. -/
structure Part (registry : Registry) where
  text : String
  tree : Expr
  parses : parse text registry = .ok tree

namespace Part

variable {registry : Registry}

/-- The characters. -/
def chars (p : Part registry) : List Char := p.text.toList

/-- The number of characters. -/
def length (p : Part registry) : Nat := p.chars.length

/-- The parser before the text alone. -/
def start (p : Part registry) : Machine := Machine.start p.text registry

/-- **`p.Yields o`** — `o` is the operand that is left at the end of the text alone. -/
def Yields (p : Part registry) (o : Operand) : Prop :=
  ∃ m, p.start.Reaches m ∧ m.isDone ∧ m.waiting.result = .ok o

/-- **`p.LeavesRoom`** — the text alone does not make use of the last level of nesting, neither of
groups nor of trees. -/
structure LeavesRoom (p : Part registry) : Prop where
  depth : ∀ m, p.start.Reaches m → m.waiting.depth < maxNesting
  height : ∀ o, p.Yields o → o.height < maxNesting

/-- Whether a part leaves room can be seen from its run. -/
theorem leavesRoom_iff (p : Part registry) : p.LeavesRoom ↔
    ∀ m ∈ Machine.trail (moveBound p.length) p.start, m.waiting.depth < maxNesting ∧
      (m.isDone → ∀ o ∈ m.waiting.result.toOption, o.height < maxNesting) := by
  have htrail : ∀ m, m ∈ Machine.trail (moveBound p.length) p.start ↔ p.start.Reaches m :=
    fun m => Machine.mem_trail (Machine.weight_start p.text registry)
  simp only [htrail]
  constructor
  · intro h m hreach
    refine ⟨h.depth m hreach, fun hdone o ho => h.height o ⟨m, hreach, hdone, ?_⟩⟩
    cases hresult : m.waiting.result with
    | error cause =>
        rw [hresult] at ho
        cases ho
    | ok o' =>
        rw [hresult] at ho
        cases ho
        rfl
  · intro h
    refine ⟨fun m hreach => (h m hreach).1, ?_⟩
    rintro o ⟨m, hreach, hdone, hresult⟩
    refine (h m hreach).2 hdone o ?_
    rw [hresult]
    rfl

instance (p : Part registry) : Decidable p.LeavesRoom :=
  decidable_of_iff _ p.leavesRoom_iff.symm

theorem ends (p : Part registry) : p.start.Ends (.ok p.tree) := parse_eq_iff.mp p.parses

theorem exists_yields (p : Part registry) : ∃ o, p.Yields o := by
  obtain ⟨m, hreach, hdone, hresult⟩ := p.ends.exists_done
  unfold Machine.result at hresult
  split at hresult
  · exact ⟨_, m, hreach, hdone, ‹_›⟩
  · cases hresult

theorem Yields.expr {p : Part registry} {o : Operand} (h : p.Yields o) : o.expr = p.tree := by
  obtain ⟨m, hreach, hdone, hresult⟩ := h
  have hends := hreach.ends_of_ends p.ends
  have hok : m.result = .ok o.expr := by
    rw [Machine.result, hresult]
  have heq := hends.unique (.done hdone)
  rw [hok] at heq
  exact (Except.ok.inj heq).symm

/-- The operand of the text alone. -/
noncomputable def operand (p : Part registry) : Operand := p.exists_yields.choose

theorem yields_operand (p : Part registry) : p.Yields p.operand := p.exists_yields.choose_spec

@[simp] theorem operand_expr (p : Part registry) : p.operand.expr = p.tree := p.yields_operand.expr

theorem place_start (p : Part registry) :
    p.start.place = .between ⟨registry, p.length⟩ [.operand, .afterOperand, .finish] {} p.chars :=
  Machine.place_start p.text registry

/-- The blanks in front of a part can be left out. -/
theorem exists_reaches (p : Part registry) {blanks rest : List Char}
    (hchars : p.chars = blanks ++ rest) (hblanks : ∀ c ∈ blanks, isBlank c) :
    ∃ m, p.start.Reaches m ∧
      m.place = .between ⟨registry, p.length⟩ [.operand, .afterOperand, .finish] {} rest :=
  (Machine.leads_blanks p.place_start rfl rfl hblanks hchars).reaches

/-- **`p.leads`** — a part is read where an operand is expected, up to what follows it. -/
theorem leads (limit : Prop) (p : Part registry) (o : Outer) (hbounds : o.Bounds)
    (hdepth : o.waiting.depth ≤ 1) (hlimit : ¬ p.LeavesRoom → limit) {blanks rest : List Char}
    (hchars : p.chars = blanks ++ rest) (hblanks : ∀ c ∈ blanks, isBlank c) :
    ∃ s : Stacks, s.result = .ok p.operand ∧ s.depth = 0 ∧ ∀ whole : Machine,
      whole.place = .between ⟨registry, p.length + o.shift + o.tail.length⟩
        (.operand :: .afterOperand :: o.states) o.waiting (rest ++ o.tail) →
      whole.Leads limit (.between ⟨registry, p.length + o.shift + o.tail.length⟩ o.states
        (s.within o.shift o.waiting) o.tail) := by
  obtain ⟨last, hlast, hdone, hresult⟩ := p.yields_operand
  obtain ⟨m, hreach, hm⟩ := p.exists_reaches hchars hblanks
  have hregular : m.Regular := (Machine.regular_start p.text registry).reaches hreach
  -- The run over the part is cut behind its blanks; where it is done, the outer states are left.
  have hmlast := hreach.before_done hlast hdone
  obtain ⟨hbuffer, hparts, hnone⟩ := (hregular.reaches hmlast).of_isDone hdone
  refine ⟨last.waiting, hresult, hnone, fun whole hwhole => ?_⟩
  have hwhole' : whole.place = m.place.within o := by
    rw [hwhole, hm, Place.within]
    simp only [Place.between, Stacks.empty_within]
    rfl
  have hlead : whole.Leads limit (last.place.within o) := by
    refine Machine.leads_within hbounds hregular hmlast (hlast.ends_of_ends p.ends)
      (fun m' hreach' hdeep => hlimit fun hroom => ?_) hwhole'
    have hroom' := hroom.depth m' (hreach.trans hreach')
    omega
  have hplace : last.place.within o = .between ⟨registry, p.length + o.shift + o.tail.length⟩ o.states
      (last.waiting.within o.shift o.waiting) o.tail := by
    rw [Machine.place_of_isDone hdone hbuffer hparts, hlast.setting, p.place_start]
    rfl
  rw [hplace] at hlead
  exact hlead

/-! ## How a part starts -/

/-- **`StartsWell c rest`** — how an expression starts: not with what would make a call without
arguments, a flattening, a filter, an index or a slice of a bracket in front of it, nor with a star
and a closing bracket. -/
structure StartsWell (c : Char) (rest : List Char) : Prop where
  blank : isBlank c = false
  digit : isAsciiDigit c = false
  closer : c ∉ [')', ']', '?', ':']
  minus : c = '-' → rest.head?.any isAsciiDigit = false
  star : c = '*' → rest.find? (!isBlank ·) ≠ some ']'

end Part

namespace Expr

open JsonQuery.Part (StartsWell)

/-- No operand starts with a digit. -/
theorem Reader.startOperand_digit (r : Reader) {c : Char} (hc : isAsciiDigit c) :
    r.startOperand (some c) = r.fail .syntaxError := by
  have hne : ∀ d, isAsciiDigit d = false → c ≠ d := by
    rintro d hd rfl
    rw [hc] at hd
    cases hd
  simp only [startOperand, hne '"' rfl, hne '\'' rfl, hne '\x60' rfl, hne '[' rfl, hne '{' rfl,
    hne '*' rfl, hne '@' rfl, hne '(' rfl, hne '!' rfl, hne '-' rfl, hne '&' rfl,
    Text.isIdentifierStart_of_isAsciiDigit hc, if_false, Bool.false_eq_true]

namespace Machine

variable {m : Machine} {setting : Setting} {waiting : Stacks} {below : List State}
  {c : Char} {rest : List Char} {e : Expr}

/-- Where an operand is expected and none starts, there is no result. -/
theorem not_ends_of_operand {cause : ParseError.Cause} (hblank : isBlank c = false)
    (hm : m.place = .between setting (.operand :: below) waiting (c :: rest))
    (hfail : m.startOperand (some c) = m.fail cause) : ¬ m.Ends (.ok e) := by
  have hstates : m.states = .operand :: below := congrArg Place.states hm
  have hplan : m.plan .operand = m.fail cause := (plan_of_place hblank hm).trans hfail
  exact not_ends_of_plan hstates (isDone_eq_false hstates (by decide)) hplan

theorem not_ends_of_minus {d : Char} (hd : isAsciiDigit d)
    (hm : m.place = .between setting (.operand :: below) waiting ('-' :: d :: rest)) :
    ¬ m.Ends (.ok e) := by
  have hlead : m.Leads True (.between setting (.operand :: below)
      (waiting.pushPrefix (.unary .minus)) (d :: rest)) :=
    leads_char hm rfl (by decide) (fun _ => rfl) (.inl rfl) rfl
  exact hlead.not_ends fun m' hm' =>
    not_ends_of_operand (Text.isBlank_of_isAsciiDigit hd) hm' (m'.startOperand_digit hd)

/-- A bracket that closes nothing. -/
theorem not_ends_of_bracket {blanks : List Char} (hblanks : ∀ c ∈ blanks, isBlank c)
    (hm : m.place = .between setting [.operand, .afterOperand, .finish] waiting
      ('*' :: blanks ++ ']' :: rest)) : ¬ m.Ends (.ok e) := by
  have hstar : m.Leads True (.between setting [.afterOperand, .finish]
      (waiting.pushOperand (projectAll .object .current) true 2) (blanks ++ ']' :: rest)) :=
    leads_char hm rfl (by decide) (fun _ => rfl) (.inl rfl) rfl
  have hafter : m.Leads True (.between setting [.afterOperand, .finish]
      (waiting.pushOperand (projectAll .object .current) true 2) (']' :: rest)) :=
    hstar.trans fun m' hm' => leads_blanks hm' rfl rfl hblanks rfl
  have hfinish : m.Leads True (.between setting [.finish]
      (waiting.pushOperand (projectAll .object .current) true 2) (']' :: rest)) :=
    hafter.trans fun m' hm' => leads_char hm' rfl (by decide) (fun _ => rfl) (.inl rfl) rfl
  refine hfinish.not_ends fun m' hm' => ?_
  have hrest : m'.cursor.rest = ']' :: rest := congrArg Place.rest hm'
  have hdone := isDone_of_rest (hrest ▸ List.cons_ne_nil _ _)
  exact not_ends_of_plan (congrArg Place.states hm') hdone (plan_of_place rfl hm')

end Machine

end Expr

namespace Part

variable {registry : Registry}

/-- **`p.exists_first`** — behind its blanks a part starts well. -/
theorem exists_first (p : Part registry) : ∃ blanks c rest, p.chars = blanks ++ c :: rest ∧
    (∀ b ∈ blanks, isBlank b) ∧ StartsWell c rest := by
  have hblanks : ∀ b ∈ p.chars.takeWhile isBlank, isBlank b := fun b hb => List.mem_takeWhile_imp hb
  have hchars : p.chars = p.chars.takeWhile isBlank ++ p.chars.dropWhile isBlank :=
    List.takeWhile_append_dropWhile.symm
  obtain ⟨m, hreach, hm⟩ := p.exists_reaches hchars hblanks
  have hends := hreach.ends_of_ends p.ends
  cases hrest : p.chars.dropWhile isBlank with
  | nil =>
      -- Nothing but blanks is no expression.
      rw [hrest] at hm
      have hcurrent : m.cursor.current = none := Machine.current_of_place hm
      have hstates : m.states = [.operand, .afterOperand, .finish] := congrArg Place.states hm
      have hfail : m.plan .operand = m.fail .unexpectedEndOfInput := by
        simp only [Reader.plan, hcurrent]
        rfl
      exact absurd hends
        (Machine.not_ends_of_plan hstates (Machine.isDone_eq_false hstates (by decide)) hfail)
  | cons c rest =>
      rw [hrest] at hm hchars
      have hblank : isBlank c = false := by
        have hhead := List.head?_dropWhile_not isBlank p.chars
        rw [hrest] at hhead
        simpa using hhead
      -- Whatever starts otherwise fails after a few moves.
      refine ⟨_, c, rest, hchars, hblanks, hblank, ?_, ?_, ?_, ?_⟩
      · rw [Bool.eq_false_iff]
        intro hdigit
        exact Machine.not_ends_of_operand hblank hm (m.startOperand_digit hdigit) hends
      · intro hc
        have hfail : m.startOperand (some c) = m.fail .syntaxError := by
          simp only [List.mem_cons, List.not_mem_nil, or_false] at hc
          rcases hc with rfl | rfl | rfl | rfl <;> rfl
        exact Machine.not_ends_of_operand hblank hm hfail hends
      · rintro rfl
        cases rest with
        | nil => rfl
        | cons d rest =>
            rw [List.head?_cons, Option.any_some, Bool.eq_false_iff]
            intro hdigit
            exact Machine.not_ends_of_minus hdigit hm hends
      · rintro rfl hfound
        obtain ⟨-, blanks, behind, rfl, hskipped⟩ := List.find?_eq_some_iff_append.mp hfound
        refine Machine.not_ends_of_bracket (fun b hb => ?_) hm hends
        simpa using hskipped b hb

end Part

end JsonQuery
