/-
# JsonQuery.Proofs.Expr.Turn — what a move of the parser can be.

`Reader.plan` decides on a move by looking at characters.  Most of what holds of every run does not
depend on the characters, only on which states come in place of the one on top, what happens to the
stacks and what is kept.  `Turn` is the table of these, and every planned move is in it.
-/
import JsonQuery.Expr.Parser

namespace JsonQuery

/-- Whether an operator stands before its only operand. -/
def Operator.isPrefix : Operator → Bool
  | .unary _ | .reference _ => true
  | .binary _ | .pipe => false

namespace Expr

open Text (isBlank isIdentifierStart isIdentifierPart isAsciiDigit)

namespace State

/-- States in which the characters of a text in quotes are read. -/
def isQuoting : State → Bool
  | .quoted | .raw | .jsonText => true
  | _ => false

/-- States inside an escape of a quoted name. -/
def isEscape : State → Bool
  | .escape | .escapeHex _ _ | .surrogateBackslash | .surrogateU => true
  | _ => false

/-- States in which a part of an index or a slice is expected. -/
def isSlicing : State → Bool
  | .indexOrStart | .sliceStop | .sliceStep => true
  | _ => false

/-- States in which the second character of an infix operator is read. -/
def isLookahead : State → Bool
  | .afterPipe | .afterAmpersand | .afterLess | .afterGreater | .afterEquals | .afterBang
  | .afterSlash => true
  | _ => false

/-- The closer that ends a group in a state. -/
def closer? : State → Option Closer
  | .parenEnd => some .paren
  | .listEnd => some .list
  | .hashValueEnd => some .hash
  | .filterEnd => some .filter
  | .firstArgument | .argumentEnd => some .call
  | _ => none

end State

open Reader (expressionThen pushField)

/-- **`Turn r s move`** — in state `s`, reading on with `r`, `move` is one of the moves that there
are. -/
inductive Turn (r : Reader) : State → Move → Prop where
  | blank {s : State} : s.skipsBlanks → Turn r s ⟨1, [s], .nothing, r.scratch⟩
  -- Operands.
  | quote : Turn r .operand ⟨1, [.quoted, .quotedRead false], .nothing, r.scratch⟩
  | rawQuote : Turn r .operand ⟨1, [.raw, .rawRead], .nothing, r.scratch⟩
  | backtick : Turn r .operand ⟨1, [.jsonText, .jsonRead], .nothing,
      { r.scratch with literalStart := r.cursor.position }⟩
  | bracket : Turn r .operand ⟨1, [.bracketOperand], .nothing, r.scratch⟩
  | star : Turn r .operand ⟨1, [], .leaf (projectAll .object .current) true, r.scratch⟩
  | current : Turn r .operand ⟨1, [], .token .current, r.scratch⟩
  | sign {op : Operator} : op.isPrefix →
      Turn r .operand ⟨1, [.operand], .token (.operator op), r.scratch⟩
  | name : Turn r .operand ⟨0, [.identifier, .identifierRead false], .nothing, r.scratch⟩
  | openHash : Turn r .operand ⟨1, [.hashKey], .token (.opening (.hash false)), r.scratch⟩
  | openParen : Turn r .operand
      ⟨1, expressionThen .parenEnd, .token (.opening .paren), r.scratch⟩
  -- What follows an operand.
  | endOperand : Turn r .afterOperand ⟨0, [], .nothing, r.scratch⟩
  | dot : Turn r .afterOperand ⟨1, [.afterDot, .afterOperand], .nothing, r.scratch⟩
  | stepBracket : Turn r .afterOperand ⟨1, [.bracketStep, .afterOperand], .nothing, r.scratch⟩
  | firstOfTwo {s : State} : s.isLookahead →
      Turn r .afterOperand ⟨1, [s, .afterOperand], .nothing, r.scratch⟩
  | shortOperator {op : Operator} : op.isPrefix = false →
      Turn r .afterOperand ⟨1, [.operand, .afterOperand], .token (.operator op), r.scratch⟩
  | longOperator {s : State} {width : Nat} {op : Operator} : s.isLookahead → width ≤ 1 →
      op.isPrefix = false → Turn r s ⟨width, [.operand], .token (.operator op), r.scratch⟩
  -- Steps after a dot.
  | dotName : Turn r .afterDot ⟨0, [.identifier, .identifierRead true], .nothing, r.scratch⟩
  | dotQuote : Turn r .afterDot ⟨1, [.quoted, .quotedRead true], .nothing, r.scratch⟩
  | dotStar : Turn r .afterDot ⟨1, [], .attach .values, r.scratch⟩
  | dotList : Turn r .afterDot
      ⟨1, expressionThen .listEnd, .token (.opening (.list true)), r.scratch⟩
  | dotHash : Turn r .afterDot ⟨1, [.hashKey], .token (.opening (.hash true)), r.scratch⟩
  -- Names and literals.
  | identifier {name : List Char} : name = r.cursor.rest.takeWhile isIdentifierPart →
      Turn r .identifier
        ⟨name.length, [], .nothing, { r.scratch with buffer := name.reverse ++ r.scratch.buffer }⟩
  | closeQuote {s : State} : s.isQuoting → Turn r s ⟨1, [], .nothing, r.scratch⟩
  | keep {s : State} {width : Nat} (c : Char) : s.isQuoting → 1 ≤ width →
      width ≤ r.cursor.rest.length → Turn r s ⟨width, [s], .nothing, r.scratch.keep c⟩
  | escape : Turn r .quoted ⟨1, [.escape, .quoted], .nothing, r.scratch⟩
  | rawEscape : Turn r .raw ⟨1, [.rawEscape, .raw], .nothing, r.scratch⟩
  | rawEscaped (s : Scratch) : s.parts = r.scratch.parts →
      Turn r .rawEscape ⟨1, [], .nothing, s⟩
  | hexDigit {s next : State} (kept : Scratch) : s.isEscape → next.isEscape →
      kept.buffer = r.scratch.buffer → kept.parts = r.scratch.parts →
      Turn r s ⟨1, [next], .nothing, kept⟩
  | escaped {s : State} (kept : Scratch) : s.isEscape → kept.parts = r.scratch.parts →
      Turn r s ⟨1, [], .nothing, kept⟩
  | call {chained : Bool} {function : Function} :
      r.registry.find? r.scratch.text = some function → Turn r (.identifierRead chained)
        ⟨1, [.firstArgument], .token (.opening (.call function chained)), r.scratch.clearText⟩
  | nameRead {chained : Bool} : Turn r (.identifierRead chained)
      ⟨0, [], pushField r.scratch.text chained, r.scratch.clearText⟩
  | quotedRead {chained : Bool} : Turn r (.quotedRead chained)
      ⟨0, [], pushField r.scratch.text chained, r.scratch.clearText⟩
  | rawRead : Turn r .rawRead
      ⟨0, [], .token (.literal (.string r.scratch.text)), r.scratch.clearText⟩
  | jsonRead {json : Json} : Json.parse? r.scratch.text = some json → Turn r .jsonRead
      ⟨0, [], .token (.literal json), r.scratch.clearText⟩
  -- Brackets.
  | stepStar : Turn r .bracketStep ⟨1, [.wildcardEnd], .nothing, r.scratch⟩
  | flatten : Turn r .bracketStep ⟨1, [], .flatten, r.scratch⟩
  | stepFilter : Turn r .bracketStep
      ⟨1, expressionThen .filterEnd, .token (.opening (.filter true)), r.scratch⟩
  | stepIndex : Turn r .bracketStep ⟨0, [.indexOrStart], .nothing, r.scratch⟩
  | operandStar : Turn r .bracketOperand ⟨1, [.wildcardEnd], .leaf .current false, r.scratch⟩
  | operandFlatten : Turn r .bracketOperand
      ⟨1, [], .leaf (projectAll .flatten .current) true, r.scratch⟩
  | operandFilter : Turn r .bracketOperand
      ⟨1, expressionThen .filterEnd, .token (.opening (.filter false)), r.scratch⟩
  | operandIndex : Turn r .bracketOperand ⟨0, [.indexOrStart], .leaf .current false, r.scratch⟩
  | openList : Turn r .bracketOperand
      ⟨0, expressionThen .listEnd, .token (.opening (.list false)), r.scratch⟩
  | wildcardEnd : Turn r .wildcardEnd ⟨1, [], .attach .items, r.scratch⟩
  | number {width : Nat} (parts : SliceParts) : 1 ≤ width → width ≤ r.cursor.rest.length →
      Turn r .number ⟨width, [], .nothing, { r.scratch with parts := parts }⟩
  | part {s : State} : s.isSlicing → Turn r s ⟨0, [.number, s], .nothing, r.scratch⟩
  | colon {s next : State} (parts : SliceParts) : s.isSlicing → next.isSlicing →
      Turn r s ⟨1, [next], .nothing, { r.scratch with parts := parts }⟩
  | sliceEnd {s : State} {step : Step} : s.isSlicing → r.sliceStep = .ok step →
      Turn r s ⟨1, [], .attach step, { r.scratch with parts := {} }⟩
  -- Groups.
  | separator {s : State} : s = .listEnd ∨ s = .argumentEnd →
      Turn r s ⟨1, expressionThen s, .token .separator, r.scratch⟩
  | nextEntry : Turn r .hashValueEnd ⟨1, [.hashKey], .token .separator, r.scratch⟩
  | close {s : State} {closer : Closer} : s.closer? = some closer →
      Turn r s ⟨1, [], .token (.closing closer), r.scratch⟩
  | keyQuote : Turn r .hashKey ⟨1, [.quoted, .hashKeyRead], .nothing, r.scratch⟩
  | keyName : Turn r .hashKey ⟨0, [.identifier, .hashKeyRead], .nothing, r.scratch⟩
  | key : Turn r .hashKeyRead
      ⟨0, [.hashColon], .token (.key r.scratch.text), r.scratch.clearText⟩
  | value : Turn r .hashColon ⟨1, expressionThen .hashValueEnd, .nothing, r.scratch⟩
  | firstArgument : Turn r .firstArgument
      ⟨0, expressionThen .argumentEnd, .nothing, r.scratch⟩

namespace Reader

theorem go_ok {r : Reader} {width : Nat} {next : List State} {action : Action} {move : Move}
    (h : r.go width next action = .ok move) : move = ⟨width, next, action, r.scratch⟩ :=
  (Except.ok.inj h).symm

theorem note_ok {scratch : Scratch} {width : Nat} {next : List State} {action : Action} {move : Move}
    (h : note scratch width next action = .ok move) : move = ⟨width, next, action, scratch⟩ :=
  (Except.ok.inj h).symm

theorem length_pos_of_current {r : Reader} {c : Char} (h : r.cursor.current = some c) :
    0 < r.cursor.rest.length :=
  List.length_pos_iff.mpr fun hnil => by simp [Text.Cursor.current, hnil] at h

theorem startOperand_turn {r : Reader} {ch : Option Char} {move : Move}
    (h : r.startOperand ch = .ok move) : Turn r .operand move := by
  -- A name and a character that starts nothing are the only cases not told by the character.
  fun_cases startOperand r ch with
  | case1 => cases h
  | case13 =>
      simp only [startOperand, *, if_true, if_false] at h
      rw [go_ok h]
      exact .name
  | case14 =>
      simp only [startOperand, *, if_false, Bool.false_eq_true] at h
      cases h
  | _ =>
      first | rw [go_ok h] | rw [note_ok h]
      constructor
      try rfl

theorem continueOperand_turn {r : Reader} {ch : Option Char} {move : Move}
    (h : r.continueOperand ch = .ok move) : Turn r .afterOperand move := by
  unfold continueOperand at h
  repeat' split at h
  all_goals first | rw [go_ok h] | cases h
  · exact .endOperand
  · rename_i state hstate
    unfold lookahead? at hstate
    split at hstate <;> cases hstate
    · exact .dot
    · exact .stepBracket
    all_goals exact .firstOfTwo rfl
  · exact .shortOperator rfl
  · exact .endOperand

theorem stepAfterDot_turn {r : Reader} {ch : Option Char} {move : Move}
    (h : r.stepAfterDot ch = .ok move) : Turn r .afterDot move := by
  unfold stepAfterDot at h
  repeat' split at h
  all_goals first | rw [go_ok h] | cases h
  all_goals constructor

theorem quotedText_turn {r : Reader} {quote : Char} {self escaped : State} {move : Move}
    (hself : self.isQuoting) (hescaped : Turn r self ⟨1, [escaped, self], .nothing, r.scratch⟩)
    (h : r.quotedText quote self escaped r.cursor.current = .ok move) : Turn r self move := by
  unfold quotedText at h
  split at h
  · cases h
  · rename_i c hcurrent
    repeat' split at h
    all_goals first | rw [go_ok h] | rw [note_ok h]
    · exact .closeQuote hself
    · exact hescaped
    · exact .keep _ hself (Nat.le_refl 1) (length_pos_of_current hcurrent)

theorem literalText_turn {r : Reader} {move : Move}
    (h : r.literalText r.cursor.current = .ok move) : Turn r .jsonText move := by
  unfold literalText at h
  split at h
  · cases h
  · rename_i c hcurrent
    repeat' split at h
    all_goals first | rw [go_ok h] | rw [note_ok h]
    · exact .closeQuote rfl
    · rename_i hpeek
      have hsecond : r.cursor.rest[1]? = some '\x60' :=
        eq_of_beq (Bool.and_eq_true_iff.mp hpeek).2
      exact .keep _ rfl (Nat.le_succ 1) (List.getElem?_eq_some_iff.mp hsecond).1
    · exact .keep _ rfl (Nat.le_refl 1) (length_pos_of_current hcurrent)

theorem rawEscaped_turn {r : Reader} {ch : Option Char} {move : Move}
    (h : r.rawEscaped ch = .ok move) : Turn r .rawEscape move := by
  unfold rawEscaped at h
  split at h
  · cases h
  · rw [note_ok h]
    refine .rawEscaped _ ?_
    split <;> rfl

theorem keepCodePoint_turn {r : Reader} {s : State} {scratch : Scratch} {n : Nat} {move : Move}
    (hs : s.isEscape) (hparts : scratch.parts = r.scratch.parts)
    (h : r.keepCodePoint scratch n = .ok move) : Turn r s move := by
  unfold keepCodePoint at h
  split at h
  · rw [note_ok h]
    exact .escaped _ hs hparts
  · cases h

theorem escaped_turn {r : Reader} {ch : Option Char} {move : Move}
    (h : r.escaped ch = .ok move) : Turn r .escape move := by
  unfold escaped at h
  repeat' split at h
  all_goals first | rw [note_ok h] | cases h
  · exact .hexDigit _ rfl rfl rfl rfl
  · exact .escaped _ rfl rfl

theorem escapeDigit_turn {r : Reader} {remaining : Nat} {low : Bool} {ch : Option Char} {move : Move}
    (h : r.escapeDigit remaining low ch = .ok move) : Turn r (.escapeHex remaining low) move := by
  cases ch with
  | none => cases h
  | some c =>
      simp only [escapeDigit] at h
      cases hdigit : Text.hexDigit? c with
      | none =>
          simp only [hdigit] at h
          cases h
      | some digit =>
          simp only [hdigit] at h
          -- The second escape of a pair ends it; the first may ask for a second.
          cases low <;> simp only [Bool.false_eq_true, if_false, if_true] at h
          · repeat' split at h
            · rw [note_ok h]
              exact .hexDigit _ rfl rfl rfl rfl
            · rw [note_ok h]
              exact .hexDigit _ rfl rfl rfl rfl
            · cases h
            · refine keepCodePoint_turn rfl ?_ h
              rfl
          · repeat' split at h
            · rw [note_ok h]
              exact .hexDigit _ rfl rfl rfl rfl
            · refine keepCodePoint_turn rfl ?_ h
              rfl
            · cases h

theorem surrogateNext_turn {r : Reader} {ch : Option Char} {expected : Char} {scratch : Scratch}
    {s next : State} {move : Move} (hs : s.isEscape) (hnext : next.isEscape)
    (hbuffer : scratch.buffer = r.scratch.buffer) (hparts : scratch.parts = r.scratch.parts)
    (h : r.surrogateNext ch expected scratch next = .ok move) : Turn r s move := by
  unfold surrogateNext at h
  repeat' split at h
  all_goals first | rw [note_ok h] | cases h
  exact .hexDigit _ hs hnext hbuffer hparts

theorem finishIdentifier_turn {r : Reader} {ch : Option Char} {chained : Bool} {move : Move}
    (h : r.finishIdentifier ch chained = .ok move) : Turn r (.identifierRead chained) move := by
  simp only [finishIdentifier] at h
  split at h
  · cases hfind : r.registry.find? r.scratch.text with
    | none =>
        rw [hfind] at h
        cases h
    | some function =>
        rw [hfind] at h
        rw [note_ok h]
        exact .call hfind
  · rw [note_ok h]
    exact .nameRead

theorem finishLiteral_turn {r : Reader} {move : Move} (h : r.finishLiteral = .ok move) :
    Turn r .jsonRead move := by
  unfold finishLiteral at h
  split at h
  next => cases h
  next hparse =>
    rw [note_ok h]
    exact .jsonRead hparse

theorem bracketStep_turn {r : Reader} {ch : Option Char} {move : Move}
    (h : r.bracketStep ch = .ok move) : Turn r .bracketStep move := by
  unfold bracketStep at h
  repeat' split at h
  all_goals first | rw [go_ok h] | cases h
  · exact .stepStar
  · exact .flatten
  · exact .stepFilter
  · exact .stepIndex

theorem bracketOperand_turn {r : Reader} {ch : Option Char} {move : Move}
    (h : r.bracketOperand ch = .ok move) : Turn r .bracketOperand move := by
  unfold bracketOperand at h
  repeat' split at h
  all_goals first | rw [go_ok h] | cases h
  all_goals constructor

theorem wildcardEnd_turn {r : Reader} {ch : Option Char} {move : Move}
    (h : r.wildcardEnd ch = .ok move) : Turn r .wildcardEnd move := by
  unfold wildcardEnd at h
  repeat' split at h
  all_goals first | rw [go_ok h] | cases h
  all_goals constructor

theorem readNumber_turn {r : Reader} {move : Move} (h : r.readNumber = .ok move) :
    Turn r .number move := by
  simp only [readNumber] at h
  generalize (if (r.cursor.current == some '-') = true then 1 else 0) = sign at h
  generalize hdigits : (r.cursor.rest.drop sign).takeWhile isAsciiDigit = digits at h
  -- The digits are there to be read, and so is the sign.
  have hlength : digits.length ≤ r.cursor.rest.length - sign := by
    rw [← hdigits, ← List.length_drop]
    exact (List.takeWhile_prefix _).length_le
  cases digits with
  | nil => cases h
  | cons d ds =>
      simp only [List.isEmpty_cons, Bool.false_eq_true, if_false] at h
      simp only [List.length_cons] at hlength h
      split at h
      · split at h
        · rw [note_ok h]
          exact .number _ (by omega) (by omega)
        · cases h
      · split at h
        · rw [note_ok h]
          exact .number _ (by omega) (by omega)
        · cases h

theorem indexOrSlice_turn {r : Reader} {s : State} {ch : Option Char} {move : Move}
    (hs : s.isSlicing) (h : r.indexOrSlice s ch = .ok move) : Turn r s move := by
  unfold indexOrSlice at h
  repeat' split at h
  · cases h
  · rw [go_ok h]
    exact .part hs
  · rw [note_ok h]
    refine .colon _ hs ?_
    split <;> rfl
  · cases hstep : r.sliceStep with
    | error e =>
        rw [hstep] at h
        cases h
    | ok step =>
        rw [hstep] at h
        rw [note_ok h]
        exact .sliceEnd hs hstep
  · cases h

theorem closeWith_turn {r : Reader} {s : State} {ch : Option Char} {expected : Char}
    {closer : Closer} {cause : ParseError.Cause} {move : Move} (hs : s.closer? = some closer)
    (h : r.closeWith ch expected closer cause = .ok move) : Turn r s move := by
  unfold closeWith at h
  repeat' split at h
  all_goals first | rw [go_ok h] | cases h
  exact .close hs

theorem hashKey_turn {r : Reader} {ch : Option Char} {move : Move}
    (h : r.hashKey ch = .ok move) : Turn r .hashKey move := by
  unfold hashKey at h
  repeat' split at h
  all_goals first | rw [go_ok h] | cases h
  all_goals constructor

theorem hashColon_turn {r : Reader} {ch : Option Char} {move : Move}
    (h : r.hashColon ch = .ok move) : Turn r .hashColon move := by
  unfold hashColon at h
  repeat' split at h
  all_goals first | rw [go_ok h] | cases h
  all_goals constructor

theorem infixOperator_turn {r : Reader} {s : State} {width : Nat} {op : Operator} {move : Move}
    (hs : s.isLookahead) (hwidth : width ≤ 1) (hop : op.isPrefix = false)
    (h : r.infixOperator width op = .ok move) : Turn r s move := by
  rw [go_ok h]
  exact .longOperator hs hwidth hop

theorem comparison_turn {r : Reader} {s : State} {ch : Option Char} {withEquals : BinaryOperator}
    {alone : Option BinaryOperator} {move : Move} (hs : s.isLookahead)
    (h : r.comparison ch withEquals alone = .ok move) : Turn r s move := by
  unfold comparison at h
  repeat' split at h
  · exact infixOperator_turn hs (Nat.le_refl 1) rfl h
  · exact infixOperator_turn hs (Nat.zero_le 1) rfl h
  · cases h

theorem secondAmpersand_turn {r : Reader} {ch : Option Char} {move : Move}
    (h : r.secondAmpersand ch = .ok move) : Turn r .afterAmpersand move := by
  unfold secondAmpersand at h
  repeat' split at h
  · cases h
  · exact infixOperator_turn rfl (Nat.le_refl 1) rfl h
  · cases h

/-- **`plan_turn`** — every planned move is in the table. -/
theorem plan_turn {r : Reader} {s : State} {move : Move} (h : r.plan s = .ok move) :
    Turn r s move := by
  unfold plan at h
  simp only at h
  split at h
  · rename_i hblank
    rw [go_ok h]
    exact .blank (Bool.and_eq_true_iff.mp hblank).1
  cases s with
  | finish => cases h
  | operand => exact startOperand_turn h
  | afterOperand => exact continueOperand_turn h
  | afterDot => exact stepAfterDot_turn h
  | identifier =>
      rw [note_ok h]
      exact .identifier rfl
  | quoted => exact quotedText_turn rfl .escape h
  | raw => exact quotedText_turn rfl .rawEscape h
  | rawEscape => exact rawEscaped_turn h
  | jsonText => exact literalText_turn h
  | escape => exact escaped_turn h
  | escapeHex remaining low => exact escapeDigit_turn h
  | surrogateBackslash => refine surrogateNext_turn rfl ?_ ?_ ?_ h <;> rfl
  | surrogateU => refine surrogateNext_turn rfl ?_ ?_ ?_ h <;> rfl
  | identifierRead chained => exact finishIdentifier_turn h
  | quotedRead chained =>
      rw [note_ok h]
      exact .quotedRead
  | rawRead =>
      rw [note_ok h]
      exact .rawRead
  | jsonRead => exact finishLiteral_turn h
  | bracketStep => exact bracketStep_turn h
  | bracketOperand => exact bracketOperand_turn h
  | wildcardEnd => exact wildcardEnd_turn h
  | number => exact readNumber_turn h
  | indexOrStart => exact indexOrSlice_turn rfl h
  | sliceStop => exact indexOrSlice_turn rfl h
  | sliceStep => exact indexOrSlice_turn rfl h
  | filterEnd => exact closeWith_turn rfl h
  | listEnd =>
      simp only [planAt] at h
      split at h
      · rw [go_ok h]
        exact .separator (.inl rfl)
      · exact closeWith_turn rfl h
  | hashKey => exact hashKey_turn h
  | hashKeyRead =>
      rw [note_ok h]
      exact .key
  | hashColon => exact hashColon_turn h
  | hashValueEnd =>
      simp only [planAt] at h
      split at h
      · rw [go_ok h]
        exact .nextEntry
      · exact closeWith_turn rfl h
  | parenEnd => exact closeWith_turn rfl h
  | firstArgument =>
      simp only [planAt] at h
      split at h
      · exact closeWith_turn rfl h
      · rw [go_ok h]
        exact .firstArgument
  | argumentEnd =>
      simp only [planAt] at h
      split at h
      · rw [go_ok h]
        exact .separator (.inr rfl)
      · exact closeWith_turn rfl h
  | afterPipe =>
      simp only [planAt] at h
      split at h
      · exact infixOperator_turn rfl (Nat.le_refl 1) rfl h
      · exact infixOperator_turn rfl (Nat.zero_le 1) rfl h
  | afterAmpersand => exact secondAmpersand_turn h
  | afterLess | afterGreater | afterEquals | afterBang =>
      simp only [planAt] at h
      exact comparison_turn rfl h
  | afterSlash =>
      simp only [planAt] at h
      split at h
      · exact infixOperator_turn rfl (Nat.le_refl 1) rfl h
      · exact infixOperator_turn rfl (Nat.zero_le 1) rfl h

end Reader

end Expr

end JsonQuery
