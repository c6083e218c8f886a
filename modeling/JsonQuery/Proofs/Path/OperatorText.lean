/-
# JsonQuery.Proofs.Path.OperatorText — operator expressions in both languages.

The same tokens are written for both languages: as an expression, with names as operands, and as the
filter of a path, with names as members of the current value.  The two parsers share no code but the
table of precedences.  If both accept their text, they build the same operators at the same places.

The reader of filters is followed token by token along the yard, to which the parser of expressions
has been compared already.  It goes by characters, so that of a minus it is not asked whether the
token was meant as a sign or as an operator; the yard may be fed the other token of the same text.
-/
import JsonQuery.Proofs.Expr.OperatorText
import JsonQuery.Proofs.Path.Grammar
import JsonQuery.Proofs.Path.Negated
import JsonQuery.Proofs.Path.OperatorStacks

namespace JsonQuery

/-! ## Spelling -/

/-- The text of a token in a filter, where a name is a member of the current value. -/
def OperatorToken.filterText : OperatorToken Identifier → String
  | .operand name => "@." ++ name.text
  | token => token.text

/-- Tokens with a blank between them, as the filter of the children of the root. -/
def spellFilter (tokens : List (OperatorToken Identifier)) : String :=
  "$[?" ++ " ".intercalate (tokens.map OperatorToken.filterText) ++ "]"

theorem Identifier.first_ne (name : Identifier) {c : Char} (h : Text.isIdentifierStart c = false) :
    name.first ≠ c := by
  rintro rfl
  exact absurd name.starts (Bool.eq_false_iff.mp h)

namespace Path

open Text (isBlank)

/-- What stands behind a token of a filter. -/
def behind : List (OperatorToken Identifier) → List Char
  | [] => [']']
  | token :: tokens => ' ' :: (token.filterText.toList ++ behind tokens)

/-- What stands from a token of a filter on. -/
def front : List (OperatorToken Identifier) → List Char
  | [] => [']']
  | token :: tokens => token.filterText.toList ++ behind tokens

theorem toList_intercalate (tokens : List (OperatorToken Identifier)) :
    (" ".intercalate (tokens.map OperatorToken.filterText)).toList ++ [']'] = front tokens := by
  induction tokens with
  | nil => rfl
  | cons token tokens ih =>
      cases tokens with
      | nil => rfl
      | cons token' tokens =>
          rw [List.map_cons, List.map_cons, String.intercalate_cons_cons, ← List.map_cons,
            String.toList_append, String.toList_append, List.append_assoc, ih, List.append_assoc]
          rfl

theorem toList_spellFilter (tokens : List (OperatorToken Identifier)) :
    (spellFilter tokens).toList = '$' :: '[' :: '?' :: front tokens := by
  rw [spellFilter, String.toList_append, String.toList_append, List.append_assoc]
  exact congrArg (['$', '[', '?'] ++ ·) (toList_intercalate tokens)

theorem toList_filterText_operand (name : Identifier) :
    (OperatorToken.operand name).filterText.toList = '@' :: '.' :: name.chars := by
  rw [OperatorToken.filterText, String.toList_append, Identifier.text]
  exact congrArg (['@', '.'] ++ ·) String.toList_ofList

theorem head_filterText (token : OperatorToken Identifier) :
    ∃ c cs, token.filterText.toList = c :: cs ∧ isBlank c = false := by
  cases token with
  | operand name => exact ⟨'@', '.' :: name.chars, toList_filterText_operand name, rfl⟩
  | sign | opening | closing | joint =>
      obtain ⟨c, cs, htext, hblank, -⟩ := OperatorToken.head_text _
      exact ⟨c, cs, htext, hblank⟩

theorem dropWhile_front (tokens : List (OperatorToken Identifier)) :
    (front tokens).dropWhile isBlank = front tokens := by
  cases tokens with
  | nil => rfl
  | cons token tokens =>
      obtain ⟨c, cs, htext, hblank⟩ := head_filterText token
      rw [front, htext, List.cons_append, List.dropWhile_cons, hblank]
      rfl

theorem dropWhile_behind (tokens : List (OperatorToken Identifier)) :
    (behind tokens).dropWhile isBlank = front tokens := by
  cases tokens with
  | nil => rfl
  | cons token tokens => exact dropWhile_front (token :: tokens)

/-- Behind a token stands a blank or the closing bracket. -/
theorem head_behind (tokens : List (OperatorToken Identifier)) :
    (behind tokens).head? = some ' ' ∨ (behind tokens).head? = some ']' := by
  cases tokens with
  | nil => exact .inr rfl
  | cons token tokens => exact .inl rfl

namespace Reader

variable {g : Registry} {text rest : List Char} {fuel : Nat} {s : Stacks}

/-! ## Operands -/

theorem isNameStart_of_isIdentifierStart {c : Char} (h : Text.isIdentifierStart c) :
    isNameStart c = true := by
  rw [isNameStart, Bool.or_eq_true, decide_eq_true_eq]
  rcases Bool.or_eq_true_iff.mp h with hletter | hline
  · exact .inl (Text.isAlphabetic_of_isAsciiLetter hletter)
  · exact .inr (beq_iff_eq.mp hline)

theorem isNamePart_of_isIdentifierPart {c : Char} (h : Text.isIdentifierPart c) :
    isNamePart c = true := by
  rw [isNamePart, Text.isAlphanumeric, Bool.or_right_comm, Bool.or_eq_true]
  rcases Bool.or_eq_true_iff.mp h with hstart | hdigit
  · exact .inl (isNameStart_of_isIdentifierStart hstart)
  · exact .inr (Text.isNumeric_of_isAsciiDigit hdigit)

/-- A name is read up to what stands behind its token. -/
theorem reads_memberStep (name : Identifier) (tokens : List (OperatorToken Identifier))
    (depth roots : Nat) : Reads memberStep g ⟨name.chars ++ behind tokens, depth, roots⟩
      (.name name.text) ⟨behind tokens, depth, roots⟩ := by
  have hparts : name.chars.all isNamePart = true := by
    refine List.all_eq_true.mpr (List.forall_mem_cons.mpr ⟨?_, fun c hc => ?_⟩)
    · exact isNamePart_of_isIdentifierPart (Text.isIdentifierPart_of_isIdentifierStart name.starts)
    · exact isNamePart_of_isIdentifierPart (name.continues c hc)
  have hbehind : (behind tokens).head?.any isNamePart = false := by
    rcases head_behind tokens with h | h <;> rw [h] <;> decide
  unfold memberStep
  refine Reads.demand.bind (.ite_neg (name.first_ne rfl) (.ite_pos ?_ ?_))
  · exact isNameStart_of_isIdentifierStart name.starts
  · exact (Reads.readWhile hparts hbehind).bind (.pure _)

/-- Behind the sign of the current value, the member that a token names. -/
theorem takes_pathSteps_member (outer : Nat) (name : Identifier)
    (tokens : List (OperatorToken Identifier)) :
    Takes (pathSteps fuel outer [.current]) g ('.' :: (name.chars ++ behind tokens))
      fun steps rest => steps = [.current, .name name.text] ∧ rest = behind tokens := by
  cases fuel with
  | zero => exact .fail
  | succ fuel =>
      have hdot : some name.first ≠ some '.' := fun h => name.first_ne rfl (Option.some.inj h)
      have hend : (behind tokens).head?.any startsStep = false := by
        rcases head_behind tokens with h | h <;> rw [h] <;> rfl
      unfold pathSteps
      refine .setDepth_bind (.current_bind (Takes.advance.go fun _ => .current_bind ?_))
      refine .ite_neg hdot ((Takes.of_reads (reads_memberStep name tokens)).bind ?_)
      rintro _ _ ⟨rfl, rfl⟩
      exact takes_pathSteps_end outer _ hend

theorem takes_path_member (name : Identifier) (tokens : List (OperatorToken Identifier)) :
    Takes (path fuel) g ('@' :: '.' :: (name.chars ++ behind tokens)) fun steps rest =>
      steps = [.current, .name name.text] ∧ rest = behind tokens := by
  cases fuel with
  | zero => exact .fail
  | succ fuel =>
      unfold path
      refine (Takes.of_reads fun _ _ => reads_currentSign).bind ?_
      rintro _ _ ⟨rfl, rfl⟩
      refine .get_bind fun _ _ => (takes_pathSteps_member _ name tokens).bind ?_
      rintro _ _ ⟨rfl, rfl⟩
      exact (Takes.setDepth _).go fun _ => .pure ⟨rfl, rfl⟩

/-- The operand that a name is. -/
theorem takes_operand (name : Identifier) (tokens : List (OperatorToken Identifier)) :
    Takes (operand fuel) g ('@' :: '.' :: (name.chars ++ behind tokens)) fun f rest =>
      f = .path [.current, .name name.text] ∧ rest = behind tokens := by
  cases fuel with
  | zero => exact .fail
  | succ fuel =>
      unfold operand
      refine .demand_bind (.ite_pos rfl (Takes.enter.go fun _ => ?_))
      refine (takes_path_member name tokens).bind ?_
      rintro _ _ ⟨rfl, rfl⟩
      exact Takes.leave.go fun _ => .pure ⟨rfl, rfl⟩

/-! ## Infix operators -/

theorem takes_binaryOperator {c : Char} : Takes binaryOperator g (c :: rest) fun op rest' =>
    ∃ width, operatorOf c rest.head? = .ok (op, width) ∧ rest' = (c :: rest).drop width := by
  unfold binaryOperator
  refine .demand_bind (.next_bind ?_)
  rw [List.getElem?_cons_succ, ← List.head?_eq_getElem?]
  cases hop : operatorOf c rest.head? with
  | error cause => exact .fail
  | ok found =>
      obtain ⟨op, width⟩ := found
      have hadvance : ∀ r : Reading, r.cursor.rest = c :: rest →
          { r with cursor := r.cursor.advanceBy width : Reading }.cursor.rest =
            (c :: rest).drop width := fun r hr => by rw [Text.Cursor.advanceBy_rest, hr]
      exact (Takes.modify hadvance).go fun _ => .pure ⟨width, rfl, rfl⟩

/-- The symbol of an operator is recognized where its token ends behind it. -/
theorem operatorOf_symbol (op : BinaryOperator) (tokens : List (OperatorToken Identifier)) :
    ∃ c cs width, op.symbol.toList = c :: cs ∧ c ∉ [')', ']', ','] ∧
      (cs ++ behind tokens).head? ≠ some '~' ∧
      operatorOf c (cs ++ behind tokens).head? = .ok (op, width) ∧
      (c :: (cs ++ behind tokens)).drop width = behind tokens := by
  cases tokens <;> cases op <;>
    exact ⟨_, _, _, rfl, by decide, fun h => absurd (Option.some.inj h) (by decide), rfl, rfl⟩

/-- Behind an operand an infix operator comes next, if neither the filter nor a parenthesis ends. -/
theorem takes_afterOperand_infix {c : Char} {Q : Filter → List Char → Prop}
    (htext : text.dropWhile isBlank = c :: rest) (hc : c ∉ [')', ']', ','])
    (hpattern : rest.head? ≠ some '~')
    (h : ∀ op width, operatorOf c rest.head? = .ok (op, width) →
      Takes (pushBinary op s >>= operandPosition fuel) g ((c :: rest).drop width) Q) :
    Takes (afterOperand (fuel + 1) s) g text Q := by
  simp only [List.mem_cons, List.not_mem_nil, or_false, not_or] at hc
  obtain ⟨hparen, hbracket, hcomma⟩ := hc
  unfold afterOperand
  refine Takes.skipBlanks.go fun _ => ?_
  rw [htext]
  refine .current_bind (.ite_neg (by simp [hparen]) (.next_bind (.ite_neg ?_ (.ite_neg ?_ ?_))))
  · rw [List.getElem?_cons_succ, ← List.head?_eq_getElem?]
    simp [hpattern]
  · simp [hparen, hbracket, hcomma]
  · refine takes_binaryOperator.bind ?_
    rintro op _ ⟨width, hop, rfl⟩
    exact h op width hop

/-- Tokens that start an operand are not read behind one, and the pipe is not read at all. -/
theorem takes_afterOperand_stray {c : Char} {tokens : List (OperatorToken Identifier)}
    {Q : Filter → List Char → Prop} (htext : text.dropWhile isBlank = c :: behind tokens)
    (hc : c ∈ ['!', '(', '|']) : Takes (afterOperand fuel s) g text Q := by
  simp only [List.mem_cons, List.not_mem_nil, or_false] at hc
  have hclosing : c ∉ [')', ']', ','] := by rcases hc with rfl | rfl | rfl <;> decide
  have hpattern : (behind tokens).head? ≠ some '~' := by
    rcases head_behind tokens with h | h <;> rw [h] <;> nofun
  have hop : ∀ found, operatorOf c (behind tokens).head? ≠ .ok found := by
    rcases hc with rfl | rfl | rfl <;> rcases head_behind tokens with h | h <;> rw [h] <;> nofun
  cases fuel with
  | zero => exact .fail
  | succ fuel =>
      exact takes_afterOperand_infix htext hclosing hpattern
        fun op width h => absurd h (hop (op, width))

/-! ## Where no operand starts -/

/-- Characters that are found where an operand is missing. -/
def strays : List Char := [')', ']', '|', '&', '=', '<', '>', '+', '*', '/', '%']

theorem strays_spec {c : Char} (hc : c ∈ strays) : c ≠ '!' ∧ c ≠ '(' ∧ c ≠ '@' ∧ c ≠ '$' ∧
    c ≠ '\'' ∧ c ≠ '"' ∧ c ≠ '-' ∧ Text.isAsciiDigit c = false ∧ isNameStart c = false := by
  simp only [strays, List.mem_cons, List.not_mem_nil, or_false] at hc
  rcases hc with rfl | rfl | rfl | rfl | rfl | rfl | rfl | rfl | rfl | rfl | rfl <;> decide

theorem takes_operandPosition_stray {c : Char} {Q : Filter → List Char → Prop} (hc : c ∈ strays)
    (htext : text.dropWhile isBlank = c :: rest) : Takes (operandPosition fuel s) g text Q := by
  obtain ⟨hnot, hparen, hcurrent, hroot, hsingle, hdouble, hminus, hdigit, hname⟩ :=
    strays_spec hc
  cases fuel with
  | zero => exact .fail
  | succ fuel =>
      unfold operandPosition
      refine Takes.skipBlanks.go fun _ => ?_
      rw [htext]
      refine .current_bind ?_
      split
      next h => exact absurd (Option.some.inj h) hnot
      next h => exact absurd (Option.some.inj h) hparen
      next =>
        refine .next_bind (.ite_neg (by simp [hminus]) ?_)
        cases fuel with
        | zero => exact .fail_bind
        | succ fuel =>
            unfold operand
            refine Takes.bind (P := fun _ _ => False) ?_ fun _ _ h => h.elim
            refine .demand_bind (.ite_neg ?_ (.ite_neg ?_ (.ite_neg ?_ (.ite_neg ?_ .fail))))
            · simp [hcurrent, hroot]
            · simp [hsingle, hdouble]
            · simp [hminus, hdigit]
            · simp [hname]

/-- The first character of `!=` is a sign, but what is left of it starts no operand. -/
theorem takes_operandPosition_notEqual {Q : Filter → List Char → Prop}
    (htext : text.dropWhile isBlank = '!' :: '=' :: rest) :
    Takes (operandPosition fuel s) g text Q := by
  cases fuel with
  | zero => exact .fail
  | succ fuel =>
      have hstray : '=' ∈ strays := by decide
      unfold operandPosition
      refine Takes.skipBlanks.go fun _ => ?_
      rw [htext]
      exact .current_bind (Takes.advance.go fun _ => takes_operandPosition_stray hstray rfl)

/-! ## Along the yard -/

/-- **`Finds y tokens f rest`** — a filter that has been read from where the yard stands at `y`: it
has stopped at a parenthesis that does not belong to it, or it is like what the yard comes to from
tokens of the same texts. -/
def Finds (y : Yard Identifier) (tokens : List (OperatorToken Identifier)) (f : Filter)
    (rest : List Char) : Prop :=
  rest.head? = some ')' ∨ rest = [']'] ∧ ∃ tokens' frames t t',
    tokens'.map OperatorToken.text = tokens.map OperatorToken.text ∧
      y.feedAll tokens' = some (.holding frames t') ∧
      applyWhile (fun _ => true) frames t' = ([], t) ∧ Alike t.toExpr f

theorem Finds.cons {y y' : Yard Identifier} {token token' : OperatorToken Identifier}
    {tokens : List (OperatorToken Identifier)} {f : Filter} (hfeed : y.feed token' = some y')
    (htext : token'.text = token.text) (h : Finds y' tokens f rest) :
    Finds y (token :: tokens) f rest := by
  rcases h with hparen | ⟨hrest, tokens', frames, t, t', htexts, hfeedAll, happly, hlike⟩
  · exact .inl hparen
  · refine .inr ⟨hrest, token' :: tokens', frames, t, t', ?_, ?_, happly, hlike⟩
    · rw [List.map_cons, List.map_cons, htext, htexts]
    · rw [Yard.feedAll_cons, hfeed, Option.bind_some, hfeedAll]

/-- **`Tracks g tokens`** — reading a filter through these tokens stays alike to the yard. -/
structure Tracks (g : Registry) (tokens : List (OperatorToken Identifier)) : Prop where
  operandPosition : ∀ {fuel : Nat} {frames : List (Frame Identifier)} {s : Stacks}
    {text : List Char}, Stands (.expecting frames) s → text.dropWhile isBlank = front tokens →
      Takes (operandPosition fuel s) g text (Finds (.expecting frames) tokens)
  afterOperand : ∀ {fuel : Nat} {frames : List (Frame Identifier)} {t : OperatorTree Identifier}
    {s : Stacks}, Stands (.holding frames t) s →
      Takes (afterOperand fuel s) g (behind tokens) (Finds (.holding frames t) tokens)

theorem tracks_nil : Tracks g [] where
  operandPosition _ htext := takes_operandPosition_stray (by decide) htext
  afterOperand {fuel frames t s} hs := by
    cases fuel with
    | zero => exact .fail
    | succ fuel =>
        unfold Reader.afterOperand
        refine Takes.skipBlanks.go fun _ => ?_
        rw [dropWhile_behind]
        refine .current_bind (.ite_neg (by simp) (.next_bind (.ite_neg (by simp) ?_)))
        refine .ite_pos rfl ((takes_finish hs).imp ?_)
        rintro f _ ⟨rfl, t', happly, hlike⟩
        exact .inr ⟨rfl, [], frames, t', t, rfl, rfl, happly, hlike⟩

namespace Tracks

variable {tokens : List (OperatorToken Identifier)} {frames : List (Frame Identifier)}
  {t : OperatorTree Identifier}

/-- A sign, whichever token its text was meant as. -/
theorem operandPosition_sign (h : Tracks g tokens) {op : UnaryOperator}
    {token : OperatorToken Identifier} (hsign : token.text = (OperatorToken.sign op).text)
    (hs : Stands (.expecting frames) s)
    (htext : text.dropWhile isBlank = (OperatorToken.sign op).text.toList ++ behind tokens) :
    Takes (Reader.operandPosition fuel s) g text (Finds (.expecting frames) (token :: tokens)) := by
  cases fuel with
  | zero => exact .fail
  | succ fuel =>
      -- The yard is fed the sign, which is all that the reader of filters knows of.
      have hrest : Takes (Reader.operandPosition fuel { s with pending := .unary op :: s.pending })
          g (behind tokens) (Finds (.expecting frames) (token :: tokens)) :=
        (h.operandPosition (.sign op hs) (dropWhile_behind tokens)).imp
          fun f rest hf => hf.cons rfl hsign.symm
      unfold Reader.operandPosition
      refine Takes.skipBlanks.go fun _ => ?_
      rw [htext]
      cases op with
      | not => exact .current_bind (Takes.advance.go fun _ => hrest)
      | minus =>
          have hdigit : (behind tokens).head?.any Text.isAsciiDigit = false := by
            rcases head_behind tokens with hhead | hhead <;> rw [hhead] <;> rfl
          refine .current_bind (.next_bind (.ite_pos ?_ (Takes.advance.go fun _ => hrest)))
          show (decide _ && !(behind tokens)[0]?.any Text.isAsciiDigit) = true
          rw [← List.head?_eq_getElem?, hdigit]
          rfl

theorem operandPosition_opening (h : Tracks g tokens) (hs : Stands (.expecting frames) s)
    (htext : text.dropWhile isBlank = '(' :: behind tokens) :
    Takes (Reader.operandPosition fuel s) g text
      (Finds (.expecting frames) (.opening :: tokens)) := by
  cases fuel with
  | zero => exact .fail
  | succ fuel =>
      unfold Reader.operandPosition
      refine Takes.skipBlanks.go fun _ => ?_
      rw [htext]
      refine .current_bind (Takes.advance.go fun _ => Takes.enter.go fun _ => ?_)
      exact (h.operandPosition (.group hs) (dropWhile_behind tokens)).imp
        fun f rest hf => hf.cons rfl rfl

theorem operandPosition_operand (h : Tracks g tokens) (name : Identifier)
    (hs : Stands (.expecting frames) s)
    (htext : text.dropWhile isBlank = front (.operand name :: tokens)) :
    Takes (Reader.operandPosition fuel s) g text
      (Finds (.expecting frames) (.operand name :: tokens)) := by
  cases fuel with
  | zero => exact .fail
  | succ fuel =>
      unfold Reader.operandPosition
      refine Takes.skipBlanks.go fun _ => ?_
      rw [htext, front, toList_filterText_operand]
      refine .current_bind (.next_bind (.ite_neg (by simp) ((takes_operand name tokens).bind ?_)))
      rintro _ _ ⟨rfl, rfl⟩
      have hlike : Alike (OperatorTree.operand name).toExpr (.path [.current, .name name.text]) :=
        .operand name.text
      exact (h.afterOperand (.operand 1 hs hlike)).imp fun f rest hf => hf.cons rfl rfl

theorem operandPosition_cons (h : Tracks g tokens) (token : OperatorToken Identifier)
    (hs : Stands (.expecting frames) s) (htext : text.dropWhile isBlank = front (token :: tokens)) :
    Takes (Reader.operandPosition fuel s) g text (Finds (.expecting frames) (token :: tokens)) := by
  cases token with
  | sign op => exact h.operandPosition_sign rfl hs htext
  | closing => exact takes_operandPosition_stray (by decide) htext
  | opening => exact h.operandPosition_opening hs htext
  | operand name => exact h.operandPosition_operand name hs htext
  | joint j =>
      cases j with
      | pipe => exact takes_operandPosition_stray (by decide) htext
      | binary op =>
          cases op with
          | subtract =>
              have hminus : (OperatorToken.joint (.binary .subtract)).text =
                  (OperatorToken.sign .minus).text := rfl
              exact h.operandPosition_sign hminus hs htext
          | notEqual => exact takes_operandPosition_notEqual htext
          | or | and | equal | lessThan | lessEqual | greaterThan | greaterEqual | add | multiply
          | divide | modulo | integerDivide =>
              exact takes_operandPosition_stray (by decide) htext

/-- An infix operator, whichever token its text was meant as. -/
theorem afterOperand_infix (h : Tracks g tokens) {op : BinaryOperator}
    {token : OperatorToken Identifier} (hfilter : token.filterText = op.symbol)
    (hsymbol : token.text = op.symbol) (hs : Stands (.holding frames t) s) :
    Takes (Reader.afterOperand fuel s) g (behind (token :: tokens))
      (Finds (.holding frames t) (token :: tokens)) := by
  cases fuel with
  | zero => exact .fail
  | succ fuel =>
      obtain ⟨c, cs, width, hchars, hc, hpattern, hop, hdrop⟩ := operatorOf_symbol op tokens
      have htext : (behind (token :: tokens)).dropWhile isBlank = c :: (cs ++ behind tokens) := by
        rw [dropWhile_behind, front, hfilter, hchars, List.cons_append]
      refine takes_afterOperand_infix htext hc hpattern fun op' width' hop' => ?_
      obtain ⟨rfl, rfl⟩ := Prod.mk.inj (Except.ok.inj (hop.symm.trans hop'))
      rw [hdrop]
      refine (takes_pushBinary op hs).bind ?_
      rintro s' _ ⟨rfl, frames', hfeed, hs'⟩
      exact (h.operandPosition hs' (dropWhile_behind tokens)).imp
        fun f rest hf => hf.cons hfeed hsymbol.symm

theorem afterOperand_closing (h : Tracks g tokens) (hs : Stands (.holding frames t) s) :
    Takes (Reader.afterOperand fuel s) g (behind (.closing :: tokens))
      (Finds (.holding frames t) (.closing :: tokens)) := by
  cases fuel with
  | zero => exact .fail
  | succ fuel =>
      have htext : (behind (.closing :: tokens)).dropWhile isBlank = ')' :: behind tokens :=
        dropWhile_behind (.closing :: tokens)
      unfold Reader.afterOperand
      refine Takes.skipBlanks.go fun _ => ?_
      rw [htext]
      refine .current_bind (.ite (fun hopen => ?_) fun _ => ?_)
      · refine Takes.advance.go fun _ => (takes_closeParen hs (by simpa using hopen)).bind ?_
        rintro s' _ ⟨rfl, frames', t', hfeed, hs'⟩
        exact (h.afterOperand hs').imp fun f rest hf => hf.cons hfeed rfl
      · refine .next_bind (.ite_neg (by simp) (.ite_pos rfl ((takes_finish hs).imp ?_)))
        rintro f _ ⟨rfl, -⟩
        exact .inl rfl

theorem afterOperand_cons (h : Tracks g tokens) (token : OperatorToken Identifier)
    (hs : Stands (.holding frames t) s) :
    Takes (Reader.afterOperand fuel s) g (behind (token :: tokens))
      (Finds (.holding frames t) (token :: tokens)) := by
  have htext := dropWhile_behind (token :: tokens)
  cases token with
  | closing => exact h.afterOperand_closing hs
  | opening => exact takes_afterOperand_stray (c := '(') htext (by decide)
  | sign op =>
      cases op with
      | not => exact takes_afterOperand_stray (c := '!') htext (by decide)
      | minus =>
          have hminus : (OperatorToken.sign .minus).text = BinaryOperator.subtract.symbol := rfl
          exact h.afterOperand_infix hminus hminus hs
  | joint j =>
      cases j with
      | pipe => exact takes_afterOperand_stray (c := '|') htext (by decide)
      | binary op => exact h.afterOperand_infix rfl rfl hs
  | operand name =>
      rw [front, toList_filterText_operand] at htext
      cases fuel with
      | zero => exact .fail
      | succ fuel => exact takes_afterOperand_infix htext (by decide) nofun nofun

end Tracks

theorem tracks (tokens : List (OperatorToken Identifier)) : Tracks g tokens := by
  induction tokens with
  | nil => exact tracks_nil
  | cons token tokens h => exact ⟨h.operandPosition_cons token, h.afterOperand_cons token⟩

/-! ## The whole path -/

variable {tokens : List (OperatorToken Identifier)}

theorem takes_filter : Takes (filter fuel) g (front tokens) (Finds (.expecting []) tokens) := by
  cases fuel with
  | zero => exact .fail
  | succ fuel =>
      unfold filter
      exact Takes.enter.go fun _ => (tracks tokens).operandPosition .start (dropWhile_front tokens)

/-- Brackets are not closed behind a filter that has stopped at a parenthesis. -/
theorem takes_brackets : Takes (brackets fuel []) g ('?' :: front tokens) fun step rest =>
    rest = [] ∧ ∃ f, step = .filter f ∧ Finds (.expecting []) tokens f [']'] := by
  cases fuel with
  | zero => exact .fail
  | succ fuel =>
      unfold brackets
      refine Takes.skipBlanks.go fun _ => .demand_bind ?_
      refine .ite_neg (by decide) (.ite_neg (by decide) (.ite_pos rfl ?_))
      refine Takes.advance.go fun _ => takes_filter.bind fun f rest hf => ?_
      have hfinds := hf
      refine .pure_bind (Takes.skipBlanks.go fun _ => ?_)
      rcases hf with hparen | ⟨rfl, -⟩
      · obtain ⟨tail, rfl⟩ := List.head?_eq_some_iff.mp hparen
        exact .demand_bind (.ite_neg (by decide) (.ite_neg (by decide) .fail))
      · exact .demand_bind (.ite_neg (by decide) (.ite_pos rfl
          (Takes.advance.go fun _ => .pure ⟨rfl, f, rfl, hfinds⟩)))

/-- Behind the root sign, the filter in brackets and nothing else. -/
theorem takes_pathSteps_filter (outer id : Nat) :
    Takes (pathSteps fuel outer [.root id]) g ('[' :: '?' :: front tokens) fun steps _ =>
      ∃ f, steps = [.root id, .filter f] ∧ Finds (.expecting []) tokens f [']'] := by
  cases fuel with
  | zero => exact .fail
  | succ fuel =>
      unfold pathSteps
      refine .setDepth_bind (.current_bind (Takes.advance.go fun _ => takes_brackets.bind ?_))
      rintro _ _ ⟨rfl, f, rfl, hf⟩
      exact (takes_pathSteps_end outer _ rfl).imp fun steps _ h => ⟨f, h.1, hf⟩

theorem takes_path_filter : Takes (path fuel) g ('$' :: '[' :: '?' :: front tokens) fun steps _ =>
    ∃ id f, steps = [.root id, .filter f] ∧ Finds (.expecting []) tokens f [']'] := by
  cases fuel with
  | zero => exact .fail
  | succ fuel =>
      unfold path
      refine takes_rootSign.bind ?_
      rintro _ _ ⟨⟨id, rfl⟩, rfl⟩
      refine .get_bind fun _ _ => (takes_pathSteps_filter _ id).bind ?_
      rintro _ _ ⟨f, hsteps, hf⟩
      exact (Takes.setDepth _).go fun _ => .pure ⟨id, f, hsteps, hf⟩

theorem takes_whole : Takes whole g ('$' :: '[' :: '?' :: front tokens) fun steps _ =>
    ∃ id f, steps = [.root id, .filter f] ∧ Finds (.expecting []) tokens f [']'] := by
  unfold whole
  refine Takes.skipBlanks.go fun _ => .demand_bind (.ite_neg (by decide) (.get_bind fun _ _ => ?_))
  refine takes_path_filter.bind fun _ _ hsteps => Takes.skipBlanks.go fun _ => ?_
  exact .get_bind fun _ _ => .ite (fun _ => .pure hsteps) fun _ => .fail

end Reader

/-- **`alike_of_parse_of_compile`** — whatever tokens both parsers accept, whether meant as an operator
expression or not, the expression and the filter have the same operators at the same places above
corresponding operands. -/
theorem alike_of_parse_of_compile {tokens : List (OperatorToken Identifier)}
    {registry registry' : Registry} {e : Expr} {path : Path}
    (he : Expr.parse (spell tokens) registry = .ok e)
    (hpath : Path.compile (spellFilter tokens) registry' = .ok path) :
    ∃ f, path.steps = [.root 0, .filter f] ∧ Alike e f := by
  have hwhole : Reader.Takes Reader.whole registry' (spellFilter tokens).toList fun steps _ =>
      ∃ id f, steps = [.root id, .filter f] ∧ Reader.Finds (.expecting []) tokens f [']'] := by
    rw [toList_spellFilter]
    exact Reader.takes_whole
  obtain ⟨-, id, f, hsteps, hfinds⟩ := exists_of_compile hwhole hpath
  -- The first root sign of a text has the number zero.
  obtain ⟨⟨last, hread⟩, -⟩ := stepsRead_of_compile hpath
  obtain ⟨head, rest, hcons, hhead, -⟩ := hread.exists_relative
  rw [hsteps] at hcons ⊢
  obtain ⟨rfl, rfl⟩ := List.cons.inj hcons
  obtain rfl : id = 0 := Step.root.inj (hhead.resolve_right nofun)
  obtain hparen | ⟨-, tokens', frames, t, t', htexts, hfeed, happly, hlike⟩ := hfinds
  · cases hparen
  · have hspell : spell tokens' = spell tokens := congrArg (" ".intercalate ·) htexts
    refine ⟨f, rfl, ?_⟩
    rcases parse_of_feedAll hfeed happly registry with hok | ⟨-, position, herror⟩
    · rw [hspell, he] at hok
      obtain rfl := Except.ok.inj hok
      exact hlike
    · rw [hspell, he] at herror
      cases herror

/-- `! a - ( b + c ) * d`: both group the difference of a negation and a product. -/
theorem alike_of_parse_of_compile_grouped :
    let a : Identifier := ⟨'a', [], rfl, nofun⟩
    let b : Identifier := ⟨'b', [], rfl, nofun⟩
    let c : Identifier := ⟨'c', [], rfl, nofun⟩
    let d : Identifier := ⟨'d', [], rfl, nofun⟩
    let tokens : List (OperatorToken Identifier) :=
      [.sign .not, .operand a, .joint (.binary .subtract), .opening, .operand b,
        .joint (.binary .add), .operand c, .closing, .joint (.binary .multiply), .operand d]
    let tree : Expr := .binary .subtract (.unary .not (.field "a"))
      (.binary .multiply (.binary .add (.field "b") (.field "c")) (.field "d"))
    ∃ path f, Expr.parse (spell tokens) .builtins = .ok tree ∧
      Path.compile (spellFilter tokens) .builtins = .ok path ∧
      path.steps = [.root 0, .filter f] ∧ Alike tree f := by
  intro a b c d tokens tree
  have hparse : Expr.parse (spell tokens) .builtins = .ok tree := by
    let t : OperatorTree Identifier := .join (.binary .subtract) (.sign .not (.operand a))
      (.join (.binary .multiply) (.group (.join (.binary .add) (.operand b) (.operand c)))
        (.operand d))
    refine (parse_of_feedAll (t := t) rfl rfl .builtins).resolve_right ?_
    rintro ⟨hdeep | hdeep, -⟩
    · exact absurd hdeep (by unfold t a b c d; decide)
    · exact absurd hdeep (by unfold t a b c d; decide)
  have hcompile : (Path.compile (spellFilter tokens) .builtins).toOption.isSome := by
    unfold tokens a b c d
    decide +kernel
  obtain ⟨path, hpath⟩ := Option.isSome_iff_exists.mp hcompile
  have hcompile := eq_ok_of_toOption hpath
  obtain ⟨f, hsteps, hlike⟩ := alike_of_parse_of_compile hparse hcompile
  exact ⟨path, f, hparse, hcompile, hsteps, hlike⟩

end Path

end JsonQuery
