/-
# JsonQuery.Proofs.Expr.ChainText — chains of steps as texts.

The steps behind an operand are written one after another, with blanks wherever the parser skips them.
The predicate of a filter is any text that is an expression on its own.  The parser reads a step from
behind the operand to behind the step, where the operand on its stack has grown by it.
-/
import JsonQuery.Proofs.Expr.Chain
import JsonQuery.Proofs.Expr.Entries

namespace JsonQuery

open JsonQuery.Expr
open Text (isBlank isAsciiDigit)

variable {registry : Registry}

/-! ## Spelling -/

/-- **`NameText text name`** — `text` is how a name is written: as an identifier or in quotes. -/
inductive NameText : List Char → String → Prop where
  | plain (name : Identifier) : NameText name.chars name.text
  | quoted {text name : List Char} : QuotedText text name →
      NameText ('"' :: (text ++ ['"'])) (String.ofList name)

/-- An integer as it is written. -/
structure IntegerText where
  negative : Bool
  digits : List Char
  nonempty : digits ≠ []
  areDigits : ∀ d ∈ digits, isAsciiDigit d

namespace IntegerText

/-- The characters. -/
def chars (t : IntegerText) : List Char := (if t.negative then ['-'] else []) ++ t.digits

/-- The number. -/
def value (t : IntegerText) : Int :=
  let n : Int := t.digits.foldl (fun acc c => acc * 10 + Json.digitValue c) 0
  if t.negative then -n else n

end IntegerText

/-- **`BoundText text bound`** — a place of a bracket: an integer in the range of indices or nothing,
with blanks around it. -/
inductive BoundText : List Char → Option Int → Prop where
  | missing {gap : List Char} : (∀ c ∈ gap, isBlank c) → BoundText gap none
  | integer {gap gap' : List Char} (t : IntegerText) : (∀ c ∈ gap, isBlank c) →
      (∀ c ∈ gap', isBlank c) → Reader.inIndexRange t.value →
      BoundText (gap ++ (t.chars ++ gap')) (some t.value)

/-- **`LinkText registry n text link`** — `text` is how a link is written `n` characters behind the
start; the references in a predicate are known by where they stand. -/
inductive LinkText (registry : Registry) (n : Nat) : List Char → Link → Prop where
  | field {gap text : List Char} {name : String} : (∀ c ∈ gap, isBlank c) → NameText text name →
      LinkText registry n ('.' :: (gap ++ text)) (.field name)
  | values {gap : List Char} : (∀ c ∈ gap, isBlank c) →
      LinkText registry n ('.' :: (gap ++ ['*'])) .values
  | items {gap gap' : List Char} : (∀ c ∈ gap, isBlank c) → (∀ c ∈ gap', isBlank c) →
      LinkText registry n ('[' :: (gap ++ '*' :: (gap' ++ [']']))) .items
  | index {text : List Char} {i : Int} : BoundText text (some i) →
      LinkText registry n ('[' :: (text ++ [']'])) (.index i)
  | slice {start stop : List Char} {a b : Option Int} : BoundText start a → BoundText stop b →
      LinkText registry n ('[' :: (start ++ ':' :: (stop ++ [']']))) (.slice ⟨a, b, 1⟩)
  | stepped {start stop step : List Char} {a b c : Option Int} : BoundText start a →
      BoundText stop b → BoundText step c → c ≠ some 0 →
      LinkText registry n ('[' :: (start ++ ':' :: (stop ++ ':' :: (step ++ [']']))))
        (.slice ⟨a, b, c.getD 1⟩)
  | filter {gap : List Char} (part : Part registry) : (∀ c ∈ gap, isBlank c) →
      LinkText registry n ('[' :: (gap ++ '?' :: (part.chars ++ [']'])))
        (.filter (part.tree.shift (n + gap.length + 2)))

/-- **`LinksText registry n text links`** — `text` is how links are written, with blanks before and
behind them. -/
inductive LinksText (registry : Registry) : Nat → List Char → List Link → Prop where
  | nil {n : Nat} {gap : List Char} : (∀ c ∈ gap, isBlank c) → LinksText registry n gap []
  | cons {n : Nat} {gap text rest : List Char} {link : Link} {links : List Link} :
      (∀ c ∈ gap, isBlank c) → LinkText registry (n + gap.length) text link →
      LinksText registry (n + gap.length + text.length) rest links →
      LinksText registry n (gap ++ (text ++ rest)) (link :: links)

/-- **`ChainText registry n text chain`** — `text` is how a chain is written. -/
inductive ChainText (registry : Registry) (n : Nat) : List Char → Chain → Prop where
  | direct {text : List Char} {links : List Link} : LinksText registry n text links →
      ChainText registry n text (.direct links)
  | flatten {text gap rest : List Char} {before : Chain} {after : List Link} :
      ChainText registry n text before → (∀ c ∈ gap, isBlank c) →
      LinksText registry (n + text.length + gap.length + 2) rest after →
      ChainText registry n (text ++ '[' :: (gap ++ ']' :: rest)) (.flatten before after)

/-- **`HeadText registry text e`** — `text` is an identifier, the current value or an expression in
parentheses, and `e` is its tree. -/
inductive HeadText (registry : Registry) : List Char → Expr → Prop where
  | name {gap text : List Char} {name : String} : (∀ c ∈ gap, isBlank c) → NameText text name →
      HeadText registry (gap ++ text) (.field name)
  | current {gap : List Char} : (∀ c ∈ gap, isBlank c) →
      HeadText registry (gap ++ ['@']) .current
  | paren {gap : List Char} (part : Part registry) : (∀ c ∈ gap, isBlank c) →
      HeadText registry (gap ++ '(' :: (part.chars ++ [')'])) (part.tree.shift (gap.length + 1))

/-! ## What stands behind a step -/

/-- The text behind its blanks. -/
def behindBlanks (text : List Char) : List Char := text.dropWhile isBlank

theorem behindBlanks_append {gap : List Char} (hgap : ∀ c ∈ gap, isBlank c) (rest : List Char) :
    behindBlanks (gap ++ rest) = behindBlanks rest :=
  List.dropWhile_append_of_pos hgap

theorem behindBlanks_cons {c : Char} (hc : isBlank c = false) (rest : List Char) :
    behindBlanks (c :: rest) = c :: rest := by
  rw [behindBlanks, List.dropWhile_cons, if_neg (Bool.eq_false_iff.mp hc)]

/-- **`StepFollows text`** — behind its blanks a text ends or goes on with a step. -/
def StepFollows (text : List Char) : Prop :=
  behindBlanks text = [] ∨ ∃ rest, behindBlanks text = '.' :: rest ∨ behindBlanks text = '[' :: rest

theorem StepFollows.head_ne_paren {text : List Char} (h : StepFollows text) :
    (behindBlanks text).head? ≠ some '(' := by
  rcases h with h | ⟨rest, h | h⟩ <;> simp [h]

theorem StepFollows.not_blank {text : List Char} (h : StepFollows text) :
    (behindBlanks text).head?.any isBlank = false := by
  rcases h with h | ⟨rest, h | h⟩ <;> rw [h] <;> rfl

/-- A name ends where a step may follow. -/
theorem StepFollows.ends_name {text : List Char} (h : StepFollows text) :
    text.head?.any Text.isIdentifierPart = false := by
  cases text with
  | nil => rfl
  | cons c rest =>
      by_cases hc : isBlank c
      · exact Text.isIdentifierPart_of_isBlank hc
      · rw [StepFollows, behindBlanks_cons (Bool.eq_false_iff.mpr hc)] at h
        rcases h with h | ⟨rest', h | h⟩ <;> cases h <;> rfl

theorem LinkText.head {n : Nat} {text : List Char} {link : Link}
    (h : LinkText registry n text link) : ∃ rest, text = '.' :: rest ∨ text = '[' :: rest := by
  cases h <;> first | exact ⟨_, .inl rfl⟩ | exact ⟨_, .inr rfl⟩

/-- A link does not start with a blank. -/
theorem LinkText.behindBlanks_append {n : Nat} {text : List Char} {link : Link}
    (h : LinkText registry n text link) (rest : List Char) :
    behindBlanks (text ++ rest) = text ++ rest := by
  obtain ⟨tail, rfl | rfl⟩ := h.head <;> exact behindBlanks_cons rfl _

theorem LinksText.follows {n : Nat} {text tail : List Char} {links : List Link}
    (h : LinksText registry n text links) (htail : StepFollows tail) : StepFollows (text ++ tail) := by
  cases h with
  | nil hgap => rwa [StepFollows, behindBlanks_append hgap]
  | cons hgap hlink _ =>
      rw [StepFollows, List.append_assoc, behindBlanks_append hgap]
      rw [List.append_assoc, hlink.behindBlanks_append]
      obtain ⟨rest, rfl | rfl⟩ := hlink.head
      · exact .inr ⟨_, .inl rfl⟩
      · exact .inr ⟨_, .inr rfl⟩

theorem ChainText.follows {n : Nat} {text tail : List Char} {chain : Chain}
    (h : ChainText registry n text chain) (htail : StepFollows tail) :
    StepFollows (text ++ tail) := by
  induction h generalizing tail with
  | direct hlinks => exact hlinks.follows htail
  | flatten _ _ _ ih =>
      rw [List.append_assoc]
      exact ih (.inr ⟨_, .inr (behindBlanks_cons rfl _)⟩)

end JsonQuery
