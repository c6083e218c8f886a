/-
# JsonQuery.Proofs.Expr.PlainChain — chains of members and items in expressions.

A member by its name and an item by its index are steps of expressions and of paths alike.  As steps
of an expression they follow the current value one by one, and what they lead to is known from any
value: the member or the item, or `null` where there is none.
-/
import JsonQuery.Proofs.Expr.ChainSearch
import JsonQuery.Proofs.Json.Pointer
import JsonQuery.Proofs.Json.StringText

namespace JsonQuery

open JsonQuery.Expr (bind_eq_ok)
open Text (isBlank)

/-! ## Integers -/

theorem toList_toString_negSucc (n : Nat) :
    (toString (Int.negSucc n)).toList = '-' :: (toString (n + 1)).toList := by
  have hsign : toString (Int.negSucc n) = "-" ++ toString (n + 1) := rfl
  rw [hsign, String.toList_append]
  rfl

/-- The digits of a number, read as an integer. -/
theorem integer_toString (n : Nat) :
    (toString n).toList.foldl (fun (acc : Int) c => acc * 10 + Json.digitValue c) 0 = n := by
  have hcast : ∀ (digits : List Char) (start : Nat),
      digits.foldl (fun (acc : Int) c => acc * 10 + Json.digitValue c) start
        = (digits.foldl (fun acc c => acc * 10 + Json.digitValue c) start : Nat) := by
    intro digits
    induction digits with
    | nil => intro start; rfl
    | cons d rest ih =>
        intro start
        rw [List.foldl_cons, List.foldl_cons, ← ih]
        rfl
  exact (hcast _ 0).trans (congrArg Nat.cast (Json.value_toString n))

/-- How an integer is written in decimal. -/
def IntegerText.ofInt (i : Int) : IntegerText where
  negative := i < 0
  digits := (toString i.natAbs).toList
  nonempty := Json.toList_toString i.natAbs ▸ Nat.toDigits_ne_nil
  areDigits _ := Json.isAsciiDigit_of_mem_toString

theorem IntegerText.chars_ofInt (i : Int) : (ofInt i).chars = (toString i).toList := by
  cases i with
  | ofNat n => rfl
  | negSucc n =>
      have hnegative : Int.negSucc n < 0 := Int.negSucc_lt_zero n
      rw [toList_toString_negSucc]
      simp only [chars, ofInt, hnegative, decide_true, if_true]
      rfl

theorem IntegerText.value_ofInt (i : Int) : (ofInt i).value = i := by
  simp only [value, ofInt, integer_toString, decide_eq_true_eq]
  split <;> omega

/-! ## Steps -/

/-- **`PlainStep`** — a member by a JSON text of its name or an item by its index. -/
inductive PlainStep where
  /-- A member.  The name `length` is set apart, because a path finds it in arrays as well. -/
  | member (text : Json.StringText) (other : text.string ≠ "length")
  /-- An item, whose index is in the range of indices. -/
  | item (i : Int) (small : Expr.Reader.inIndexRange i)

namespace PlainStep

/-- The step in an expression: `."name"` or `[i]`. -/
def inExpression : PlainStep → List Char
  | .member text _ => '.' :: text.chars
  | .item i _ => '[' :: ((toString i).toList ++ [']'])

/-- The current value with steps behind it. -/
def expression (steps : List PlainStep) : String :=
  "@" ++ String.ofList (steps.flatMap inExpression)

/-- The step as a link of a chain. -/
def link : PlainStep → Link
  | .member text _ => .field text.string
  | .item i _ => .index i

variable {registry : Registry}

theorem linkText (step : PlainStep) (n : Nat) :
    LinkText registry n step.inExpression step.link := by
  have hnone : ∀ c ∈ ([] : List Char), isBlank c := List.forall_mem_nil _
  cases step with
  | member text other =>
      obtain ⟨written, hchars, hquoted⟩ := text.exists_quotedText
      have hname : NameText text.chars text.string := by
        rw [hchars, ← String.ofList_toList (s := text.string)]
        exact .quoted hquoted
      exact @LinkText.field registry n [] _ _ hnone hname
  | item i small =>
      have hbound : BoundText (toString i).toList (some i) := by
        have h := @BoundText.integer [] [] (.ofInt i) hnone hnone
        rw [IntegerText.chars_ofInt, IntegerText.value_ofInt, List.append_nil] at h
        exact h small
      exact .index hbound

theorem linksText (steps : List PlainStep) (n : Nat) :
    LinksText registry n (steps.flatMap inExpression) (steps.map link) := by
  have hnone : ∀ c ∈ ([] : List Char), isBlank c := List.forall_mem_nil _
  induction steps generalizing n with
  | nil => exact .nil hnone
  | cons step rest ih =>
      exact @LinksText.cons registry n [] _ _ _ _ hnone (step.linkText n) (ih _)

end PlainStep

/-! ## Searching -/

/-- What the steps of an expression lead to is what its search finds. -/
theorem Query.search_expression {steps : List PlainStep} {registry : Registry} {q : Query}
    (hq : compile (PlainStep.expression steps) registry = .ok q) (document : Json)
    (maxDepth : Nat) :
    q.search document ⟨maxDepth, none⟩
      = (Link.through (Expr.passes (.unbounded document maxDepth)) (steps.map PlainStep.link)
          (.ofJson document)).elim (.error .referencesTooDeep) fun y => .ok y.toJson := by
  have hhead : HeadText registry "@".toList .current :=
    @HeadText.current registry [] (List.forall_mem_nil _)
  have hchain : ChainText registry "@".toList.length
      (String.ofList (steps.flatMap PlainStep.inExpression)).toList
      (.direct (steps.map PlainStep.link)) := by
    rw [String.toList_ofList (l := steps.flatMap PlainStep.inExpression)]
    exact .direct (PlainStep.linksText steps _)
  obtain ⟨tree, hparse, ⟨⟩⟩ := bind_eq_ok.mp hq
  have htree : tree = Link.tree (steps.map PlainStep.link) .current :=
    Expr.parse_chain hhead hchain hparse
  rw [search_unbounded, htree, Expr.outcome_links rfl, Expr.outcome_current rfl, Option.bind_some,
    Expr.onward]
  cases Link.through (Expr.passes (.unbounded document maxDepth)) (steps.map PlainStep.link)
    (.ofJson document) <;> rfl

end JsonQuery
