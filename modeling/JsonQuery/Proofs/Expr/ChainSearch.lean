/-
# JsonQuery.Proofs.Expr.ChainSearch — searching with a chain of steps.

An operand that evaluates to a value, followed by a chain of steps, finds what the chain leads to from
that value.  Parser and evaluator meet here: the parser builds the tree of the chain around the
operand, and that tree evaluates to the meaning of the chain.
-/
import JsonQuery.Proofs.Expr.ChainReading

namespace JsonQuery

open JsonQuery.Expr

variable {registry : Registry}

/-! ## The tree -/

/-- **`parse_chain`** — an operand with a chain behind it is read as the tree of the chain. -/
theorem Expr.parse_chain {operand steps : String} {e tree : Expr} {chain : Chain}
    (hhead : HeadText registry operand.toList e)
    (hchain : ChainText registry operand.toList.length steps.toList chain)
    (hparse : parse (operand ++ steps) registry = .ok tree) : tree = chain.tree e := by
  have hsetting : (⟨registry, (operand ++ steps).toList.length⟩ : Setting)
      = ⟨registry, operand.toList.length + steps.toList.length⟩ := by
    rw [String.toList_append, List.length_append]
  have hstart := Machine.place_start (operand ++ steps) registry
  rw [hsetting, String.toList_append] at hstart
  have hend : StepFollows [] := .inl rfl
  have hfollows : StepFollows (steps.toList ++ []) := hchain.follows hend
  rw [List.append_nil] at hfollows
  obtain ⟨height, hoperand⟩ := Machine.leads_head hhead [.finish] hfollows rfl
  obtain ⟨projecting, height', hsteps⟩ := Machine.leads_chain hchain [.finish] e height hend rfl
  rw [List.append_nil] at hsteps
  have hread := (hoperand _ hstart).trans hsteps
  rcases hread.ends fun m hm => Machine.ends_of_operand hm with hok | ⟨-, position, hdeep⟩
  · exact Except.ok.inj ((parse_eq_iff.mp hparse).unique hok)
  · cases (parse_eq_iff.mp hparse).unique hdeep

/-- The operand of a chain on its own. -/
theorem Expr.parse_head {operand : String} {e tree : Expr}
    (hhead : HeadText registry operand.toList e) (hparse : parse operand registry = .ok tree) :
    tree = e := by
  have hnone : ChainText registry operand.toList.length "".toList (.direct []) :=
    .direct (.nil (List.forall_mem_nil _))
  rw [← String.append_empty (s := operand)] at hparse
  exact parse_chain hhead hnone hparse

/-! ## Searching -/

namespace Query

variable {b q : Query} {document : Json} {maxDepth : Nat}

/-- **`search_chain`** — searching with an operand that has a value and a chain of steps behind it
gives what the chain leads to from that value. -/
theorem search_chain {operand steps : String} {e : Expr} {chain : Chain}
    (hhead : HeadText registry operand.toList e)
    (hchain : ChainText registry operand.toList.length steps.toList chain)
    (hb : compile operand registry = .ok b) (hq : compile (operand ++ steps) registry = .ok q)
    {x : Value} {progress : Progress}
    (hx : b.evaluate document ⟨maxDepth, none⟩ = .ok (some x, progress)) :
    q.search document ⟨maxDepth, none⟩
      = (chain.meaning (Expr.passes (.unbounded document maxDepth)) x).elim
          (.error .referencesTooDeep) fun y => .ok y.toJson := by
  obtain ⟨tree, hoperand, ⟨⟩⟩ := bind_eq_ok.mp hb
  obtain ⟨whole, hparse, ⟨⟩⟩ := bind_eq_ok.mp hq
  have htree : tree = e := parse_head hhead hoperand
  have hwhole : whole = chain.tree e := parse_chain hhead hchain hparse
  have hvalue : e.outcome (.unbounded document maxDepth) (.ofJson document) = some (some x) :=
    htree ▸ outcome_of_evaluate hx
  rw [search_unbounded, hwhole, outcome_chain_tree rfl, hvalue, Option.bind_some, onward]
  cases chain.meaning (Expr.passes (.unbounded document maxDepth)) x <;> rfl

/-- An array of objects, some of which pass a filter on `b`. -/
def chainDocument : Json :=
  .object [("a", .array [
    .object [("b", .bool true), ("c", .array [.object [("d", .string "x")], .null])],
    .object [("c", .array [.object [("d", .string "y")]])],
    .object [("b", .bool true), ("c", .array [.array [.object [("d", .string "z")]]])]])]

/-- `a[?b].c[].d`: the flattening takes one level away, so the innermost object is not reached. -/
theorem search_chain_filter :
    ∃ b q x progress, compile "a" .builtins = .ok b ∧
      compile ("a" ++ "[?b].c[].d") .builtins = .ok q ∧
      b.evaluate chainDocument ⟨100, none⟩ = .ok (some x, progress) ∧
      q.search chainDocument ⟨100, none⟩ = .ok (.array [.string "x"]) := by
  have hnone : ∀ c ∈ ([] : List Char), Text.isBlank c := List.forall_mem_nil _
  have name (c : Char) (h : Text.isIdentifierStart c) : NameText [c] (String.ofList [c]) :=
    .plain ⟨c, [], h, List.forall_mem_nil _⟩
  have hhead : HeadText .builtins "a".toList (.field "a") := @HeadText.name _ [] _ _ hnone (name 'a' rfl)
  have hfilter : LinkText .builtins 1 "[?b]".toList (.filter (.field "b")) :=
    @LinkText.filter .builtins 1 [] ⟨"b", .field "b", rfl⟩ hnone
  have hc : LinkText .builtins 5 ".c".toList (.field "c") :=
    @LinkText.field _ 5 [] _ _ hnone (name 'c' rfl)
  have hd : LinkText .builtins 9 ".d".toList (.field "d") :=
    @LinkText.field _ 9 [] _ _ hnone (name 'd' rfl)
  have hbefore : ChainText .builtins 1 "[?b].c".toList
      (.direct [.filter (.field "b"), .field "c"]) :=
    .direct (@LinksText.cons _ 1 [] _ _ _ _ hnone hfilter
      (@LinksText.cons _ 5 [] _ _ _ _ hnone hc (.nil hnone)))
  have hafter : LinksText .builtins 9 ".d".toList [.field "d"] :=
    @LinksText.cons _ 9 [] _ _ _ _ hnone hd (.nil hnone)
  have hchain : ChainText .builtins 1 "[?b].c[].d".toList
      (.flatten (.direct [.filter (.field "b"), .field "c"]) [.field "d"]) :=
    @ChainText.flatten _ 1 _ [] _ _ _ hbefore hnone hafter
  refine ⟨_, _, _, _, rfl, rfl, rfl, ?_⟩
  exact search_chain hhead hchain rfl rfl rfl

end Query

end JsonQuery
