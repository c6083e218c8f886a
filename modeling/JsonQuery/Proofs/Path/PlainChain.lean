/-
# JsonQuery.Proofs.Path.PlainChain — paths and expressions agree on members and items.

A chain of members and items can be written in both languages.  Their readers have nothing in
common, and they go on differently where a step leads nowhere: an expression goes on with `null`, a
path has no node any more.  So a search finds the only node of the path, or `null` where there is
none.  The one name that is set apart is `length`, which a path finds in an array and an expression
does not.
-/
import JsonQuery.Proofs.Expr.PlainChain
import JsonQuery.Proofs.Path.Ascent
import JsonQuery.Proofs.Path.QuotedName
import JsonQuery.Proofs.Path.Taking

namespace JsonQuery

open Text (isBlank isAsciiDigit)

namespace PlainStep

/-- The step in a path: `["name"]` or `[i]`. -/
def inPath : PlainStep → List Char
  | .member text _ => '[' :: (text.chars ++ [']'])
  | .item i _ => '[' :: ((toString i).toList ++ [']'])

/-- The root with steps behind it. -/
def path (steps : List PlainStep) : String :=
  "$" ++ String.ofList (steps.flatMap inPath)

/-- The step of a path. -/
def toStep : PlainStep → Path.Step
  | .member text _ => .name text.string
  | .item i _ => .index i

end PlainStep

namespace Path

namespace Reader

variable {g : Registry} {text rest : List Char} {depth roots : Nat}

/-! ## Indices -/

/-- The digits of a negative index behind its sign. -/
theorem reads_integer_negSucc {n : Nat} (hn : Expr.Reader.inIndexRange (Int.negSucc n)) :
    Reads integer g ⟨'-' :: ((toString (n + 1)).toList ++ ']' :: rest), depth, roots⟩
      (Int.negSucc n) ⟨']' :: rest, depth, roots⟩ := by
  have hrun : (toString (n + 1)).toList.all isAsciiDigit = true :=
    List.all_eq_true.mpr fun c => Json.isAsciiDigit_of_mem_toString
  have hempty : (toString (n + 1)).toList.isEmpty = false := by
    obtain ⟨c, digits, hdigits, -⟩ := exists_toString_eq_cons (n + 1)
    rw [hdigits]
    rfl
  simp only [Expr.Reader.inIndexRange, Bool.and_eq_true, decide_eq_true_eq] at hn
  unfold integer
  refine .current_bind ?_
  simp only [List.head?_cons, if_true]
  refine Reads.advance.bind ((Reads.readWhile hrun (any_isAsciiDigit_bracket rest)).bind ?_)
  rw [hempty, Json.value_toString]
  simp only [Bool.false_eq_true, if_false]
  have hvalue : -((n + 1 : Nat) : Int) = Int.negSucc n := by omega
  rw [hvalue, if_pos (by omega)]
  exact .pure _

/-- An index starts with a sign or a digit, and is read up to the closing bracket. -/
theorem reads_index {i : Int} (hi : Expr.Reader.inIndexRange i) :
    ∃ c digits, (toString i).toList = c :: digits ∧ (c = '-' || isAsciiDigit c) = true ∧
      ∀ rest depth roots, Reads integer g ⟨c :: (digits ++ ']' :: rest), depth, roots⟩ i
        ⟨']' :: rest, depth, roots⟩ := by
  cases i with
  | ofNat n =>
      obtain ⟨c, digits, hdigits, hc⟩ := exists_toString_eq_cons n
      have hn : n < 0x8000000000000000 := by
        simp only [Expr.Reader.inIndexRange, Bool.and_eq_true, decide_eq_true_eq,
          Int.ofNat_eq_natCast] at hi
        omega
      refine ⟨c, digits, hdigits, by rw [hc, Bool.or_true], fun rest depth roots => ?_⟩
      rw [← List.cons_append, ← hdigits]
      exact reads_integer hn
  | negSucc n =>
      exact ⟨'-', (toString (n + 1)).toList, toList_toString_negSucc n, rfl,
        fun rest depth roots => reads_integer_negSucc hi⟩

/-- A sign or a digit is none of the other characters that brackets may start with. -/
theorem ne_of_startsIndex {c d : Char} (hc : (c = '-' || isAsciiDigit c) = true)
    (hd : (d = '-' || isAsciiDigit d) = false) : c ≠ d := by
  rintro rfl
  rw [hc] at hd
  cases hd

theorem isBlank_of_startsIndex {c : Char} (hc : (c = '-' || isAsciiDigit c) = true) :
    isBlank c = false := by
  rcases Bool.or_eq_true_iff.mp hc with hminus | hdigit
  · obtain rfl := of_decide_eq_true hminus
    rfl
  · exact Text.isBlank_of_isAsciiDigit hdigit

theorem reads_indexOrSlice_of {c : Char} {i : Int} (hc : (c = '-' || isAsciiDigit c) = true)
    (hread : Reads integer g ⟨c :: text, depth, roots⟩ i ⟨']' :: rest, depth, roots⟩) :
    Reads indexOrSlice g ⟨c :: text, depth, roots⟩ (.index i) ⟨']' :: rest, depth, roots⟩ := by
  have hblank : (c :: text).head?.any isBlank = false := isBlank_of_startsIndex hc
  have hinteger : Reads integer? g ⟨c :: text, depth, roots⟩ (some i)
      ⟨']' :: rest, depth, roots⟩ := by
    unfold integer?
    refine (Reads.skipBlanks hblank).bind (.current_bind ?_)
    exact .ite_pos hc (hread.bind (.pure _))
  unfold indexOrSlice
  exact hinteger.bind ((Reads.skipBlanks rfl).bind (.current_bind (.ite_pos rfl (.pure _))))

/-! ## Steps -/

/-- What stands in brackets is read as the step. -/
theorem reads_plainStep (step : PlainStep) :
    ∃ inside, step.inPath = '[' :: inside ∧ ∀ fuel rest depth roots,
      Reads (brackets (fuel + 1) []) g ⟨inside ++ rest, depth, roots⟩ step.toStep
        ⟨rest, depth, roots⟩ := by
  cases step with
  | member text other =>
      refine ⟨text.chars ++ [']'], rfl, fun fuel rest depth roots => ?_⟩
      rw [List.append_assoc, List.singleton_append]
      exact reads_brackets_stringText text
  | item i small =>
      obtain ⟨c, digits, hdigits, hc, hread⟩ := reads_index (g := g) small
      refine ⟨(toString i).toList ++ [']'], rfl, fun fuel rest depth roots => ?_⟩
      rw [hdigits, List.append_assoc, List.cons_append, List.singleton_append]
      have hother : ∀ d, (d = '-' || isAsciiDigit d) = false → c ≠ d :=
        fun d => ne_of_startsIndex hc
      have hblank : (c :: (digits ++ ']' :: rest)).head?.any isBlank = false :=
        isBlank_of_startsIndex hc
      unfold brackets
      refine (Reads.skipBlanks hblank).bind (Reads.demand.bind ?_)
      refine .ite_neg (hother '*' (by decide)) (.ite_neg ?_ (.ite_neg (hother '?' (by decide)) ?_))
      · simp [hother '\'' (by decide), hother '"' (by decide)]
      · refine .ite_pos ?_ ((reads_indexOrSlice_of hc (hread _ _ _)).bind (reads_bracketEnd fuel _))
        rw [Bool.or_right_comm, hc, Bool.true_or]

theorem takes_plainStep (step : PlainStep) :
    ∃ inside, step.inPath = '[' :: inside ∧ ∀ fuel rest,
      Takes (brackets fuel []) g (inside ++ rest) fun step' rest' =>
        step' = step.toStep ∧ rest' = rest := by
  obtain ⟨inside, hinside, hread⟩ := reads_plainStep (g := g) step
  refine ⟨inside, hinside, fun fuel rest => ?_⟩
  cases fuel with
  | zero => exact .fail
  | succ fuel => exact .of_reads fun depth roots => hread fuel rest depth roots

theorem takes_plainSteps (steps : List PlainStep) (fuel outer : Nat) (before : List Step) :
    Takes (pathSteps fuel outer before) g (steps.flatMap PlainStep.inPath) fun steps' _ =>
      steps' = before.reverse ++ steps.map PlainStep.toStep := by
  induction steps generalizing fuel before with
  | nil => exact (takes_pathSteps_end outer before rfl).imp fun _ _ h => by simp [h.1]
  | cons step rest ih =>
      cases fuel with
      | zero => exact .fail
      | succ fuel =>
          obtain ⟨inside, hinside, htakes⟩ := takes_plainStep (g := g) step
          rw [List.flatMap_cons, hinside, List.cons_append]
          unfold pathSteps
          refine .setDepth_bind (.current_bind (Takes.advance.go fun _ =>
            (htakes fuel _).bind ?_))
          rintro _ _ ⟨rfl, rfl⟩
          refine (ih fuel (step.toStep :: before)).imp fun _ _ h => ?_
          rw [h, List.reverse_cons, List.append_assoc]
          rfl

/-- A root sign and the steps behind it are the path, if it is read at all. -/
theorem takes_plainChain (steps : List PlainStep) :
    Takes whole g ('$' :: steps.flatMap PlainStep.inPath) fun steps' _ =>
      ∃ id, steps' = .root id :: steps.map PlainStep.toStep := by
  have hpath : ∀ fuel, Takes (path fuel) g ('$' :: steps.flatMap PlainStep.inPath)
      fun steps' _ => ∃ id, steps' = .root id :: steps.map PlainStep.toStep := by
    intro fuel
    cases fuel with
    | zero => exact .fail
    | succ fuel =>
        unfold path
        refine takes_rootSign.bind ?_
        rintro _ _ ⟨⟨id, rfl⟩, rfl⟩
        refine .get_bind fun _ _ => (takes_plainSteps steps _ _ _).bind fun _ _ h => ?_
        exact (Takes.setDepth _).go fun _ => .pure ⟨id, h⟩
  unfold whole
  refine Takes.skipBlanks.go fun _ => .demand_bind (.ite_neg (by decide) (.get_bind fun _ _ => ?_))
  refine (hpath _).bind fun _ _ hsteps => Takes.skipBlanks.go fun _ => ?_
  exact .get_bind fun _ _ => .ite (fun _ => .pure hsteps) fun _ => .fail

end Reader

/-- The nodes of the path are where its steps lead from the root. -/
theorem nodes_of_plainChain {steps : List PlainStep} {registry : Registry} {path : Path}
    (h : Path.compile (PlainStep.path steps) registry = .ok path) (document : Json)
    (maxDepth : Nat) :
    path.nodes document ⟨maxDepth, none⟩
      = .ok ((reached (steps.map PlainStep.toStep) (.ofJson document)).map fun r =>
          (⟨r.1, r.2⟩ : Node)).toList := by
  have hwhole : Reader.Takes Reader.whole registry (PlainStep.path steps).toList fun steps' _ =>
      ∃ id, steps' = .root id :: steps.map PlainStep.toStep := by
    rw [PlainStep.path, String.toList_append,
      String.toList_ofList (l := steps.flatMap PlainStep.inPath)]
    exact Reader.takes_plainChain steps
  obtain ⟨-, id, hsteps⟩ := exists_of_compile hwhole h
  have hdown : (steps.map PlainStep.toStep).all Step.goesDown = true := by
    rw [List.all_map, List.all_eq_true]
    intro step _
    cases step <;> rfl
  obtain ⟨progress, hevaluate⟩ := evaluate_of_compile h document maxDepth
  rw [Path.nodes, hevaluate]
  refine congrArg Except.ok ?_
  rw [meaning, hsteps, found_root, found_of_goesDown hdown]
  rfl

/-! ## Both languages -/

/-- The value that a link leads to, or `null`, is the value that the step of a path leads to. -/
theorem through_plainStep (test : Expr → Value → Option Bool) (step : PlainStep) (links : List Link)
    (v : Value) : Link.through test (step.link :: links) v
      = Link.through test links (((step.toStep.child? v).map (·.2)).getD .null) := by
  cases step with
  | member text other =>
      have hvalue : v.get? text.string = (Step.child? (.name text.string) v).map (·.2) := by
        cases v with
        | object entries =>
            simp only [Step.child?, Option.map_map]
            exact Option.map_id'.symm
        | array items => simp only [Step.child?, if_neg other]; rfl
        | null | bool | number | string | reference => rfl
      rw [PlainStep.link, PlainStep.toStep, Link.through, hvalue]
  | item i small =>
      have hvalue : (do
          let items ← v.items?
          items[← normalizeIndex i items.length]?) = (Step.child? (.index i) v).map (·.2) := by
        cases v with
        | array items =>
            simp only [Step.child?, Value.items?, Option.bind_eq_bind, Option.bind_some]
            cases normalizeIndex i items.length with
            | none => rfl
            | some place => cases hitem : items[place]? <;> simp [hitem]
        | null | bool | number | string | object | reference => rfl
      rw [PlainStep.link, PlainStep.toStep, Link.through, hvalue]

/-- From `null` an expression stays at `null`. -/
theorem through_null (test : Expr → Value → Option Bool) (steps : List PlainStep) :
    Link.through test (steps.map PlainStep.link) .null = some .null := by
  induction steps with
  | nil => rfl
  | cons step rest ih => cases step <;> exact ih

/-- **`through_plainSteps`** — from every value an expression leads where a path leads, and to
`null` where a path leads nowhere. -/
theorem through_plainSteps (test : Expr → Value → Option Bool) (steps : List PlainStep)
    (v : Value) :
    Link.through test (steps.map PlainStep.link) v
      = some (((reached (steps.map PlainStep.toStep) v).map (·.2)).getD .null) := by
  induction steps generalizing v with
  | nil => rfl
  | cons step rest ih =>
      rw [List.map_cons, through_plainStep, List.map_cons, reached]
      cases step.toStep.child? v with
      | none => exact through_null test rest
      | some found =>
          rw [Option.map_some, Option.getD_some, ih]
          cases hrest : reached (rest.map PlainStep.toStep) found.2 with
          | none => simp [hrest]
          | some below => simp [hrest]

/-- **`search_eq_query`** — for members other than `length` and items, an expression and a path
agree on every document: the path selects at most one node, whose value the search finds, and the
search finds `null` exactly where there is no node or its value is `null`. -/
theorem search_eq_query {steps : List PlainStep} {registry : Registry} {q : Query} {path : Path}
    (hq : Query.compile (PlainStep.expression steps) registry = .ok q)
    (hpath : Path.compile (PlainStep.path steps) registry = .ok path) (document : Json)
    (maxDepth : Nat) :
    ∃ result nodes, q.search document ⟨maxDepth, none⟩ = .ok result ∧
      path.nodes document ⟨maxDepth, none⟩ = .ok nodes ∧
      (valuesOf nodes = .array [] ∨ valuesOf nodes = .array [result]) ∧
      (result = .null ↔ valuesOf nodes = .array [] ∨ valuesOf nodes = .array [.null]) := by
  have hsearch := Query.search_expression hq document maxDepth
  have hnodes := nodes_of_plainChain hpath document maxDepth
  rw [through_plainSteps, Option.elim_some] at hsearch
  refine ⟨_, _, hsearch, hnodes, ?_⟩
  cases reached (steps.map PlainStep.toStep) (.ofJson document) with
  | none => exact ⟨.inl rfl, fun _ => .inl rfl, fun _ => rfl⟩
  | some found => simp [valuesOf]

/-- The chain `."a\\u0062"[-1]`, whose name has an escape, on an array that ends with `null`. -/
theorem search_eq_query_escaped :
    let text : Json.StringText :=
      ⟨['"', 'a', '\\', 'u', '0', '0', '6', '2', '"'], "ab", rfl, rfl, rfl⟩
    let steps : List PlainStep := [.member text (by decide), .item (-1) rfl]
    let document : Json := .object [("ab", .array [.bool true, .null])]
    ∃ q path result nodes, PlainStep.expression steps = "@.\"a\\u0062\"[-1]" ∧
      PlainStep.path steps = "$[\"a\\u0062\"][-1]" ∧
      Query.compile (PlainStep.expression steps) .builtins = .ok q ∧
      Path.compile (PlainStep.path steps) .builtins = .ok path ∧
      q.search document ⟨5, none⟩ = .ok result ∧ path.nodes document ⟨5, none⟩ = .ok nodes ∧
      nodes.map (·.location) = [[.name "ab", .index 1]] ∧ valuesOf nodes = .array [result] ∧
      result = .null := by
  intro text steps document
  have hexpression : PlainStep.expression steps = "@.\"a\\u0062\"[-1]" := by decide +kernel
  have hpathText : PlainStep.path steps = "$[\"a\\u0062\"][-1]" := by decide +kernel
  have hquery : (Query.compile "@.\"a\\u0062\"[-1]" .builtins).toOption.isSome := by
    decide +kernel
  have hselected : ((Path.compile "$[\"a\\u0062\"][-1]" .builtins).toOption.bind fun path =>
      (path.nodes document ⟨5, none⟩).toOption.map fun nodes =>
        nodes.map fun n => (n.location, n.value.isNull))
      = some [([.name "ab", .index 1], true)] := by decide +kernel
  obtain ⟨q, hq⟩ := Option.isSome_iff_exists.mp hquery
  obtain ⟨path, hpath, hfound⟩ := Option.bind_eq_some_iff.mp hselected
  obtain ⟨nodes, hnodes, hvalues⟩ := Option.map_eq_some_iff.mp hfound
  obtain ⟨n, rfl, hn⟩ := List.map_eq_singleton_iff.mp hvalues
  obtain ⟨hlocation, hnull⟩ := Prod.mk.inj hn
  have hcompile := eq_ok_of_toOption hq
  have hcompile' := eq_ok_of_toOption hpath
  rw [← hexpression] at hcompile
  rw [← hpathText] at hcompile'
  obtain ⟨result, nodes', hsearch, hnodes', -, hresult⟩ :=
    search_eq_query hcompile hcompile' document 5
  obtain rfl := Except.ok.inj (hnodes'.symm.trans (eq_ok_of_toOption hnodes))
  have hvalue : n.value = .null := by
    cases hv : n.value <;> rw [hv] at hnull <;> first | rfl | cases hnull
  have hfound : valuesOf [n] = .array [.null] := by
    rw [valuesOf, List.map_singleton, hvalue]
    rfl
  obtain rfl : result = .null := hresult.mpr (.inr hfound)
  exact ⟨q, path, .null, [n], hexpression, hpathText, hcompile, hcompile', hsearch, hnodes',
    congrArg (fun l => [l]) hlocation, hfound, rfl⟩

end Path

end JsonQuery
