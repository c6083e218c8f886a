/-
# JsonQuery.Proofs.Held.Evaluation — a search on views finds what a search on values finds.

The walk over an expression on values as they are held takes the same steps as the walk on the values
that they show, and comes to a way to hold what that walk comes to.  At every node the two decide on
something that is read alike, so that neither can leave the course of the other.  What a search writes in
the end is then the same.
-/
import JsonQuery.Query
import JsonQuery.Proofs.Evaluation.Mirroring
import JsonQuery.Proofs.Held.Calls

namespace JsonQuery

open Evaluation
open Held (Shows EntriesShow KeyedShow Content.Shows)

namespace Held

/-- **`Follows apply apply'`** — references are applied to values as they are held with the steps and the
results with which they are applied to what is shown. -/
structure Follows (apply : Held.Apply) (apply' : JsonQuery.Apply) : Prop where
  mirrors : ∀ body a v, body.Everywhere Expr.RestoredLiteral → Shows a v →
    Mirrors (Option.Rel Shows) (apply body a) (apply' body v)

namespace Follows

variable {apply : Held.Apply} {apply' : JsonQuery.Apply}

/-! ## Calls -/

section Calls

variable {args items : List Held} {shownArgs values : List Value} {body : Expr}

variable (h : Follows apply apply')
include h

theorem mapped (hbody : body.Everywhere Expr.RestoredLiteral) (hitems : List.Forall₂ Shows items values) :
    Mirrors (Option.Rel (List.Forall₂ Shows)) (allOrNone (apply body) items)
      (allOrNone (apply' body) values) :=
  Mirrors.allOrNone hitems fun _ _ _ hitem => h.mirrors body _ _ hbody hitem

theorem keyedBy (hbody : body.Everywhere Expr.RestoredLiteral)
    (hitems : List.Forall₂ Shows items values) :
    Mirrors (Option.Rel KeyedShow) (Held.keyedBy apply body items)
      (Builtin.keyedBy apply' body values) := by
  refine (h.mapped hbody hitems).bind fun r s hrs => ?_
  cases hrs with
  | none => exact .pure .none
  | some hkeys =>
      exact .pure (rel_map (ensureSortable_shows hkeys) fun _ _ hkeys => keyedShow_zip hkeys hitems)

/-- What is made of keyed values is the same if it is so for all that show them. -/
theorem keyed {result : List (Held × Held) → Held} {result' : List (Value × Value) → Value}
    (hbody : body.Everywhere Expr.RestoredLiteral) (hitems : List.Forall₂ Shows items values)
    (hresult : ∀ keyed shown, KeyedShow keyed shown → Shows (result keyed) (result' shown)) :
    Mirrors (Option.Rel Shows) (do return (← Held.keyedBy apply body items).map result)
      (do return (← Builtin.keyedBy apply' body values).map result') := by
  exact (h.keyedBy hbody hitems).bind fun r s hrs => .pure (rel_map hrs hresult)

/-- **`Follows.call`** — a call comes to the same however its arguments are held. -/
theorem call (f : Builtin) (hargs : List.Forall₂ Shows args shownArgs) :
    Mirrors (Option.Rel Shows) (Held.call apply f args) (f.call apply' shownArgs) := by
  have hcontents : List.Forall₂ Content.Shows (args.map content) shownArgs := by
    rw [List.forall₂_map_left_iff]
    exact hargs.imp fun _ _ harg => harg.content
  unfold Held.call
  generalize args.map content = contents at hcontents
  fun_cases Builtin.call apply' f shownArgs with
  | case1 id body items =>
      obtain _ | ⟨hreference, _ | ⟨harray, ⟨⟩⟩⟩ := hcontents
      cases hreference with
      | reference _ hbody =>
          cases harray with
          | array hitems =>
              exact (h.mapped hbody hitems).bind fun r s hrs =>
                .pure (rel_map hrs fun _ _ hvalues => .ownArray hvalues)
  | case2 items id body =>
      obtain _ | ⟨harray, _ | ⟨hreference, ⟨⟩⟩⟩ := hcontents
      cases hreference with
      | reference _ hbody =>
          cases harray with
          | array hitems => exact h.keyed hbody hitems fun _ _ => sortedValues_shows
  | case3 items id body | case4 items id body =>
      obtain _ | ⟨harray, _ | ⟨hreference, ⟨⟩⟩⟩ := hcontents
      cases hreference with
      | reference _ hbody =>
          cases harray with
          | array hitems => exact h.keyed hbody hitems fun _ _ => bestValue_shows _
  | case5 f shownArgs hmap hsort hmax hmin =>
      -- No reference is applied to what is held either: it would be shown.
      split
      case h_1 =>
        obtain _ | ⟨⟨⟩, _ | ⟨⟨⟩, ⟨⟩⟩⟩ := hcontents
        exact (hmap _ _ _ rfl rfl).elim
      case h_2 =>
        obtain _ | ⟨⟨⟩, _ | ⟨⟨⟩, ⟨⟩⟩⟩ := hcontents
        exact (hsort _ _ _ rfl rfl).elim
      case h_3 =>
        obtain _ | ⟨⟨⟩, _ | ⟨⟨⟩, ⟨⟩⟩⟩ := hcontents
        exact (hmax _ _ _ rfl rfl).elim
      case h_4 =>
        obtain _ | ⟨⟨⟩, _ | ⟨⟨⟩, ⟨⟩⟩⟩ := hcontents
        exact (hmin _ _ _ rfl rfl).elim
      case h_5 => exact .pure (value?_shows f hargs)

end Calls

/-! ## Nodes -/

mutual

/-- **`Follows.interpret`** — at every node the walk on a value as it is held takes the step of the walk on
the value that it shows. -/
theorem interpret (h : Follows apply apply') (e : Expr) {a : Held} {v : Value}
    (he : e.Everywhere Expr.RestoredLiteral) (ha : Shows a v) :
    Mirrors (Option.Rel Shows) (e.interpret apply a) (e.eval apply' v) := by
  cases e with
  | current =>
      simp only [Expr.interpret, Expr.eval]
      exact .guard .none (.pure (.some ha))
  | field name =>
      simp only [Expr.interpret, Expr.eval]
      exact .guard .none (.pure (.some (Shows.getD (ha.get? name))))
  | index i =>
      simp only [Expr.interpret, Expr.eval]
      exact .guard .none (.pure (.some (ha.element i)))
  | slice s =>
      have hslice := ha.slice s
      simp only [Expr.interpret, Expr.eval]
      refine .guard .none ?_
      cases hitems : v.items? with
      | none =>
          rw [hitems] at hslice
          exact .pure (.some hslice)
      | some items =>
          rw [hitems] at hslice
          exact .pure (.some hslice)
  | literal json =>
      simp only [Expr.interpret, Expr.eval]
      exact .guard .none (.pure (.some (shows_ofJson he.self)))
  | reference id body =>
      simp only [Expr.interpret, Expr.eval]
      exact .guard .none (.pure (.some (.reference id (he.part List.mem_cons_self))))
  | chain left right =>
      have hleft : left.Everywhere Expr.RestoredLiteral := he.part List.mem_cons_self
      have hright : right.Everywhere Expr.RestoredLiteral :=
        he.part (List.mem_cons_of_mem _ List.mem_cons_self)
      simp only [Expr.interpret, Expr.eval]
      refine .guard .none ((h.interpret left hleft ha).bind fun r s hrs => ?_)
      cases hrs with
      | none => exact .pure .none
      | some hbase => exact h.interpret right hright hbase
  | project kind left right =>
      obtain ⟨hleft, hright, hkind⟩ := he.project
      simp only [Expr.interpret, Expr.eval]
      refine .guard .none ((h.interpret left hleft ha).bind fun r s hrs => ?_)
      cases hrs with
      | none => exact .pure .none
      | some hbase =>
          refine (h.projected kind hkind hbase).bind fun r s hrs => ?_
          cases hrs with
          | none => exact .pure (.some .null)
          | some helements =>
              have hwalk := Mirrors.forEach helements fun _ _ _ hitem =>
                h.interpret right hright hitem
              exact hwalk.bind fun results outcomes hresults =>
                .pure (.some (.ownArray (present_shows hresults)))
  | list items =>
      simp only [Expr.interpret, Expr.eval, ha.isNull_eq]
      refine .guard .none ?_
      split
      · exact .pure (.some .null)
      · exact (h.interpretItems items (fun item => he.part) ha).bind fun values shown hvalues =>
          .pure (.some (.ownArray hvalues))
  | hash entries =>
      simp only [Expr.interpret, Expr.eval, ha.isNull_eq]
      refine .guard .none ?_
      split
      · exact .pure (.some .null)
      · have hparts : ∀ entry ∈ entries, entry.2.Everywhere Expr.RestoredLiteral :=
          fun entry hentry => he.part (List.mem_map_of_mem hentry)
        exact (h.interpretEntries entries hparts ha).bind fun values shown hvalues =>
          .pure (.some hvalues.ownObject)
  | binary op left right =>
      have hleft : left.Everywhere Expr.RestoredLiteral := he.part List.mem_cons_self
      have hright : right.Everywhere Expr.RestoredLiteral :=
        he.part (List.mem_cons_of_mem _ List.mem_cons_self)
      simp only [Expr.interpret, Expr.eval]
      refine .guard .none ((h.interpret left hleft ha).bind fun r s hrs => ?_)
      cases hrs with
      | none => exact .pure .none
      | @some b w hb =>
          have hshort := hb.shortCircuit op
          dsimp only
          generalize b.shortCircuit op = result at hshort ⊢
          generalize op.shortCircuit w = result' at hshort ⊢
          cases hshort with
          | some hresult => exact .pure (.some hresult)
          | none =>
              refine (h.interpret right hright ha).bind fun r s hrs => ?_
              cases hrs with
              | none => exact .pure .none
              | some hother => exact .pure (hb.binary hother op)
  | unary op operand =>
      simp only [Expr.interpret, Expr.eval]
      refine .guard .none ((h.interpret operand (he.part List.mem_cons_self) ha).bind
        fun r s hrs => ?_)
      cases hrs with
      | none => exact .pure .none
      | some hb => exact .pure (hb.unary op)
  | pipe left right =>
      have hleft : left.Everywhere Expr.RestoredLiteral := he.part List.mem_cons_self
      have hright : right.Everywhere Expr.RestoredLiteral :=
        he.part (List.mem_cons_of_mem _ List.mem_cons_self)
      simp only [Expr.interpret, Expr.eval]
      exact .guard .none ((h.interpret left hleft ha).bind
        fun r s hrs => h.interpret right hright (Shows.getD hrs))
  | call function args =>
      simp only [Expr.interpret, Expr.eval]
      refine .guard .none ((h.interpretArgs args (fun arg => he.part) ha).bind fun r s hrs => ?_)
      cases hrs with
      | none => exact .pure .none
      | some hvalues => exact h.call function.body hvalues

theorem projected (h : Follows apply apply') (kind : Projection) {a : Held} {v : Value}
    (hkind : ∀ predicate, kind = .filter predicate → predicate.Everywhere Expr.RestoredLiteral)
    (ha : Shows a v) :
    Mirrors (Option.Rel (List.Forall₂ Shows)) (kind.projected apply a) (kind.elements apply' v) := by
  have hitems := ha.items?
  cases kind with
  | list =>
      simp only [Projection.projected, Projection.elements]
      exact .pure hitems
  | object =>
      simp only [Projection.projected, Projection.elements]
      exact .pure (rel_map ha.entries? fun _ _ hentries => hentries.values_show)
  | flatten =>
      simp only [Projection.projected, Projection.elements]
      exact .pure (rel_map hitems fun _ _ => flatten_shows)
  | filter predicate =>
      simp only [Projection.projected, Projection.elements]
      generalize a.items? = r at hitems ⊢
      generalize v.items? = s at hitems ⊢
      cases hitems with
      | none => exact .pure .none
      | some hitems =>
          have hkept := Mirrors.keepWhere hitems fun _ _ _ hitem =>
            (h.interpret predicate (hkind predicate rfl) hitem).bind
              fun r s hrs => Mirrors.pure (truth_eq hrs)
          exact hkept.bind fun kept shown hkept => .pure (.some hkept)

theorem interpretItems (h : Follows apply apply') (items : List Expr) {a : Held} {v : Value}
    (hitems : ∀ item ∈ items, item.Everywhere Expr.RestoredLiteral) (ha : Shows a v) :
    Mirrors (List.Forall₂ Shows) (Expr.interpretItems apply items a)
      (Expr.evalItems apply' items v) := by
  cases items with
  | nil =>
      simp only [Expr.interpretItems, Expr.evalItems]
      exact .pure .nil
  | cons item rest =>
      obtain ⟨hitem, hrest⟩ := List.forall_mem_cons.mp hitems
      simp only [Expr.interpretItems, Expr.evalItems]
      exact (h.interpret item hitem ha).bind fun r s hrs =>
        (h.interpretItems rest hrest ha).bind fun values shown hvalues =>
          .pure (.cons (Shows.getD hrs) hvalues)

theorem interpretEntries (h : Follows apply apply') (entries : List (String × Expr)) {a : Held}
    {v : Value} (hentries : ∀ entry ∈ entries, entry.2.Everywhere Expr.RestoredLiteral) (ha : Shows a v) :
    Mirrors EntriesShow (Expr.interpretEntries apply entries a)
      (Expr.evalEntries apply' entries v) := by
  match entries with
  | [] =>
      simp only [Expr.interpretEntries, Expr.evalEntries]
      exact .pure .nil
  | (name, item) :: rest =>
      obtain ⟨hitem, hrest⟩ := List.forall_mem_cons.mp hentries
      simp only [Expr.interpretEntries, Expr.evalEntries]
      exact (h.interpret item hitem ha).bind fun r s hrs =>
        (h.interpretEntries rest hrest ha).bind fun values shown hvalues =>
          .pure (.cons ⟨rfl, Shows.getD hrs⟩ hvalues)

theorem interpretArgs (h : Follows apply apply') (args : List Expr) {a : Held} {v : Value}
    (hargs : ∀ arg ∈ args, arg.Everywhere Expr.RestoredLiteral) (ha : Shows a v) :
    Mirrors (Option.Rel (List.Forall₂ Shows)) (Expr.interpretArgs apply args a)
      (Expr.evalArgs apply' args v) := by
  cases args with
  | nil =>
      simp only [Expr.interpretArgs, Expr.evalArgs]
      exact .pure (.some .nil)
  | cons arg rest =>
      obtain ⟨harg, hrest⟩ := List.forall_mem_cons.mp hargs
      simp only [Expr.interpretArgs, Expr.evalArgs]
      refine (h.interpret arg harg ha).bind fun r s hrs => ?_
      cases hrs with
      | none => exact .pure .none
      | some hvalue =>
          refine (h.interpretArgs rest hrest ha).bind fun r s hrs => ?_
          cases hrs with
          | none => exact .pure .none
          | some hvalues => exact .pure (.some (.cons hvalue hvalues))

end

end Follows

/-! ## Runs -/

/-- **`follows_interpretAt`** — however deep references nest. -/
theorem follows_interpretAt (n : Nat) : Follows (Expr.interpretAt n) (Expr.evalAt n) := by
  induction n with
  | zero => exact ⟨fun _ _ _ _ _ => .diverge⟩
  | succ n ih => exact ⟨fun body a v hbody ha => ih.interpret body hbody ha⟩

/-- **`alike_interpretAt`** — on two ways to hold one value an expression takes the same steps, and it
comes to two ways to hold one value. -/
theorem alike_interpretAt (n : Nat) {e : Expr} {a b : Held} {v : Value}
    (he : e.Everywhere Expr.RestoredLiteral) (ha : Shows a v) (hb : Shows b v) :
    Mirrors (Option.Rel fun h k => ∃ w, Shows h w ∧ Shows k w) (Expr.interpretAt n e a)
      (Expr.interpretAt n e b) := by
  have hleft := (follows_interpretAt n).mirrors e a v he ha
  have hright := (follows_interpretAt n).mirrors e b v he hb
  refine (hleft.through hright).imp ?_
  rintro r s ⟨found, hr, hs⟩
  cases hr with
  | none =>
      cases hs
      exact .none
  | some hr =>
      cases hs with
      | some hs => exact .some ⟨_, hr, hs⟩

end Held

/-! ## Searches -/

/-- From the view of a document an expression comes to nothing where it does from the value of the
document, and else to a way to hold what it comes to from there, after the same progress. -/
theorem Expr.interpretAt_evalAt (n : Nat) {e : Expr} {document : Json} (c : Context)
    (hdocument : document.IsRestored) (he : e.Everywhere RestoredLiteral) :
    (interpretAt n e (.ofJson document) c {} = none ∧
      evalAt n e (.ofJson document) c {} = none) ∨
    ∃ held value progress, interpretAt n e (.ofJson document) c {} = some (held, progress) ∧
      evalAt n e (.ofJson document) c {} = some (value, progress) ∧ Option.Rel Shows held value :=
  (Held.follows_interpretAt n).mirrors e _ _ he (Held.shows_ofJson hdocument) {} rfl

/-- **`e.ProperLiteral`** — the document is in form, if the node is a literal. -/
def Expr.ProperLiteral : Expr → Prop
  | .literal json => json.isProper = true
  | _ => True

theorem Expr.everywhere_restoredLiteral {e : Expr} (h : e.Everywhere ProperLiteral) :
    e.Everywhere RestoredLiteral := by
  intro node hnode
  have hproper := h node hnode
  cases node with
  | literal json => exact Json.isRestored_of_isProper hproper
  | _ => trivial

namespace Query

variable {q : Query} {document : Json} {options : Options}

/-- A search on a view ends as the search on the value of the document does: with the same error, or
with the same progress and a way to hold what that one comes to. -/
theorem interpret_evaluate (hdocument : document.IsRestored)
    (hq : q.expr.Everywhere Expr.RestoredLiteral) :
    (∃ e, q.interpret document options = .error e ∧ q.evaluate document options = .error e) ∨
      ∃ held value progress, q.interpret document options = .ok (held, progress) ∧
        q.evaluate document options = .ok (value, progress) ∧ Option.Rel Shows held value := by
  let context : Context := ⟨.ofJson document, options⟩
  have hinterpret : q.expr.runHeld (.ofJson document) context {} =
      Expr.interpretAt context.referenceDepth q.expr (.ofJson document) context {} := rfl
  have hevaluate : (do q.expr.run (← Evaluation.root)) context {} =
      Expr.evalAt context.referenceDepth q.expr (.ofJson document) context {} := rfl
  unfold interpret evaluate Evaluation.complete
  rw [hinterpret, hevaluate]
  obtain ⟨hleft, hright⟩ | ⟨held, value, progress, hleft, hright, hshows⟩ :=
    Expr.interpretAt_evalAt context.referenceDepth context hdocument hq
  · rw [hleft, hright]
    exact .inl ⟨.referencesTooDeep, rfl, rfl⟩
  · rw [hleft, hright]
    dsimp only
    cases options.stepBudget with
    | none => exact .inr ⟨held, value, progress, rfl, rfl, hshows⟩
    | some budget =>
        dsimp only
        split
        · exact .inl ⟨.budgetExhausted budget, rfl, rfl⟩
        · exact .inr ⟨held, value, progress, rfl, rfl, hshows⟩

/-- What is written for a result, `null` if there is none. -/
theorem toJson_getD_eq {held : Option Held} {value : Option Value}
    (h : Option.Rel Shows held value) :
    (held.map Held.toJson).getD .null = (value.map Value.toJson).getD .null := by
  cases h with
  | none => rfl
  | some hshows => exact hshows.toJson_eq

/-- **`find_eq_search`** — within all limits, a query finds in the view of a document what it finds in
the value of the document. -/
theorem find_eq_search (hdocument : document.IsRestored)
    (hq : q.expr.Everywhere Expr.RestoredLiteral) :
    q.find document options = q.search document options := by
  unfold find search
  obtain ⟨e, hleft, hright⟩ | ⟨held, value, progress, hleft, hright, hshows⟩ :=
    @interpret_evaluate q document options hdocument hq
  · rw [hleft, hright]
    rfl
  · rw [hleft, hright]
    exact congrArg Except.ok (toJson_getD_eq hshows)

end Query

end JsonQuery
