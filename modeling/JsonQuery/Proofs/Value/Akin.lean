/-
# JsonQuery.Proofs.Value.Akin — values apart from the order of their entries.

Two values are akin if they are the same once the entries of all objects in them are sorted by name.
Sorting keeps the entries of one name in their order, so what objects that are akin have under a name is
akin entry by entry: the first of them, which a look-up finds, and the last of them, which is written.
What operators see of a value is the same for all values that are akin, and what they give is akin again.
-/
import JsonQuery.Expr.Eval
import JsonQuery.Proofs.Value.Equality

namespace JsonQuery

namespace Value

/-- **`v.Akin w`** — `v` and `w` differ in the order of the entries of objects alone. -/
def Akin (v w : Value) : Prop := v.sorted = w.sorted

variable {v w u a b a' b' : Value} {items others : List Value} {entries more : Entries Value}

theorem Akin.refl (v : Value) : v.Akin v := rfl

theorem Akin.symm (h : v.Akin w) : w.Akin v := Eq.symm h

theorem Akin.trans (huv : u.Akin v) (hvw : v.Akin w) : u.Akin w := Eq.trans huv hvw

theorem akin_array : (Value.array items).Akin (.array others) ↔ List.Forall₂ Akin items others := by
  show Value.array (sortedItems items) = .array (sortedItems others) ↔ _
  rw [array.injEq, sortedItems_eq_map, sortedItems_eq_map, ← List.forall₂_eq_eq_eq,
    List.forall₂_map_left_iff, List.forall₂_map_right_iff]
  rfl

/-- Kinship of results, of which there may be none. -/
theorem rel_refl (r : Option Value) : Option.Rel Akin r r := by
  cases r with
  | none => exact .none
  | some v => exact .some (.refl v)

theorem getElem?_akin (h : List.Forall₂ Akin items others) (i : Nat) :
    Option.Rel Akin items[i]? others[i]? := by
  induction h generalizing i with
  | nil => exact .none
  | cons hhead _ ih =>
      cases i with
      | zero => exact .some hhead
      | succ i => exact ih i

theorem getLast?_akin (h : List.Forall₂ Akin items others) :
    Option.Rel Akin items.getLast? others.getLast? := by
  rw [List.getLast?_eq_getElem?, List.getLast?_eq_getElem?, h.length_eq]
  exact getElem?_akin h _

/-- **`Shape v w`** — what two values that are akin can be. -/
inductive Shape : Value → Value → Prop where
  | leaf {v : Value} : v.items? = none → v.entries? = none → Shape v v
  | array {items others : List Value} : List.Forall₂ Akin items others →
      Shape (.array items) (.array others)
  | object {entries more : Entries Value} : (Value.object entries).Akin (.object more) →
      Shape (.object entries) (.object more)

theorem Akin.shape (h : v.Akin w) : Shape v w := by
  cases v with
  | null | bool | number | string | reference =>
      cases w with
      | null | bool | number | string | reference => cases h <;> exact .leaf rfl rfl
      | array | object => cases h
  | array items =>
      cases w with
      | array others => exact .array (akin_array.mp h)
      | null | bool | number | string | object | reference => cases h
  | object entries =>
      cases w with
      | object more => exact .object h
      | null | bool | number | string | array | reference => cases h

/-! ## Entries of one name -/

/-- The values of the entries of a name, in their order. -/
def valuesOf (entries : Entries Value) (name : String) : List Value :=
  (entries.filter (·.1 == name)).map (·.2)

theorem get?_eq_head? (entries : Entries Value) (name : String) :
    entries.get? name = (valuesOf entries name).head? := by
  induction entries with
  | nil => rfl
  | cons entry rest ih =>
      rw [Entries.get?, valuesOf, List.filter_cons]
      by_cases hname : entry.1 = name
      · rw [if_pos hname, if_pos (beq_iff_eq.mpr hname)]
        rfl
      · rw [if_neg hname, if_neg (by simpa using hname)]
        exact ih

theorem get?_reverse_eq_getLast? (entries : Entries Value) (name : String) :
    Entries.get? entries.reverse name = (valuesOf entries name).getLast? := by
  rw [get?_eq_head?, valuesOf, valuesOf, List.filter_reverse, List.map_reverse, List.head?_reverse]

/-- Sorting keeps the entries of one name in their order. -/
theorem filter_sortEntries (entries : Entries Value) (name : String) :
    (sortEntries entries).filter (·.1 == name) = entries.filter (·.1 == name) := by
  have hpairwise : (entries.filter (·.1 == name)).Pairwise
      fun e f => decide (e.1 ≤ f.1) = true := by
    refine List.Pairwise.imp_mem.mpr (List.pairwise_of_forall fun e f he hf => ?_)
    have hefirst : e.1 = name := eq_of_beq (List.mem_filter.mp he).2
    have hfsecond : f.1 = name := eq_of_beq (List.mem_filter.mp hf).2
    rw [hefirst, hfsecond]
    exact decide_eq_true (String.le_refl name)
  -- Entries that are in order already stay in their order among the sorted ones.
  have hsublist : (entries.filter (·.1 == name)).Sublist (sortEntries entries) := by
    refine List.sublist_mergeSort ?_ byName_total hpairwise List.filter_sublist
    intro e f g
    exact byName_trans
  have hfilter := hsublist.filter (·.1 == name)
  rw [List.filter_filter] at hfilter
  simp only [Bool.and_self] at hfilter
  have hlength := ((sortEntries_perm entries).filter (·.1 == name)).length_eq
  exact (hfilter.eq_of_length hlength.symm).symm

/-- **`forall₂_valuesOf`** — what objects that are akin have under a name is akin, entry by entry. -/
theorem forall₂_valuesOf (h : (Value.object entries).Akin (.object more)) (name : String) :
    List.Forall₂ Akin (valuesOf entries name) (valuesOf more name) := by
  have hvalues : ∀ entries : Entries Value, (valuesOf entries name).map sorted =
      ((sortEntries (sortedEntries entries)).filter (·.1 == name)).map (·.2) := by
    intro entries
    rw [filter_sortEntries, sortedEntries_eq_map, List.filter_map, valuesOf, List.map_map,
      List.map_map]
    rfl
  rw [← akin_array]
  show Value.array (sortedItems _) = .array (sortedItems _)
  rw [sortedItems_eq_map, sortedItems_eq_map, hvalues, hvalues, object.inj h]

/-- Akin objects have as many entries. -/
theorem Akin.length_entries (h : (Value.object entries).Akin (.object more)) :
    entries.length = more.length := by
  have hlength : ∀ entries : Entries Value,
      (sortEntries (sortedEntries entries)).length = entries.length := by
    intro entries
    rw [(sortEntries_perm _).length_eq, sortedEntries_eq_map, List.length_map]
  rw [← hlength entries, ← hlength more, object.inj h]

/-- Objects that repeat no name are akin if look-ups find the same in them. -/
theorem akin_object_of_get? (hentries : entries.names.Nodup) (hmore : more.names.Nodup)
    (h : ∀ name, Option.Rel Akin (entries.get? name) (more.get? name)) :
    (Value.object entries).Akin (.object more) := by
  have hnames : ∀ name, name ∈ entries.names ↔ name ∈ more.names := by
    intro name
    have hnone : ∀ {r s : Option Value}, Option.Rel Akin r s → (r = none ↔ s = none) := by
      intro r s hrel
      cases hrel <;> simp
    rw [← not_iff_not, ← Entries.get?_eq_none_iff, ← Entries.get?_eq_none_iff]
    exact hnone (h name)
  have hsorted : List.Forall₂ (fun e f => e.1 = f.1 ∧ e.2.Akin f.2) (sortEntries entries)
      (sortEntries more) := by
    refine forall₂_sortEntries hentries hmore hnames fun name v w hv hw => ?_
    have hakin := h name
    rw [hv, hw] at hakin
    cases hakin with
    | some hakin => exact hakin
  show Value.object (sortEntries (sortedEntries _)) = .object (sortEntries (sortedEntries _))
  rw [sortEntries_sortedEntries, sortEntries_sortedEntries, object.injEq, ← List.forall₂_eq_eq_eq,
    List.forall₂_map_left_iff, List.forall₂_map_right_iff]
  exact hsorted.imp fun e f h => Prod.ext h.1 h.2

/-- Objects whose entries have the same names and values that are akin, one by one, are akin. -/
theorem akin_object_of_forall₂
    (h : List.Forall₂ (fun e f => e.1 = f.1 ∧ e.2.Akin f.2) entries more) :
    (Value.object entries).Akin (.object more) := by
  have hsorted : sortedEntries entries = sortedEntries more := by
    rw [sortedEntries_eq_map, sortedEntries_eq_map, ← List.forall₂_eq_eq_eq,
      List.forall₂_map_left_iff, List.forall₂_map_right_iff]
    exact h.imp fun e f h => Prod.ext h.1 h.2
  show Value.object (sortEntries (sortedEntries _)) = .object (sortEntries (sortedEntries _))
  rw [hsorted]

/-! ## What is seen of a value -/

theorem Akin.kind_eq (h : v.Akin w) : v.kind = w.kind := by
  cases h.shape with
  | leaf | array | object => rfl

theorem Akin.isNull_eq (h : v.Akin w) : v.isNull = w.isNull := by
  cases h.shape with
  | leaf | array | object => rfl

theorem Akin.isTruthy_eq (h : v.Akin w) : v.isTruthy = w.isTruthy := by
  cases h.shape with
  | leaf => rfl
  | array hitems => cases hitems <;> rfl
  | @object entries more hobject =>
      have hlength := hobject.length_entries
      cases entries <;> cases more <;> simp_all [isTruthy]

theorem Akin.items? (h : v.Akin w) : Option.Rel (List.Forall₂ Akin) v.items? w.items? := by
  cases h.shape with
  | leaf hitems =>
      rw [hitems]
      exact .none
  | array hitems => exact .some hitems
  | object => exact .none

theorem Akin.get? (h : v.Akin w) (name : String) : Option.Rel Akin (v.get? name) (w.get? name) := by
  cases h.shape with
  | leaf _ hentries =>
      rw [Value.get?, hentries]
      exact .none
  | array => exact .none
  | object hobject =>
      show Option.Rel Akin (Entries.get? _ name) (Entries.get? _ name)
      rw [get?_eq_head?, get?_eq_head?, List.head?_eq_getElem?, List.head?_eq_getElem?]
      exact getElem?_akin (forall₂_valuesOf hobject name) 0

/-- Numbers and strings are akin only if they are the same. -/
theorem Akin.eq_of_kind (h : v.Akin w) (hv : v.kind = .number ∨ v.kind = .string) : v = w := by
  cases h.shape with
  | leaf => rfl
  | array | object => simp [kind] at hv

theorem Akin.number?_eq (h : v.Akin w) : v.number? = w.number? := by
  cases h.shape with
  | leaf | array | object => rfl

theorem Akin.string?_eq (h : v.Akin w) : v.string? = w.string? := by
  cases h.shape with
  | leaf | array | object => rfl

/-! ## Operators -/

theorem Akin.same_eq (ha : a.Akin a') (hb : b.Akin b') : a.same b = a'.same b' := by
  rw [same, same, ha, hb]

theorem Akin.compare_eq (ha : a.Akin a') (hb : b.Akin b') : a.compare b = a'.compare b' := by
  cases ha.shape with
  | leaf =>
      cases hb.shape with
      | leaf => rfl
      | array | object => cases a <;> rfl
  | array | object => rfl

theorem Akin.arithmetic (ha : a.Akin a') (hb : b.Akin b')
    (f : Number → Number → Option Number) :
    Option.Rel Akin (Value.arithmetic f a b) (Value.arithmetic f a' b') := by
  have heq : Value.arithmetic f a b = Value.arithmetic f a' b' := by
    cases ha.shape with
    | leaf =>
        cases hb.shape with
        | leaf => rfl
        | array | object => cases a <;> rfl
    | array | object => rfl
  rw [heq]
  exact rel_refl _

end Value

open Value

variable {a b a' b' : Value}

theorem BinaryOperator.shortCircuit_akin (op : BinaryOperator) (ha : a.Akin a') :
    Option.Rel Akin (op.shortCircuit a) (op.shortCircuit a') := by
  have htruth := ha.isTruthy_eq
  cases op with
  | or | and =>
      simp only [shortCircuit, htruth]
      split
      · first | exact .some ha | exact .none
      · first | exact .some ha | exact .none
  | _ => exact .none

theorem BinaryOperator.apply_akin (op : BinaryOperator) (ha : a.Akin a') (hb : b.Akin b') :
    Option.Rel Akin (op.apply a b) (op.apply a' b') := by
  have htruth := ha.isTruthy_eq
  cases op with
  | or | and =>
      simp only [apply, htruth]
      refine .some ?_
      split <;> assumption
  | equal | notEqual =>
      simp only [apply, ha.same_eq hb]
      exact .some (.refl _)
  | lessThan | lessEqual | greaterThan | greaterEqual =>
      simp only [apply, compareValues, ha.compare_eq hb]
      exact .some (.refl _)
  | add | subtract | multiply | divide | modulo | integerDivide => exact ha.arithmetic hb _

theorem UnaryOperator.apply_akin (op : UnaryOperator) (ha : a.Akin a') :
    Option.Rel Akin (op.apply a) (op.apply a') := by
  cases op with
  | not =>
      simp only [apply, ha.isTruthy_eq]
      exact .some (.refl _)
  | minus =>
      simp only [apply, ha.number?_eq]
      exact rel_refl _

/-! ## Steps and projections -/

namespace Value

variable {items others : List Value}

theorem Akin.getD {r s : Option Value} (h : Option.Rel Akin r s) :
    (r.getD .null).Akin (s.getD .null) := by
  cases h with
  | none => exact .refl _
  | some h => exact h

theorem truth_eq {r s : Option Value} (h : Option.Rel Akin r s) :
    (r.map isTruthy).getD false = (s.map isTruthy).getD false := by
  cases h with
  | none => rfl
  | some h => exact h.isTruthy_eq

theorem index_akin {v w : Value} (h : v.Akin w) (i : Int) :
    Option.Rel Akin (do let items ← v.items?; items[← normalizeIndex i items.length]?)
      (do let items ← w.items?; items[← normalizeIndex i items.length]?) := by
  have hitems := h.items?
  generalize v.items? = r at hitems ⊢
  generalize w.items? = s at hitems ⊢
  cases hitems with
  | none => exact .none
  | @some items others hitems =>
      simp only [Option.bind_eq_bind, Option.bind_some, hitems.length_eq]
      cases normalizeIndex i others.length with
      | none => exact .none
      | some j => exact getElem?_akin hitems j

/-- The items at some places, where there are any. -/
theorem filterMap_getElem?_akin (h : List.Forall₂ Akin items others) (places : List Nat) :
    List.Forall₂ Akin (places.filterMap (items[·]?)) (places.filterMap (others[·]?)) := by
  have hplaces : List.Forall₂ Eq places places := List.forall₂_refl places
  refine List.rel_filterMap (fun i j hij => ?_) hplaces
  exact hij ▸ getElem?_akin h i

theorem flatten_akin (h : List.Forall₂ Akin items others) :
    List.Forall₂ Akin (flatten items) (flatten others) := by
  induction h with
  | nil => exact .nil
  | @cons v w rest more hhead _ ih =>
      cases hhead.shape with
      | array hinner => exact List.rel_append hinner ih
      | object hobject => exact .cons hobject ih
      | leaf hitems =>
          have hflatten : ∀ rest, flatten (v :: rest) = v :: flatten rest := by
            intro rest
            cases v with
            | array items => cases hitems
            | null | bool | number | string | object | reference => rfl
          rw [hflatten, hflatten]
          exact .cons (.refl v) ih

theorem present_akin {results outcomes : List (Option Value)}
    (h : List.Forall₂ (Option.Rel Akin) results outcomes) :
    List.Forall₂ Akin (present results) (present outcomes) := by
  refine List.rel_filterMap (fun r s hrel => ?_) h
  cases hrel with
  | none => exact .none
  | some hakin =>
      simp only [hakin.isNull_eq]
      split
      · exact .none
      · exact .some hakin

end Value

end JsonQuery
