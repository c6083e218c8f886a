/-
# JsonQuery.Proofs.Value.Hereditary — properties that values hand down to their parts.

Evaluation takes values apart, sorts them, merges them and puts them together in arrays.  A property that
an array has exactly if its items have it, and an object without repeated names if its values have it,
outlives all of this: no operation makes a reference of its own, and the only objects that operations
make are merged ones.  What is said of all references in a value is such a property.
-/
import JsonQuery.Function.Call
import JsonQuery.Value.Operation
import JsonQuery.Expr.Eval
import JsonQuery.Proofs.Json.Entries

namespace JsonQuery

/-! ## Values within values -/

/-- **`w.Within v`** — `w` is `v` or stands somewhere in it. -/
inductive Value.Within (w : Value) : Value → Prop where
  | self : Within w w
  | item {v : Value} {items : List Value} : v ∈ items → Within w v → Within w (.array items)
  | entry {entry : String × Value} {entries : List (String × Value)} :
      entry ∈ entries → Within w entry.2 → Within w (.object entries)

/-- **`Hereditary S`** — values with the property `S` hand it down to their parts; arrays and objects
without repeated names have it from them. -/
structure Value.Hereditary (S : Value → Prop) : Prop where
  null : S .null
  bool : ∀ b, S (.bool b)
  number : ∀ n, S (.number n)
  string : ∀ s, S (.string s)
  array : ∀ {items}, S (.array items) ↔ ∀ v ∈ items, S v
  values : ∀ {entries}, S (.object entries) → ∀ entry ∈ entries, S entry.2
  object : ∀ {entries : Entries Value}, entries.names.Nodup → (∀ entry ∈ entries, S entry.2) →
    S (.object entries)

namespace Value.Hereditary

variable {S : Value → Prop}

theorem within (hS : Hereditary S) {v w : Value} (hw : w.Within v) (h : S v) : S w := by
  induction hw with
  | self => exact h
  | item hmem _ ih => exact ih (hS.array.mp h _ hmem)
  | entry hmem _ ih => exact ih (hS.values h _ hmem)

/-! ## Parts -/

theorem items (hS : Hereditary S) {v : Value} {items : List Value} (h : S v)
    (hitems : v.items? = some items) : ∀ w ∈ items, S w := by
  cases v with
  | array own =>
      obtain rfl := Option.some.inj hitems
      exact hS.array.mp h
  | null | bool | number | string | object | reference => cases hitems

theorem entries (hS : Hereditary S) {v : Value} {entries : Entries Value} (h : S v)
    (hentries : v.entries? = some entries) : ∀ entry ∈ entries, S entry.2 := by
  cases v with
  | object own =>
      obtain rfl := Option.some.inj hentries
      exact hS.values h
  | null | bool | number | string | array | reference => cases hentries

theorem get? (hS : Hereditary S) {v w : Value} {name : String} (h : S v)
    (hget : v.get? name = some w) : S w := by
  obtain ⟨entries, hentries, hfound⟩ := Option.bind_eq_some_iff.mp hget
  exact hS.entries h hentries _ (Entries.mem_of_get? hfound)

theorem flatten (hS : Hereditary S) {items : List Value} (h : ∀ v ∈ items, S v) :
    ∀ v ∈ Value.flatten items, S v := by
  fun_induction Value.flatten items with
  | case1 => exact h
  | case2 inner rest ih =>
      obtain ⟨hinner, hrest⟩ := List.forall_mem_cons.mp h
      intro v hv
      rcases List.mem_append.mp hv with hv | hv
      · exact hS.array.mp hinner v hv
      · exact ih hrest v hv
  | case3 item rest _ ih =>
      obtain ⟨hitem, hrest⟩ := List.forall_mem_cons.mp h
      exact List.forall_mem_cons.mpr ⟨hitem, ih hrest⟩

theorem getD (hS : Hereditary S) {r : Option Value} (h : ∀ v ∈ r, S v) : S (r.getD .null) := by
  cases r with
  | none => exact hS.null
  | some v => exact h v rfl

/-! ## Operators -/

theorem binary (hS : Hereditary S) {op : BinaryOperator} {a b v : Value} (ha : S a) (hb : S b)
    (h : op.apply a b = some v) : S v := by
  have harithmetic : ∀ f, Value.arithmetic f a b = some v → S v := by
    intro f hf
    unfold Value.arithmetic at hf
    split at hf
    · obtain ⟨n, -, rfl⟩ := Option.map_eq_some_iff.mp hf
      exact hS.number n
    · cases hf
  have hcompare : ∀ op : BinaryOperator, S (op.compareValues a b) := by
    intro op
    unfold BinaryOperator.compareValues
    split
    · exact hS.null
    · exact hS.bool _
  cases op with
  | or | and =>
      obtain rfl := Option.some.inj h
      split <;> assumption
  | equal | notEqual =>
      obtain rfl := Option.some.inj h
      exact hS.bool _
  | lessThan | lessEqual | greaterThan | greaterEqual =>
      obtain rfl := Option.some.inj h
      exact hcompare _
  | add | subtract | multiply | divide | modulo | integerDivide => exact harithmetic _ h

theorem unary (hS : Hereditary S) {op : UnaryOperator} {a v : Value} (h : op.apply a = some v) :
    S v := by
  cases op with
  | not =>
      obtain rfl := Option.some.inj h
      exact hS.bool _
  | minus =>
      obtain ⟨n, -, rfl⟩ := Option.map_eq_some_iff.mp h
      exact hS.number _

end Value.Hereditary

theorem BinaryOperator.shortCircuit_eq {op : BinaryOperator} {a v : Value}
    (h : op.shortCircuit a = some v) : v = a := by
  cases op <;> simp only [shortCircuit, reduceCtorEq] at h <;> split at h <;> simp_all

theorem Value.mem_of_mem_present {results : List (Option Value)} {v : Value}
    (h : v ∈ present results) : some v ∈ results := by
  obtain ⟨r, hr, hkept⟩ := List.mem_filterMap.mp h
  cases r with
  | none => cases hkept
  | some w =>
      obtain ⟨-, hkept⟩ := Option.ite_none_left_eq_some.mp hkept
      exact Option.some.inj hkept ▸ hr

/-! ## Functions -/

namespace Builtin

theorem eq_of_ensureSortable {values sorted : List Value} (h : ensureSortable values = some sorted) :
    sorted = values :=
  (Option.some.inj (Option.ite_none_right_eq_some.mp h).2).symm

theorem bestOf_mem {wanted : Ordering} {items : List Value} {best : Value}
    (h : bestOf wanted items = some best) : best ∈ items := by
  cases items with
  | nil => cases h
  | cons first rest =>
      obtain rfl := Option.some.inj h
      -- The best so far is the first value or one that has been passed.
      induction rest generalizing first with
      | nil => exact List.mem_cons_self
      | cons next rest ih =>
          simp only [List.foldl_cons]
          rcases List.mem_cons.mp (ih (if ordering next first == wanted then next else first) rfl)
            with hbest | hbest
          · rw [hbest]
            split <;> simp
          · exact List.mem_cons_of_mem _ (List.mem_cons_of_mem _ hbest)

/-- The better of two keyed values is one of them. -/
theorem better_eq {wanted : Ordering} {best : Option (Value × Value)} {next entry : Value × Value}
    (h : better wanted best next = some entry) : best = some entry ∨ next = entry := by
  cases best with
  | none => exact .inr (Option.some.inj h)
  | some best =>
      rw [better] at h
      split at h
      · exact .inl h
      · exact .inr (Option.some.inj h)

theorem bestOn_mem {wanted : Ordering} {keyed : List (Value × Value)} {best : Value × Value}
    (h : bestOn wanted keyed = some best) : best ∈ keyed := by
  have hfold : ∀ before, keyed.foldl (better wanted) before = some best →
      before = some best ∨ best ∈ keyed := by
    clear h
    induction keyed with
    | nil => exact fun _ => .inl
    | cons next rest ih =>
        intro before h
        rcases ih _ h with hbetter | hmem
        · rcases better_eq hbetter with hbefore | rfl
          · exact .inl hbefore
          · exact .inr List.mem_cons_self
        · exact .inr (List.mem_cons_of_mem _ hmem)
  exact (hfold none h).resolve_left nofun

/-- What merging each object keeps is true of all arguments merged. -/
theorem mergeAll_preserves {M : Entries Value → Prop} {args : List Value} {merged : Entries Value}
    (h : mergeAll args = some merged) (hnil : M [])
    (hstep : ∀ before entries, Value.object entries ∈ args → M before →
      M (mergeEntries before entries)) : M merged := by
  have hfold : ∀ before : Entries Value, M before →
      args.foldlM (fun merged arg => do return mergeEntries merged (← arg.entries?)) before =
        some merged → M merged := by
    clear h
    induction args with
    | nil =>
        intro before hbefore h
        exact Option.some.inj h ▸ hbefore
    | cons arg rest ih =>
        intro before hbefore h
        obtain ⟨next, hnext, h⟩ := Option.bind_eq_some_iff.mp h
        obtain ⟨own, hentries, hown⟩ := Option.bind_eq_some_iff.mp hnext
        obtain rfl := Option.some.inj hown
        have harg : arg = .object own := by
          cases arg with
          | object entries => exact congrArg Value.object (Option.some.inj hentries)
          | null | bool | number | string | array | reference => cases hentries
        refine ih ?_ _ (hstep before own (harg ▸ List.mem_cons_self) hbefore) h
        intro before entries hmem
        exact hstep before entries (List.mem_cons_of_mem arg hmem)
  exact hfold [] hnil h

theorem nodup_mergeAll {args : List Value} {merged : Entries Value} (h : mergeAll args = some merged) :
    merged.names.Nodup := by
  apply mergeAll_preserves (M := fun merged => merged.names.Nodup) h List.nodup_nil
  intro before entries _ hbefore
  exact Entries.nodup_foldl_put hbefore entries

end Builtin

namespace Value.Hereditary

open Builtin

variable {S : Value → Prop}

theorem sortedValues (hS : Hereditary S) {keyed : List (Value × Value)}
    (h : ∀ entry ∈ keyed, S entry.2) : S (sortedValues keyed) := by
  apply hS.array.mpr
  intro v hv
  obtain ⟨entry, hentry, rfl⟩ := List.mem_map.mp hv
  exact h entry (List.mem_mergeSort.mp hentry)

theorem bestValue (hS : Hereditary S) {wanted : Ordering} {keyed : List (Value × Value)}
    (h : ∀ entry ∈ keyed, S entry.2) : S (bestValue wanted keyed) := by
  apply hS.getD
  intro v hv
  obtain ⟨best, hbest, rfl⟩ := Option.map_eq_some_iff.mp hv
  exact h best (bestOn_mem hbest)

theorem mergeAll (hS : Hereditary S) {args : List Value} {merged : Entries Value}
    (h : ∀ v ∈ args, S v) (hall : mergeAll args = some merged) : ∀ entry ∈ merged, S entry.2 := by
  apply mergeAll_preserves (M := fun merged => ∀ entry ∈ merged, S entry.2) hall
    (List.forall_mem_nil _)
  intro before entries hentries hbefore entry hentry
  rcases Entries.mem_foldl_put hentry with hmem | ⟨own, hown, hvalue⟩
  · exact hbefore entry hmem
  · rw [hvalue]
    exact hS.values (h _ hentries) own hown

/-- **`Hereditary.value?`** — the value of a call that applies no reference is made of its arguments. -/
theorem value? (hS : Hereditary S) {b : Builtin} {args : List Value} {v : Value}
    (h : ∀ arg ∈ args, S arg) (hv : b.value? args = some v) : S v := by
  have hsingle : ∀ {items : List Value}, args = [.array items] → ∀ w ∈ items, S w := by
    rintro items rfl
    exact hS.array.mp (h _ List.mem_cons_self)
  fun_cases Builtin.value? b args with
  | case1 | case3 | case8 | case11 | case12 | case13 | case25 =>
      obtain rfl := Option.some.inj hv
      exact hS.number _
  | case4 | case5 | case7 | case21 =>
      obtain rfl := Option.some.inj hv
      exact hS.bool _
  | case18 | case28 | case30 =>
      obtain rfl := Option.some.inj hv
      exact hS.string _
  | case6 | case27 | case29 =>
      -- These patterns exclude an earlier one.
      rw [Builtin.value?] at hv
      · obtain rfl := Option.some.inj hv
        first | exact hS.bool _ | exact hS.null | exact hS.string _
      all_goals assumption
  | case2 items =>
      obtain ⟨numbers, -, hmean⟩ := Option.bind_eq_some_iff.mp hv
      simp only [mean] at hmean
      split at hmean
      · obtain rfl := Option.some.inj hmean
        exact hS.null
      · obtain ⟨sum, -, hmean⟩ := Option.bind_eq_some_iff.mp hmean
        obtain ⟨n, -, hn⟩ := Option.bind_eq_some_iff.mp hmean
        obtain rfl := Option.some.inj hn
        exact hS.number n
  | case9 glue items =>
      obtain ⟨texts, -, htext⟩ := Option.bind_eq_some_iff.mp hv
      obtain rfl := Option.some.inj htext
      exact hS.string _
  | case10 entries =>
      obtain rfl := Option.some.inj hv
      exact hS.array.mpr (List.forall_mem_map.mpr fun entry _ => hS.string _)
  | case14 items | case16 items =>
      obtain ⟨sortable, hsortable, hbest⟩ := Option.bind_eq_some_iff.mp hv
      obtain rfl := Option.some.inj hbest
      obtain rfl := eq_of_ensureSortable hsortable
      exact hS.getD fun v hbest => hsingle rfl v (bestOf_mem hbest)
  | case15 arg args =>
      obtain ⟨merged, hmerged, hobject⟩ := Option.bind_eq_some_iff.mp hv
      obtain rfl := Option.some.inj hobject
      exact hS.object (nodup_mergeAll hmerged) (hS.mergeAll h hmerged)
  | case17 arg args =>
      obtain rfl := Option.some.inj hv
      exact hS.getD fun v hfound => h v (List.mem_of_find?_eq_some hfound)
  | case19 items =>
      obtain rfl := Option.some.inj hv
      exact hS.array.mpr fun v hmem => hsingle rfl v (List.mem_reverse.mp hmem)
  | case20 items =>
      obtain ⟨sortable, hsortable, harray⟩ := Option.bind_eq_some_iff.mp hv
      obtain rfl := Option.some.inj harray
      obtain rfl := eq_of_ensureSortable hsortable
      exact hS.array.mpr fun v hmem => hsingle rfl v (List.mem_mergeSort.mp hmem)
  | case22 items =>
      obtain ⟨numbers, -, htotal⟩ := Option.bind_eq_some_iff.mp hv
      obtain ⟨n, -, hn⟩ := Option.bind_eq_some_iff.mp htotal
      obtain rfl := Option.some.inj hn
      exact hS.number n
  | case23 items =>
      obtain rfl := Option.some.inj hv
      exact h _ List.mem_cons_self
  | case24 arg =>
      rw [Builtin.value?] at hv
      · obtain rfl := Option.some.inj hv
        exact hS.array.mpr h
      all_goals assumption
  | case26 s =>
      obtain rfl := Option.some.inj hv
      unfold numberOfText
      split
      · exact hS.number _
      · exact hS.null
  | case31 entries =>
      obtain rfl := Option.some.inj hv
      exact hS.array.mpr (List.forall_mem_map.mpr (hS.values (h _ List.mem_cons_self)))
  | case32 b args =>
      rw [Builtin.value?] at hv
      · cases hv
      all_goals assumption

end Value.Hereditary

/-! ## References -/

/-- **`v.RefersOnly P`** — every reference in `v` has a body that satisfies `P`. -/
inductive Value.RefersOnly (P : Expr → Prop) : Value → Prop where
  | null : RefersOnly P .null
  | bool (b : Bool) : RefersOnly P (.bool b)
  | number (n : Number) : RefersOnly P (.number n)
  | string (s : String) : RefersOnly P (.string s)
  | array {items : List Value} : (∀ v ∈ items, RefersOnly P v) → RefersOnly P (.array items)
  | object {entries : List (String × Value)} :
      (∀ entry ∈ entries, RefersOnly P entry.2) → RefersOnly P (.object entries)
  | reference {id : Nat} {body : Expr} : P body → RefersOnly P (.reference id body)

namespace Value

variable {P : Expr → Prop}

attribute [simp] RefersOnly.null RefersOnly.bool RefersOnly.number RefersOnly.string

@[simp] theorem refersOnly_array {items : List Value} :
    RefersOnly P (.array items) ↔ ∀ v ∈ items, RefersOnly P v :=
  ⟨fun h => by cases h; assumption, .array⟩

@[simp] theorem refersOnly_object {entries : List (String × Value)} :
    RefersOnly P (.object entries) ↔ ∀ entry ∈ entries, RefersOnly P entry.2 :=
  ⟨fun h => by cases h; assumption, .object⟩

@[simp] theorem refersOnly_reference {id : Nat} {body : Expr} :
    RefersOnly P (.reference id body) ↔ P body :=
  ⟨fun h => by cases h; assumption, .reference⟩

/-- References stay what they are wherever a value goes. -/
theorem hereditary_refersOnly : Hereditary (RefersOnly P) where
  null := .null
  bool := .bool
  number := .number
  string := .string
  array := refersOnly_array
  values := refersOnly_object.mp
  object _ := .object

/-! ## Documents -/

mutual

/-- A document holds no references. -/
theorem refersOnly_ofJson (json : Json) : RefersOnly P (ofJson json) := by
  cases json with
  | null | bool | number | string => simp [ofJson]
  | array items => simpa [ofJson] using refersOnly_ofItems items
  | object members => simpa [ofJson] using refersOnly_ofMembers members

theorem refersOnly_ofItems (items : List Json) : ∀ v ∈ ofItems items, RefersOnly P v := by
  cases items with
  | nil => simp [ofItems]
  | cons item rest =>
      simp only [ofItems, List.forall_mem_cons]
      exact ⟨refersOnly_ofJson item, refersOnly_ofItems rest⟩

theorem refersOnly_ofMembers (members : List (String × Json)) :
    ∀ entry ∈ ofMembers members, RefersOnly P entry.2 := by
  match members with
  | [] => simp [ofMembers]
  | (name, value) :: rest =>
      simp only [ofMembers, List.forall_mem_cons]
      exact ⟨refersOnly_ofJson value, refersOnly_ofMembers rest⟩

end

end Value

end JsonQuery
