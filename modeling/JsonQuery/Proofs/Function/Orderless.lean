/-
# JsonQuery.Proofs.Function.Orderless — functions that do not show the order of entries.

Only `keys`, `values` and `to_string` put the order of the entries of an object into a result.  Every
other function gives values that are akin for arguments that are akin: what it sorts and compares are
numbers and strings, which are akin only if they are the same, and what it merges is written name by
name.
-/
import JsonQuery.Proofs.Function.Sorting
import JsonQuery.Proofs.Value.Akin
import JsonQuery.Proofs.Value.Hereditary

namespace JsonQuery.Builtin

open Value (Akin valuesOf rel_refl)

/-- Whether a function puts the order of the entries of an object into its result. -/
def showsOrder : Builtin → Bool
  | .keys | .values | .toString => true
  | _ => false

variable {args args' items others keys : List Value} {before before' entries entries' : Entries Value}

/-! ## Lists of values -/

/-- Numbers and strings are akin only if they are the same. -/
theorem eq_of_ordered (h : List.Forall₂ Akin items others)
    (hitems : ∀ v ∈ items, v.kind = .number ∨ v.kind = .string) : items = others := by
  induction h with
  | nil => rfl
  | cons hhead _ ih =>
      obtain ⟨hfirst, hrest⟩ := List.forall_mem_cons.mp hitems
      rw [hhead.eq_of_kind hfirst, ih hrest]

theorem eq_of_sortable (h : List.Forall₂ Akin items others) (hitems : sortable items = true) :
    items = others :=
  eq_of_ordered h (sortable_iff.mp hitems).1

theorem ensureSortable_akin (h : List.Forall₂ Akin items others) :
    ensureSortable items = ensureSortable others := by
  by_cases hitems : sortable items = true
  · rw [eq_of_sortable h hitems]
  · have hothers : ¬ sortable others = true := by
      intro hothers
      have hflip : List.Forall₂ Akin others items := h.flip.imp fun _ _ => Akin.symm
      exact hitems (eq_of_sortable hflip hothers ▸ hothers)
    rw [ensureSortable, ensureSortable, if_neg hitems, if_neg hothers]

/-- What is read off one value after another is read off values that are akin. -/
theorem mapM_akin {α : Type} {f : Value → Option α} (hf : ∀ v w : Value, v.Akin w → f v = f w)
    (h : List.Forall₂ Akin items others) : items.mapM f = others.mapM f := by
  induction h with
  | nil => rfl
  | cons hhead _ ih => rw [List.mapM_cons, List.mapM_cons, hf _ _ hhead, ih]

theorem numbers?_akin (h : List.Forall₂ Akin items others) : numbers? items = numbers? others :=
  mapM_akin (fun _ _ h => h.number?_eq) h

theorem any_same_akin {needle needle' : Value} (h : List.Forall₂ Akin items others)
    (hneedle : needle.Akin needle') : items.any (·.same needle) = others.any (·.same needle') := by
  induction h with
  | nil => rfl
  | cons hhead _ ih => rw [List.any_cons, List.any_cons, hhead.same_eq hneedle, ih]

theorem find?_akin (h : List.Forall₂ Akin items others) :
    Option.Rel Akin (items.find? (!·.isNull)) (others.find? (!·.isNull)) := by
  induction h with
  | nil => exact .none
  | cons hhead _ ih =>
      rw [List.find?_cons, List.find?_cons, hhead.isNull_eq]
      split
      · exact .some hhead
      · exact ih

/-! ## Keys -/

/-- Values that are akin have the same keys, one by one. -/
theorem forall₂_zip (keys : List Value) (h : List.Forall₂ Akin items others) :
    List.Forall₂ (fun e f => e.1 = f.1 ∧ e.2.Akin f.2) (keys.zip items) (keys.zip others) := by
  induction h generalizing keys with
  | nil =>
      rw [List.zip_nil_right]
      exact .nil
  | cons hhead _ ih =>
      cases keys with
      | nil => exact .nil
      | cons key keys => exact .cons ⟨rfl, hhead⟩ (ih keys)

section Keyed

variable {keyed keyed' : List (Value × Value)}

/-- Seen without the order of entries, keyed values that are akin are the same. -/
theorem map_sorted_eq (h : List.Forall₂ (fun e f => e.1 = f.1 ∧ e.2.Akin f.2) keyed keyed') :
    keyed.map (fun e => (e.1, e.2.sorted)) = keyed'.map (fun e => (e.1, e.2.sorted)) := by
  rw [← List.forall₂_eq_eq_eq, List.forall₂_map_left_iff, List.forall₂_map_right_iff]
  exact h.imp fun e f h => Prod.ext h.1 h.2

/-- Sorting looks at the keys only. -/
theorem sortedValues_akin
    (h : List.Forall₂ (fun e f => e.1 = f.1 ∧ e.2.Akin f.2) keyed keyed') :
    (sortedValues keyed).Akin (sortedValues keyed') := by
  have hsort : ∀ keyed, ((sortOn keyed).map (·.2)).map Value.sorted =
      (sortOn (keyed.map fun e => (e.1, e.2.sorted))).map (·.2) := by
    intro keyed
    have hcommutes : (sortOn keyed).map (fun e => (e.1, e.2.sorted)) =
        sortOn (keyed.map fun e => (e.1, e.2.sorted)) := List.map_mergeSort fun a _ b _ => rfl
    rw [← hcommutes, List.map_map, List.map_map]
    rfl
  show Value.array (Value.sortedItems _) = .array (Value.sortedItems _)
  rw [Value.sortedItems_eq_map, Value.sortedItems_eq_map, hsort, hsort, map_sorted_eq h]

/-- So does the choice of the best. -/
theorem bestOn_akin (wanted : Ordering)
    (h : List.Forall₂ (fun e f => e.1 = f.1 ∧ e.2.Akin f.2) keyed keyed') :
    (bestOn wanted keyed).map (fun e => (e.1, e.2.sorted)) =
      (bestOn wanted keyed').map (fun e => (e.1, e.2.sorted)) := by
  have hbest : ∀ keyed, (bestOn wanted keyed).map (fun e => (e.1, e.2.sorted)) =
      bestOn wanted (keyed.map fun e => (e.1, e.2.sorted)) := by
    intro keyed
    rw [bestOn, bestOn, List.foldl_map]
    refine (List.foldl_hom _ fun best next => ?_).symm
    cases best with
    | none => rfl
    | some best =>
        simp only [better, Option.map_some]
        split <;> rfl
  rw [hbest, hbest, map_sorted_eq h]

theorem bestValue_akin (wanted : Ordering)
    (h : List.Forall₂ (fun e f => e.1 = f.1 ∧ e.2.Akin f.2) keyed keyed') :
    (bestValue wanted keyed).Akin (bestValue wanted keyed') := by
  have hbest := bestOn_akin wanted h
  rw [bestValue, bestValue]
  cases hkeyed : bestOn wanted keyed <;> cases hkeyed' : bestOn wanted keyed'
  all_goals simp_all [Akin]

end Keyed

/-! ## Merging -/

/-- Merging writes of each name what stands last under it. -/
theorem get?_mergeEntries (before entries : Entries Value) (name : String) :
    (mergeEntries before entries).get? name =
      (valuesOf entries name).getLast?.or (before.get? name) := by
  rw [mergeEntries, Entries.get?_foldl_put, Value.get?_reverse_eq_getLast?]

theorem mergeEntries_akin (hbefore : before.names.Nodup) (hbefore' : before'.names.Nodup)
    (hmerged : (Value.object before).Akin (.object before'))
    (h : (Value.object entries).Akin (.object entries')) :
    (Value.object (mergeEntries before entries)).Akin (.object (mergeEntries before' entries')) := by
  refine Value.akin_object_of_get? (Entries.nodup_foldl_put hbefore entries)
    (Entries.nodup_foldl_put hbefore' entries') fun name => ?_
  rw [get?_mergeEntries, get?_mergeEntries]
  have hlast := Value.getLast?_akin (Value.forall₂_valuesOf h name)
  generalize (valuesOf entries name).getLast? = last at hlast ⊢
  generalize (valuesOf entries' name).getLast? = last' at hlast ⊢
  cases hlast with
  | some hvalue => exact .some hvalue
  | none => exact hmerged.get? name

theorem mergeAll_akin (h : List.Forall₂ Akin args args') :
    Option.Rel (fun merged merged' => (Value.object merged).Akin (.object merged'))
      (mergeAll args) (mergeAll args') := by
  have hfold : ∀ before before' : Entries Value, before.names.Nodup → before'.names.Nodup →
      (Value.object before).Akin (.object before') →
      Option.Rel (fun merged merged' => (Value.object merged).Akin (.object merged'))
        (args.foldlM (fun merged arg => do return mergeEntries merged (← arg.entries?)) before)
        (args'.foldlM (fun merged arg => do return mergeEntries merged (← arg.entries?)) before') := by
    induction h with
    | nil => exact fun _ _ _ _ hbefore => .some hbefore
    | cons hhead _ ih =>
        intro before before' hnames hnames' hbefore
        rw [List.foldlM_cons, List.foldlM_cons]
        cases hhead.shape with
        | leaf _ hentries =>
            rw [hentries]
            exact .none
        | array => exact .none
        | @object entries more hobject =>
            exact ih _ _ (Entries.nodup_foldl_put hnames entries)
              (Entries.nodup_foldl_put hnames' more)
              (mergeEntries_akin hnames hnames' hbefore hobject)
  exact hfold [] [] List.nodup_nil List.nodup_nil (.refl _)

/-! ## Calls -/

theorem exists_singleton {v : Value} (h : List.Forall₂ Akin [v] args') :
    ∃ w, args' = [w] ∧ v.Akin w := by
  cases h with
  | cons hhead htail =>
      cases htail
      exact ⟨_, rfl, hhead⟩

theorem exists_pair {u v : Value} (h : List.Forall₂ Akin [u, v] args') :
    ∃ u' v', args' = [u', v'] ∧ u.Akin u' ∧ v.Akin v' := by
  cases h with
  | cons hhead htail =>
      obtain ⟨v', rfl, hv⟩ := exists_singleton htail
      exact ⟨_, v', rfl, hhead, hv⟩

theorem exists_array {w : Value} (h : (Value.array items).Akin w) :
    ∃ others, w = .array others ∧ List.Forall₂ Akin items others := by
  cases h.shape with
  | leaf hitems => cases hitems
  | array hothers => exact ⟨_, rfl, hothers⟩

/-- **`value?_akin`** — a call that shows no order and applies no reference has a value for arguments
that are akin if it has one, and that is akin. -/
theorem value?_akin {b : Builtin} {v : Value} (hb : b.showsOrder = false)
    (hargs : List.Forall₂ Akin args args') (hv : b.value? args = some v) :
    ∃ w, b.value? args' = some w ∧ v.Akin w := by
  -- Numbers and strings are the same on both sides, so that nothing is left to be shown.
  have hplain : (∀ arg ∈ args, arg.kind = .number ∨ arg.kind = .string) →
      ∃ w, b.value? args' = some w ∧ v.Akin w :=
    fun hkinds => ⟨v, eq_of_ordered hargs hkinds ▸ hv, .refl v⟩
  fun_cases Builtin.value? b args with
  | case1 | case3 | case5 | case7 | case8 | case11 | case18 | case21 | case25 | case26 =>
      exact hplain (by simp [Value.kind])
  | case10 | case28 | case29 | case31 => cases hb
  | case2 items | case22 items =>
      obtain ⟨w, rfl, hw⟩ := exists_singleton hargs
      obtain ⟨others, rfl, hothers⟩ := exists_array hw
      refine ⟨v, ?_, .refl v⟩
      rw [value?, ← numbers?_akin hothers]
      exact hv
  | case4 items needle =>
      obtain ⟨w, needle', rfl, hw, hneedle⟩ := exists_pair hargs
      obtain ⟨others, rfl, hothers⟩ := exists_array hw
      refine ⟨v, ?_, .refl v⟩
      rw [value?, ← any_same_akin hothers hneedle]
      exact hv
  | case6 s needle hstring =>
      obtain ⟨w, needle', rfl, hw, hneedle⟩ := exists_pair hargs
      obtain rfl := hw.eq_of_kind (.inr rfl)
      cases hneedle.shape with
      | leaf => exact ⟨v, hv, .refl v⟩
      | array | object =>
          obtain rfl := Option.some.inj hv
          exact ⟨_, rfl, .refl _⟩
  | case9 glue items =>
      obtain ⟨w, w', rfl, hw, hw'⟩ := exists_pair hargs
      obtain rfl := hw.eq_of_kind (.inr rfl)
      obtain ⟨others, rfl, hothers⟩ := exists_array hw'
      refine ⟨v, ?_, .refl v⟩
      rw [value?, ← mapM_akin (fun _ _ h => h.string?_eq) hothers]
      exact hv
  | case12 items =>
      obtain ⟨w, rfl, hw⟩ := exists_singleton hargs
      obtain ⟨others, rfl, hothers⟩ := exists_array hw
      refine ⟨v, ?_, .refl v⟩
      rw [value?, ← hothers.length_eq]
      exact hv
  | case13 entries =>
      obtain ⟨w, rfl, hw⟩ := exists_singleton hargs
      cases hw.shape with
      | leaf => exact ⟨v, hv, .refl v⟩
      | object hobject =>
          refine ⟨v, ?_, .refl v⟩
          rw [value?, ← hobject.length_entries]
          exact hv
  | case14 items | case16 items | case20 items =>
      obtain ⟨w, rfl, hw⟩ := exists_singleton hargs
      obtain ⟨others, rfl, hothers⟩ := exists_array hw
      refine ⟨v, ?_, .refl v⟩
      rw [value?, ← ensureSortable_akin hothers]
      exact hv
  | case15 arg args =>
      have hmerged := mergeAll_akin hargs
      obtain ⟨merged, hall, hobject⟩ := Option.bind_eq_some_iff.mp hv
      obtain rfl := Option.some.inj hobject
      rw [hall] at hmerged
      cases hargs with
      | @cons _ arg' _ args' =>
          rw [value?]
          generalize mergeAll (arg' :: args') = other at hmerged ⊢
          cases hmerged with
          | some hakin => exact ⟨_, rfl, hakin⟩
  | case17 arg args =>
      obtain rfl := Option.some.inj hv
      have hfound := find?_akin hargs
      cases hargs with
      | cons => exact ⟨_, rfl, Akin.getD hfound⟩
  | case19 items =>
      obtain ⟨w, rfl, hw⟩ := exists_singleton hargs
      obtain ⟨others, rfl, hothers⟩ := exists_array hw
      obtain rfl := Option.some.inj hv
      exact ⟨_, rfl, Value.akin_array.mpr (List.forall₂_reverse_iff.mpr hothers)⟩
  | case23 items =>
      obtain ⟨w, rfl, hw⟩ := exists_singleton hargs
      obtain ⟨others, rfl, hothers⟩ := exists_array hw
      obtain rfl := Option.some.inj hv
      exact ⟨_, rfl, hw⟩
  | case24 arg harg =>
      obtain ⟨w, rfl, hw⟩ := exists_singleton hargs
      cases hw.shape with
      | leaf => exact ⟨v, hv, .refl v⟩
      | array => exact absurd rfl (harg _)
      | object =>
          obtain rfl := Option.some.inj hv
          exact ⟨_, rfl, Value.akin_array.mpr hargs⟩
  | case27 arg =>
      obtain ⟨w, rfl, hw⟩ := exists_singleton hargs
      cases hw.shape with
      | leaf => exact ⟨v, hv, .refl v⟩
      | array | object =>
          obtain rfl := Option.some.inj hv
          exact ⟨_, rfl, .refl _⟩
  | case30 arg =>
      obtain ⟨w, rfl, hw⟩ := exists_singleton hargs
      refine ⟨v, ?_, .refl v⟩
      rw [value?, ← hw.kind_eq]
      exact hv
  | case32 b args =>
      rw [Builtin.value?] at hv
      · cases hv
      all_goals assumption

/-- **`rel_value?`** — calls that show no order and apply no reference have values that are akin for
arguments that are akin, or both have none. -/
theorem rel_value? {b : Builtin} (hb : b.showsOrder = false) (hargs : List.Forall₂ Akin args args') :
    Option.Rel Akin (b.value? args) (b.value? args') := by
  cases hv : b.value? args with
  | some v =>
      obtain ⟨w, hw, hakin⟩ := value?_akin hb hargs hv
      rw [hw]
      exact .some hakin
  | none =>
      cases hw : b.value? args' with
      | none => exact .none
      | some w =>
          have hflip : List.Forall₂ Akin args' args := hargs.flip.imp fun _ _ => Akin.symm
          obtain ⟨v, hv', -⟩ := value?_akin hb hflip hw
          cases hv.symm.trans hv'

end JsonQuery.Builtin
