/-
# JsonQuery.Proofs.Held.Calls — built-in functions do not see how their arguments are held.

Every function that applies no reference gives, on arguments however they are held, a way to hold what
it gives on the values that they show.  Lists are compared element by element: sorting and the choice of
the best look at kinds and at the order of two values, merging looks at names, and what passes an
argument on passes it on as it is held.
-/
import JsonQuery.Proofs.Held.Showing
import JsonQuery.Proofs.Value.Hereditary

namespace JsonQuery.Held

variable {a b : Held} {v w : Value} {items args : List Held} {values shownArgs : List Value}
  {entries merged : Entries Held} {shown shownMerged : Entries Value}

/-! ## Lists of numbers and sortable lists -/

/-- What is read off one element after another is read off the values that they show. -/
theorem mapM_shows {α : Type} {f : Held → Option α} {g : Value → Option α}
    (hfg : ∀ a v, Shows a v → f a = g v) (h : List.Forall₂ Shows items values) :
    items.mapM f = values.mapM g := by
  induction h with
  | nil => rfl
  | cons hhead _ ih => rw [List.mapM_cons, List.mapM_cons, hfg _ _ hhead, ih]

/-- A test that shows nothing but the value is passed by all elements or not. -/
theorem all_shows {f : Held → Bool} {g : Value → Bool} (hfg : ∀ a v, Shows a v → f a = g v)
    (h : List.Forall₂ Shows items values) : items.all f = values.all g := by
  induction h with
  | nil => rfl
  | cons hhead _ ih => rw [List.all_cons, List.all_cons, hfg _ _ hhead, ih]

theorem numbers?_eq (h : List.Forall₂ Shows items values) :
    numbers? items = Builtin.numbers? values :=
  mapM_shows (fun _ _ h => h.number?_eq) h

theorem mean_shows (numbers : List Number) :
    Option.Rel Shows (mean numbers) (Builtin.mean numbers) := by
  rw [mean, Builtin.mean]
  split
  · exact .some .null
  · cases Builtin.total numbers with
    | none => exact .none
    | some sum =>
        simp only [Option.bind_eq_bind, Option.bind_some]
        cases sum.div (Number.ofInt numbers.length) with
        | none => exact .none
        | some quotient => exact .some (.number quotient)

theorem sortable_eq (h : List.Forall₂ Shows items values) :
    sortable items = Builtin.sortable values := by
  cases h with
  | nil => rfl
  | cons hhead htail =>
      rw [sortable, Builtin.sortable, hhead.kind_eq, all_shows (fun _ _ h => by rw [h.kind_eq]) htail]

theorem ensureSortable_shows (h : List.Forall₂ Shows items values) :
    Option.Rel (List.Forall₂ Shows) (ensureSortable items) (Builtin.ensureSortable values) := by
  rw [ensureSortable, Builtin.ensureSortable, sortable_eq h]
  split
  · exact .some h
  · exact .none

theorem ordering_eq (ha : Shows a v) (hb : Shows b w) : ordering a b = Builtin.ordering v w := by
  rw [ordering, Builtin.ordering, ha.compare_eq hb]

theorem sortValues_shows (h : List.Forall₂ Shows items values) :
    List.Forall₂ Shows (sortValues items) (Builtin.sortValues values) :=
  forall₂_mergeSort (fun _ _ _ _ hleft hright => by rw [ordering_eq hleft hright]) h

theorem bestOf_shows (wanted : Ordering) (h : List.Forall₂ Shows items values) :
    Option.Rel Shows (bestOf wanted items) (Builtin.bestOf wanted values) := by
  cases h with
  | nil => exact .none
  | cons hhead htail =>
      refine .some (List.rel_foldl (fun best best' hbest item item' hitem => ?_) hhead htail)
      rw [ordering_eq hitem hbest]
      split <;> assumption

/-! ## Keys -/

/-- Keys and values that show keys and values. -/
abbrev KeyedShow (keyed : List (Held × Held)) (shown : List (Value × Value)) : Prop :=
  List.Forall₂ (fun e f => Shows e.1 f.1 ∧ Shows e.2 f.2) keyed shown

section Keyed

variable {keyed : List (Held × Held)} {shownKeyed : List (Value × Value)}

theorem keyedShow_zip {keys : List Held} {shownKeys : List Value}
    (hkeys : List.Forall₂ Shows keys shownKeys) (h : List.Forall₂ Shows items values) :
    KeyedShow (keys.zip items) (shownKeys.zip values) := by
  induction hkeys generalizing items values with
  | nil => exact .nil
  | cons hkey _ ih =>
      cases h with
      | nil => exact .nil
      | cons hitem hrest => exact .cons ⟨hkey, hitem⟩ (ih hrest)

theorem sortedValues_shows (h : KeyedShow keyed shownKeyed) :
    Shows (sortedValues keyed) (Builtin.sortedValues shownKeyed) := by
  have hsorted : KeyedShow (sortOn keyed) (Builtin.sortOn shownKeyed) :=
    forall₂_mergeSort (fun _ _ _ _ hleft hright => by rw [ordering_eq hleft.1 hright.1]) h
  refine .ownArray ?_
  rw [List.forall₂_map_left_iff, List.forall₂_map_right_iff]
  exact hsorted.imp fun _ _ hpair => hpair.2

theorem bestValue_shows (wanted : Ordering) (h : KeyedShow keyed shownKeyed) :
    Shows (bestValue wanted keyed) (Builtin.bestValue wanted shownKeyed) := by
  have hbest : Option.Rel (fun e f => Shows e.1 f.1 ∧ Shows e.2 f.2) (bestOn wanted keyed)
      (Builtin.bestOn wanted shownKeyed) := by
    refine List.rel_foldl (fun best best' hbest next next' hnext => ?_) Option.Rel.none h
    cases hbest with
    | none => exact .some hnext
    | some hbest =>
        simp only [better, Builtin.better, ordering_eq hnext.1 hbest.1]
        split
        · exact .some hbest
        · exact .some hnext
  exact Shows.getD (rel_map hbest fun _ _ hpair => hpair.2)

end Keyed

/-! ## Merging -/

theorem EntriesShow.put (h : EntriesShow entries shown) (name : String) (hvalue : Shows a v) :
    EntriesShow (entries.put name a) (shown.put name v) := by
  induction h with
  | nil => exact .cons ⟨rfl, hvalue⟩ .nil
  | cons hpair htail ih =>
      rw [Entries.put, Entries.put, hpair.1]
      split
      · exact .cons ⟨rfl, hvalue⟩ htail
      · exact .cons ⟨rfl, hpair.2⟩ ih

theorem EntriesShow.merge (hmerged : EntriesShow merged shownMerged)
    (h : EntriesShow entries shown) :
    EntriesShow (mergeEntries merged entries) (Builtin.mergeEntries shownMerged shown) := by
  refine List.rel_foldl (fun acc acc' hacc e f hpair => ?_) hmerged h
  rw [hpair.1]
  exact hacc.put f.1 hpair.2

theorem mergeAll_shows (h : List.Forall₂ Shows args shownArgs) :
    Option.Rel EntriesShow (mergeAll args) (Builtin.mergeAll shownArgs) := by
  have hfold : ∀ (merged : Entries Held) (shownMerged : Entries Value),
      EntriesShow merged shownMerged → Option.Rel EntriesShow
        (args.foldlM (fun merged arg => do return mergeEntries merged (← arg.entries?)) merged)
        (shownArgs.foldlM (fun merged arg => do
          return Builtin.mergeEntries merged (← arg.entries?)) shownMerged) := by
    induction h with
    | nil => exact fun _ _ hmerged => .some hmerged
    | cons hhead _ ih =>
        intro merged shownMerged hmerged
        have hnext := rel_bind hhead.entries? fun _ _ hentries =>
          Option.Rel.some (hmerged.merge hentries)
        rw [List.foldlM_cons, List.foldlM_cons]
        exact rel_bind hnext ih
  exact hfold [] [] .nil

/-! ## Calls -/

theorem numberOfText_shows (s : String) : Shows (numberOfText s) (Builtin.numberOfText s) := by
  rw [numberOfText, Builtin.numberOfText]
  cases Json.parse? s with
  | none => exact .null
  | some json =>
      cases json with
      | number n => exact .number _
      | _ => exact .null

theorem any_same_eq (h : List.Forall₂ Shows items values) (hb : Shows b w) :
    items.any (·.same b) = values.any (·.same w) := by
  induction h with
  | nil => rfl
  | cons hhead _ ih => rw [List.any_cons, List.any_cons, hhead.same_eq hb, ih]

theorem find?_shows (h : List.Forall₂ Shows args shownArgs) :
    Option.Rel Shows (args.find? (!·.isNull)) (shownArgs.find? (!·.isNull)) := by
  induction h with
  | nil => exact .none
  | cons hhead _ ih =>
      rw [List.find?_cons, List.find?_cons, hhead.isNull_eq]
      split
      · exact .some hhead
      · exact ih

/-- A function with one argument. -/
theorem unary?_shows (h : Shows a v) {f : Builtin} (hf : f.arity = some 1) :
    Option.Rel Shows (unary? f a) (f.value? [v]) := by
  have hcontent := h.content
  have hsize := h.size_eq
  unfold unary?
  generalize a.content = c at hcontent
  cases f with
  | contains | endsWith | join | map | maxBy | minBy | sortBy | startsWith | merge | notNull =>
      cases hf
  | type =>
      rw [h.kind_eq]
      cases hcontent <;> exact .some (.string _)
  | toString =>
      rw [h.toJson_eq]
      cases hcontent <;> exact .some (.string _)
  | avg =>
      cases hcontent with
      | array hitems =>
          simp only [Builtin.value?, numbers?_eq hitems]
          cases Builtin.numbers? _ with
          | none => exact .none
          | some numbers => exact mean_shows numbers
      | _ => exact .none
  | sum =>
      cases hcontent with
      | array hitems =>
          simp only [Builtin.value?, numbers?_eq hitems]
          cases Builtin.numbers? _ with
          | none => exact .none
          | some numbers =>
              simp only [Option.bind_eq_bind, Option.bind_some]
              cases Builtin.total numbers with
              | none => exact .none
              | some sum => exact .some (.number sum)
      | _ => exact .none
  | max | min =>
      cases hcontent with
      | array hitems =>
          exact rel_bind (ensureSortable_shows hitems) fun _ _ hsorted =>
            .some (Shows.getD (bestOf_shows _ hsorted))
      | _ => exact .none
  | sort =>
      cases hcontent with
      | array hitems =>
          exact rel_bind (ensureSortable_shows hitems) fun _ _ hsorted =>
            .some (.ownArray (sortValues_shows hsorted))
      | _ => exact .none
  | length =>
      cases hcontent with
      | string s => exact .some (.number _)
      | array | object =>
          rw [hsize]
          exact .some (.number _)
      | _ => exact .none
  | keys =>
      cases hcontent with
      | object hentries =>
          refine .some (.ownArray ?_)
          rw [List.forall₂_map_left_iff, List.forall₂_map_right_iff]
          exact hentries.imp fun e f hpair => hpair.1 ▸ .string e.1
      | _ => exact .none
  | values =>
      cases hcontent with
      | object hentries => exact .some (.ownArray hentries.values_show)
      | _ => exact .none
  | reverse =>
      cases hcontent with
      | string s => exact .some (.string _)
      | array hitems => exact .some (.ownArray (List.forall₂_reverse_iff.mpr hitems))
      | _ => exact .none
  | toArray =>
      cases hcontent with
      | array => exact .some h
      | _ => exact .some (.ownArray (.cons h .nil))
  | toNumber =>
      cases hcontent with
      | number n => exact .some (.number n)
      | string s => exact .some (numberOfText_shows s)
      | _ => exact .some .null
  | abs | ceil | floor =>
      cases hcontent with
      | number n => exact .some (.number _)
      | _ => exact .none

/-- A function with two arguments. -/
theorem binary?_shows (ha : Shows a v) (hb : Shows b w) {f : Builtin} (hf : f.arity = some 2) :
    Option.Rel Shows (binary? f a b) (f.value? [v, w]) := by
  have hleft := ha.content
  have hright := hb.content
  unfold binary?
  generalize a.content = c at hleft
  generalize b.content = d at hright
  cases f with
  | contains =>
      cases hleft with
      | array hitems =>
          dsimp only [Builtin.value?]
          rw [any_same_eq hitems hb]
          exact .some (.bool _)
      | string s => cases hright <;> exact .some (.bool _)
      | _ => exact .none
  | endsWith | startsWith =>
      cases hleft with
      | string s =>
          cases hright with
          | string t => exact .some (.bool _)
          | _ => exact .none
      | _ => exact .none
  | join =>
      cases hleft with
      | string glue =>
          cases hright with
          | array hitems =>
              simp only [Builtin.value?, mapM_shows (fun _ _ h => h.string?_eq) hitems]
              cases List.mapM Value.string? _ with
              | none => exact .none
              | some parts => exact .some (.string _)
          | _ => exact .none
      | _ => exact .none
  | map | sortBy | maxBy | minBy => cases hleft <;> exact .none
  | _ => cases hf

/-- A call with too few or too many arguments has no value. -/
theorem value?_eq_none {f : Builtin} {n : Nat} (hf : f.arity = some n) (hlength : args.length ≠ n) :
    value? f args = none := by
  match args with
  | [] => cases f <;> rfl
  | [a] => cases f <;> first | rfl | simp_all [Builtin.arity]
  | [a, b] => cases f <;> first | rfl | simp_all [Builtin.arity]
  | _ :: _ :: _ :: _ => cases f <;> first | rfl | cases hf

theorem shown_eq_none {f : Builtin} {n : Nat} (hf : f.arity = some n)
    (hlength : shownArgs.length ≠ n) : f.value? shownArgs = none := by
  fun_cases Builtin.value? f shownArgs
  all_goals simp_all [Builtin.arity]

theorem arity_cases {f : Builtin} {n : Nat} (hf : f.arity = some n) :
    (n = 1 ∧ ∀ a, value? f [a] = unary? f a) ∨ (n = 2 ∧ ∀ a b, value? f [a, b] = binary? f a b) := by
  cases f with
  | contains | endsWith | join | map | maxBy | minBy | sortBy | startsWith =>
      exact .inr ⟨(Option.some.inj hf).symm, fun _ _ => rfl⟩
  | merge | notNull => cases hf
  | _ => exact .inl ⟨(Option.some.inj hf).symm, fun _ => rfl⟩

/-- **`value?_shows`** — a call that applies no reference has a value however its arguments are held, or
has none, and the value is the same. -/
theorem value?_shows (f : Builtin) (h : List.Forall₂ Shows args shownArgs) :
    Option.Rel Shows (value? f args) (f.value? shownArgs) := by
  cases hn : f.arity with
  | none =>
      cases f with
      | merge =>
          have hmerged := mergeAll_shows h
          cases h with
          | nil => exact .none
          | cons =>
              rw [value?, Builtin.value?]
              exact rel_bind hmerged fun _ _ hentries => .some hentries.ownObject
      | notNull =>
          have hfound := find?_shows h
          cases h with
          | nil => exact .none
          | cons => exact .some (Shows.getD hfound)
      | _ => cases hn
  | some n =>
      by_cases hlength : args.length = n
      · obtain ⟨rfl, hunary⟩ | ⟨rfl, hbinary⟩ := arity_cases hn
        · obtain ⟨a, rfl⟩ := List.length_eq_one_iff.mp hlength
          obtain ⟨v, rest, ha, hrest, rfl⟩ := List.forall₂_cons_left_iff.mp h
          obtain rfl := List.forall₂_nil_left_iff.mp hrest
          exact hunary a ▸ unary?_shows ha hn
        · obtain ⟨a, b, rfl⟩ := List.length_eq_two.mp hlength
          obtain ⟨v, more, ha, hmore, rfl⟩ := List.forall₂_cons_left_iff.mp h
          obtain ⟨w, rest, hb, hrest, rfl⟩ := List.forall₂_cons_left_iff.mp hmore
          obtain rfl := List.forall₂_nil_left_iff.mp hrest
          exact hbinary a b ▸ binary?_shows ha hb hn
      · rw [value?_eq_none hn hlength, shown_eq_none hn (h.length_eq ▸ hlength)]
        exact .none

end JsonQuery.Held
