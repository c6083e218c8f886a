/-
# JsonQuery.Proofs.Value.Equality — what equality of values means.

Two objects are compared with their entries sorted by name, so that entries of one name are compared in
their order and the order of different names does not count.  Where no name is repeated this is the
equality of maps.  Equality is an equivalence as far as numbers have decimal forms: binary numbers that
have none are compared after rounding, and some are equal to nothing, not even to themselves.
-/
import JsonQuery.Proofs.Value.Fingerprint
import Mathlib.Data.List.Forall2

namespace JsonQuery

/-! ## Numbers with a decimal form -/

namespace Number

/-- **`n.HasDecimal`** — a number has a decimal form. -/
def HasDecimal (n : Number) : Prop := n.decimal?.isSome = true

variable {a b c : Number}

theorem same_self (h : a.HasDecimal) : a.same a = true :=
  (numberMark_eq_iff_of_decimal h h).mp rfl

theorem same_trans (ha : a.HasDecimal) (hb : b.HasDecimal) (hc : c.HasDecimal)
    (hab : a.same b = true) (hbc : b.same c = true) : a.same c = true := by
  have hleft := (numberMark_eq_iff_of_decimal ha hb).mpr hab
  have hright := (numberMark_eq_iff_of_decimal hb hc).mpr hbc
  exact (numberMark_eq_iff_of_decimal ha hc).mp (hleft.trans hright)

end Number

namespace Value

open Number (HasDecimal)

/-! ## Agreement place by place -/

theorem itemsAgree_iff {items others : List Value} :
    itemsAgree items others = true ↔ List.Forall₂ (fun v w => v.agrees w = true) items others := by
  induction items generalizing others with
  | nil => cases others <;> simp [itemsAgree]
  | cons item rest ih => cases others <;> simp [itemsAgree, ih]

theorem entriesAgree_iff {entries others : Entries Value} :
    entriesAgree entries others = true
      ↔ List.Forall₂ (fun e f => e.1 = f.1 ∧ e.2.agrees f.2 = true) entries others := by
  induction entries generalizing others with
  | nil => cases others <;> simp [entriesAgree]
  | cons entry rest ih => cases others <;> simp [entriesAgree, ih]

mutual

theorem agrees_self : ∀ v : Value, v.NumbersIn HasDecimal → v.agrees v = true
  | .null, _ | .bool _, _ | .string _, _ | .reference .., _ => by simp [agrees]
  | .number _, h => Number.same_self (numbersIn_number.mp h)
  | .array items, h => itemsAgree_self items (numbersIn_array.mp h)
  | .object entries, h => entriesAgree_self entries (numbersIn_object.mp h)

theorem itemsAgree_self : ∀ items : List Value, (∀ v ∈ items, v.NumbersIn HasDecimal) →
    itemsAgree items items = true
  | [], _ => rfl
  | item :: rest, h => by
      obtain ⟨hitem, hrest⟩ := List.forall_mem_cons.mp h
      rw [itemsAgree, agrees_self item hitem, itemsAgree_self rest hrest]
      rfl

theorem entriesAgree_self : ∀ entries : List (String × Value),
    (∀ entry ∈ entries, entry.2.NumbersIn HasDecimal) → entriesAgree entries entries = true
  | [], _ => rfl
  | (name, value) :: rest, h => by
      obtain ⟨hvalue, hrest⟩ := List.forall_mem_cons.mp h
      rw [entriesAgree, agrees_self value hvalue, entriesAgree_self rest hrest, beq_self_eq_true]
      rfl

end

mutual

/-- Agreement has no direction, whatever the numbers. -/
theorem agrees_comm : ∀ v w : Value, v.agrees w = w.agrees v
  | .null, w => by cases w <;> rfl
  | .bool a, w => by cases w <;> simp [agrees, Bool.beq_comm]
  | .number a, w => by cases w <;> simp [agrees, Number.same_comm a]
  | .string a, w => by cases w <;> simp [agrees, Bool.beq_comm]
  | .array a, w => by
      cases w with
      | array b => simpa only [agrees] using itemsAgree_comm a b
      | null | bool | number | string | object | reference => rfl
  | .object a, w => by
      cases w with
      | object b => simpa only [agrees] using entriesAgree_comm a b
      | null | bool | number | string | array | reference => rfl
  | .reference a _, w => by cases w <;> simp [agrees, Bool.beq_comm]

theorem itemsAgree_comm : ∀ items others : List Value, itemsAgree items others = itemsAgree others items
  | [], others => by cases others <;> rfl
  | item :: rest, [] => rfl
  | item :: rest, other :: more => by
      rw [itemsAgree, itemsAgree, agrees_comm item other, itemsAgree_comm rest more]

theorem entriesAgree_comm : ∀ entries others : List (String × Value),
    entriesAgree entries others = entriesAgree others entries
  | [], others => by cases others <;> rfl
  | (name, value) :: rest, [] => rfl
  | (name, value) :: rest, (key, other) :: more => by
      rw [entriesAgree, entriesAgree, agrees_comm value other, entriesAgree_comm rest more,
        Bool.beq_comm]

end

mutual

theorem agrees_trans : ∀ u v w : Value, u.NumbersIn HasDecimal → v.NumbersIn HasDecimal →
    w.NumbersIn HasDecimal → u.agrees v = true → v.agrees w = true → u.agrees w = true
  | .null, v, w, _, _, _, huv, hvw => by
      cases v <;> simp [agrees] at huv
      exact hvw
  | .bool a, v, w, _, _, _, huv, hvw => by
      cases v <;> simp [agrees] at huv
      exact huv ▸ hvw
  | .number a, v, w, hu, hv, hw, huv, hvw => by
      cases v <;> simp [agrees] at huv
      cases w <;> simp [agrees] at hvw
      exact Number.same_trans (numbersIn_number.mp hu) (numbersIn_number.mp hv)
        (numbersIn_number.mp hw) huv hvw
  | .string a, v, w, _, _, _, huv, hvw => by
      cases v <;> simp [agrees] at huv
      exact huv ▸ hvw
  | .array a, v, w, hu, hv, hw, huv, hvw => by
      cases v <;> simp [agrees] at huv
      cases w <;> simp [agrees] at hvw
      exact itemsAgree_trans _ _ _ (numbersIn_array.mp hu) (numbersIn_array.mp hv)
        (numbersIn_array.mp hw) huv hvw
  | .object a, v, w, hu, hv, hw, huv, hvw => by
      cases v <;> simp [agrees] at huv
      cases w <;> simp [agrees] at hvw
      exact entriesAgree_trans _ _ _ (numbersIn_object.mp hu) (numbersIn_object.mp hv)
        (numbersIn_object.mp hw) huv hvw
  | .reference a _, v, w, _, _, _, huv, hvw => by
      cases v <;> simp [agrees] at huv
      cases w <;> simp [agrees] at hvw
      simp [agrees, huv, hvw]

theorem itemsAgree_trans : ∀ items others third : List Value,
    (∀ v ∈ items, v.NumbersIn HasDecimal) → (∀ v ∈ others, v.NumbersIn HasDecimal) →
    (∀ v ∈ third, v.NumbersIn HasDecimal) → itemsAgree items others = true →
    itemsAgree others third = true → itemsAgree items third = true
  | [], others, third, _, _, _, hleft, hright => by
      cases others <;> simp [itemsAgree] at hleft
      exact hright
  | item :: rest, others, third, hu, hv, hw, hleft, hright => by
      cases others <;> simp [itemsAgree] at hleft
      cases third <;> simp [itemsAgree] at hright
      simp only [List.forall_mem_cons] at hu hv hw
      rw [itemsAgree, agrees_trans _ _ _ hu.1 hv.1 hw.1 hleft.1 hright.1,
        itemsAgree_trans _ _ _ hu.2 hv.2 hw.2 hleft.2 hright.2]
      rfl

theorem entriesAgree_trans : ∀ entries others third : List (String × Value),
    (∀ entry ∈ entries, entry.2.NumbersIn HasDecimal) →
    (∀ entry ∈ others, entry.2.NumbersIn HasDecimal) →
    (∀ entry ∈ third, entry.2.NumbersIn HasDecimal) → entriesAgree entries others = true →
    entriesAgree others third = true → entriesAgree entries third = true
  | [], others, third, _, _, _, hleft, hright => by
      cases others <;> simp [entriesAgree] at hleft
      exact hright
  | (name, value) :: rest, others, third, hu, hv, hw, hleft, hright => by
      cases others <;> simp [entriesAgree] at hleft
      cases third <;> simp [entriesAgree] at hright
      simp only [List.forall_mem_cons] at hu hv hw
      rw [entriesAgree, agrees_trans _ _ _ hu.1 hv.1 hw.1 hleft.1.2 hright.1.2,
        entriesAgree_trans _ _ _ hu.2 hv.2 hw.2 hleft.2 hright.2, hleft.1.1, hright.1.1]
      simp

end

/-! ## Equality -/

theorem same_self {v : Value} (h : v.NumbersIn HasDecimal) : v.same v = true :=
  agrees_self _ (numbersIn_sorted v h)

theorem same_comm (v w : Value) : v.same w = w.same v :=
  agrees_comm v.sorted w.sorted

theorem same_trans {u v w : Value} (hu : u.NumbersIn HasDecimal) (hv : v.NumbersIn HasDecimal)
    (hw : w.NumbersIn HasDecimal) (huv : u.same v = true) (hvw : v.same w = true) :
    u.same w = true :=
  agrees_trans _ _ _ (numbersIn_sorted u hu) (numbersIn_sorted v hv) (numbersIn_sorted w hw) huv hvw

theorem sortedItems_eq_map (items : List Value) : sortedItems items = items.map sorted := by
  induction items with
  | nil => rfl
  | cons item rest ih => rw [sortedItems, ih, List.map_cons]

theorem sortedEntries_eq_map (entries : Entries Value) :
    sortedEntries entries = entries.map fun entry => (entry.1, entry.2.sorted) := by
  induction entries with
  | nil => rfl
  | cons entry rest ih => rw [sortedEntries, ih, List.map_cons]

/-- Arrays are equal item by item. -/
theorem same_array {items others : List Value} :
    (Value.array items).same (.array others) = true
      ↔ List.Forall₂ (fun v w => v.same w = true) items others := by
  show itemsAgree (sortedItems items) (sortedItems others) = true ↔ _
  rw [itemsAgree_iff, sortedItems_eq_map, sortedItems_eq_map, List.forall₂_map_left_iff,
    List.forall₂_map_right_iff]
  rfl

/-- Sorting looks at names only, so it does not matter whether the values are sorted before. -/
theorem sortEntries_sortedEntries (entries : Entries Value) :
    sortEntries (sortedEntries entries) =
      (sortEntries entries).map fun entry => (entry.1, entry.2.sorted) := by
  rw [sortedEntries_eq_map, sortEntries, sortEntries, List.map_mergeSort]
  intro a _ b _
  rfl

/-- Objects are equal entry by entry, once the entries are sorted by name. -/
theorem same_object {entries others : Entries Value} :
    (Value.object entries).same (.object others) = true
      ↔ List.Forall₂ (fun e f => e.1 = f.1 ∧ e.2.same f.2 = true)
          (sortEntries entries) (sortEntries others) := by
  show entriesAgree (sortEntries (sortedEntries entries)) (sortEntries (sortedEntries others)) = true
    ↔ _
  rw [entriesAgree_iff, sortEntries_sortedEntries, sortEntries_sortedEntries,
    List.forall₂_map_left_iff, List.forall₂_map_right_iff]
  rfl

/-! ## Objects as maps -/

theorem sortEntries_perm (entries : Entries Value) : (sortEntries entries).Perm entries :=
  List.mergeSort_perm _ _

theorem names_sortEntries_perm (entries : Entries Value) :
    (Entries.names (sortEntries entries)).Perm entries.names :=
  (sortEntries_perm entries).map _

theorem byName_trans {e f g : String × Value} (hef : decide (e.1 ≤ f.1) = true)
    (hfg : decide (f.1 ≤ g.1) = true) : decide (e.1 ≤ g.1) = true :=
  decide_eq_true (String.le_trans (of_decide_eq_true hef) (of_decide_eq_true hfg))

theorem byName_total (e f : String × Value) : (decide (e.1 ≤ f.1) || decide (f.1 ≤ e.1)) = true := by
  simpa using String.le_total e.1 f.1

theorem pairwise_names_sortEntries (entries : Entries Value) :
    (Entries.names (sortEntries entries)).Pairwise (· ≤ ·) := by
  have hpairs : (sortEntries entries).Pairwise fun a b => decide (a.1 ≤ b.1) = true := by
    apply List.pairwise_mergeSort
    · intro e f g
      exact byName_trans
    · exact byName_total
  rw [Entries.names, List.pairwise_map]
  exact hpairs.imp of_decide_eq_true

/-- Sorted entries with the same names have them in the same places. -/
theorem names_sortEntries_eq {entries others : Entries Value} (h : entries.names.Perm others.names) :
    Entries.names (sortEntries entries) = Entries.names (sortEntries others) := by
  have hperm : (Entries.names (sortEntries entries)).Perm (Entries.names (sortEntries others)) :=
    (names_sortEntries_perm entries).trans (h.trans (names_sortEntries_perm others).symm)
  apply List.Perm.eq_of_pairwise _ (pairwise_names_sortEntries entries)
    (pairwise_names_sortEntries others) hperm
  intro a b _ _
  exact String.le_antisymm

section

variable {R : Value → Value → Prop} {entries others : Entries Value}

theorem forall₂_of_names_eq (hnames : entries.names = others.names)
    (h : ∀ e ∈ entries, ∀ f ∈ others, e.1 = f.1 → R e.2 f.2) :
    List.Forall₂ (fun e f => e.1 = f.1 ∧ R e.2 f.2) entries others := by
  induction entries generalizing others with
  | nil =>
      obtain rfl := List.map_eq_nil_iff.mp hnames.symm
      exact .nil
  | cons entry rest ih =>
      cases others with
      | nil => cases hnames
      | cons other more =>
          obtain ⟨hname, hrest⟩ := List.cons.inj hnames
          refine .cons ⟨hname, h _ List.mem_cons_self _ List.mem_cons_self hname⟩ (ih hrest ?_)
          intro e he f hf
          exact h e (List.mem_cons_of_mem _ he) f (List.mem_cons_of_mem _ hf)

theorem names_eq_of_forall₂ (h : List.Forall₂ (fun e f => e.1 = f.1 ∧ R e.2 f.2) entries others) :
    entries.names = others.names := by
  induction h with
  | nil => rfl
  | cons hpair _ ih => exact congrArg₂ List.cons hpair.1 ih

/-- What the first entry of a name stands for is compared with what the first entry of that name on
the other side stands for. -/
theorem exists_get?_of_forall₂
    (h : List.Forall₂ (fun e f => e.1 = f.1 ∧ R e.2 f.2) entries others) {name : String} {v : Value}
    (hv : entries.get? name = some v) : ∃ w, others.get? name = some w ∧ R v w := by
  induction h with
  | nil => cases hv
  | @cons e f _ _ hpair _ ih =>
      rw [Entries.get?] at hv ⊢
      by_cases hname : e.1 = name
      · rw [if_pos hname] at hv
        rw [if_pos (hpair.1 ▸ hname)]
        obtain rfl := Option.some.inj hv
        exact ⟨f.2, rfl, hpair.2⟩
      · rw [if_neg hname] at hv
        rw [if_neg (hpair.1 ▸ hname)]
        exact ih hv

/-- Sorted entries are compared by what is found under each name. -/
theorem forall₂_sortEntries (hentries : entries.names.Nodup) (hothers : others.names.Nodup)
    (hnames : ∀ name, name ∈ entries.names ↔ name ∈ others.names)
    (h : ∀ name v w, entries.get? name = some v → others.get? name = some w → R v w) :
    List.Forall₂ (fun e f => e.1 = f.1 ∧ R e.2 f.2) (sortEntries entries) (sortEntries others) := by
  have hperm := (List.perm_ext_iff_of_nodup hentries hothers).mpr hnames
  apply forall₂_of_names_eq (names_sortEntries_eq hperm)
  intro e he f hf hname
  have hleft := Entries.get?_of_mem hentries ((sortEntries_perm entries).mem_iff.mp he)
  have hright := Entries.get?_of_mem hothers ((sortEntries_perm others).mem_iff.mp hf)
  exact h e.1 e.2 f.2 hleft (hname ▸ hright)

end

/-- **`same_object_iff`** — objects that repeat no name are equal if they have the same names and equal
values under each of them. -/
theorem same_object_iff {entries others : Entries Value} (hentries : entries.names.Nodup)
    (hothers : others.names.Nodup) :
    (Value.object entries).same (.object others) = true
      ↔ (∀ name, name ∈ entries.names ↔ name ∈ others.names) ∧
        ∀ name v w, entries.get? name = some v → others.get? name = some w → v.same w = true := by
  rw [same_object]
  constructor
  · intro h
    have hnames : (Entries.names entries).Perm others.names := by
      have hsorted := names_sortEntries_perm entries
      rw [names_eq_of_forall₂ (R := fun v w => v.same w = true) h] at hsorted
      exact hsorted.symm.trans (names_sortEntries_perm others)
    refine ⟨fun name => hnames.mem_iff, ?_⟩
    intro name v w hv hw
    rw [Entries.get?_of_perm hentries (sortEntries_perm entries).symm] at hv
    rw [Entries.get?_of_perm hothers (sortEntries_perm others).symm] at hw
    obtain ⟨w', hw', hsame⟩ := exists_get?_of_forall₂ (R := fun v w => v.same w = true) h hv
    obtain rfl := Option.some.inj (hw'.symm.trans hw)
    exact hsame
  · rintro ⟨hnames, hvalues⟩
    exact forall₂_sortEntries (R := fun v w => v.same w = true) hentries hothers hnames hvalues

/-- **`same_equivalence`** — among the values whose numbers all have a decimal form, those of documents
and others alike, equality is an equivalence.  Objects that repeat no name are equal exactly if they
have the same names and equal values under each of them, whatever the order of the entries. -/
theorem same_equivalence :
    Equivalence (fun v w : {v : Value // v.NumbersIn HasDecimal} => v.1.same w.1 = true) ∧
    ∀ entries others : Entries Value, entries.names.Nodup → others.names.Nodup →
      ((Value.object entries).same (.object others) = true
        ↔ (∀ name, name ∈ entries.names ↔ name ∈ others.names) ∧
          ∀ name v w, entries.get? name = some v → others.get? name = some w → v.same w = true) := by
  refine ⟨⟨?refl, ?symm, ?trans⟩, ?maps⟩
  case refl =>
    intro v
    exact same_self v.2
  case symm =>
    intro v w h
    rwa [same_comm]
  case trans =>
    intro u v w huv hvw
    exact same_trans u.2 v.2 w.2 huv hvw
  case maps =>
    intro entries others hentries hothers
    exact same_object_iff hentries hothers

/-- A decimal and a number of a document in objects of different order, beside an array with an object
that repeats a name. -/
theorem same_equivalence_mixed :
    let twice : Value := .array [.object [("k", .null), ("k", .bool true)]]
    let one : Json := .number (.float (.finite false 0x10000000000000 (-52)))
    twice.NumbersIn HasDecimal ∧
    (Entries.names [("b", Value.number (.decimal ⟨100, 2⟩)), ("a", twice)]).Nodup ∧
    (Entries.names [("a", twice), ("b", ofJson one)]).Nodup ∧
    (Value.object [("b", .number (.decimal ⟨100, 2⟩)), ("a", twice)]).same
      (.object [("a", twice), ("b", ofJson one)]) = true := by
  intro twice one
  have htwice : twice.NumbersIn HasDecimal := by simp [twice]
  refine ⟨htwice, by decide, by decide,
    (same_equivalence.2 _ _ (by decide) (by decide)).mpr ⟨?_, ?_⟩⟩
  · simp [Entries.names, or_comm]
  · intro name v w hv hw
    by_cases hname : name = "a"
    · subst hname
      obtain rfl := Option.some.inj hv
      obtain rfl := Option.some.inj hw
      exact same_equivalence.1.refl ⟨twice, htwice⟩
    · rcases List.mem_cons.mp (Entries.mem_of_get? hv) with hb | ha
      · cases hb
        obtain rfl := Option.some.inj hw
        decide
      · cases List.mem_singleton.mp ha
        exact absurd rfl hname

end Value

end JsonQuery
