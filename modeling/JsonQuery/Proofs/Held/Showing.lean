/-
# JsonQuery.Proofs.Held.Showing — a value as it is held, and the value that it is.

One value can be held in many ways: every array and every object in it is a view of a document or was
computed.  What is read of a value — its type and its truth, its members, elements and items one after
another, its order, its equality with another value and what a hash is fed — is the same however it is
held, and so is the document that is written for it, as far as documents are written as they were read.
The operators see nothing else.
-/
import JsonQuery.Held.Eval
import JsonQuery.Proofs.Expr.Nodes
import JsonQuery.Proofs.Value.Document
import JsonQuery.Proofs.Value.Equality

namespace JsonQuery

/-- **`e.RestoredLiteral`** — the document is written as it was read, if the node is a literal. -/
def Expr.RestoredLiteral : Expr → Prop
  | .literal json => json.IsRestored
  | _ => True

namespace Held

/-- **`Shows h v`** — `h` is a way to hold `v`: what is viewed is written as it was read, and so are the
literals of references. -/
inductive Shows : Held → Value → Prop where
  | null : Shows .null .null
  | bool (b : Bool) : Shows (.bool b) (.bool b)
  | number (n : Number) : Shows (.number n) (.number n)
  | string (s : String) : Shows (.string s) (.string s)
  | viewArray {items : List Json} : (Json.array items).IsRestored →
      Shows (.viewArray items) (.array (Value.ofItems items))
  | ownArray {items : List Held} {values : List Value} : List.Forall₂ Shows items values →
      Shows (.ownArray items) (.array values)
  | viewObject {members : List (String × Json)} : (Json.object members).IsRestored →
      Shows (.viewObject members) (.object (Value.ofMembers members))
  | ownObject {entries : List (String × Held)} {shown : List (String × Value)} :
      entries.map (·.1) = shown.map (·.1) →
      List.Forall₂ Shows (entries.map (·.2)) (shown.map (·.2)) →
      Shows (.ownObject entries) (.object shown)
  | reference (id : Nat) {body : Expr} : body.Everywhere Expr.RestoredLiteral →
      Shows (.reference id body) (.reference id body)

/-- Entries that show entries: the same names in the same order, with what shows the values. -/
abbrev EntriesShow (entries : Entries Held) (shown : Entries Value) : Prop :=
  List.Forall₂ (fun e f => e.1 = f.1 ∧ Shows e.2 f.2) entries shown

/-- **`c.Shows v`** — a content shows `v`: it is of the same type, and its parts show the parts. -/
inductive Content.Shows : Content → Value → Prop where
  | null : Shows .null .null
  | bool (b : Bool) : Shows (.bool b) (.bool b)
  | number (n : Number) : Shows (.number n) (.number n)
  | string (s : String) : Shows (.string s) (.string s)
  | array {items : List Held} {values : List Value} : List.Forall₂ Held.Shows items values →
      Shows (.array items) (.array values)
  | object {entries : Entries Held} {shown : Entries Value} : EntriesShow entries shown →
      Shows (.object entries) (.object shown)
  | reference (id : Nat) {body : Expr} : body.Everywhere Expr.RestoredLiteral →
      Shows (.reference id body) (.reference id body)

variable {a b : Held} {v w : Value} {items : List Held} {values : List Value}
  {entries : Entries Held} {shown : Entries Value}

/-- A part of a document, which is not copied, shows what it is read as. -/
theorem shows_ofJson {json : Json} (h : json.IsRestored) :
    Shows (ofJson json) (Value.ofJson json) := by
  cases json with
  | null => exact .null
  | bool b => exact .bool b
  | number n => exact .number _
  | string s => exact .string s
  | array items => exact .viewArray h
  | object members => exact .viewObject h

theorem entriesShow_of_names (hnames : entries.map (·.1) = shown.map (·.1))
    (h : List.Forall₂ Shows (entries.map (·.2)) (shown.map (·.2))) : EntriesShow entries shown := by
  induction entries generalizing shown with
  | nil =>
      obtain rfl := List.map_eq_nil_iff.mp hnames.symm
      exact .nil
  | cons entry rest ih =>
      cases shown with
      | nil => cases hnames
      | cons other more =>
          obtain ⟨hname, hrest⟩ := List.cons.inj hnames
          obtain ⟨hvalue, hvalues⟩ := List.forall₂_cons.mp h
          exact .cons ⟨hname, hvalue⟩ (ih hrest hvalues)

theorem EntriesShow.names_eq (h : EntriesShow entries shown) :
    entries.map (·.1) = shown.map (·.1) := by
  induction h with
  | nil => rfl
  | cons hpair _ ih => exact congrArg₂ List.cons hpair.1 ih

theorem EntriesShow.values_show (h : EntriesShow entries shown) :
    List.Forall₂ Shows (entries.map (·.2)) (shown.map (·.2)) := by
  rw [List.forall₂_map_left_iff, List.forall₂_map_right_iff]
  exact h.imp fun _ _ hpair => hpair.2

/-- What was computed from entries shows the object of what they show. -/
theorem EntriesShow.ownObject (h : EntriesShow entries shown) :
    Shows (.ownObject entries) (.object shown) :=
  .ownObject h.names_eq h.values_show

/-- What was computed nests deeper than what it was computed from, so that it can be taken apart. -/
theorem items_below (h : List.Forall₂ Shows items values) :
    List.Forall₂ (fun item value => item.height < (ownArray items).height ∧ Shows item value) items
      values :=
  (List.forall₂_and_left items values).mpr ⟨fun _ hitem => height_lt_of_array rfl hitem, h⟩

theorem EntriesShow.below (h : EntriesShow entries shown) :
    List.Forall₂ (fun e f => e.2.height < (Held.ownObject entries).height ∧ e.1 = f.1 ∧ Shows e.2 f.2)
      entries shown :=
  (List.forall₂_and_left entries shown).mpr ⟨fun _ hentry => height_lt_of_object rfl hentry, h⟩

/-! ## Reading -/

/-- **`Shows.content`** — what is taken out of a value shows the parts of what it shows, whether it is
viewed or was computed. -/
theorem Shows.content (h : Shows a v) : a.content.Shows v := by
  cases h with
  | null => exact .null
  | bool b => exact .bool b
  | number n => exact .number n
  | string s => exact .string s
  | viewArray hrestored =>
      refine .array ?_
      rw [Value.ofItems_eq_map, List.forall₂_map_left_iff, List.forall₂_map_right_iff,
        List.forall₂_same]
      exact fun item hitem => shows_ofJson (hrestored.item item hitem)
  | ownArray hitems => exact .array hitems
  | viewObject hrestored =>
      refine .object ?_
      rw [Value.ofMembers_eq_map, EntriesShow, List.forall₂_map_left_iff,
        List.forall₂_map_right_iff, List.forall₂_same]
      exact fun entry hentry => ⟨rfl, shows_ofJson (hrestored.member entry hentry)⟩
  | ownObject hnames hvalues => exact .object (entriesShow_of_names hnames hvalues)
  | reference id hbody => exact .reference id hbody

theorem Shows.items? (h : Shows a v) : Option.Rel (List.Forall₂ Shows) a.items? v.items? := by
  have hcontent := h.content
  unfold Held.items?
  generalize a.content = c at hcontent
  cases hcontent with
  | array hitems => exact .some hitems
  | _ => exact .none

theorem Shows.entries? (h : Shows a v) : Option.Rel EntriesShow a.entries? v.entries? := by
  have hcontent := h.content
  unfold Held.entries?
  generalize a.content = c at hcontent
  cases hcontent with
  | object hentries => exact .some hentries
  | _ => exact .none

theorem Shows.kind_eq (h : Shows a v) : a.kind = v.kind := by
  cases h with
  | bool b => cases b <;> rfl
  | _ => rfl

theorem Shows.isNull_eq (h : Shows a v) : a.isNull = v.isNull := by
  cases h <;> rfl

theorem Shows.number?_eq (h : Shows a v) : a.number? = v.number? := by
  cases h <;> rfl

theorem Shows.string?_eq (h : Shows a v) : a.string? = v.string? := by
  cases h <;> rfl

theorem Shows.size_eq (h : Shows a v) : a.size = v.size := by
  cases h with
  | viewArray => rw [size, Value.size, Value.ofItems_eq_map, List.length_map]
  | ownArray hitems => exact hitems.length_eq
  | viewObject => rw [size, Value.size, Value.ofMembers_eq_map, List.length_map]
  | ownObject hnames => simpa [size, Value.size] using congrArg List.length hnames
  | _ => rfl

theorem Shows.isTruthy_eq (h : Shows a v) : a.isTruthy = v.isTruthy := by
  cases h with
  | null | bool | number | string | reference => rfl
  | viewArray => simp [isTruthy, Value.isTruthy, Value.ofItems_eq_map]
  | ownArray hitems => cases hitems <;> rfl
  | viewObject => simp [isTruthy, Value.isTruthy, Value.ofMembers_eq_map]
  | @ownObject entries shown hnames =>
      rw [isTruthy, Value.isTruthy, ← List.isEmpty_map (f := Prod.fst), hnames, List.isEmpty_map]

/-! ### Elements and members -/

theorem getElem?_shows (h : List.Forall₂ Shows items values) (i : Nat) :
    Option.Rel Shows items[i]? values[i]? := by
  induction h generalizing i with
  | nil => exact .none
  | cons hhead _ ih =>
      cases i with
      | zero => exact .some hhead
      | succ i => exact ih i

theorem EntriesShow.get? (h : EntriesShow entries shown) (name : String) :
    Option.Rel Shows (Entries.get? entries name) (shown.get? name) := by
  induction h with
  | nil => exact .none
  | cons hpair _ ih =>
      rw [Entries.get?, Entries.get?, hpair.1]
      split
      · exact .some hpair.2
      · exact ih

theorem Shows.item? (h : Shows a v) (i : Nat) : Option.Rel Shows (a.item? i) (v.item? i) := by
  have hcontent := h.content
  cases h with
  | viewArray =>
      cases hcontent with
      | array hitems =>
          rw [Held.item?, ← List.getElem?_map]
          exact getElem?_shows hitems i
  | ownArray hitems => exact getElem?_shows hitems i
  | _ => exact .none

/-- A name is looked up in the document where an object is viewed, and among the entries where it was
computed. -/
theorem Shows.get? (h : Shows a v) (name : String) : Option.Rel Shows (a.get? name) (v.get? name) := by
  have hcontent := h.content
  cases h with
  | viewObject =>
      cases hcontent with
      | object hentries =>
          rw [Held.get?, ← Entries.get?_map]
          exact hentries.get? name
  | ownObject =>
      cases hcontent with
      | object hentries => exact hentries.get? name
  | _ => exact .none

theorem Shows.getD {r : Option Held} {s : Option Value} (h : Option.Rel Shows r s) :
    Shows (r.getD .null) (s.getD .null) := by
  cases h with
  | none => exact .null
  | some h => exact h

section Optional

variable {α β α' β' : Type} {R : α → α' → Prop} {T : β → β' → Prop} {r : Option α}
  {s : Option α'}

theorem rel_bind {f : α → Option β} {g : α' → Option β'} (h : Option.Rel R r s)
    (hfg : ∀ x y, R x y → Option.Rel T (f x) (g y)) : Option.Rel T (r.bind f) (s.bind g) := by
  cases h with
  | none => exact .none
  | some h => exact hfg _ _ h

theorem rel_map {f : α → β} {g : α' → β'} (h : Option.Rel R r s)
    (hfg : ∀ x y, R x y → T (f x) (g y)) : Option.Rel T (r.map f) (s.map g) := by
  cases h with
  | none => exact .none
  | some h => exact .some (hfg _ _ h)

end Optional

/-! ## Writing -/

theorem itemsToJson_eq
    (h : List.Forall₂ (fun item value => item.toJson = Value.toJson value) items values) :
    itemsToJson items = Value.itemsToJson values := by
  induction h with
  | nil => rfl
  | cons hhead _ ih => rw [itemsToJson, Value.itemsToJson, hhead, ih]

theorem entriesToJson_eq
    (h : List.Forall₂ (fun e f => e.1 = f.1 ∧ e.2.toJson = Value.toJson f.2) entries shown) :
    entriesToJson entries = Value.entriesToJson shown := by
  induction h with
  | nil => rfl
  | cons hpair _ ih => rw [entriesToJson, Value.entriesToJson, hpair.1, hpair.2, ih]

/-- **`Shows.toJson_eq`** — the document that is written for a value is the same however it is held: a
view is copied, and that is what would be written for its parts one by one. -/
theorem Shows.toJson_eq {a : Held} {v : Value} (h : Shows a v) : a.toJson = v.toJson := by
  cases h with
  | null | bool | number | string | reference => simp only [toJson, Value.toJson]
  | viewArray hrestored | viewObject hrestored =>
      rw [Json.IsRestored, Value.ofJson] at hrestored
      rw [hrestored, toJson]
  | @ownArray items values hitems =>
      have hdeep := items_below hitems
      rw [toJson, Value.toJson, itemsToJson_eq (hdeep.imp fun item value hpart => hpart.2.toJson_eq)]
  | @ownObject entries shown hnames hvalues =>
      have hdeep := (entriesShow_of_names hnames hvalues).below
      rw [toJson, Value.toJson, entriesToJson_eq
        (hdeep.imp fun entry other hpart => ⟨hpart.2.1, hpart.2.2.toJson_eq⟩)]
termination_by a.height
decreasing_by
  · exact hpart.1
  · exact hpart.1

/-! ## Values that a document can hold -/

mutual

/-- **`h.isKept`** — whether what was computed has only numbers that are kept, no object with a repeated
name, and no reference.  A view has none of this. -/
def isKept : Held → Bool
  | .null | .bool _ | .string _ | .viewArray _ | .viewObject _ => true
  | .number n => n.isKept
  | .ownArray items => isKeptItems items
  | .ownObject entries => decide (Entries.names entries).Nodup && isKeptEntries entries
  | .reference .. => false

/-- Whether all items are kept. -/
def isKeptItems : List Held → Bool
  | [] => true
  | item :: rest => item.isKept && isKeptItems rest

/-- Whether the values of all entries are kept. -/
def isKeptEntries : List (String × Held) → Bool
  | [] => true
  | (_, held) :: rest => held.isKept && isKeptEntries rest

end

theorem isKeptItems_imp
    (h : List.Forall₂ (fun item value => item.isKept = true → Value.isKept value = true) items values)
    (hkept : isKeptItems items = true) : Value.isKeptItems values = true := by
  induction h with
  | nil => rfl
  | cons hhead _ ih =>
      rw [isKeptItems, Bool.and_eq_true] at hkept
      rw [Value.isKeptItems, hhead hkept.1, ih hkept.2, Bool.and_self]

theorem isKeptEntries_imp
    (h : List.Forall₂ (fun e f => e.2.isKept = true → Value.isKept f.2 = true) entries shown)
    (hkept : isKeptEntries entries = true) : Value.isKeptEntries shown = true := by
  induction h with
  | nil => rfl
  | cons hhead _ ih =>
      rw [isKeptEntries, Bool.and_eq_true] at hkept
      rw [Value.isKeptEntries, hhead hkept.1, ih hkept.2, Bool.and_self]

/-- What shows a value can only be kept if the value can. -/
theorem Shows.isKept {a : Held} {v : Value} (h : Shows a v) :
    a.isKept = true → v.isKept = true := by
  cases h with
  | null | bool | string => exact fun _ => rfl
  | number n => exact id
  | reference => exact fun hkept => nomatch hkept
  | viewArray hrestored | viewObject hrestored => exact fun _ => hrestored.isKept
  | @ownArray items values hitems =>
      have hdeep := items_below hitems
      exact isKeptItems_imp (hdeep.imp fun item value hpart => hpart.2.isKept)
  | @ownObject entries shown hnames hvalues =>
      have hdeep := (entriesShow_of_names hnames hvalues).below
      rw [Held.isKept, Value.isKept, Bool.and_eq_true, Bool.and_eq_true, decide_eq_true_eq,
        decide_eq_true_eq, Entries.names, Entries.names, hnames]
      exact And.imp_right (isKeptEntries_imp (hdeep.imp fun entry other hpart => hpart.2.2.isKept))
termination_by a.height
decreasing_by
  · exact hpart.1
  · exact hpart.1

/-! ## Sorting -/

/-- Lists that are related element by element are so when they are sorted, if related elements are
compared alike. -/
theorem forall₂_mergeSort {α β : Type} {R : α → β → Prop} {le : α → α → Bool} {le' : β → β → Bool}
    (hle : ∀ x y x' y', R x y → R x' y' → le x x' = le' y y') {xs : List α} {ys : List β}
    (h : List.Forall₂ R xs ys) : List.Forall₂ R (xs.mergeSort le) (ys.mergeSort le') := by
  obtain ⟨hlength, hzip⟩ := List.forall₂_iff_zip.mp h
  have hpairs : ∀ p ∈ xs.zip ys, R p.1 p.2 := fun p hp => hzip hp
  -- Both are sorted as the list of pairs is.
  have hfst : ((xs.zip ys).mergeSort fun p q => le p.1 q.1).map Prod.fst = xs.mergeSort le := by
    rw [List.map_mergeSort (s := le) fun _ _ _ _ => rfl, List.map_fst_zip hlength.le]
  have hsnd : ((xs.zip ys).mergeSort fun p q => le p.1 q.1).map Prod.snd = ys.mergeSort le' := by
    rw [List.map_mergeSort fun p hp q hq => hle _ _ _ _ (hpairs p hp) (hpairs q hq),
      List.map_snd_zip hlength.ge]
  rw [← hfst, ← hsnd, List.forall₂_map_left_iff, List.forall₂_map_right_iff, List.forall₂_same]
  exact fun p hp => hpairs p (List.mem_mergeSort.mp hp)

theorem EntriesShow.sorted (h : EntriesShow entries shown) :
    EntriesShow entries.sortByName (Value.sortEntries shown) :=
  forall₂_mergeSort (fun _ _ _ _ hleft hright => by rw [hleft.1, hright.1]) h

/-! ## Equality, order and hashing -/

theorem all_zip_attach {α β : Type} (xs : List α) (ys : List β) (f : α → β → Bool) :
    ((xs.attach.zip ys).all fun p => f p.1.1 p.2) = (xs.zip ys).all fun p => f p.1 p.2 := by
  conv_rhs => rw [← List.attach_map_subtype_val xs, List.zip_map_left, List.all_map]
  rfl

theorem same_eq (a b : Held) : a.same b =
    match a.content, b.content with
    | .null, .null => true
    | .bool p, .bool q => p == q
    | .number m, .number n => m.same n
    | .string s, .string t => s == t
    | .array items, .array others =>
      items.length == others.length && (items.zip others).all fun p => p.1.same p.2
    | .object entries, .object others =>
      entries.length == others.length &&
        (entries.sortByName.zip others.sortByName).all fun p => p.1.1 == p.2.1 && p.1.2.same p.2.2
    | .reference i _, .reference j _ => i == j
    | _, _ => false := by
  rw [same]
  split
  case h_5 items others hitems hothers =>
    simp only [hitems, hothers, all_zip_attach items others fun item other => item.same other]
  case h_6 entries others hentries hothers =>
    simp only [hentries, hothers, all_zip_attach entries.sortByName others.sortByName
      fun entry other => entry.1 == other.1 && entry.2.same other.2]
  case h_8 hreference =>
    split
    case h_7 i body j other hi hj => exact (hreference i body j other hi hj).elim
    all_goals simp_all
  all_goals simp only [*]

/-- Arrays are equal item by item. -/
theorem same_array {others : List Held} (ha : a.content = .array items)
    (hb : b.content = .array others) :
    a.same b = true ↔ List.Forall₂ (fun item other => item.same other = true) items others := by
  rw [same_eq, ha, hb, List.forall₂_iff_zip]
  simp

/-- Objects are equal entry by entry, once the entries are sorted by name. -/
theorem same_object {others : Entries Held} (ha : a.content = .object entries)
    (hb : b.content = .object others) :
    a.same b = true ↔ List.Forall₂ (fun e f => e.1 = f.1 ∧ e.2.same f.2 = true)
      entries.sortByName others.sortByName := by
  have hlength : ∀ entries : Entries Held, entries.sortByName.length = entries.length :=
    fun entries => List.length_mergeSort entries
  rw [same_eq, ha, hb, List.forall₂_iff_zip, hlength, hlength]
  simp

/-- Two lists are related element by element if two others are that they stand for element by
element. -/
theorem forall₂_congr {α β : Type} {R : α → β → Prop} {P : α → α → Prop} {Q : β → β → Prop}
    {xs xs' : List α} {ys ys' : List β} (h : List.Forall₂ R xs ys) (h' : List.Forall₂ R xs' ys')
    (hiff : ∀ x ∈ xs, ∀ y x' y', R x y → R x' y' → (P x x' ↔ Q y y')) :
    List.Forall₂ P xs xs' ↔ List.Forall₂ Q ys ys' := by
  induction h generalizing xs' ys' with
  | nil => cases h' <;> simp
  | cons hhead _ ih =>
      obtain ⟨hfirst, hrest⟩ := List.forall_mem_cons.mp hiff
      cases h' with
      | nil => simp
      | cons hhead' htail' =>
          rw [List.forall₂_cons, List.forall₂_cons, hfirst _ _ _ hhead hhead', ih htail' hrest]

/-- **`Shows.same_eq`** — two values are equal or not however they are held. -/
theorem Shows.same_eq {a b : Held} {v w : Value} (ha : Shows a v) (hb : Shows b w) :
    a.same b = v.same w := by
  have hac := ha.content
  have hbc := hb.content
  generalize hc : a.content = c at hac
  generalize hd : b.content = d at hbc
  cases hac with
  | array hitems =>
      cases hbc with
      | array hothers =>
          rw [Bool.eq_iff_iff, same_array hc hd, Value.same_array]
          refine forall₂_congr hitems hothers fun item hitem _ _ _ hleft hright => ?_
          have := height_lt_of_array hc hitem
          rw [hleft.same_eq hright]
      | _ =>
          rw [Held.same_eq, hc, hd]
          rfl
  | object hentries =>
      cases hbc with
      | object hothers =>
          rw [Bool.eq_iff_iff, same_object hc hd, Value.same_object]
          refine forall₂_congr hentries.sorted hothers.sorted fun e he _ _ _ hleft hright => ?_
          have := height_lt_of_object hc (List.mem_mergeSort.mp he)
          rw [hleft.1, hright.1, hleft.2.same_eq hright.2]
      | _ =>
          rw [Held.same_eq, hc, hd]
          rfl
  | _ =>
      rw [Held.same_eq, hc, hd]
      cases hbc <;> rfl
termination_by a.height

theorem Shows.compare_eq (ha : Shows a v) (hb : Shows b w) : a.compare b = v.compare w := by
  cases ha <;> cases hb <;> rfl

/-- The fingerprint of an array is made of those of its items. -/
theorem fingerprint_array (values : List Value) (depth : Nat) :
    (Value.array values).fingerprint (depth + 1) =
      .kind .array :: .size values.length :: values.flatMap (·.fingerprint depth) := by
  have hitems : ∀ values : List Value, Value.itemMarks depth (Value.sortedItems values) =
      values.flatMap (·.fingerprint depth) := by
    intro values
    induction values with
    | nil => rfl
    | cons value rest ih =>
        rw [Value.sortedItems, Value.itemMarks, ih, List.flatMap_cons, Value.fingerprint]
  rw [Value.fingerprint, Value.sorted, Value.marks, hitems, Value.sortedItems_eq_map,
    List.length_map]

/-- The fingerprint of an object is made of those of its entries in the order of their names. -/
theorem fingerprint_object (shown : Entries Value) (depth : Nat) :
    (Value.object shown).fingerprint (depth + 1) =
      .kind .object :: .size shown.length :: (Value.sortEntries shown).flatMap fun entry =>
        .text entry.1 :: entry.2.fingerprint depth := by
  have hentries : ∀ shown : Entries Value,
      Value.entryMarks depth (shown.map fun entry => (entry.1, entry.2.sorted)) =
        shown.flatMap fun entry => .text entry.1 :: entry.2.fingerprint depth := by
    intro shown
    induction shown with
    | nil => rfl
    | cons entry rest ih =>
        rw [List.map_cons, Value.entryMarks, ih, List.flatMap_cons, Value.fingerprint]
  rw [Value.fingerprint, Value.sorted, Value.sortEntries_sortedEntries, Value.marks, hentries,
    List.length_map, Value.sortEntries, List.length_mergeSort]

theorem flatMap_eq_of_forall₂ {α β γ : Type} {f : α → List γ} {g : β → List γ} {xs : List α}
    {ys : List β} (h : List.Forall₂ (fun x y => f x = g y) xs ys) :
    xs.flatMap f = ys.flatMap g := by
  induction h with
  | nil => rfl
  | cons hhead _ ih => rw [List.flatMap_cons, List.flatMap_cons, hhead, ih]

/-- **`Shows.marks_eq`** — a hash is fed the same for a value however it is held, at every depth. -/
theorem Shows.marks_eq (h : Shows a v) (depth : Nat) : a.marks depth = v.fingerprint depth := by
  induction depth generalizing a v with
  | zero =>
      have hkind : v.sorted.kind = v.kind := by cases v <;> rfl
      rw [marks, Value.fingerprint, Value.marks, hkind, h.kind_eq]
  | succ depth ih =>
      have hcontent := h.content
      rw [marks, h.kind_eq]
      generalize a.content = c at hcontent
      cases hcontent with
      | array hitems =>
          have hmarks := flatMap_eq_of_forall₂ (hitems.imp fun item value hshows => ih hshows)
          rw [fingerprint_array, ← hmarks, ← hitems.length_eq]
          rfl
      | object hentries =>
          have hmarks := flatMap_eq_of_forall₂ (f := fun e => Value.Mark.text e.1 :: e.2.marks depth)
            (hentries.sorted.imp fun e f hshows => by rw [hshows.1, ih hshows.2])
          rw [fingerprint_object, ← hmarks, ← hentries.length_eq]
          rfl
      | bool b => cases b <;> rfl
      | _ => rfl

/-! ## Operators -/

theorem Shows.shortCircuit (h : Shows a v) (op : BinaryOperator) :
    Option.Rel Shows (a.shortCircuit op) (op.shortCircuit v) := by
  have htruth := h.isTruthy_eq
  cases op with
  | or | and =>
      simp only [Held.shortCircuit, BinaryOperator.shortCircuit, htruth]
      split
      · first | exact .some h | exact .none
      · first | exact .some h | exact .none
  | _ => exact .none

theorem Shows.arithmetic (ha : Shows a v) (hb : Shows b w) (f : Number → Number → Option Number) :
    Option.Rel Shows (Held.arithmetic f a b) (Value.arithmetic f v w) := by
  cases ha with
  | number m =>
      cases hb with
      | number n =>
          rw [Held.arithmetic, Value.arithmetic]
          cases f m n with
          | none => exact .none
          | some result => exact .some (.number result)
      | _ => exact .none
  | _ => exact .none

/-- **`Shows.binary`** — an infix operator gives the same however its operands are held. -/
theorem Shows.binary (ha : Shows a v) (hb : Shows b w) (op : BinaryOperator) :
    Option.Rel Shows (a.binary op b) (op.apply v w) := by
  have htruth := ha.isTruthy_eq
  cases op with
  | or | and =>
      simp only [Held.binary, BinaryOperator.apply, htruth]
      refine .some ?_
      split <;> assumption
  | equal | notEqual =>
      simp only [Held.binary, BinaryOperator.apply, ha.same_eq hb]
      exact .some (.bool _)
  | lessThan | lessEqual | greaterThan | greaterEqual =>
      simp only [Held.binary, BinaryOperator.apply, Held.compareValues, BinaryOperator.compareValues,
        ha.compare_eq hb]
      cases v.compare w with
      | none => exact .some .null
      | some o => exact .some (.bool _)
  | add | subtract | multiply | divide | modulo | integerDivide => exact ha.arithmetic hb _

/-- So does a prefix operator. -/
theorem Shows.unary (h : Shows a v) (op : UnaryOperator) :
    Option.Rel Shows (a.unary op) (op.apply v) := by
  cases op with
  | not =>
      simp only [Held.unary, UnaryOperator.apply, h.isTruthy_eq]
      exact .some (.bool _)
  | minus =>
      simp only [Held.unary, UnaryOperator.apply, h.number?_eq]
      cases v.number? with
      | none => exact .none
      | some n => exact .some (.number _)

/-! ## Steps and projections -/

theorem truth_eq {r : Option Held} {s : Option Value} (h : Option.Rel Shows r s) :
    (r.map isTruthy).getD false = (s.map Value.isTruthy).getD false := by
  cases h with
  | none => rfl
  | some h => exact h.isTruthy_eq

/-- An index is resolved by the length, and one element is asked for. -/
theorem Shows.element (h : Shows a v) (i : Int) :
    Shows (a.element i) ((do
      let items ← v.items?
      items[← normalizeIndex i items.length]?).getD .null) := by
  have hplace : (do let items ← v.items?; items[← normalizeIndex i items.length]?) =
      (normalizeIndex i v.size).bind v.item? := by
    cases v with
    | array => rfl
    | _ => cases normalizeIndex i _ <;> rfl
  rw [hplace, Held.element, h.size_eq]
  refine Shows.getD ?_
  cases normalizeIndex i v.size with
  | none => exact .none
  | some j => exact h.item? j

/-- So are the indices of a slice, which makes an array of its own. -/
theorem Shows.slice (h : Shows a v) (s : Slice) :
    Shows (a.slice s) (match v.items? with
      | some items => .array ((s.indices items.length).filterMap (items[·]?))
      | none => .null) := by
  rw [Held.slice, h.kind_eq, h.size_eq]
  cases v with
  | array values =>
      have hplaces : List.Forall₂ Eq (s.indices values.length) (s.indices values.length) :=
        List.forall₂_refl _
      refine .ownArray (List.rel_filterMap (fun i j hij => ?_) hplaces)
      exact hij ▸ h.item? i
  | bool b => cases b <;> exact .null
  | _ => exact .null

theorem flatten_shows (h : List.Forall₂ Shows items values) :
    List.Forall₂ Shows (flatten items) (Value.flatten values) := by
  induction h with
  | nil => exact .nil
  | cons hhead _ ih =>
      have hcontent := hhead.content
      rw [flatten]
      generalize Held.content _ = c at hcontent
      cases hcontent with
      | array hinner => exact List.rel_append hinner ih
      | _ => exact .cons hhead ih

theorem present_shows {results : List (Option Held)} {outcomes : List (Option Value)}
    (h : List.Forall₂ (Option.Rel Shows) results outcomes) :
    List.Forall₂ Shows (present results) (Value.present outcomes) := by
  refine List.rel_filterMap (fun r s hrel => ?_) h
  cases hrel with
  | none => exact .none
  | some hshows =>
      simp only [hshows.isNull_eq]
      split
      · exact .none
      · exact .some hshows

end Held

end JsonQuery
