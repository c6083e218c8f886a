/-
# JsonQuery.Proofs.Value.Reordered — documents apart from the order of members.

The members of an object can be put in another order, in a whole document and in any part of it.  The
values of a document and of a reordered one are akin, and values that are akin are written as
documents that are reordered.  So kinship of values is the order of members and nothing besides, as
far as documents show it.
-/
import JsonQuery.Proofs.Json.UniqueNames
import JsonQuery.Proofs.Value.Akin
import JsonQuery.Proofs.Value.Reading

namespace JsonQuery

open Value (Akin)

namespace Json

/-- **`Reordered d e`** — two documents that differ in the order of the members of objects alone: the
members of the whole or of any part of it are put in another order, as often as one likes. -/
inductive Reordered : Json → Json → Prop where
  | refl (d : Json) : Reordered d d
  | trans {d e f : Json} : Reordered d e → Reordered e f → Reordered d f
  | members {members others : Entries Json} :
      members.Perm others → Reordered (.object members) (.object others)
  | item {d e : Json} (before behind : List Json) : Reordered d e →
      Reordered (.array (before ++ d :: behind)) (.array (before ++ e :: behind))
  | member {d e : Json} (name : String) (before behind : Entries Json) : Reordered d e →
      Reordered (.object (before ++ (name, d) :: behind)) (.object (before ++ (name, e) :: behind))

variable {d e : Json} {items others : List Json} {members more : Entries Json}

/-! ## Reordering part by part -/

theorem reordered_array (h : List.Forall₂ Reordered items others) :
    Reordered (.array items) (.array others) := by
  have hbehind : ∀ before, Reordered (.array (before ++ items)) (.array (before ++ others)) := by
    induction h with
    | nil => exact fun before => .refl _
    | @cons item other rest more hhead _ ih =>
        intro before
        have hrest := ih (before ++ [other])
        rw [← List.append_cons, ← List.append_cons] at hrest
        exact (Reordered.item before rest hhead).trans hrest
  exact hbehind []

/-- Members can be reordered one by one, where they are. -/
theorem exists_reordered_members
    (h : ∀ entry ∈ members, ∃ e, (entry.1, e) ∈ more ∧ entry.2.Reordered e) :
    ∃ middle : Entries Json, middle.names = members.names ∧ middle ⊆ more ∧
      ∀ before, Reordered (.object (before ++ members)) (.object (before ++ middle)) := by
  induction members with
  | nil => exact ⟨[], rfl, List.nil_subset _, fun before => .refl _⟩
  | cons entry rest ih =>
      obtain ⟨⟨e, hmem, hhead⟩, hrest⟩ := List.forall_mem_cons.mp h
      obtain ⟨middle, hnames, hsubset, hreordered⟩ := ih hrest
      refine ⟨(entry.1, e) :: middle, ?_, List.cons_subset.mpr ⟨hmem, hsubset⟩, fun before => ?_⟩
      · exact congrArg (entry.1 :: ·) hnames
      · have hbehind := hreordered (before ++ [(entry.1, e)])
        rw [← List.append_cons, ← List.append_cons] at hbehind
        exact (Reordered.member entry.1 before rest hhead).trans hbehind

/-- Objects that repeat no name are reordered if what look-ups find in them is. -/
theorem reordered_object_of_get? (hmembers : members.names.Nodup) (hmore : more.names.Nodup)
    (h : ∀ name, Option.Rel Reordered (members.get? name) (more.get? name)) :
    Reordered (.object members) (.object more) := by
  have hfound : ∀ entry ∈ members, ∃ e, (entry.1, e) ∈ more ∧ entry.2.Reordered e := by
    intro entry hentry
    have hrel := h entry.1
    rw [Entries.get?_of_mem hmembers hentry] at hrel
    generalize hother : more.get? entry.1 = other at hrel
    cases hrel with
    | @some _ e hreordered => exact ⟨e, Entries.mem_of_get? hother, hreordered⟩
  obtain ⟨middle, hnames, hsubset, hreordered⟩ := exists_reordered_members hfound
  -- Each of the other members is the counterpart of one, so all of them are there.
  have hnamesSubset : more.names ⊆ middle.names := by
    intro name hname
    rw [hnames]
    by_contra hnone
    have hrel := h name
    rw [Entries.get?_of_notMem hnone] at hrel
    generalize hother : more.get? name = other at hrel
    cases hrel with
    | none => exact Entries.notMem_names_of_get?_eq_none hother hname
  have hlength : more.length ≤ middle.length := by
    have hle := (List.subperm_of_subset hmore hnamesSubset).length_le
    rwa [Entries.names, Entries.names, List.length_map, List.length_map] at hle
  have hmiddle : middle.Nodup := by
    apply List.Nodup.of_map Prod.fst
    show middle.names.Nodup
    rwa [hnames]
  have hperm := (List.subperm_of_subset hmiddle hsubset).perm_of_length_le hlength
  exact (hreordered []).trans (.members hperm)

/-! ## The values of reordered documents -/

/-- Reordering repeats no name. -/
theorem Reordered.hasUniqueNames (h : d.Reordered e) (hd : d.hasUniqueNames = true) :
    e.hasUniqueNames = true := by
  induction h with
  | refl d => exact hd
  | trans _ _ ihfirst ihsecond => exact ihsecond (ihfirst hd)
  | @members members others hperm =>
      rw [hasUniqueNames_object] at hd ⊢
      obtain ⟨hnames, hmembers⟩ := hd
      refine ⟨(hperm.map _).nodup_iff.mp hnames, fun entry hentry => ?_⟩
      exact hmembers entry (hperm.mem_iff.mpr hentry)
  | item before behind _ ih =>
      rw [hasUniqueNames_array, List.forall_mem_append, List.forall_mem_cons] at hd ⊢
      obtain ⟨hbefore, hitem, hbehind⟩ := hd
      exact ⟨hbefore, ih hitem, hbehind⟩
  | member name before behind _ ih =>
      rw [hasUniqueNames_object, List.forall_mem_append, List.forall_mem_cons] at hd ⊢
      obtain ⟨hnames, hbefore, hmember, hbehind⟩ := hd
      rw [Entries.names_append] at hnames ⊢
      exact ⟨hnames, hbefore, ih hmember, hbehind⟩

/-- **`Reordered.akin`** — the values of reordered documents differ in the order of entries alone, if no
name is repeated: of two members of one name, a look-up would find the one that comes first. -/
theorem Reordered.akin (h : d.Reordered e) (hd : d.hasUniqueNames = true) :
    (Value.ofJson d).Akin (Value.ofJson e) := by
  induction h with
  | refl d => exact .refl _
  | trans hfirst _ ihfirst ihsecond =>
      exact (ihfirst hd).trans (ihsecond (hfirst.hasUniqueNames hd))
  | @members members others hperm =>
      obtain ⟨hnames, -⟩ := hasUniqueNames_object.mp hd
      have hvalues : (Value.ofMembers members).Perm (Value.ofMembers others) := by
        rw [Value.ofMembers_eq_map, Value.ofMembers_eq_map]
        exact hperm.map _
      have hmembers : (Entries.names (Value.ofMembers members)).Nodup := by
        rwa [Value.names_ofMembers]
      rw [Value.ofJson, Value.ofJson]
      refine Value.akin_object_of_get? hmembers ((hvalues.map _).nodup_iff.mp hmembers) ?_
      intro name
      rw [Entries.get?_of_perm hmembers hvalues]
      exact Value.rel_refl _
  | item before behind _ ih =>
      rw [hasUniqueNames_array, List.forall_mem_append, List.forall_mem_cons] at hd
      obtain ⟨-, hitem, -⟩ := hd
      rw [Value.ofJson, Value.ofJson, Value.akin_array, Value.ofItems_eq_map, Value.ofItems_eq_map,
        List.map_append, List.map_append]
      have hsame : ∀ items : List Value, List.Forall₂ Akin items items :=
        fun items => List.forall₂_same.mpr fun v _ => .refl v
      exact List.rel_append (hsame _) (.cons (ih hitem) (hsame _))
  | member name before behind _ ih =>
      rw [hasUniqueNames_object, List.forall_mem_append, List.forall_mem_cons] at hd
      obtain ⟨-, -, hmember, -⟩ := hd
      rw [Value.ofJson, Value.ofJson, Value.ofMembers_eq_map, Value.ofMembers_eq_map,
        List.map_append, List.map_append]
      have hsame : ∀ entries : Entries Value,
          List.Forall₂ (fun e f => e.1 = f.1 ∧ e.2.Akin f.2) entries entries :=
        fun entries => List.forall₂_same.mpr fun entry _ => ⟨rfl, .refl entry.2⟩
      exact Value.akin_object_of_forall₂
        (List.rel_append (hsame _) (.cons ⟨rfl, ih hmember⟩ (hsame _)))

end Json

/-! ## The documents of values that are akin -/

namespace Value

open Json (Reordered)

theorem entriesToJson_eq_map (entries : Entries Value) :
    entriesToJson entries = entries.map fun entry => (entry.1, entry.2.toJson) := by
  induction entries with
  | nil => rfl
  | cons entry rest ih => simp only [entriesToJson, ih, List.map_cons]

/-- What is written for a name is the last of its entries. -/
theorem get?_collapse_entriesToJson (entries : Entries Value) (name : String) :
    (collapse (entriesToJson entries)).get? name = (valuesOf entries name).getLast?.map toJson := by
  rw [get?_collapse, entriesToJson_eq_map, ← List.map_reverse, ← entriesToJson_eq_map,
    get?_entriesToJson, get?_reverse_eq_getLast?]

theorem mem_of_mem_valuesOf {entries : Entries Value} {name : String} {v : Value}
    (h : v ∈ valuesOf entries name) : (name, v) ∈ entries := by
  obtain ⟨⟨key, own⟩, hentry, rfl⟩ := List.mem_map.mp h
  obtain ⟨hmem, hkey⟩ := List.mem_filter.mp hentry
  obtain rfl : key = name := eq_of_beq hkey
  exact hmem

mutual

/-- **`reordered_toJson`** — values that are akin are written as documents that differ in the order
of members alone. -/
theorem reordered_toJson (v : Value) {w : Value} (h : v.Akin w) : v.toJson.Reordered w.toJson := by
  cases v with
  | null | bool | number | string | reference =>
      cases h.shape
      exact .refl _
  | array items =>
      cases h.shape with
      | leaf => exact .refl _
      | array hitems =>
          rw [toJson, toJson]
          exact Json.reordered_array (reordered_itemsToJson items hitems)
  | object entries =>
      cases h.shape with
      | leaf => exact .refl _
      | @object _ more hakin =>
          rw [toJson, toJson]
          refine Json.reordered_object_of_get? (nodup_collapse _) (nodup_collapse _) fun name => ?_
          rw [get?_collapse_entriesToJson, get?_collapse_entriesToJson]
          have hmember : ∀ v ∈ (valuesOf entries name).getLast?, ∀ w, v.Akin w →
              v.toJson.Reordered w.toJson := fun v hv w hvw =>
            reordered_entriesToJson entries _ (mem_of_mem_valuesOf (List.mem_of_getLast? hv)) hvw
          have hlast := getLast?_akin (forall₂_valuesOf hakin name)
          generalize (valuesOf entries name).getLast? = last at hlast hmember ⊢
          generalize (valuesOf more name).getLast? = other at hlast ⊢
          cases hlast with
          | none => exact .none
          | some hvalue => exact .some (hmember _ rfl _ hvalue)

theorem reordered_itemsToJson (items : List Value) {others : List Value}
    (h : List.Forall₂ Akin items others) :
    List.Forall₂ Reordered (itemsToJson items) (itemsToJson others) := by
  cases items with
  | nil =>
      cases h
      exact .nil
  | cons item rest =>
      cases h with
      | cons hhead hrest =>
          rw [itemsToJson, itemsToJson]
          exact .cons (reordered_toJson item hhead) (reordered_itemsToJson rest hrest)

theorem reordered_entriesToJson (entries : List (String × Value)) :
    ∀ entry ∈ entries, ∀ {w : Value}, entry.2.Akin w → entry.2.toJson.Reordered w.toJson := by
  match entries with
  | [] => exact fun entry hentry => nomatch hentry
  | (name, value) :: rest =>
      exact List.forall_mem_cons.mpr ⟨reordered_toJson value, reordered_entriesToJson rest⟩

end

end Value

end JsonQuery
