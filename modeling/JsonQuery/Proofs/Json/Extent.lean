/-
# JsonQuery.Proofs.Json.Extent — how much room there is in a document.

The parts of a document nest less deeply than the document.  They also take less room in it, when
room is counted so that the pointers fit in: a pointer to a part is never longer than the room that
the part leaves.  An escape makes a segment at most twice as long as the name that it stands for,
and an index has no zeros in front, so it is no longer than the array.  A document therefore has
only finitely many pointers that lead anywhere, in whatever spelling.
-/
import Mathlib.Data.Set.Finite.List
import JsonQuery.Proofs.Json.Pointer

namespace JsonQuery.Json

/-! ## Nesting -/

theorem height_le_heightOfItems {items : List Json} {item : Json} (h : item ∈ items) :
    item.height ≤ heightOfItems items := by
  induction items with
  | nil => cases h
  | cons first rest ih =>
      rw [heightOfItems]
      rcases List.mem_cons.mp h with rfl | hrest
      · exact Nat.le_max_left _ _
      · exact Nat.le_trans (ih hrest) (Nat.le_max_right _ _)

theorem height_le_heightOfMembers {members : List (String × Json)} {entry : String × Json}
    (h : entry ∈ members) : entry.2.height ≤ heightOfMembers members := by
  induction members with
  | nil => cases h
  | cons first rest ih =>
      obtain ⟨name, value⟩ := first
      rw [heightOfMembers]
      rcases List.mem_cons.mp h with rfl | hrest
      · exact Nat.le_max_left _ _
      · exact Nat.le_trans (ih hrest) (Nat.le_max_right _ _)

theorem height_lt_of_get? {members : Entries Json} {name : String} {value : Json}
    (h : members.get? name = some value) : value.height < (Json.object members).height :=
  Nat.lt_succ_of_le (height_le_heightOfMembers (Entries.mem_of_get? h))

/-! ## Room -/

mutual

/-- The room that a document takes: one for itself, and that of its parts with what leads to them.
-/
def extent : Json → Nat
  | .array items => extentOfItems items + 1
  | .object members => extentOfMembers members + 1
  | _ => 1

/-- The room of items; an item takes as much for its index as the next one has to count past it. -/
def extentOfItems : List Json → Nat
  | [] => 0
  | item :: rest => item.extent + 3 + extentOfItems rest

/-- The room of members; every character of a name may have to be escaped. -/
def extentOfMembers : List (String × Json) → Nat
  | [] => 0
  | (name, value) :: rest => value.extent + 2 * name.length + 1 + extentOfMembers rest

end

theorem extent_pos (json : Json) : 0 < json.extent := by
  cases json with
  | array | object => exact Nat.succ_pos _
  | null | bool | number | string => exact Nat.one_pos

theorem extent_add_le_extentOfItems {items : List Json} {item : Json} (h : item ∈ items) :
    item.extent + 3 * items.length ≤ extentOfItems items := by
  have hlength : ∀ items : List Json, 3 * items.length ≤ extentOfItems items := by
    intro items
    induction items with
    | nil => exact Nat.le_refl 0
    | cons first rest ih => rw [extentOfItems, List.length_cons]; omega
  induction items with
  | nil => cases h
  | cons first rest ih =>
      rw [extentOfItems, List.length_cons]
      rcases List.mem_cons.mp h with rfl | hrest
      · have := hlength rest
        omega
      · have := ih hrest
        omega

theorem extent_add_le_extentOfMembers {members : List (String × Json)} {entry : String × Json}
    (h : entry ∈ members) :
    entry.2.extent + 2 * entry.1.length + 1 ≤ extentOfMembers members := by
  induction members with
  | nil => cases h
  | cons first rest ih =>
      obtain ⟨name, value⟩ := first
      rw [extentOfMembers]
      rcases List.mem_cons.mp h with rfl | hrest
      · exact Nat.le_add_right _ _
      · have := ih hrest
        omega

theorem extent_lt_of_mem_items {items : List Json} {item : Json} (h : item ∈ items) :
    item.extent < (Json.array items).extent := by
  have := extent_add_le_extentOfItems h
  rw [extent]
  omega

theorem extent_lt_of_mem_members {members : Entries Json} {entry : String × Json}
    (h : entry ∈ members) : entry.2.extent < (Json.object members).extent := by
  have := extent_add_le_extentOfMembers h
  rw [extent]
  omega

theorem extent_lt_of_get? {members : Entries Json} {name : String} {value : Json}
    (h : members.get? name = some value) : value.extent < (Json.object members).extent :=
  extent_lt_of_mem_members (Entries.mem_of_get? h)

/-! ## Segments -/

/-- Resolving escapes leaves at least half of a segment. -/
theorem length_le_unescapeSegment (segment : List Char) :
    segment.length ≤ 2 * (unescapeSegment segment).length := by
  fun_induction unescapeSegment segment <;> simp only [List.length_cons, List.length_nil] <;> omega

theorem add_length_le_foldl_digits (digits : List Char) {acc : Nat} (hacc : 0 < acc) :
    acc + digits.length ≤ digits.foldl (fun acc c => acc * 10 + (c.toNat - 48)) acc := by
  induction digits generalizing acc with
  | nil => exact Nat.le_refl _
  | cons c rest ih =>
      have hpos : 0 < acc * 10 + (c.toNat - 48) := by omega
      have := ih hpos
      rw [List.foldl_cons, List.length_cons]
      omega

/-- An index without zeros in front has no more digits than it counts items. -/
theorem length_le_of_segmentIndex? {segment : List Char} {i : Nat}
    (h : segmentIndex? segment = some i) : segment.length ≤ i + 1 := by
  simp only [segmentIndex?] at h
  split at h
  · cases h
  next hdigits =>
    split at h
    · cases h
    next hzero =>
      split at h
      next =>
        obtain rfl := Option.some.inj h
        cases segment with
        | nil => exact Nat.zero_le _
        | cons c rest =>
            simp only [List.head?_cons, List.length_cons, Option.some.injEq, Bool.and_eq_true,
              decide_eq_true_eq, bne_iff_ne] at hzero
            have hdigit : Text.isAsciiDigit c = true := by
              simp only [List.isEmpty_cons, Bool.false_or, Bool.not_eq_true', Bool.not_eq_false,
                List.all_cons, Bool.and_eq_true] at hdigits
              exact hdigits.1
            by_cases hc : c = '0'
            · have hone : rest.length + 1 = 1 := by
                by_contra hne
                exact hzero ⟨hc, hne⟩
              rw [List.length_cons]
              omega
            · have hpos : 0 < c.toNat - 48 := by
                simp only [Text.isAsciiDigit, Bool.and_eq_true, decide_eq_true_eq] at hdigit
                have hne : c.toNat ≠ 48 := fun heq => hc (Char.toNat_inj.mp heq)
                have hle : 48 ≤ c.toNat := hdigit.1
                omega
              have := add_length_le_foldl_digits rest hpos
              rw [List.foldl_cons, Nat.zero_mul, Nat.zero_add, List.length_cons]
              omega
      next => cases h

/-! ## Pointers -/

/-- A child leaves room for the segment that leads to it, however the segment is spelled. -/
theorem extent_child? {json value : Json} {segment : List Char}
    (h : json.child? (unescapeSegment segment) = some value) :
    value.extent + segment.length + 1 ≤ json.extent := by
  have hhalf := length_le_unescapeSegment segment
  cases json with
  | object members =>
      have := extent_add_le_extentOfMembers (Entries.mem_of_get? h)
      simp only [String.length_ofList] at this
      rw [extent]
      omega
  | array items =>
      simp only [child?, Option.bind_eq_bind, Option.bind_eq_some_iff] at h
      obtain ⟨i, hi, hvalue⟩ := h
      have hindex := length_le_of_segmentIndex? hi
      have hlt : i < items.length := (List.getElem?_eq_some_iff.mp hvalue).1
      have := extent_add_le_extentOfItems (List.mem_of_getElem? hvalue)
      rw [extent]
      omega
  | null | bool | number | string => cases h

theorem extent_children? {json value : Json} {segments : List (List Char)}
    (h : (segments.map unescapeSegment).foldlM child? json = some value) :
    value.extent + segments.flatten.length + segments.length ≤ json.extent := by
  induction segments generalizing json with
  | nil =>
      obtain rfl := Option.some.inj h
      exact Nat.le_refl _
  | cons segment rest ih =>
      simp only [List.map_cons, List.foldlM_cons, Option.bind_eq_bind,
        Option.bind_eq_some_iff] at h
      obtain ⟨child, hchild, hrest⟩ := h
      have := extent_child? hchild
      have := ih hrest
      rw [List.flatten_cons, List.length_append, List.length_cons]
      omega

/-- The segments of a text take all of it but the slashes between them. -/
theorem length_splitOn (text : List Char) :
    (text.splitOn '/').flatten.length + (text.splitOn '/').length = text.length + 1 := by
  induction hlength : text.length using Nat.strongRecOn generalizing text with
  | ind n ih =>
      by_cases hslash : '/' ∈ text
      · obtain ⟨before, behind, rfl⟩ := List.append_of_mem hslash
        rw [List.length_append, List.length_cons] at hlength
        have hbefore := ih before.length (by omega) before rfl
        have hbehind := ih behind.length (by omega) behind rfl
        rw [List.splitOn_append_cons_self, List.flatten_append, List.length_append,
          List.length_append]
        omega
      · rw [List.splitOn_eq_singleton hslash, List.flatten_singleton, List.length_singleton,
          hlength]

/-- **`extent_pointer?`** — the part of a document that a pointer leads to leaves room for the
pointer. -/
theorem extent_pointer? {json value : Json} {pointer : String}
    (h : json.pointer? pointer = some value) :
    value.extent + pointer.length ≤ json.extent := by
  simp only [pointer?, Option.bind_eq_bind, Option.bind_eq_some_iff] at h
  obtain ⟨segments, hsegments, hfold⟩ := h
  unfold pointerSegments? at hsegments
  split at hsegments
  next hempty =>
    obtain rfl := Option.some.inj hsegments
    obtain rfl := Option.some.inj hfold
    rw [← String.length_toList, hempty]
    exact Nat.le_refl _
  next rest hslash =>
    obtain rfl := Option.some.inj hsegments
    have := extent_children? hfold
    have hsegments := length_splitOn rest
    rw [← String.length_toList, hslash, List.length_cons]
    omega
  next => cases hsegments

/-- What is below a document takes less room than the document. -/
theorem extent_lt_of_pointer? {json value : Json} {pointer : String}
    (h : json.pointer? pointer = some value) (hbelow : pointer ≠ "") :
    value.extent < json.extent := by
  have hextent := extent_pointer? h
  have hlength : 0 < pointer.length := by
    rw [← String.length_toList]
    exact List.length_pos_iff.mpr fun hnil => hbelow (String.toList_eq_nil_iff.mp hnil)
  omega

theorem finite_char : Finite Char :=
  Finite.of_injective (fun c : Char => c.val.toFin) fun _ _ h => Char.ext (UInt32.toFin_inj.mp h)

/-- **`finite_pointers`** — finitely many pointers lead anywhere in a document. -/
theorem finite_pointers (json : Json) : {pointer | (json.pointer? pointer).isSome}.Finite := by
  have := finite_char
  have hshort := (List.finite_length_le Char json.extent).image String.ofList
  refine hshort.subset fun pointer hpointer => ?_
  obtain ⟨value, hvalue⟩ := Option.isSome_iff_exists.mp hpointer
  have hlength := extent_pointer? hvalue
  refine ⟨pointer.toList, ?_, String.ofList_toList⟩
  change pointer.toList.length ≤ json.extent
  rw [String.length_toList]
  omega

end JsonQuery.Json
