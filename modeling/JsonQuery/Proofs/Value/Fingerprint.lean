/-
# JsonQuery.Proofs.Value.Fingerprint — equal values have equal fingerprints.

A hash set finds a repetition only if equal values are fed to the hash function in the same way.
This holds of all values whose numbers leave the same mark when they are equal, whatever the depth
to which fingerprints look: both the fingerprint and equality are taken of the values with their
entries sorted, and there they agree place by place.
-/
import JsonQuery.Proofs.Json.Everywhere

namespace JsonQuery

/-- **`v.NumbersIn P`** — every number in `v` satisfies `P`. -/
inductive Value.NumbersIn (P : Number → Prop) : Value → Prop where
  | null : NumbersIn P .null
  | bool (b : Bool) : NumbersIn P (.bool b)
  | number {n : Number} : P n → NumbersIn P (.number n)
  | string (s : String) : NumbersIn P (.string s)
  | array {items : List Value} : (∀ v ∈ items, NumbersIn P v) → NumbersIn P (.array items)
  | object {entries : List (String × Value)} :
      (∀ entry ∈ entries, NumbersIn P entry.2) → NumbersIn P (.object entries)
  | reference (id : Nat) (body : Expr) : NumbersIn P (.reference id body)

namespace Value

variable {P : Number → Prop}

attribute [simp] NumbersIn.null NumbersIn.bool NumbersIn.string NumbersIn.reference

@[simp] theorem numbersIn_number {n : Number} : NumbersIn P (.number n) ↔ P n :=
  ⟨fun h => by cases h; assumption, .number⟩

@[simp] theorem numbersIn_array {items : List Value} :
    NumbersIn P (.array items) ↔ ∀ v ∈ items, NumbersIn P v :=
  ⟨fun h => by cases h; assumption, .array⟩

@[simp] theorem numbersIn_object {entries : List (String × Value)} :
    NumbersIn P (.object entries) ↔ ∀ entry ∈ entries, NumbersIn P entry.2 :=
  ⟨fun h => by cases h; assumption, .object⟩

mutual

theorem numbersIn_sorted : ∀ v : Value, v.NumbersIn P → v.sorted.NumbersIn P
  | .null, _ | .bool _, _ | .string _, _ | .reference .., _ => by simp [sorted]
  | .number _, h => h
  | .array items, h => by
      simp only [sorted, numbersIn_array] at h ⊢
      exact numbersIn_sortedItems items h
  | .object entries, h => by
      simp only [sorted, numbersIn_object, sortEntries, List.mem_mergeSort] at h ⊢
      exact numbersIn_sortedEntries entries h

theorem numbersIn_sortedItems : ∀ items : List Value, (∀ v ∈ items, v.NumbersIn P) →
    ∀ v ∈ sortedItems items, v.NumbersIn P
  | [], _ => by simp [sortedItems]
  | item :: rest, h => by
      simp only [sortedItems, List.forall_mem_cons] at h ⊢
      exact ⟨numbersIn_sorted item h.1, numbersIn_sortedItems rest h.2⟩

theorem numbersIn_sortedEntries : ∀ entries : List (String × Value),
    (∀ entry ∈ entries, entry.2.NumbersIn P) →
    ∀ entry ∈ sortedEntries entries, entry.2.NumbersIn P
  | [], _ => by simp [sortedEntries]
  | (name, value) :: rest, h => by
      simp only [sortedEntries, List.forall_mem_cons] at h ⊢
      exact ⟨numbersIn_sorted value h.1, numbersIn_sortedEntries rest h.2⟩

end

/-! ## Marks -/

/-- Among the numbers with a property, equal ones leave the same mark. -/
def MarksAgree (P : Number → Prop) : Prop :=
  ∀ a b, P a → P b → a.same b = true → numberMark a = numberMark b

mutual

theorem marks_eq_of_agrees (hmark : MarksAgree P) : ∀ (v w : Value) (depth : Nat), v.NumbersIn P → w.NumbersIn P →
    v.agrees w = true → v.marks depth = w.marks depth
  | .null, w, depth, _, _, h => by cases w <;> simp [agrees] at h; rfl
  | .bool b, w, depth, _, _, h => by cases w <;> simp [agrees] at h; rw [h]
  | .number a, w, depth, hv, hw, h => by
      cases w with
      | number b =>
          cases depth with
          | zero => rfl
          | succ depth =>
              simp only [marks, hmark a b (numbersIn_number.mp hv) (numbersIn_number.mp hw) h]
      | null | bool | string | array | object | reference => simp [agrees] at h
  | .string s, w, depth, _, _, h => by cases w <;> simp [agrees] at h; rw [h]
  | .array items, w, depth, hv, hw, h => by
      cases w with
      | array others =>
          obtain ⟨hlength, hmarks⟩ :=
            itemMarks_eq_of_agree hmark items others (numbersIn_array.mp hv) (numbersIn_array.mp hw) h
          cases depth with
          | zero => rfl
          | succ depth => simp only [marks, hlength, hmarks depth]
      | null | bool | number | string | object | reference => simp [agrees] at h
  | .object entries, w, depth, hv, hw, h => by
      cases w with
      | object others =>
          obtain ⟨hlength, hmarks⟩ :=
            entryMarks_eq_of_agree hmark entries others (numbersIn_object.mp hv)
              (numbersIn_object.mp hw) h
          cases depth with
          | zero => rfl
          | succ depth => simp only [marks, hlength, hmarks depth]
      | null | bool | number | string | array | reference => simp [agrees] at h
  | .reference id body, w, depth, _, _, h => by
      cases w with
      | reference other own =>
          obtain rfl : id = other := by simpa [agrees] using h
          cases depth <;> rfl
      | null | bool | number | string | array | object => simp [agrees] at h

theorem itemMarks_eq_of_agree (hmark : MarksAgree P) : ∀ items others : List Value, (∀ v ∈ items, v.NumbersIn P) →
    (∀ v ∈ others, v.NumbersIn P) → itemsAgree items others = true →
    items.length = others.length ∧ ∀ depth, itemMarks depth items = itemMarks depth others
  | [], others, _, _, h => by cases others <;> simp [itemsAgree] at h; simp
  | item :: rest, others, hv, hw, h => by
      cases others with
      | nil => simp [itemsAgree] at h
      | cons other more =>
          simp only [itemsAgree, Bool.and_eq_true] at h
          simp only [List.forall_mem_cons] at hv hw
          obtain ⟨hlength, hmarks⟩ := itemMarks_eq_of_agree hmark rest more hv.2 hw.2 h.2
          refine ⟨by simp [hlength], fun depth => ?_⟩
          simp only [itemMarks, marks_eq_of_agrees hmark item other depth hv.1 hw.1 h.1, hmarks depth]

theorem entryMarks_eq_of_agree (hmark : MarksAgree P) : ∀ entries others : List (String × Value),
    (∀ entry ∈ entries, entry.2.NumbersIn P) → (∀ entry ∈ others, entry.2.NumbersIn P) →
    entriesAgree entries others = true →
    entries.length = others.length ∧ ∀ depth, entryMarks depth entries = entryMarks depth others
  | [], others, _, _, h => by cases others <;> simp [entriesAgree] at h; simp
  | (name, value) :: rest, others, hv, hw, h => by
      cases others with
      | nil => simp [entriesAgree] at h
      | cons other more =>
          obtain ⟨key, own⟩ := other
          simp only [entriesAgree, Bool.and_eq_true, beq_iff_eq] at h
          simp only [List.forall_mem_cons] at hv hw
          obtain ⟨⟨rfl, hvalue⟩, hrest⟩ := h
          obtain ⟨hlength, hmarks⟩ := entryMarks_eq_of_agree hmark rest more hv.2 hw.2 hrest
          refine ⟨by simp [hlength], fun depth => ?_⟩
          simp only [entryMarks, marks_eq_of_agrees hmark value own depth hv.1 hw.1 hvalue, hmarks depth]

end

/-- **`fingerprint_eq_of_same`** — equal values have equal fingerprints, to every depth. -/
theorem fingerprint_eq_of_same (hmark : MarksAgree P) {v w : Value} (hv : v.NumbersIn P) (hw : w.NumbersIn P)
    (h : v.same w = true) (depth : Nat) : v.fingerprint depth = w.fingerprint depth :=
  marks_eq_of_agrees hmark _ _ depth (numbersIn_sorted v hv) (numbersIn_sorted w hw) h

/-! ## Repetitions -/

theorem allDistinct_go_iff (hmark : MarksAgree P) {values : List Value} (hvalues : ∀ v ∈ values, v.NumbersIn P)
    {seen : List (List Mark × Value)}
    (hseen : ∀ entry ∈ seen, entry.1 = entry.2.fingerprint fingerprintDepth
      ∧ entry.2.NumbersIn P) :
    allDistinct.go seen values = true
      ↔ (∀ v ∈ values, ∀ entry ∈ seen, v.same entry.2 = false)
        ∧ values.Pairwise fun earlier later => later.same earlier = false := by
  induction values generalizing seen with
  | nil => simp [allDistinct.go]
  | cons v rest ih =>
      obtain ⟨hv, hrest⟩ := List.forall_mem_cons.mp hvalues
      have hfound : (seen.any fun entry =>
            entry.1 == v.fingerprint fingerprintDepth && v.same entry.2) = false
          ↔ ∀ entry ∈ seen, v.same entry.2 = false := by
        rw [List.any_eq_false]
        refine forall₂_congr fun entry hentry => ?_
        obtain ⟨hmarks, hnumbers⟩ := hseen entry hentry
        have hequal : v.same entry.2 = true → entry.1 = v.fingerprint fingerprintDepth := fun hsame =>
          hmarks.trans (fingerprint_eq_of_same hmark hv hnumbers hsame _).symm
        cases hsame : v.same entry.2 with
        | false => simp
        | true => simp [hequal hsame]
      simp only [allDistinct.go, Bool.and_eq_true, Bool.not_eq_true', hfound]
      rw [ih hrest (List.forall_mem_cons.mpr ⟨⟨rfl, hv⟩, hseen⟩)]
      simp only [List.forall_mem_cons, List.pairwise_cons]
      constructor
      · rintro ⟨hown, hothers, hpairs⟩
        exact ⟨⟨hown, fun w hw => (hothers w hw).2⟩, fun w hw => (hothers w hw).1, hpairs⟩
      · rintro ⟨⟨hown, hothers⟩, hfirst, hpairs⟩
        exact ⟨hown, fun w hw => ⟨hfirst w hw, hothers w hw⟩, hpairs⟩

/-- **`allDistinct_iff`** — the hash set finds a repetition exactly if a value equals an earlier
one. -/
theorem allDistinct_iff (hmark : MarksAgree P) {values : List Value} (hvalues : ∀ v ∈ values, v.NumbersIn P) :
    allDistinct values = true
      ↔ values.Pairwise fun earlier later => later.same earlier = false := by
  have hseen : ∀ entry ∈ ([] : List (List Mark × Value)),
      entry.1 = entry.2.fingerprint fingerprintDepth ∧ entry.2.NumbersIn P := by simp
  simpa [allDistinct] using allDistinct_go_iff hmark hvalues hseen

/-! ## Documents -/

/-- The numbers that documents in form hold. -/
def OfDocument (n : Number) : Prop := ∃ numeral : Json.Numeral, numeral.isProper = true
  ∧ n = Number.ofNumeral numeral

theorem marksAgree_ofDocument : MarksAgree OfDocument := by
  rintro a b ⟨m, hm, rfl⟩ ⟨n, hn, rfl⟩ h
  exact Number.numberMark_eq_of_same hm hn h

theorem ofItems_eq_map (items : List Json) : ofItems items = items.map ofJson := by
  induction items with
  | nil => rfl
  | cons item rest ih => simp only [ofItems, ih, List.map_cons]

theorem ofMembers_eq_map (members : List (String × Json)) :
    ofMembers members = members.map fun entry => (entry.1, ofJson entry.2) := by
  induction members with
  | nil => rfl
  | cons entry rest ih => simp only [ofMembers, ih, List.map_cons]

theorem numbersIn_ofJson (json : Json) (h : json.isProper = true) :
    (ofJson json).NumbersIn OfDocument := by
  match json with
  | .null | .bool _ | .string _ => simp [ofJson]
  | .number n =>
      simp only [ofJson, numbersIn_number]
      exact ⟨n, Json.everywhere_self h, rfl⟩
  | .array items =>
      simp only [ofJson, ofItems_eq_map, numbersIn_array, List.forall_mem_map]
      exact fun item hitem => numbersIn_ofJson item (Json.isProper_item h hitem)
  | .object members =>
      simp only [ofJson, ofMembers_eq_map, numbersIn_object, List.forall_mem_map]
      exact fun entry hentry => numbersIn_ofJson entry.2 (Json.isProper_member h hentry)
termination_by sizeOf json
decreasing_by
  · have := List.sizeOf_lt_of_mem hitem
    simp only [Json.array.sizeOf_spec]
    omega
  · have := List.sizeOf_lt_of_mem hentry
    have hpair : sizeOf entry.2 < sizeOf entry := by
      obtain ⟨name, value⟩ := entry
      simp
    simp only [Json.object.sizeOf_spec]
    omega

end Value

end JsonQuery
