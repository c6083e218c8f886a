/-
# JsonQuery.Proofs.Json.Everywhere — what holds of every part of a document.

Documents come from texts, and reading a text cannot produce all that the type of documents allows:
an object has no two members of one name, an array is not longer than an index can say, and numbers
are in their canonical form.  Such a property is asked of every part of a document and then holds of
what a pointer leads to.
-/
import JsonQuery.Proofs.Json.Pointer
import JsonQuery.Proofs.Number.Mark

namespace JsonQuery.Json

mutual

/-- Whether a test holds of a document and of every part of it. -/
def everywhere (test : Json → Bool) : Json → Bool
  | .array items => test (.array items) && everywhereItems test items
  | .object members => test (.object members) && everywhereMembers test members
  | .null => test .null
  | .bool b => test (.bool b)
  | .number n => test (.number n)
  | .string s => test (.string s)

/-- Whether a test holds of all items and of every part of them. -/
def everywhereItems (test : Json → Bool) : List Json → Bool
  | [] => true
  | item :: rest => item.everywhere test && everywhereItems test rest

/-- Whether a test holds of all values of members and of every part of them. -/
def everywhereMembers (test : Json → Bool) : List (String × Json) → Bool
  | [] => true
  | (_, value) :: rest => value.everywhere test && everywhereMembers test rest

end

variable {test : Json → Bool}

theorem everywhere_self {json : Json} (h : json.everywhere test = true) : test json = true := by
  cases json with
  | array | object => simp only [everywhere, Bool.and_eq_true] at h; exact h.1
  | null | bool | number | string => exact h

theorem everywhere_item {items : List Json} (h : (Json.array items).everywhere test = true) :
    ∀ item ∈ items, item.everywhere test = true := by
  simp only [everywhere, Bool.and_eq_true] at h
  obtain ⟨-, hitems⟩ := h
  induction items with
  | nil => simp
  | cons item rest ih =>
      simp only [everywhereItems, Bool.and_eq_true] at hitems
      exact List.forall_mem_cons.mpr ⟨hitems.1, ih hitems.2⟩

theorem everywhere_member {members : Entries Json}
    (h : (Json.object members).everywhere test = true) :
    ∀ entry ∈ members, entry.2.everywhere test = true := by
  simp only [everywhere, Bool.and_eq_true] at h
  obtain ⟨-, hmembers⟩ := h
  induction members with
  | nil => simp
  | cons entry rest ih =>
      obtain ⟨name, value⟩ := entry
      simp only [everywhereMembers, Bool.and_eq_true] at hmembers
      exact List.forall_mem_cons.mpr ⟨hmembers.1, ih hmembers.2⟩

theorem everywhere_get? {members : Entries Json} {name : String} {value : Json}
    (h : (Json.object members).everywhere test = true) (hget : members.get? name = some value) :
    value.everywhere test = true :=
  everywhere_member h _ (Entries.mem_of_get? hget)

theorem everywhere_child? {json value : Json} {segment : List Char}
    (h : json.everywhere test = true) (hchild : json.child? segment = some value) :
    value.everywhere test = true := by
  cases json with
  | object members => exact everywhere_get? h hchild
  | array items =>
      simp only [child?, Option.bind_eq_bind, Option.bind_eq_some_iff] at hchild
      obtain ⟨i, -, hi⟩ := hchild
      exact everywhere_item h value (List.mem_of_getElem? hi)
  | null | bool | number | string => cases hchild

/-- What holds everywhere in a document holds everywhere in the part that a pointer leads to. -/
theorem everywhere_pointer? {json value : Json} {pointer : String}
    (h : json.everywhere test = true) (hvalue : json.pointer? pointer = some value) :
    value.everywhere test = true := by
  simp only [pointer?, Option.bind_eq_bind, Option.bind_eq_some_iff] at hvalue
  obtain ⟨segments, -, hfold⟩ := hvalue
  induction segments generalizing json with
  | nil =>
      obtain rfl := Option.some.inj hfold
      exact h
  | cons segment rest ih =>
      simp only [List.foldlM_cons, Option.bind_eq_bind, Option.bind_eq_some_iff] at hfold
      obtain ⟨part, hpart, hrest⟩ := hfold
      exact ih (everywhere_child? h hpart) hrest

/-! ## Documents that can be read -/

/-- Whether a document is in form, its parts aside. -/
def isProperHere : Json → Bool
  | .number n => n.isProper
  | .array items => items.length < 0x10000000000000000
  | .object members => decide (Entries.names members).Nodup
  | _ => true

/-- Whether a document is in form: canonical numbers, arrays that indices can address, and no two
members of one name. -/
def isProper (json : Json) : Bool := json.everywhere isProperHere

theorem isProper_item {items : List Json} (h : (Json.array items).isProper = true) {item : Json}
    (hitem : item ∈ items) : item.isProper = true :=
  everywhere_item h item hitem

theorem isProper_get? {members : Entries Json} {name : String} {value : Json}
    (h : (Json.object members).isProper = true) (hget : members.get? name = some value) :
    value.isProper = true :=
  everywhere_get? h hget

theorem isProper_member {members : Entries Json} (h : (Json.object members).isProper = true)
    {entry : String × Json} (hentry : entry ∈ members) : entry.2.isProper = true :=
  everywhere_member h entry hentry

theorem isProper_string (s : String) : (Json.string s).isProper = true := rfl

theorem names_nodup {members : Entries Json} (h : (Json.object members).isProper = true) :
    members.names.Nodup :=
  of_decide_eq_true (everywhere_self h)

theorem length_lt {items : List Json} (h : (Json.array items).isProper = true) :
    items.length < 0x10000000000000000 :=
  of_decide_eq_true (everywhere_self h)

end JsonQuery.Json
