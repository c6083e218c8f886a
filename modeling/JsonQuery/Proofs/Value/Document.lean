/-
# JsonQuery.Proofs.Value.Document — values written as documents, and documents read as values.

Values allow more than documents do: decimals, repeated names, references.  The value of a document
in form uses none of that, and writing it as a document gives back the document.  The other way round,
writing a value loses what documents do not have: references become `null`, of entries with one name one
is left, and a number that is neither an integer in range nor binary changes its representation or is
lost.  A value without any of this is read back as it was written, and no other value is.
-/
import JsonQuery.Proofs.Value.Fingerprint

namespace JsonQuery

/-! ## Numbers -/

/-- The normal form of an integer is the integer. -/
theorem Decimal.normalize_ofInt (n : Int) : (Decimal.ofInt n).normalize = Decimal.ofInt n := by
  change (⟨if n < 0 then -(n.natAbs : Int) else n.natAbs, 0⟩ : Decimal) = ⟨n, 0⟩
  congr 1
  split <;> omega

theorem Number.toJson_ofInt {n : Int} (h : Json.inIntegerRange n = true) :
    (Number.ofInt n).toJson = .number (.integer n) := by
  simp only [Number.ofInt, Number.toJson, Decimal.normalize_ofInt]
  exact if_pos ⟨rfl, h⟩

theorem Number.toJson_ofNumeral {n : Json.Numeral} (h : n.isProper = true) :
    (Number.ofNumeral n).toJson = .number n := by
  cases n with
  | integer n => exact Number.toJson_ofInt h
  | float x =>
      rw [Json.Numeral.isProper, Bool.and_eq_true] at h
      exact if_pos h.1

namespace Value

/-! ## Entries -/

theorem foldl_put_of_nodup {before members : Entries Json}
    (h : (Entries.names (before ++ members)).Nodup) :
    members.foldl (fun acc entry => acc.put entry.1 entry.2) before = before ++ members := by
  induction members generalizing before with
  | nil => exact (List.append_nil _).symm
  | cons entry rest ih =>
      have hnew : entry.1 ∉ before.names := by
        rw [Entries.names, List.map_append, List.nodup_append] at h
        exact fun hmem => h.2.2 _ hmem _ (List.mem_cons_self ..) rfl
      rw [List.append_cons] at h
      rw [List.foldl_cons, Entries.put_of_notMem hnew, ih h]
      exact (List.append_cons before entry rest).symm

/-- Where no name is repeated there is nothing to collapse. -/
theorem collapse_of_nodup {members : Entries Json} (h : members.names.Nodup) :
    collapse members = members :=
  @foldl_put_of_nodup [] members h

/-! ## Documents -/

mutual

/-- **`toJson_ofJson`** — the value of a document in form is written as the document. -/
theorem toJson_ofJson (json : Json) (h : json.isProper = true) : (ofJson json).toJson = json := by
  cases json with
  | null | bool | string => simp only [ofJson, toJson]
  | number n =>
      rw [ofJson, toJson]
      exact Number.toJson_ofNumeral (Json.everywhere_self h)
  | array items =>
      rw [ofJson, toJson, itemsToJson_ofItems items fun _ => Json.isProper_item h]
  | object members =>
      rw [ofJson, toJson, entriesToJson_ofMembers members fun _ => Json.isProper_member h,
        collapse_of_nodup (Json.names_nodup h)]

theorem itemsToJson_ofItems (items : List Json) (h : ∀ item ∈ items, item.isProper = true) :
    itemsToJson (ofItems items) = items := by
  cases items with
  | nil => rfl
  | cons item rest =>
      obtain ⟨hitem, hrest⟩ := List.forall_mem_cons.mp h
      rw [ofItems, itemsToJson, toJson_ofJson item hitem, itemsToJson_ofItems rest hrest]

theorem entriesToJson_ofMembers (members : List (String × Json))
    (h : ∀ entry ∈ members, entry.2.isProper = true) :
    entriesToJson (ofMembers members) = members := by
  match members with
  | [] => rfl
  | (name, value) :: rest =>
      obtain ⟨hvalue, hrest⟩ := List.forall_mem_cons.mp h
      rw [ofMembers, entriesToJson, toJson_ofJson value hvalue, entriesToJson_ofMembers rest hrest]

end

end Value

/-! ## Values that a document can hold -/

/-- **`n.isKept`** — whether a number is written to a document as a numeral that is read as the number
itself, in the same representation. -/
def Number.isKept (n : Number) : Bool :=
  match n.toJson with
  | .number numeral => ofNumeral numeral == n
  | _ => false

theorem Number.isKept_iff {n : Number} :
    n.isKept = true ↔ ∃ numeral, n.toJson = .number numeral ∧ ofNumeral numeral = n := by
  unfold isKept
  cases n.toJson <;> simp

namespace Value

mutual

/-- **`v.isKept`** — whether a value has only numbers that are kept, no object with a repeated name,
and no reference. -/
def isKept : Value → Bool
  | .null | .bool _ | .string _ => true
  | .number n => n.isKept
  | .array items => isKeptItems items
  | .object entries => decide (Entries.names entries).Nodup && isKeptEntries entries
  | .reference .. => false

/-- Whether all items are kept. -/
def isKeptItems : List Value → Bool
  | [] => true
  | item :: rest => item.isKept && isKeptItems rest

/-- Whether the values of all entries are kept. -/
def isKeptEntries : List (String × Value) → Bool
  | [] => true
  | (_, value) :: rest => value.isKept && isKeptEntries rest

end

/-! ## Reading what was written -/

theorem names_entriesToJson (entries : Entries Value) :
    Entries.names (entriesToJson entries) = entries.names := by
  induction entries with
  | nil => rfl
  | cons entry rest ih => exact congrArg (entry.1 :: ·) ih

theorem names_ofMembers (members : Entries Json) :
    Entries.names (ofMembers members) = members.names := by
  induction members with
  | nil => rfl
  | cons entry rest ih => exact congrArg (entry.1 :: ·) ih

mutual

/-- **`ofJson_toJson`** — a kept value is what the document that is written for it is read as. -/
theorem ofJson_toJson (v : Value) (h : v.isKept = true) : ofJson v.toJson = v := by
  cases v with
  | null | bool | string => simp only [toJson, ofJson]
  | number n =>
      obtain ⟨numeral, hwritten, hread⟩ := Number.isKept_iff.mp h
      rw [toJson, hwritten, ofJson, hread]
  | array items => rw [toJson, ofJson, ofItems_itemsToJson items h]
  | object entries =>
      rw [isKept, Bool.and_eq_true, decide_eq_true_eq] at h
      rw [toJson, collapse_of_nodup (names_entriesToJson entries ▸ h.1), ofJson,
        ofMembers_entriesToJson entries h.2]
  | reference => cases h

theorem ofItems_itemsToJson (items : List Value) (h : isKeptItems items = true) :
    ofItems (itemsToJson items) = items := by
  cases items with
  | nil => rfl
  | cons item rest =>
      rw [isKeptItems, Bool.and_eq_true] at h
      rw [itemsToJson, ofItems, ofJson_toJson item h.1, ofItems_itemsToJson rest h.2]

theorem ofMembers_entriesToJson (entries : List (String × Value))
    (h : isKeptEntries entries = true) : ofMembers (entriesToJson entries) = entries := by
  match entries with
  | [] => rfl
  | (name, value) :: rest =>
      rw [isKeptEntries, Bool.and_eq_true] at h
      rw [entriesToJson, ofMembers, ofJson_toJson value h.1, ofMembers_entriesToJson rest h.2]

end

/-! ## Nothing else is kept -/

theorem nodup_collapse (members : Entries Json) : (collapse members).names.Nodup := by
  apply Entries.nodup_foldl_put
  exact List.nodup_nil

mutual

/-- A value that is read back as it was written is kept. -/
theorem isKept_of_ofJson_toJson (v : Value) (h : ofJson v.toJson = v) : v.isKept = true := by
  cases v with
  | null | bool | string => rfl
  | number n =>
      rw [toJson] at h
      rw [isKept, Number.isKept]
      cases hwritten : n.toJson with
      | number numeral =>
          rw [hwritten, ofJson] at h
          exact beq_iff_eq.mpr (Value.number.inj h)
      | null | bool | string | array | object =>
          rw [hwritten] at h
          simp [ofJson] at h
  | array items =>
      rw [toJson, ofJson] at h
      exact isKeptItems_of_eq items (Value.array.inj h)
  | object entries =>
      rw [toJson, ofJson] at h
      have hentries := Value.object.inj h
      have hnames : (Entries.names entries).Nodup := by
        rw [← hentries, names_ofMembers]
        exact nodup_collapse _
      rw [collapse_of_nodup (names_entriesToJson entries ▸ hnames)] at hentries
      rw [isKept, Bool.and_eq_true, decide_eq_true_eq]
      exact ⟨hnames, isKeptEntries_of_eq entries hentries⟩
  | reference => simp [toJson, ofJson] at h

theorem isKeptItems_of_eq (items : List Value) (h : ofItems (itemsToJson items) = items) :
    isKeptItems items = true := by
  cases items with
  | nil => rfl
  | cons item rest =>
      rw [itemsToJson, ofItems] at h
      obtain ⟨hitem, hrest⟩ := List.cons.inj h
      rw [isKeptItems, isKept_of_ofJson_toJson item hitem, isKeptItems_of_eq rest hrest]
      rfl

theorem isKeptEntries_of_eq (entries : List (String × Value))
    (h : ofMembers (entriesToJson entries) = entries) : isKeptEntries entries = true := by
  match entries with
  | [] => rfl
  | (name, value) :: rest =>
      rw [entriesToJson, ofMembers] at h
      obtain ⟨hentry, hrest⟩ := List.cons.inj h
      rw [isKeptEntries, isKept_of_ofJson_toJson value (Prod.mk.inj hentry).2,
        isKeptEntries_of_eq rest hrest]
      rfl

end

/-- **`isKept_iff`** — the kept values are exactly those that survive being written as a document. -/
theorem isKept_iff {v : Value} : v.isKept = true ↔ ofJson v.toJson = v :=
  ⟨ofJson_toJson v, isKept_of_ofJson_toJson v⟩

end Value

/-! ## Documents that are written as they were read -/

namespace Json

/-- **`json.IsRestored`** — writing the value of a document gives back the document. -/
def IsRestored (json : Json) : Prop := (Value.ofJson json).toJson = json

theorem isRestored_of_isProper {json : Json} (h : json.isProper = true) : json.IsRestored :=
  Value.toJson_ofJson json h

/-- What such a document is read as is kept. -/
theorem IsRestored.isKept {json : Json} (h : json.IsRestored) : (Value.ofJson json).isKept = true :=
  Value.isKept_iff.mpr (congrArg Value.ofJson h)

/-- What is written for a kept value is such a document. -/
theorem isRestored_toJson {v : Value} (h : v.isKept = true) : v.toJson.IsRestored :=
  congrArg Value.toJson (Value.ofJson_toJson v h)

theorem IsRestored.item {items : List Json} (h : (Json.array items).IsRestored) :
    ∀ item ∈ items, item.IsRestored := by
  have hitems : Value.itemsToJson (Value.ofItems items) = items := by
    rw [IsRestored, Value.ofJson, Value.toJson] at h
    exact Json.array.inj h
  clear h
  induction items with
  | nil => exact List.forall_mem_nil _
  | cons item rest ih =>
      obtain ⟨hitem, hrest⟩ := List.cons.inj hitems
      exact List.forall_mem_cons.mpr ⟨hitem, ih hrest⟩

/-- An object that is written as it was read repeats no name, for only the last member of a name is
written. -/
theorem IsRestored.member {members : Entries Json} (h : (Json.object members).IsRestored) :
    ∀ entry ∈ members, entry.2.IsRestored := by
  rw [IsRestored, Value.ofJson, Value.toJson] at h
  have hcollapse := Json.object.inj h
  have hnames : (Entries.names (Value.entriesToJson (Value.ofMembers members))).Nodup := by
    rw [Value.names_entriesToJson, Value.names_ofMembers, ← hcollapse]
    exact Value.nodup_collapse _
  rw [Value.collapse_of_nodup hnames] at hcollapse
  clear h hnames
  induction members with
  | nil => exact List.forall_mem_nil _
  | cons entry rest ih =>
      obtain ⟨hentry, hrest⟩ := List.cons.inj hcollapse
      exact List.forall_mem_cons.mpr ⟨(Prod.mk.inj hentry).2, ih hrest⟩

end Json

end JsonQuery
