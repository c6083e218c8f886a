/-
# JsonQuery.Proofs.Value.Reading — reading a value and reading its document.

A look-up in a value finds the first entry of a name, and every entry counts for its size.  In the
document that is written for it a name has one member, with what its last entry stands for.  So the two
can be told apart by the names that a value repeats, and by nothing else.
-/
import JsonQuery.Proofs.Value.Document

namespace JsonQuery.Value

/-! ## Entries and members -/

/-- The entries of an object; any other value has none. -/
def entries : Value → Entries Value
  | .object entries => entries
  | _ => []

theorem get?_eq (v : Value) (name : String) : v.get? name = v.entries.get? name := by
  cases v <;> rfl

theorem members_toJson (v : Value) : v.toJson.members = collapse (entriesToJson v.entries) := by
  cases v with
  | object entries => rw [toJson, Json.members, Value.entries]
  | number n =>
      cases n with
      | decimal d =>
          simp only [toJson, Number.toJson]
          split <;> rfl
      | float x =>
          simp only [toJson, Number.toJson]
          split <;> rfl
  | null | bool | string | array | reference =>
      rw [toJson]
      rfl

theorem get?_entriesToJson (entries : Entries Value) (name : String) :
    Entries.get? (entriesToJson entries) name = (entries.get? name).map toJson := by
  induction entries with
  | nil => rfl
  | cons entry rest ih =>
      obtain ⟨key, value⟩ := entry
      rw [entriesToJson, Entries.get?, Entries.get?, ih]
      split <;> rfl

theorem length_entriesToJson (entries : Entries Value) :
    (entriesToJson entries).length = entries.length := by
  induction entries with
  | nil => rfl
  | cons entry rest ih => exact congrArg (· + 1) ih

/-! ## Members that are written -/

/-- Of the members of one name the last that is written stays. -/
theorem get?_collapse (members : Entries Json) (name : String) :
    (collapse members).get? name = Entries.get? members.reverse name := by
  rw [collapse, Entries.get?_foldl_put]
  exact Option.or_none

/-- Every name that is written stays. -/
theorem mem_names_collapse {members : Entries Json} {name : String} :
    name ∈ (collapse members).names ↔ name ∈ members.names := by
  have hreverse : name ∉ Entries.names members.reverse ↔ name ∉ members.names := by
    rw [Entries.names, List.map_reverse, List.mem_reverse, Entries.names]
  rw [← not_iff_not, ← Entries.get?_eq_none_iff, get?_collapse, Entries.get?_eq_none_iff, hreverse]

/-- As many members stay as are written exactly if they repeat no name. -/
theorem length_collapse_iff (members : Entries Json) :
    (collapse members).length = members.length ↔ members.names.Nodup := by
  constructor
  · intro h
    have hle : members.names.length ≤ (collapse members).names.length := by
      rw [Entries.names, Entries.names, List.length_map, List.length_map, h]
    have hsubset : (collapse members).names ⊆ members.names := fun name => mem_names_collapse.mp
    have hperm := (List.subperm_of_subset (nodup_collapse members) hsubset).perm_of_length_le hle
    exact hperm.nodup_iff.mp (nodup_collapse members)
  · intro h
    rw [collapse_of_nodup h]

/-! ## The document of a value -/

/-- **`get?_eq_none_iff`** — a name is missing in a value exactly if it is missing in its document. -/
theorem get?_eq_none_iff (v : Value) (name : String) :
    v.get? name = none ↔ v.toJson.get? name = none := by
  rw [get?_eq, Json.get?, members_toJson, Entries.get?_eq_none_iff, Entries.get?_eq_none_iff,
    mem_names_collapse, names_entriesToJson]

/-- **`map_toJson_get?`** — a name that is not repeated stands for the same in a value and in its
document. -/
theorem map_toJson_get? (v : Value) {name : String} (h : v.entries.names.count name ≤ 1) :
    (v.get? name).map toJson = v.toJson.get? name := by
  have hcount : (Entries.names (entriesToJson v.entries)).count name ≤ 1 := by
    rwa [names_entriesToJson]
  rw [get?_eq, Json.get?, members_toJson, get?_collapse, Entries.get?_reverse hcount,
    get?_entriesToJson]

/-- **`length_entries_iff`** — a value has as many entries as its document has members exactly if it
repeats no name. -/
theorem length_entries_iff (v : Value) :
    v.entries.length = v.toJson.members.length ↔ v.entries.names.Nodup := by
  rw [members_toJson, ← names_entriesToJson, ← length_collapse_iff, length_entriesToJson, eq_comm]

end JsonQuery.Value
