/-
# JsonQuery.Proofs.Json.MergePatch — what a merge patch changes, name by name.

A patch is applied to the members of an object one by one, in place, and a removal moves another member
into the gap.  What the result holds under a name nevertheless depends on nothing but the two members
of that name (RFC 7386): members that the patch does not name stay, `null` removes, and everything else
is merged with what was there.  This holds of documents, in which no object repeats a name.
-/
import JsonQuery.Proofs.Json.UniqueNames
import JsonQuery.Json.MergePatch

namespace JsonQuery.Json

/-! ## One member of a patch -/

/-- The members after one member of a patch. -/
def mergeMember (members : Entries Json) (name : String) (patch : Json) : Entries Json :=
  match patch with
  | .null => members.swapRemove name
  | patch => members.put name (mergePatch ((members.get? name).getD .null) patch)

/-- **`memberAfter old patch`** — what a member becomes that the patch names. -/
def memberAfter (old : Option Json) (patch : Json) : Option Json :=
  match patch with
  | .null => none
  | patch => some (mergePatch (old.getD .null) patch)

theorem mergeMembers_cons (members : Entries Json) (name : String) (patch : Json)
    (rest : List (String × Json)) :
    mergeMembers members ((name, patch) :: rest)
      = mergeMembers (mergeMember members name patch) rest := by
  cases patch <;> simp only [mergeMembers, mergeMember]

variable {members : Entries Json}

theorem nodup_mergeMember (hnames : members.names.Nodup) (name : String) (patch : Json) :
    (mergeMember members name patch).names.Nodup := by
  cases patch with
  | null => exact Entries.nodup_swapRemove hnames name
  | bool | number | string | array | object => exact Entries.nodup_put hnames name _

/-- One member of a patch changes what is found under its name, and nothing else. -/
theorem get?_mergeMember (hnames : members.names.Nodup) (name : String) (patch : Json)
    (key : String) : (mergeMember members name patch).get? key
      = if key = name then memberAfter (members.get? name) patch else members.get? key := by
  cases patch with
  | null => exact Entries.get?_swapRemove hnames name key
  | bool | number | string | array | object => exact Entries.get?_put members name _ key

/-! ## All members of a patch -/

theorem nodup_mergeMembers (hnames : members.names.Nodup) (patch : Entries Json) :
    (mergeMembers members patch).names.Nodup := by
  induction patch generalizing members with
  | nil => rwa [mergeMembers]
  | cons entry rest ih =>
      obtain ⟨name, own⟩ := entry
      rw [mergeMembers_cons]
      exact ih (nodup_mergeMember hnames name own)

/-- **`get?_mergeMembers`** — what is found under a name after the patch depends on what the patch and
the members hold under that name. -/
theorem get?_mergeMembers (hnames : members.names.Nodup) {patch : Entries Json}
    (hpatch : patch.names.Nodup) (key : String) : (mergeMembers members patch).get? key
      = match patch.get? key with
        | none => members.get? key
        | some own => memberAfter (members.get? key) own := by
  induction patch generalizing members with
  | nil => rw [mergeMembers, Entries.get?]
  | cons entry rest ih =>
      obtain ⟨name, own⟩ := entry
      obtain ⟨hnew, hrest⟩ := List.nodup_cons.mp hpatch
      rw [mergeMembers_cons, ih (nodup_mergeMember hnames name own) hrest,
        get?_mergeMember hnames, Entries.get?]
      by_cases hkey : name = key
      · -- No later member of the patch has the name, so what is here now stays.
        subst hkey
        rw [Entries.get?_of_notMem hnew, if_pos rfl, if_pos rfl]
      · rw [if_neg (Ne.symm hkey), if_neg hkey]

/-! ## Whole documents -/

mutual

theorem hasUniqueNames_mergePatch : ∀ (target patch : Json), target.hasUniqueNames = true →
    patch.hasUniqueNames = true → (target.mergePatch patch).hasUniqueNames = true
  | target, .object patch, htarget, hpatch => by
      obtain ⟨hnames, hmembers⟩ := members_of_hasUniqueNames htarget
      obtain ⟨-, hown⟩ := hasUniqueNames_object.mp hpatch
      rw [mergePatch, hasUniqueNames_object]
      exact ⟨nodup_mergeMembers hnames patch,
        hasUniqueNames_mergeMembers target.members patch hnames hmembers hown⟩
  | _, .null, _, hpatch | _, .bool _, _, hpatch | _, .number _, _, hpatch
  | _, .string _, _, hpatch | _, .array _, _, hpatch => by
      simpa only [mergePatch] using hpatch

theorem hasUniqueNames_mergeMembers : ∀ (members patch : List (String × Json)),
    (Entries.names members).Nodup → (∀ entry ∈ members, entry.2.hasUniqueNames = true) →
    (∀ entry ∈ patch, entry.2.hasUniqueNames = true) →
    ∀ entry ∈ mergeMembers members patch, entry.2.hasUniqueNames = true
  | members, [], _, hmembers, _ => by rwa [mergeMembers]
  | members, (name, own) :: rest, hnames, hmembers, hpatch => by
      obtain ⟨hown, hrest⟩ := List.forall_mem_cons.mp hpatch
      have hold : ((Entries.get? members name).getD .null).hasUniqueNames = true := by
        cases hget : Entries.get? members name with
        | none => rfl
        | some value => exact hmembers _ (Entries.mem_of_get? hget)
      have hmerged : (mergePatch ((Entries.get? members name).getD .null) own).hasUniqueNames = true :=
        hasUniqueNames_mergePatch _ own hold hown
      rw [mergeMembers_cons]
      refine hasUniqueNames_mergeMembers _ rest (nodup_mergeMember hnames name own) ?_ hrest
      intro entry hentry
      cases own with
      | null => exact hmembers entry (Entries.mem_of_mem_swapRemove hnames hentry)
      | bool | number | string | array | object =>
          rcases Entries.mem_put hentry with hmem | hvalue
          · exact hmembers entry hmem
          · rw [hvalue]
            exact hmerged

end

/-- **`mergePatch_memberwise`** — a patch that is no object replaces the target; an object makes an
object with unique names, in which every name has what the target had if the patch does not have it,
nothing if the patch has `null`, and otherwise the member of the target, or `null` for want of one,
merged with that of the patch.  A target that is no object has no members. -/
theorem mergePatch_memberwise {target patch : Json} (htarget : target.hasUniqueNames = true)
    (hpatch : patch.hasUniqueNames = true) :
    (target.mergePatch patch).hasUniqueNames = true ∧
    ((∀ members, patch ≠ .object members) → target.mergePatch patch = patch) ∧
    ∀ members, patch = .object members →
      ∃ result, target.mergePatch patch = .object result ∧ (Entries.names result).Nodup ∧
        ∀ name,
          (patch.get? name = none → Entries.get? result name = target.get? name) ∧
          (patch.get? name = some .null → Entries.get? result name = none) ∧
          ∀ own, patch.get? name = some own → own ≠ .null →
            Entries.get? result name = some (((target.get? name).getD .null).mergePatch own) := by
  refine ⟨hasUniqueNames_mergePatch target patch htarget hpatch, ?_, ?_⟩
  · intro hnone
    cases patch with
    | object members => exact absurd rfl (hnone members)
    | null | bool | number | string | array => simp only [mergePatch]
  · rintro members rfl
    obtain ⟨hnames, -⟩ := members_of_hasUniqueNames htarget
    obtain ⟨hpatchNames, -⟩ := hasUniqueNames_object.mp hpatch
    refine ⟨mergeMembers target.members members, by rw [mergePatch],
      nodup_mergeMembers hnames members, fun name => ?_⟩
    have hget := get?_mergeMembers hnames hpatchNames name
    change _ = match (Json.object members).get? name with
      | none => target.get? name
      | some own => memberAfter (target.get? name) own at hget
    refine ⟨fun h => ?_, fun h => ?_, fun own h hne => ?_⟩
    · rwa [h] at hget
    · rwa [h] at hget
    · rw [h] at hget
      cases own with
      | null => exact absurd rfl hne
      | bool | number | string | array | object => exact hget

/-- A removal that moves the last member, and an object where there was none. -/
theorem mergePatch_memberwise_nested :
    (Json.object [("a", .null), ("b", .bool true), ("c", .string "x")]).hasUniqueNames = true ∧
    (Json.object [("a", .null), ("d", .object [("e", .null), ("f", .bool false)])]).hasUniqueNames
      = true ∧
    ∃ result, (Json.object [("a", .null), ("b", .bool true), ("c", .string "x")]).mergePatch
        (.object [("a", .null), ("d", .object [("e", .null), ("f", .bool false)])]) = .object result ∧
      result = [("c", .string "x"), ("b", .bool true), ("d", .object [("f", .bool false)])] ∧
      Entries.get? result "a" = none ∧
      Entries.get? result "d"
        = some (Json.null.mergePatch (.object [("e", .null), ("f", .bool false)])) := by
  have htarget :
      (Json.object [("a", .null), ("b", .bool true), ("c", .string "x")]).hasUniqueNames = true := by
    decide
  have hpatch : (Json.object [("a", .null),
      ("d", .object [("e", .null), ("f", .bool false)])]).hasUniqueNames = true := by
    decide
  obtain ⟨-, -, hobject⟩ := mergePatch_memberwise htarget hpatch
  obtain ⟨result, hresult, -, hmembers⟩ := hobject _ rfl
  refine ⟨htarget, hpatch, result, hresult, ?_, (hmembers "a").2.1 rfl, ?_⟩
  · exact (Json.object.inj hresult).symm
  · exact (hmembers "d").2.2 _ rfl nofun

end JsonQuery.Json
